import TwinQuery.Proofs.Statement.Agreement
import TwinQuery.Proofs.Statement.Insertion

/-!
# The assignments of an update

Steps assign columns in any order, a column perhaps more than once, and some of what they ask for is
refused. What an update holds then is a map in order of insertion: every column of an accepted
assignment once, where it was first assigned, with what was assigned to it last. The map in the body
and the list in the text are this map: `Update.holdsLast_build`.
-/

namespace TwinQuery

def Assignment.scalar : Assignment → Scalar
  | value given => given
  | arithmetic _ amount => amount

namespace Update

/-! ## What steps assign -/

/-- What a step asks to assign. -/
def Step.asked : Step → List (String × Assignment)
  | set column value => [(column, .value value)]
  | setAll pairs => pairs.map fun pair => (pair.1, .value pair.2)
  | arithmetic column operation amount => [(column, .arithmetic operation amount)]
  | lockVersion _ | condition _ => []

/-- An assignment is accepted when its column has a name and what it adds or takes away is a
number. -/
def accepts (entry : String × Assignment) : Bool :=
  !Text.isBlankText entry.1 &&
    match entry.2 with
    | .value _ => true
    | .arithmetic _ amount => amount.isNumeric

/-- The accepted ones of what steps ask to assign, in order. -/
def accepted (steps : List Step) : List (String × Assignment) :=
  (steps.flatMap Step.asked).filter accepts

section Steps

variable (update : Update)

/-- An assignment to a column without a name is left out, and any other one is set. -/
theorem assignments_assign (column : String) (assignment : Assignment) :
    (update.assign column assignment).assignments =
      if Text.isBlankText column then update.assignments
      else update.assignments.set column assignment := by
  unfold assign
  split <;> rfl

theorem assignments_set (column : String) (value : Scalar) :
    (update.set column value).assignments =
      update.assignments.setAll ([(column, .value value)].filter accepts) := by
  rw [set, assignments_assign]
  cases hblank : Text.isBlankText column <;> simp [accepts, hblank, OrderedMap.setAll]

/-- Of many assignments at once the accepted ones are set, in their order. -/
theorem assignments_setAll (pairs : List (String × Scalar)) :
    (update.setAll pairs).assignments =
      update.assignments.setAll ((Step.setAll pairs).asked.filter accepts) := by
  unfold Update.setAll
  induction pairs generalizing update with
  | nil => rfl
  | cons pair rest ih =>
      have hasked : (Step.setAll (pair :: rest)).asked =
          [(pair.1, .value pair.2)] ++ (Step.setAll rest).asked := rfl
      rw [List.foldl_cons, ih, assignments_set, hasked, List.filter_append,
        OrderedMap.setAll_append]

/-- Adding or taking away what is no number is left out. -/
theorem assignments_arithmetic (column : String) (operation : Arithmetic) (amount : Scalar) :
    (update.arithmetic column operation amount).assignments =
      update.assignments.setAll ([(column, .arithmetic operation amount)].filter accepts) := by
  unfold arithmetic
  cases hnumeric : amount.isNumeric with
  | true =>
      rw [if_pos rfl, assignments_assign]
      cases hblank : Text.isBlankText column <;>
        simp [accepts, hblank, hnumeric, OrderedMap.setAll]
  | false => simp [accepts, hnumeric, OrderedMap.setAll, record]

/-- A step makes the accepted ones of the assignments that it asks for. -/
theorem assignments_step (step : Step) :
    (update.step step).assignments =
      update.assignments.setAll (step.asked.filter accepts) := by
  cases step with
  | set column value => exact update.assignments_set column value
  | setAll pairs => exact update.assignments_setAll pairs
  | arithmetic column operation amount =>
      exact update.assignments_arithmetic column operation amount
  | lockVersion version => rfl
  | condition step =>
      rw [step_condition]
      rfl

/-- After any steps the assignments are those before with all accepted ones set, in the order of the
steps. -/
theorem assignments_foldl (steps : List Step) :
    (steps.foldl Update.step update).assignments =
      update.assignments.setAll (accepted steps) := by
  induction steps generalizing update with
  | nil => rfl
  | cons step rest ih =>
      have haccepted : accepted (step :: rest) = step.asked.filter accepts ++ accepted rest := by
        rw [accepted, List.flatMap_cons, List.filter_append]
        rfl
      rw [List.foldl_cons, ih, assignments_step, haccepted, OrderedMap.setAll_append]

/-- After any number of steps an update holds what the accepted assignments make. -/
theorem assignments_build (table : TableName) (steps : List Step) :
    (build table steps).assignments = OrderedMap.ofList (accepted steps) :=
  assignments_foldl { table } steps

end Steps

/-! ## The text of assignments -/

/-- An assignment with a text in the place of its scalar. What is added to a column or taken away
is so from the column itself. -/
def assignmentText (entry : String × Assignment) (operand : String) : String :=
  let column := Identifier.column entry.1
  match entry.2 with
  | .value _ => column ++ " = " ++ operand
  | .arithmetic operation _ => column ++ " = " ++ column ++ " " ++ operation.sign ++ " " ++ operand

/-- In the text of an assignment its scalar is the only value. -/
theorem fill_assignment (bindings : Bindings) (entry : String × Assignment) :
    bindings.fill (assignmentTemplate entry.1 entry.2) =
      (assignmentText entry (bindings.bind entry.2.scalar).1,
        (bindings.bind entry.2.scalar).2) := by
  obtain ⟨column, assignment⟩ := entry
  cases assignment <;>
    simp [assignmentTemplate, assignmentText, Bindings.fill, Assignment.scalar, String.append_assoc]

/-- Every assignment takes the place of one value. -/
theorem texts_assignments (bindings : Bindings) (entries : List (String × Assignment)) :
    bindings.texts (entries.map fun entry => assignmentTemplate entry.1 entry.2) =
      List.zipWith assignmentText entries
        (bindings.style.placeholders bindings.values.length
          (entries.map fun entry => entry.2.scalar)) := by
  induction entries generalizing bindings with
  | nil => rfl
  | cons entry rest ih =>
      rw [List.map_cons, Bindings.texts, fill_assignment, ih, List.map_cons,
        Bindings.placeholders_cons, List.zipWith_cons_cons]
      rfl

theorem values_assignments (entries : List (String × Assignment)) :
    (Template.joined ", " (entries.map fun entry => assignmentTemplate entry.1 entry.2)).values =
      entries.map fun entry => entry.2.scalar := by
  rw [Template.values_joined, List.flatMap_map, List.map_eq_flatMap]
  congr 1
  funext entry
  obtain ⟨column, assignment⟩ := entry
  cases assignment <;> rfl

/-- The text of an update: its table, the list of its assignments with what stands for their
scalars, and its conditions. -/
def written (update : Update) (bindings : Bindings) : String :=
  let scalars := update.assignments.entries.map fun entry => entry.2.scalar
  "UPDATE " ++ Identifier.quote update.table.text ++ " SET " ++
    ", ".intercalate (List.zipWith assignmentText update.assignments.entries
      (bindings.style.placeholders bindings.values.length scalars)) ++
    ((bindings.after scalars).fill update.conditions.whereTail).1

/-- The text of a valid update is its table, its assignments and its conditions. -/
theorem fst_fill_template {update : Update} (hvalid : update.validate = .ok ())
    (bindings : Bindings) : (bindings.fill update.template).1 = update.written bindings := by
  obtain ⟨hfault, hassigned, -⟩ := Statement.update_of_validate hvalid
  have hne : update.assignments.isEmpty = false := by
    simpa [OrderedMap.isEmpty] using hassigned
  rw [template, hne, hfault]
  simp only [Option.isSome_none, Bool.or_false, Bool.false_eq_true, if_false]
  rw [Bindings.fst_fill_text, Bindings.fst_fill_append, Bindings.fst_fill_joined,
    texts_assignments, values_assignments, written]
  simp only [String.append_assoc]

/-! ## What an update holds -/

/-- The assignments of an update, the map in its body and the list in its text are what a list of
assignments makes, of which the last one of a column counts. -/
structure HoldsLast (update : Update) (given : List (String × Assignment)) : Prop where
  /-- Every column stands once, -/
  columns_nodup : update.assignments.columns.Nodup
  /-- in the order in which it is first assigned, -/
  columns_eq : update.assignments.columns = (given.map Prod.fst).eraseDups
  /-- with what is assigned to it last. -/
  get?_eq : ∀ column, update.assignments.get? column = given.reverse.lookup column
  /-- The map in the body has the same entries, in the order of their columns. -/
  updates_perm : update.request.updates.Perm update.assignments.entries
  updates_sorted : Dictionary.Sorted update.request.updates
  find?_updates : ∀ column, Dictionary.find? column update.request.updates =
    given.reverse.lookup column
  /-- The text of a valid update lists them in their own order, before the conditions. -/
  render_eq : update.validate = .ok () → ∀ bindings,
    ((Statement.update update).render bindings).1 = update.written bindings

/-- Whatever steps build an update, it holds for every column the last one of the assignments
accepted, and a step none of whose assignments is accepted leaves those held as they are. -/
theorem holdsLast_build (table : TableName) (steps : List Step) :
    (build table steps).HoldsLast (accepted steps) ∧
      ∀ step : Step, (∀ entry ∈ step.asked, accepts entry = false) →
        ∀ update : Update, (update.step step).assignments = update.assignments := by
  have hheld := assignments_build table steps
  have hget : ∀ column, (build table steps).assignments.get? column =
      (accepted steps).reverse.lookup column := by
    intro column
    rw [hheld, OrderedMap.get?_ofList]
  refine ⟨?_, fun step hrejected update => ?_⟩
  · constructor
    case columns_nodup => exact (build table steps).assignments.distinct
    case columns_eq => rw [hheld, OrderedMap.columns_ofList]
    case get?_eq => exact hget
    case updates_perm => exact Dictionary.perm_ofList (build table steps).assignments.distinct
    case updates_sorted => exact Dictionary.sorted_ofList _
    case find?_updates =>
      intro column
      rw [← hget, request, Dictionary.find?_ofList,
        lookup_reverse (build table steps).assignments.distinct]
      rfl
    case render_eq => exact fun hvalid bindings => fst_fill_template hvalid bindings
  · have hnone : step.asked.filter accepts = [] := by
      rw [List.filter_eq_nil_iff]
      intro entry hentry haccepted
      rw [hrejected entry hentry] at haccepted
      exact Bool.noConfusion haccepted
    rw [assignments_step, hnone]
    rfl

/-- A column that is set, then counted up and then set again, another one that is counted down
twice, and an assignment to no column. -/
def reassigned : List Step :=
  [.set "n" (.int 1), .arithmetic "a.b" .decrement (.int 2), .arithmetic "n" .increment (.int 3),
    .condition (.compare "c" .isNull .none), .setAll [(" ", .int 4), ("n", .text "it's")],
    .arithmetic "a.b" .decrement (.float 0.5)]

theorem holdsLast_build_reassigned :
    (build ⟨"t"⟩ reassigned).assignments.columns = ["n", "a.b"] ∧
      (∀ entry ∈ (Step.arithmetic "n" .increment (.text "five")).asked, accepts entry = false) ∧
      ((build ⟨"t"⟩ reassigned).step
        (.arithmetic "n" .increment (.text "five"))).assignments.get? "n" =
          some (.value (.text "it's")) := by
  obtain ⟨hholds, hrejected⟩ := holdsLast_build ⟨"t"⟩ reassigned
  have hnone : ∀ entry ∈ (Step.arithmetic "n" .increment (.text "five")).asked,
      accepts entry = false := by decide
  refine ⟨hholds.columns_eq.trans (by decide), hnone, ?_⟩
  rw [hrejected _ hnone, hholds.get?_eq]
  decide

end Update

end TwinQuery
