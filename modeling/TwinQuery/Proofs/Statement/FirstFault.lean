import Mathlib.Data.List.Basic
import TwinQuery.Proofs.Statement.Refusal

/-!
# The fault that a statement reports

The assignments of an update and the conditions of any statement each keep the first fault that
they meet. Of the two an update reports the one of its assignments, whichever came first. So the
fault that is reported is the first one met and stays the same, but for an update of which a
condition was rejected before any assignment was: `Construction.reports_fault`.
-/

namespace TwinQuery

/-! ## Faults that steps meet -/

def Select.Step.faults (step : Select.Step) : List String :=
  (step.condition?.bind Conditions.Step.fault?).toList

def Delete.Step.faults (step : Delete.Step) : List String :=
  (step.condition?.bind Conditions.Step.fault?).toList

namespace Insert

/-- Every row without values is a fault. -/
def Step.faults (step : Step) : List String :=
  (step.added.filter OrderedMap.isEmpty).map fun _ => "INSERT record has no values"

/-- The step adds a row without values. -/
def Step.Rejected (step : Step) : Prop :=
  ∃ row ∈ step.added, row.isEmpty = true

/-- An insertion has a fault exactly where some step added a row without values. -/
theorem fault?_build_eq_none_iff (table : TableName) (steps : List Step) :
    (build table steps).fault? = none ↔ ¬∃ step ∈ steps, step.Rejected := by
  have hrows : (build table steps).rows.any OrderedMap.isEmpty = true ↔
      ∃ step ∈ steps, step.Rejected := by
    rw [rows_build, List.any_flatMap, List.any_eq_true]
    simp only [List.any_eq_true, Step.Rejected]
  rw [← hrows, fault?]
  split
  next hempty => simp [hempty]
  next hvalues => simp [hvalues]

/-- The fault of an insertion is that of the first row without values. -/
theorem fault?_build (table : TableName) (steps : List Step) :
    (build table steps).fault? = (steps.flatMap Step.faults).head? := by
  have hfaults : steps.flatMap Step.faults =
      ((steps.flatMap Step.added).filter OrderedMap.isEmpty).map
        fun _ => "INSERT record has no values" := by
    rw [List.filter_flatMap, List.map_flatMap]
    rfl
  rw [fault?, rows_build, hfaults, List.head?_map, List.head?_filter, ← List.isSome_find?]
  cases (steps.flatMap Step.added).find? OrderedMap.isEmpty <;> rfl

end Insert

namespace Update

/-- The faults that a step meets in its assignments. -/
def Step.assignmentFaults : Step → List String
  | setAll pairs => pairs.filterMap fun pair => columnFault? pair.1
  | step => step.assignmentFault?.toList

/-- The faults that a step meets. -/
def Step.faults (step : Step) : List String :=
  step.assignmentFaults ++ (step.condition?.bind Conditions.Step.fault?).toList

theorem Step.head?_assignmentFaults (step : Step) :
    step.assignmentFaults.head? = step.assignmentFault? := by
  cases step with
  | setAll pairs => exact List.head?_filterMap
  | lockVersion version => rfl
  | condition step => rfl
  | _ => exact Option.head?_toList

end Update

/-! ## Constructions -/

/-- A table and the steps that were taken so far towards a statement about it. -/
inductive Construction where
  | select (table : TableName) (steps : List Select.Step)
  | insert (table : TableName) (steps : List Insert.Step)
  | update (table : TableName) (steps : List Update.Step)
  | delete (table : TableName) (steps : List Delete.Step)

namespace Construction

def built : Construction → Statement
  | select table steps => .select (Select.build table steps)
  | insert table steps => .insert (Insert.build table steps)
  | update table steps => .update (Update.build table steps)
  | delete table steps => .delete (Delete.build table steps)

/-- The faults that were met, in the order of the steps. -/
def faults : Construction → List String
  | select _ steps => steps.flatMap Select.Step.faults
  | insert _ steps => steps.flatMap Insert.Step.faults
  | update _ steps => steps.flatMap Update.Step.faults
  | delete _ steps => steps.flatMap Delete.Step.faults

/-- Those of them that were met in an assignment. -/
def assignmentFaults : Construction → List String
  | update _ steps => steps.flatMap Update.Step.assignmentFaults
  | select _ _ | insert _ _ | delete _ _ => []

/-- Some step was rejected, wherever it stands among the others. -/
def HasRejected : Construction → Prop
  | select _ steps => ∃ step ∈ steps, step.Rejected
  | insert _ steps => ∃ step ∈ steps, step.Rejected
  | update _ steps => ∃ step ∈ steps, step.Rejected
  | delete _ steps => ∃ step ∈ steps, step.Rejected

/-- The same construction after more steps. -/
inductive Continues : Construction → Construction → Prop where
  | select (table : TableName) (steps more : List Select.Step) :
      Continues (select table steps) (select table (steps ++ more))
  | insert (table : TableName) (steps more : List Insert.Step) :
      Continues (insert table steps) (insert table (steps ++ more))
  | update (table : TableName) (steps more : List Update.Step) :
      Continues (update table steps) (update table (steps ++ more))
  | delete (table : TableName) (steps more : List Delete.Step) :
      Continues (delete table steps) (delete table (steps ++ more))

/-! ## The fault of a construction -/

/-- Where a step meets the fault of its condition alone, the first of all is the first one of the
conditions. -/
theorem head?_flatMap_condition {α : Type} (condition? : α → Option Conditions.Step)
    (steps : List α) :
    (steps.flatMap fun step => ((condition? step).bind Conditions.Step.fault?).toList).head? =
      (steps.filterMap condition?).findSome? Conditions.Step.fault? := by
  induction steps with
  | nil => rfl
  | cons step rest ih =>
      rw [List.flatMap_cons, List.head?_append, ih]
      cases hcondition : condition? step with
      | none => simp [hcondition]
      | some condition =>
          rw [List.filterMap_cons_some hcondition, List.findSome?_cons]
          cases hfault : condition.fault? <;> simp [hfault]

theorem head?_flatMap_assignmentFaults (steps : List Update.Step) :
    (steps.flatMap Update.Step.assignmentFaults).head? =
      steps.findSome? Update.Step.assignmentFault? := by
  rw [List.head?_flatMap]
  simp only [Update.Step.head?_assignmentFaults]

/-- The first fault of all is one of an assignment or the first one of the conditions. -/
theorem or_head?_flatMap_faults (steps : List Update.Step) :
    (steps.flatMap Update.Step.assignmentFaults).head?.or
        (steps.flatMap Update.Step.faults).head? =
      (steps.findSome? Update.Step.assignmentFault?).or
        ((steps.filterMap Update.Step.condition?).findSome? Conditions.Step.fault?) := by
  rw [head?_flatMap_assignmentFaults]
  cases hassignments : steps.findSome? Update.Step.assignmentFault? with
  | some fault => rfl
  | none =>
      -- no step meets a fault in its assignments
      have hnil : ∀ step ∈ steps, step.faults =
          (step.condition?.bind Conditions.Step.fault?).toList := by
        intro step hstep
        have hnone := List.findSome?_eq_none_iff.1 hassignments step hstep
        rw [← step.head?_assignmentFaults, List.head?_eq_none_iff] at hnone
        rw [Update.Step.faults, hnone, List.nil_append]
      rw [List.flatMap_congr hnil, head?_flatMap_condition]

/-- The fault of a construction is the first one of its assignments or else the first one of all. -/
theorem fault?_built (construction : Construction) :
    construction.built.fault? =
      construction.assignmentFaults.head?.or construction.faults.head? := by
  cases construction with
  | select table steps =>
      exact (Select.fault?_build table steps).trans
        (head?_flatMap_condition Select.Step.condition? steps).symm
  | insert table steps => exact Insert.fault?_build table steps
  | update table steps =>
      exact (Update.fault?_build table steps).trans (or_head?_flatMap_faults steps).symm
  | delete table steps =>
      exact (Delete.fault?_build table steps).trans
        (head?_flatMap_condition Delete.Step.condition? steps).symm

/-- A construction has a fault exactly where some step was rejected. -/
theorem fault?_eq_none_iff (construction : Construction) :
    construction.built.fault? = none ↔ ¬construction.HasRejected := by
  cases construction with
  | select table steps => exact Select.fault?_build_eq_none_iff table steps
  | insert table steps => exact Insert.fault?_build_eq_none_iff table steps
  | update table steps => exact Update.fault?_build_eq_none_iff table steps
  | delete table steps => exact Delete.fault?_build_eq_none_iff table steps

/-- More steps only add faults behind those that were met before. -/
theorem faults_of_continues {construction later : Construction}
    (hlater : construction.Continues later) :
    (∃ more, later.assignmentFaults = construction.assignmentFaults ++ more) ∧
      ∃ more, later.faults = construction.faults ++ more := by
  cases hlater with
  | select table steps more => exact ⟨⟨[], rfl⟩, _, List.flatMap_append⟩
  | insert table steps more => exact ⟨⟨[], rfl⟩, _, List.flatMap_append⟩
  | update table steps more => exact ⟨⟨_, List.flatMap_append⟩, _, List.flatMap_append⟩
  | delete table steps more => exact ⟨⟨[], rfl⟩, _, List.flatMap_append⟩

/-! ## What becomes of a fault -/

/-- What a construction that met a fault reports from then on. -/
structure Reports (construction : Construction) (message : String) : Prop where
  /-- There is no body, -/
  array : construction.built.array = .error (.validation message)
  /-- and the statement is not valid. An insertion names the row instead. -/
  validate : construction.built.validate = .error (.validation message) ∨
    ∃ table steps, construction = insert table steps
  /-- Further steps leave the fault as it is when it was met in an assignment or they meet none
  in an assignment, -/
  stays : ∀ later, construction.Continues later →
    construction.assignmentFaults ≠ [] ∨ later.assignmentFaults = [] →
    later.built.fault? = some message
  /-- and otherwise the first one in an assignment takes its place. -/
  replaced : ∀ later, construction.Continues later → construction.assignmentFaults = [] →
    ∀ fault, later.assignmentFaults.head? = some fault → later.built.fault? = some fault

/-- With a fault there is no body, and the fault is why. -/
theorem array_of_fault {construction : Construction} {message : String}
    (hfault : construction.built.fault? = some message) :
    construction.built.array = .error (.validation message) := by
  rw [Statement.array, hfault]

/-- With a fault the statement is invalid, and for all but insertions the fault is why. -/
theorem validate_of_fault {construction : Construction} {message : String}
    (hfault : construction.built.fault? = some message) :
    construction.built.validate = .error (.validation message) ∨
      ∃ table steps, construction = insert table steps := by
  cases construction with
  | select table steps => exact .inl (Select.validate_of_fault hfault)
  | insert table steps => exact .inr ⟨table, steps, rfl⟩
  | update table steps => exact .inl (Update.validate_of_fault hfault)
  | delete table steps => exact .inl (Delete.validate_of_fault hfault)

/-- The fault that is reported stays, unless it was met outside the assignments and a later step
meets one in them. -/
theorem fault?_stays {construction later : Construction} {message : String}
    (hfault : construction.built.fault? = some message) (hlater : construction.Continues later)
    (hassignments : construction.assignmentFaults ≠ [] ∨ later.assignmentFaults = []) :
    later.built.fault? = some message := by
  obtain ⟨⟨moreAssignments, hmoreAssignments⟩, moreFaults, hmoreFaults⟩ :=
    faults_of_continues hlater
  rw [fault?_built] at hfault ⊢
  cases hmet : construction.assignmentFaults with
  | cons fault rest =>
      rw [hmet, List.head?_cons, Option.some_or] at hfault
      rw [hmoreAssignments, hmet, List.cons_append, List.head?_cons, Option.some_or, hfault]
  | nil =>
      have hnone : later.assignmentFaults = [] := hassignments.resolve_left fun hne => hne hmet
      rw [hmet, List.head?_nil, Option.none_or] at hfault
      rw [hnone, List.head?_nil, Option.none_or, hmoreFaults, List.head?_append, hfault,
        Option.some_or]

/-- There is a fault as soon as a step was rejected. It is the first one of an assignment or else
the first one of all, and from then on it is reported until one of an assignment replaces one of a
condition. -/
theorem reports_fault (construction : Construction) :
    (construction.built.fault? = none ↔ ¬construction.HasRejected) ∧
      construction.built.fault? =
        construction.assignmentFaults.head?.or construction.faults.head? ∧
      ∀ message, construction.built.fault? = some message → construction.Reports message := by
  refine ⟨construction.fault?_eq_none_iff, construction.fault?_built, fun message hfault => ?_⟩
  constructor
  case array => exact array_of_fault hfault
  case validate => exact validate_of_fault hfault
  case stays => exact fun later hlater hassignments => fault?_stays hfault hlater hassignments
  case replaced =>
    intro later hlater hnone fault hfirst
    rw [fault?_built, hfirst, Option.some_or]

/-- An amount that is no number, and a filter that is rejected behind it. -/
theorem reports_fault_amount :
    let counted : Update.Step := .arithmetic "n" .increment (.text "five")
    let compared : Update.Step := .condition (.compare "id" .greater (.list [.int 1, .int 2]))
    (update ⟨"users"⟩ [counted]).built.fault? =
        some "increment amount for 'n' must be numeric, got 'five'" ∧
      (update ⟨"users"⟩ [counted, compared]).built.fault? =
        some "increment amount for 'n' must be numeric, got 'five'" := by
  intro counted compared
  have hfault : (update ⟨"users"⟩ [counted]).built.fault? =
      some "increment amount for 'n' must be numeric, got 'five'" := by decide
  have hreports := (reports_fault (update ⟨"users"⟩ [counted])).2.2 _ hfault
  exact ⟨hfault, hreports.stays _ (.update _ [counted] [compared]) (.inl (by decide))⟩

/-- A list is compared with, and only then a column without a name is assigned. -/
theorem fault?_replaced :
    let compared : Update.Step := .condition (.compare "id" .greater (.list [.int 1, .int 2]))
    let first : Construction := .update ⟨"users"⟩ [compared]
    let second : Construction := .update ⟨"users"⟩ [compared, .set "" (.int 1)]
    first.Continues second ∧
      first.built.fault? = some
        "Invalid filter on column 'id': operator GreaterThan does not accept a list" ∧
      second.faults.head? = first.built.fault? ∧
      second.built.fault? = some "SET column name is empty" ∧
      second.built.array = .error (.validation "SET column name is empty") ∧
      second.built.validate = .error (.validation "SET column name is empty") :=
  ⟨.update ⟨"users"⟩ [_] [_], by decide, by decide, by decide, rfl, rfl⟩

end Construction

end TwinQuery
