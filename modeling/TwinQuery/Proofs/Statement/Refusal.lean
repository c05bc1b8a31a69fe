import TwinQuery.Proofs.Session.Running
import TwinQuery.Proofs.Statement.Building
import TwinQuery.Session.TableQuery

/-!
# Statements that lost a step

A step that cannot be taken while a statement is built is rejected and leaves a fault behind.
Whatever steps stand before and after it, the statement then has neither a text nor a body, and
every way of sending it ends before anything is sent: `Draft.fails_closed`. Without such a
step there is no fault, and every step that adds a filter has added one.
-/

namespace TwinQuery

/-! ## Rejected steps -/

/-- There is no filter of the column, the operator and the operand of the step. A step whose
operator is not known is refused at once and leaves no fault, so it does not count as rejected. -/
def Conditions.Step.Rejected (step : Conditions.Step) : Prop :=
  ∃ error, step.outcome = some (.error error)

def Select.Step.Rejected (step : Select.Step) : Prop :=
  ∃ condition, step.condition? = some condition ∧ condition.Rejected

def Delete.Step.Rejected (step : Delete.Step) : Prop :=
  ∃ condition, step.condition? = some condition ∧ condition.Rejected

/-- The step assigns a column without a name, adds an amount that is no number, or adds a filter
and there is no such filter. -/
def Update.Step.Rejected : Update.Step → Prop
  | set column _ => Text.isBlankText column = true
  | setAll pairs => ∃ pair ∈ pairs, Text.isBlankText pair.1 = true
  | arithmetic column _ amount => amount.isNumeric = false ∨ Text.isBlankText column = true
  | lockVersion _ => False
  | condition step => step.Rejected

namespace Conditions

/-- A step of conditions meets a fault exactly where it is rejected. -/
theorem Step.fault?_eq_none_iff (step : Step) : step.fault? = none ↔ ¬step.Rejected := by
  unfold Step.fault? Step.Rejected
  cases step.outcome with
  | none => simp
  | some made => cases made <;> simp

/-- Steps leave no fault when none of their filters is rejected. -/
theorem findSome?_fault?_eq_none_iff {α : Type} (condition? : α → Option Step) (steps : List α) :
    (steps.filterMap condition?).findSome? Step.fault? = none ↔
      ∀ step ∈ steps, ∀ condition, condition? step = some condition → ¬condition.Rejected := by
  rw [List.findSome?_eq_none_iff]
  constructor
  · intro hnone step hstep condition hcondition
    have hmem := List.mem_filterMap.2 ⟨step, hstep, hcondition⟩
    exact (Step.fault?_eq_none_iff condition).1 (hnone condition hmem)
  · intro hnone condition hmem
    obtain ⟨step, hstep, hcondition⟩ := List.mem_filterMap.1 hmem
    exact (Step.fault?_eq_none_iff condition).2 (hnone step hstep condition hcondition)

/-- When no filter is rejected, every step with a known operator has added one. -/
theorem length_filterMap_filter? {steps : List Step} (hnone : ∀ step ∈ steps, ¬step.Rejected) :
    (steps.filterMap Step.filter?).length = steps.countP fun step => step.outcome.isSome := by
  induction steps with
  | nil => rfl
  | cons step rest ih =>
      have hrest := ih fun later hlater => hnone later (List.mem_cons_of_mem _ hlater)
      have hstep := hnone step List.mem_cons_self
      rw [List.filterMap_cons, List.countP_cons]
      cases houtcome : step.outcome with
      | none =>
          have hfilter : step.filter? = none := by simp [Step.filter?, houtcome]
          simp [hfilter, hrest]
      | some made =>
          cases made with
          | ok filter =>
              have hfilter : step.filter? = some filter := by simp [Step.filter?, houtcome]
              simp [hfilter, hrest]
          | error error => exact absurd ⟨error, houtcome⟩ hstep

end Conditions

/-- A read has no fault exactly where none of its steps was rejected. -/
theorem Select.fault?_build_eq_none_iff (table : TableName) (steps : List Select.Step) :
    (build table steps).fault? = none ↔ ¬∃ step ∈ steps, step.Rejected := by
  rw [fault?_build, Conditions.findSome?_fault?_eq_none_iff]
  simp only [Step.Rejected, not_exists, not_and]

theorem Delete.fault?_build_eq_none_iff (table : TableName) (steps : List Delete.Step) :
    (build table steps).fault? = none ↔ ¬∃ step ∈ steps, step.Rejected := by
  rw [fault?_build, Conditions.findSome?_fault?_eq_none_iff]
  simp only [Step.Rejected, not_exists, not_and]

namespace Update

theorem columnFault?_eq_none_iff (column : String) :
    columnFault? column = none ↔ ¬Text.isBlankText column = true := by
  unfold columnFault?
  split
  next hblank => simp [hblank]
  next hnamed => simp [hnamed]

/-- A step is rejected when its assignments meet a fault or its filter does. -/
theorem Step.not_rejected_iff (step : Step) :
    ¬step.Rejected ↔ step.assignmentFault? = none ∧
      ∀ condition, step.condition? = some condition → ¬condition.Rejected := by
  cases step with
  | set column value =>
      simp [Step.Rejected, Step.assignmentFault?, Step.condition?, columnFault?_eq_none_iff]
  | setAll pairs =>
      simp [Step.Rejected, Step.assignmentFault?, Step.condition?, columnFault?_eq_none_iff]
  | arithmetic column operation amount =>
      cases hnumeric : amount.isNumeric <;>
        simp [Step.Rejected, Step.assignmentFault?, Step.condition?, columnFault?_eq_none_iff,
          hnumeric]
  | lockVersion version => simp [Step.Rejected, Step.assignmentFault?, Step.condition?]
  | condition step => simp [Step.Rejected, Step.assignmentFault?, Step.condition?]

/-- An update has no fault exactly where none of its steps was rejected. -/
theorem fault?_build_eq_none_iff (table : TableName) (steps : List Step) :
    (build table steps).fault? = none ↔ ¬∃ step ∈ steps, step.Rejected := by
  rw [fault?_build, Option.or_eq_none_iff, List.findSome?_eq_none_iff,
    Conditions.findSome?_fault?_eq_none_iff]
  simp only [not_exists, not_and, Step.not_rejected_iff]
  constructor
  · rintro ⟨hassignments, hconditions⟩ step hstep
    exact ⟨hassignments step hstep, hconditions step hstep⟩
  · intro hnone
    exact ⟨fun step hstep => (hnone step hstep).1, fun step hstep => (hnone step hstep).2⟩

end Update

/-! ## What a rejected step leaves behind -/

/-- The statement has no text in either style and binds no value, it has no body, and executing it
fails before anything is sent. -/
structure Statement.Refused (statement : Statement) (message : String) : Prop where
  fault : statement.fault? = some message
  render : ∀ bindings, statement.render bindings = ("", bindings)
  array : statement.array = .error (.validation message)
  execute : ∀ (σ : Type) [Service σ] (session : Session σ),
    statement.execute session = (.error (.validation message), session)

/-- Every end of the query fails before anything is sent. An update may name a fault of its own
values instead of the one that was there before. -/
structure TableQuery.Refused (query : TableQuery) (message : String) : Prop where
  rows : ∀ (σ : Type) [Service σ] (session : Session σ),
    query.rows session = (.error (.validation message), session)
  first : ∀ (σ : Type) [Service σ] (session : Session σ),
    query.first? session = (.error (.validation message), session)
  exist : ∀ (σ : Type) [Service σ] (session : Session σ),
    query.exists? session = (.error (.validation message), session)
  count : ∀ (σ : Type) [Service σ] (session : Session σ),
    query.count session = (.error (.validation message), session)
  pluck : ∀ (column : String) (σ : Type) [Service σ] (session : Session σ),
    query.pluck column session = (.error (.validation message), session)
  value : ∀ (column : String) (σ : Type) [Service σ] (session : Session σ),
    query.value? column session = (.error (.validation message), session)
  update : ∀ values : List (String × Scalar), ∃ reason, ∀ (σ : Type) [Service σ]
    (session : Session σ), query.update values session = (.error (.validation reason), session)
  delete : ∀ (σ : Type) [Service σ] (session : Session σ),
    query.delete session = (.error (.validation message), session)

section Refusal

variable {σ : Type} [Service σ] {error : Error}

theorem Tables.select_of_validate {select : Select} (hvalid : select.validate = .error error)
    (session : Session σ) : Tables.select select session = (.error error, session) := by
  unfold Tables.select
  rw [hvalid]
  rfl

theorem Tables.updateWith_of_validate {update : Update} (hvalid : update.validate = .error error)
    (session : Session σ) : Tables.updateWith update session = (.error error, session) := by
  unfold Tables.updateWith
  rw [hvalid]
  rfl

theorem Tables.deleteWith_of_validate {delete : Delete} (hvalid : delete.validate = .error error)
    (session : Session σ) : Tables.deleteWith delete session = (.error error, session) := by
  unfold Tables.deleteWith
  rw [hvalid]
  rfl

/-- A statement that is not valid is not executed, and the session stays as it was. -/
theorem Statement.execute_of_validate {statement : Statement}
    (hvalid : statement.validate = .error error) (session : Session σ) :
    statement.execute session = (.error error, session) := by
  unfold Statement.execute
  rw [hvalid]
  rfl

end Refusal

section Faults

variable {message : String}

/-- A fault makes a read invalid, and it is the reason that is given. -/
theorem Select.validate_of_fault {select : Select} (hfault : select.fault? = some message) :
    select.validate = .error (.validation message) := by
  rw [validate, hfault]

theorem Update.validate_of_fault {update : Update} (hfault : update.fault? = some message) :
    update.validate = .error (.validation message) := by
  rw [validate, hfault]

theorem Delete.validate_of_fault {delete : Delete} (hfault : delete.fault? = some message) :
    delete.validate = .error (.validation message) := by
  rw [validate, hfault]

theorem Tables.select_of_fault {σ : Type} [Service σ] {select : Select}
    (hfault : select.fault? = some message) (session : Session σ) :
    Tables.select select session = (.error (.validation message), session) :=
  select_of_validate (Select.validate_of_fault hfault) session

theorem Tables.updateWith_of_fault {σ : Type} [Service σ] {update : Update}
    (hfault : update.fault? = some message) (session : Session σ) :
    Tables.updateWith update session = (.error (.validation message), session) :=
  updateWith_of_validate (Update.validate_of_fault hfault) session

theorem Tables.deleteWith_of_fault {σ : Type} [Service σ] {delete : Delete}
    (hfault : delete.fault? = some message) (session : Session σ) :
    Tables.deleteWith delete session = (.error (.validation message), session) :=
  deleteWith_of_validate (Delete.validate_of_fault hfault) session

/-- A statement whose fault empties its text and makes it invalid is refused throughout. -/
theorem Statement.refused_of_fault {statement : Statement}
    (hfault : statement.fault? = some message) (htemplate : statement.template = [])
    (hvalid : statement.validate = .error (.validation message)) : statement.Refused message where
  fault := hfault
  render := by
    intro bindings
    rw [render, htemplate]
    rfl
  array := by rw [array, hfault]
  execute := fun _ _ session => execute_of_validate hvalid session

theorem Select.refused {select : Select} (hfault : select.fault? = some message) :
    (Statement.select select).Refused message :=
  Statement.refused_of_fault hfault (by simp [Statement.template, template, hfault])
    (validate_of_fault hfault)

theorem Update.refused {update : Update} (hfault : update.fault? = some message) :
    (Statement.update update).Refused message :=
  Statement.refused_of_fault hfault (by simp [Statement.template, template, hfault])
    (validate_of_fault hfault)

theorem Delete.refused {delete : Delete} (hfault : delete.fault? = some message) :
    (Statement.delete delete).Refused message :=
  Statement.refused_of_fault hfault (by simp [Statement.template, template, hfault])
    (validate_of_fault hfault)

theorem Select.countTemplate_of_fault {select : Select} (hfault : select.fault? = some message) :
    select.countTemplate = [] := by
  simp [countTemplate, hfault]

/-- The fault of the conditions goes along into every statement that a query sends. -/
theorem TableQuery.refused {query : TableQuery} (hfault : query.select.fault? = some message) :
    query.Refused message where
  rows := by
    intro σ _ session
    exact SessionM.bind_of_error (Tables.select_of_fault hfault session)
  first := by
    intro σ _ session
    have hlimited : (query.select.withLimit 1).fault? = some message := hfault
    exact SessionM.bind_of_error (Tables.select_of_fault hlimited session)
  exist := by
    intro σ _ session
    have hlimited : ((query.select.project ["1"]).withLimit 1).fault? = some message := hfault
    exact SessionM.bind_of_error (Tables.select_of_fault hlimited session)
  count := by
    intro σ _ session
    unfold count
    rw [Select.validate_of_fault hfault]
    rfl
  pluck := by
    intro column σ _ session
    have hprojected : (query.select.project [column]).fault? = some message := hfault
    exact SessionM.bind_of_error (Tables.select_of_fault hprojected session)
  value := by
    intro column σ _ session
    have hlimited : ((query.select.project [column]).withLimit 1).fault? = some message := hfault
    exact SessionM.bind_of_error (Tables.select_of_fault hlimited session)
  update := by
    intro values
    -- the fault of the assignments is raised first, if there is one
    have hsome : (query.updateStatement values).fault?.isSome = true := by
      have hconditions : (query.updateStatement values).conditions.fault? = some message := hfault
      unfold Update.fault?
      rw [hconditions]
      cases (query.updateStatement values).assignmentFault? <;> rfl
    obtain ⟨reason, hreason⟩ := Option.isSome_iff_exists.1 hsome
    refine ⟨reason, fun σ _ session => ?_⟩
    exact Tables.updateWith_of_fault hreason session
  delete := by
    intro σ _ session
    have hdelete : query.deleteStatement.fault? = some message := hfault
    exact Tables.deleteWith_of_fault hdelete session

end Faults

/-! ## Drafts -/

def TableQuery.step (query : TableQuery) (step : Select.Step) : TableQuery :=
  kept query (query.apply step)

def TableQuery.build (table : TableName) (steps : List Select.Step) : TableQuery :=
  steps.foldl TableQuery.step ⟨{ table }⟩

/-- A query goes through the same steps as a read. -/
theorem TableQuery.select_build (table : TableName) (steps : List Select.Step) :
    (build table steps).select = Select.build table steps := by
  have hstep : ∀ (query : TableQuery) (step : Select.Step),
      (query.step step).select = query.select.step step := by
    intro query step
    unfold TableQuery.step TableQuery.apply Select.step
    cases query.select.apply step <;> rfl
  have hfoldl : ∀ query : TableQuery,
      (steps.foldl TableQuery.step query).select = steps.foldl Select.step query.select := by
    induction steps with
    | nil => exact fun _ => rfl
    | cons step rest ih =>
        intro query
        rw [List.foldl_cons, List.foldl_cons, ih, hstep]
  exact hfoldl ⟨{ table }⟩

/-- A table and the steps of building a statement about it. -/
inductive Draft where
  | select (table : TableName) (steps : List Select.Step)
  | update (table : TableName) (steps : List Update.Step)
  | delete (table : TableName) (steps : List Delete.Step)
  | query (table : TableName) (steps : List Select.Step)

namespace Draft

/-- Some step was rejected, wherever it stands among the others. -/
def HasRejected : Draft → Prop
  | select _ steps | query _ steps => ∃ step ∈ steps, step.Rejected
  | update _ steps => ∃ step ∈ steps, step.Rejected
  | delete _ steps => ∃ step ∈ steps, step.Rejected

def conditionSteps : Draft → List Conditions.Step
  | select _ steps | query _ steps => steps.filterMap Select.Step.condition?
  | update _ steps => steps.filterMap Update.Step.condition?
  | delete _ steps => steps.filterMap Delete.Step.condition?

def filters : Draft → List Filter
  | select table steps => (Select.build table steps).conditions.filters
  | update table steps => (Update.build table steps).conditions.filters
  | delete table steps => (Delete.build table steps).conditions.filters
  | query table steps => (TableQuery.build table steps).select.conditions.filters

def fault? : Draft → Option String
  | select table steps => (Select.build table steps).fault?
  | update table steps => (Update.build table steps).fault?
  | delete table steps => (Delete.build table steps).fault?
  | query table steps => (TableQuery.build table steps).select.fault?

/-- Nothing of what is built can be sent: it has no text, and every call that takes it fails on the
session as it was. -/
def Refused (message : String) : Draft → Prop
  | select table steps =>
      (Statement.select (Select.build table steps)).Refused message ∧
        (∀ bindings, Bindings.fill bindings (Select.build table steps).countTemplate =
          ("", bindings)) ∧
        ∀ (σ : Type) [Service σ] (session : Session σ),
          Tables.select (Select.build table steps) session =
            (.error (.validation message), session)
  | update table steps =>
      (Statement.update (Update.build table steps)).Refused message ∧
        ∀ (σ : Type) [Service σ] (session : Session σ),
          Tables.updateWith (Update.build table steps) session =
            (.error (.validation message), session)
  | delete table steps =>
      (Statement.delete (Delete.build table steps)).Refused message ∧
        ∀ (σ : Type) [Service σ] (session : Session σ),
          Tables.deleteWith (Delete.build table steps) session =
            (.error (.validation message), session)
  | query table steps =>
      (TableQuery.build table steps).Refused message ∧
        (Statement.select (TableQuery.build table steps).select).Refused message

/-- A draft with a fault is refused throughout. -/
theorem refused_of_fault {draft : Draft} {message : String} (hfault : draft.fault? = some message) :
    draft.Refused message := by
  cases draft with
  | select table steps =>
      refine ⟨Select.refused hfault, fun bindings => ?_, fun _ _ session =>
        Tables.select_of_fault hfault session⟩
      rw [Select.countTemplate_of_fault hfault]
      rfl
  | update table steps =>
      exact ⟨Update.refused hfault, fun _ _ session =>
        Tables.updateWith_of_fault hfault session⟩
  | delete table steps =>
      exact ⟨Delete.refused hfault, fun _ _ session =>
        Tables.deleteWith_of_fault hfault session⟩
  | query table steps => exact ⟨TableQuery.refused hfault, Select.refused hfault⟩

/-- A draft has no fault exactly where none of its steps was rejected. -/
theorem fault?_eq_none_iff (draft : Draft) : draft.fault? = none ↔ ¬draft.HasRejected := by
  cases draft with
  | select table steps => exact Select.fault?_build_eq_none_iff table steps
  | update table steps => exact Update.fault?_build_eq_none_iff table steps
  | delete table steps => exact Delete.fault?_build_eq_none_iff table steps
  | query table steps =>
      rw [fault?, TableQuery.select_build]
      exact Select.fault?_build_eq_none_iff table steps

/-- The filters of a draft are those that its steps of conditions give. -/
theorem filters_eq (draft : Draft) :
    draft.filters = draft.conditionSteps.filterMap Conditions.Step.filter? := by
  cases draft with
  | select table steps => exact Select.filters_build table steps
  | update table steps => exact Update.filters_build table steps
  | delete table steps => exact Delete.filters_build table steps
  | query table steps =>
      rw [filters, TableQuery.select_build]
      exact Select.filters_build table steps

theorem not_rejected_of_mem {draft : Draft} (hnone : ¬draft.HasRejected)
    {step : Conditions.Step} (hstep : step ∈ draft.conditionSteps) : ¬step.Rejected := by
  intro hrejected
  apply hnone
  cases draft with
  | select table steps =>
      obtain ⟨made, hmade, hcondition⟩ := List.mem_filterMap.1 hstep
      exact ⟨made, hmade, step, hcondition, hrejected⟩
  | update table steps =>
      obtain ⟨made, hmade, hcondition⟩ := List.mem_filterMap.1 hstep
      refine ⟨made, hmade, ?_⟩
      cases made with
      | condition made =>
          cases hcondition
          exact hrejected
      | _ => simp [Update.Step.condition?] at hcondition
  | delete table steps =>
      obtain ⟨made, hmade, hcondition⟩ := List.mem_filterMap.1 hstep
      exact ⟨made, hmade, step, hcondition, hrejected⟩
  | query table steps =>
      obtain ⟨made, hmade, hcondition⟩ := List.mem_filterMap.1 hstep
      exact ⟨made, hmade, step, hcondition, hrejected⟩

end Draft

/-- Every builder refuses the step with an error and stays as it was. -/
structure Conditions.Step.RefusedAtOnce (step : Conditions.Step) (error : Error) : Prop where
  select : ∀ select : Select, select.apply (.condition step) = .error error ∧
    select.step (.condition step) = select
  update : ∀ update : Update, update.apply (.condition step) = .error error ∧
    update.step (.condition step) = update
  delete : ∀ delete : Delete, delete.apply (.condition step) = .error error ∧
    delete.step (.condition step) = delete
  query : ∀ query : TableQuery, query.apply (.condition step) = .error error ∧
    query.step (.condition step) = query

/-- The one way in which no operator is found: the text without the blanks around it is raised. -/
theorem Operator.eq_of_parse_error {text : String} {error : Error}
    (hparse : Operator.parse text = .error error) : error = .unknownOperator (Text.trim text) := by
  unfold Operator.parse at hparse
  simp only at hparse
  split at hparse
  next => simp at hparse
  next =>
    split at hparse
    next => simp at hparse
    next => exact (Except.error.inj hparse).symm

/-- A step without an outcome is one whose operator is not known, and adding its filter fails. -/
theorem Conditions.apply_of_outcome {step : Conditions.Step} (houtcome : step.outcome = none) :
    ∃ text, ∀ conditions : Conditions, conditions.apply step = .error (.unknownOperator text) := by
  cases step with
  | compare column operator operand => simp [Step.outcome] at houtcome
  | filter made => simp [Step.outcome] at houtcome
  | parsed column operator operand =>
      refine ⟨Text.trim operator, fun conditions => ?_⟩
      rw [apply, addParsed]
      cases hparse : Operator.parse operator with
      | ok known => simp [Step.outcome, hparse] at houtcome
      | error error =>
          rw [Operator.eq_of_parse_error hparse]
          rfl

/-- A step that no conditions take is refused by every builder. -/
theorem Conditions.Step.refusedAtOnce_of_apply {step : Conditions.Step} {error : Error}
    (happly : ∀ conditions : Conditions, conditions.apply step = .error error) :
    step.RefusedAtOnce error := by
  refine ⟨?_, ?_, ?_, ?_⟩
  · intro select
    have herror : select.apply (.condition step) = .error error := by
      rw [Select.apply, happly]
      rfl
    exact ⟨herror, by rw [Select.step, herror, kept]⟩
  · intro update
    have herror : update.apply (.condition step) = .error error := by
      rw [Update.apply, happly]
      rfl
    exact ⟨herror, by rw [Update.step, herror, kept]⟩
  · intro delete
    have herror : delete.apply (.condition step) = .error error := by
      rw [Delete.apply, happly]
      rfl
    exact ⟨herror, by rw [Delete.step, herror, kept]⟩
  · intro query
    have herror : query.apply (.condition step) = .error error := by
      rw [TableQuery.apply, Select.apply, happly]
      rfl
    exact ⟨herror, by rw [TableQuery.step, herror, kept]⟩

/-- A step whose operator is not known is refused at once by every builder. -/
theorem Conditions.Step.refusedAtOnce_of_outcome {step : Conditions.Step}
    (houtcome : step.outcome = none) : ∃ text, step.RefusedAtOnce (.unknownOperator text) := by
  obtain ⟨text, happly⟩ := Conditions.apply_of_outcome houtcome
  exact ⟨text, Conditions.Step.refusedAtOnce_of_apply happly⟩

namespace Draft

/-- After a rejected step, wherever it stands, nothing can be sent. Without one there is no fault
and every step of adding a filter has added one, but for those with an unknown operator, which
are refused at once. -/
theorem fails_closed (draft : Draft) :
    (draft.HasRejected → ∃ message, draft.Refused message) ∧
      (¬draft.HasRejected → draft.fault? = none ∧
        draft.filters.length = draft.conditionSteps.countP fun step => step.outcome.isSome) ∧
      ∀ step ∈ draft.conditionSteps, step.outcome = none →
        ∃ text, step.RefusedAtOnce (.unknownOperator text) := by
  refine ⟨fun hrejected => ?_, fun hnone => ⟨draft.fault?_eq_none_iff.2 hnone, ?_⟩,
    fun step _ houtcome => step.refusedAtOnce_of_outcome houtcome⟩
  · have hfault : draft.fault? ≠ none := fun hnone =>
      draft.fault?_eq_none_iff.1 hnone hrejected
    obtain ⟨message, hmessage⟩ := Option.ne_none_iff_exists'.1 hfault
    exact ⟨message, refused_of_fault hmessage⟩
  · rw [filters_eq]
    exact Conditions.length_filterMap_filter? fun step hstep => not_rejected_of_mem hnone hstep

/-- A comparison with nothing, between a condition that is right and a limit. -/
def lostFilter : Draft :=
  .query ⟨"users"⟩
    [.condition (.compare "age" .greater (.single (.int 3))),
      .condition (.compare "name" .equal .none), .limit 3]

theorem fails_closed_lostFilter :
    lostFilter.HasRejected ∧ ∃ message, lostFilter.Refused message := by
  have hrejected : lostFilter.HasRejected :=
    ⟨_, List.mem_cons_of_mem _ List.mem_cons_self, .compare "name" .equal .none, rfl, _, rfl⟩
  exact ⟨hrejected, (fails_closed lostFilter).1 hrejected⟩

end Draft

end TwinQuery
