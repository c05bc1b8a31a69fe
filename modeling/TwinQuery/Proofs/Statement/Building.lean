import TwinQuery.Statement.Basic

/-!
# Statements built step by step

A statement is built by steps from nothing but its table, and a step that is refused leaves it
as it was. What any number of steps leaves behind is said once for conditions and carried over
to each kind of statement: the filters are those that the steps gave, in the order of the
steps, and the fault is the first one that a step met.
-/

namespace TwinQuery

/-- What follows a step: its result, or what was held before where it is refused. -/
def kept {α : Type} (held : α) : Except Error α → α
  | .ok next => next
  | .error _ => held

/-! ## Conditions -/

namespace Conditions

namespace Step

/-- A filter, the reason why there is none, or nothing where the operator is not known. -/
def outcome : Step → Option (Except Error Filter)
  | compare column operator operand => some (Filter.make column operator operand)
  | parsed column operator operand =>
      match Operator.parse operator with
      | .ok operator => some (Filter.make column operator operand)
      | .error _ => none
  | filter made => some (.ok made)

def filter? (step : Step) : Option Filter :=
  match step.outcome with
  | some (.ok made) => some made
  | _ => none

def fault? (step : Step) : Option String :=
  match step.outcome with
  | some (.error fault) => some fault.message
  | _ => none

end Step

def step (conditions : Conditions) (step : Step) : Conditions :=
  kept conditions (conditions.apply step)

/-- Adding a condition appends its filter if there is one, and records the fault otherwise unless
there was one before. -/
theorem add_eq (conditions : Conditions) (column : String) (operator : Operator)
    (operand : Operand) :
    (conditions.add column operator operand).filters =
        conditions.filters ++ (Step.compare column operator operand).filter?.toList ∧
      (conditions.add column operator operand).fault? =
        conditions.fault?.or (Step.compare column operator operand).fault? := by
  unfold add Step.filter? Step.fault? Step.outcome
  cases hmade : Filter.make column operator operand with
  | ok filter => simp [hmade, push]
  | error fault => simp [hmade]

/-- A step adds the filter that it gives and records the fault that it meets. -/
theorem step_eq (conditions : Conditions) (step : Step) :
    (conditions.step step).filters = conditions.filters ++ step.filter?.toList ∧
      (conditions.step step).fault? = conditions.fault?.or step.fault? := by
  cases step with
  | compare column operator operand => exact conditions.add_eq column operator operand
  | parsed column operator operand =>
      cases hparse : Operator.parse operator with
      | ok parsed =>
          -- with a known operator this is the step that names it
          have hstep : conditions.step (.parsed column operator operand) =
              conditions.add column parsed operand := by
            simp [Conditions.step, apply, addParsed, hparse, Except.map, kept]
          have houtcome : (Step.parsed column operator operand).outcome =
              (Step.compare column parsed operand).outcome := by
            simp [Step.outcome, hparse]
          rw [hstep, Step.filter?, Step.fault?, houtcome]
          exact conditions.add_eq column parsed operand
      | error fault =>
          simp [Conditions.step, apply, addParsed, Step.filter?, Step.fault?, Step.outcome, hparse,
            Except.map, kept]
  | filter filter =>
      simp [Conditions.step, apply, kept, push, Step.filter?, Step.fault?, Step.outcome]

/-- After any number of steps the conditions hold the filters that the steps gave, in the order
of the steps. -/
theorem filters_foldl (steps : List Step) (conditions : Conditions) :
    (steps.foldl Conditions.step conditions).filters =
      conditions.filters ++ steps.filterMap Step.filter? := by
  induction steps generalizing conditions with
  | nil => simp
  | cons step rest ih =>
      rw [List.foldl_cons, ih, (conditions.step_eq step).1, List.append_assoc]
      cases hfilter : step.filter? <;> simp [hfilter]

/-- After any number of steps the fault is the first one that a step met. -/
theorem fault?_foldl (steps : List Step) (conditions : Conditions) :
    (steps.foldl Conditions.step conditions).fault? =
      conditions.fault?.or (steps.findSome? Step.fault?) := by
  induction steps generalizing conditions with
  | nil => simp
  | cons step rest ih =>
      rw [List.foldl_cons, ih, (conditions.step_eq step).2, Option.or_assoc]
      cases hfault : step.fault? <;> simp [hfault]

/-- A statement whose steps take at most one step of its conditions each has, after all of them,
the conditions that these steps give. -/
theorem foldl_of_step_eq {α β : Type} {conditions : α → Conditions} {next : α → β → α}
    {condition? : β → Option Step}
    (hnext : ∀ held step, conditions (next held step) =
      (condition? step).toList.foldl Conditions.step (conditions held))
    (steps : List β) (held : α) :
    conditions (steps.foldl next held) =
      (steps.filterMap condition?).foldl Conditions.step (conditions held) := by
  induction steps generalizing held with
  | nil => rfl
  | cons step rest ih =>
      rw [List.foldl_cons, ih, hnext]
      cases hstep : condition? step <;> simp [hstep]

end Conditions

/-- What every step leaves alone is the same after all of them. -/
theorem foldl_unchanged {α β γ : Type} {part : α → γ} {next : α → β → α}
    (hnext : ∀ held step, part (next held step) = part held) (steps : List β) (held : α) :
    part (steps.foldl next held) = part held := by
  induction steps generalizing held with
  | nil => rfl
  | cons step rest ih => rw [List.foldl_cons, ih, hnext]

/-! ## Reads -/

namespace Select

/-- The step of the conditions that a step is. -/
def Step.condition? : Step → Option Conditions.Step
  | condition step => some step
  | _ => none

def step (select : Select) (step : Step) : Select :=
  kept select (select.apply step)

/-- The statement about a table that steps build. -/
def build (table : TableName) (steps : List Step) : Select :=
  steps.foldl Select.step { table }

theorem step_condition (select : Select) (step : Conditions.Step) :
    select.step (.condition step) = { select with conditions := select.conditions.step step } := by
  unfold Select.step Conditions.step
  simp only [apply]
  cases select.conditions.apply step <;> rfl

theorem table_step (select : Select) (step : Step) : (select.step step).table = select.table := by
  cases step with
  | condition step => rw [step_condition]
  | _ => rfl

/-- A step acts on the conditions of a read only if it is one of theirs. -/
theorem conditions_step (select : Select) (step : Step) :
    (select.step step).conditions =
      step.condition?.toList.foldl Conditions.step select.conditions := by
  cases step with
  | condition step =>
      rw [step_condition]
      rfl
  | _ => rfl

/-- There is always an entry in the projection. -/
theorem columns_step_ne_nil {select : Select} (hcolumns : select.columns ≠ []) (step : Step) :
    (select.step step).columns ≠ [] := by
  cases step with
  | project columns =>
      simp only [Select.step, apply, kept, project]
      split
      next => simp
      next hne => simpa using hne
  | addColumn column =>
      simp only [Select.step, apply, kept, addColumn]
      split <;> simp
  | condition step =>
      rw [step_condition]
      exact hcolumns
  | _ => exact hcolumns

variable (table : TableName) (steps : List Step)

theorem table_build : (build table steps).table = table :=
  foldl_unchanged table_step steps { table }

/-- The projection is never empty, since no columns stand for `*`. -/
theorem columns_build_ne_nil : (build table steps).columns ≠ [] := by
  have hfoldl : ∀ select : Select, select.columns ≠ [] →
      (steps.foldl Select.step select).columns ≠ [] := by
    induction steps with
    | nil => exact fun _ hcolumns => hcolumns
    | cons step rest ih => exact fun _ hcolumns => ih _ (columns_step_ne_nil hcolumns step)
  exact hfoldl { table } (by simp)

/-- The conditions that steps build depend on the steps of conditions alone. -/
theorem conditions_build :
    (build table steps).conditions =
      (steps.filterMap Step.condition?).foldl Conditions.step {} :=
  Conditions.foldl_of_step_eq conditions_step steps { table }

/-- The filters of a read are those that its steps give, in their order. -/
theorem filters_build :
    (build table steps).conditions.filters =
      (steps.filterMap Step.condition?).filterMap Conditions.Step.filter? := by
  rw [conditions_build, Conditions.filters_foldl]
  rfl

/-- The fault of a read is that of the first step that met one. -/
theorem fault?_build :
    (build table steps).fault? =
      (steps.filterMap Step.condition?).findSome? Conditions.Step.fault? := by
  rw [fault?, conditions_build, Conditions.fault?_foldl]
  rfl

end Select

/-! ## Deletions -/

namespace Delete

def Step.condition? : Step → Option Conditions.Step
  | condition step => some step
  | _ => none

def step (delete : Delete) (step : Step) : Delete :=
  kept delete (delete.apply step)

def build (table : TableName) (steps : List Step) : Delete :=
  steps.foldl Delete.step { table }

theorem step_condition (delete : Delete) (step : Conditions.Step) :
    delete.step (.condition step) = { delete with conditions := delete.conditions.step step } := by
  unfold Delete.step Conditions.step
  simp only [apply]
  cases delete.conditions.apply step <;> rfl

/-- Steps of the conditions alone change nothing else. -/
theorem foldl_condition (delete : Delete) (steps : List Conditions.Step) :
    (steps.map Step.condition).foldl Delete.step delete =
      { delete with conditions := steps.foldl Conditions.step delete.conditions } := by
  induction steps generalizing delete with
  | nil => rfl
  | cons step rest ih => rw [List.map_cons, List.foldl_cons, ih, step_condition, List.foldl_cons]

theorem conditions_step (delete : Delete) (step : Step) :
    (delete.step step).conditions =
      step.condition?.toList.foldl Conditions.step delete.conditions := by
  cases step with
  | condition step =>
      rw [step_condition]
      rfl
  | _ => rfl

variable (table : TableName) (steps : List Step)

theorem conditions_build :
    (build table steps).conditions =
      (steps.filterMap Step.condition?).foldl Conditions.step {} :=
  Conditions.foldl_of_step_eq conditions_step steps { table }

theorem filters_build :
    (build table steps).conditions.filters =
      (steps.filterMap Step.condition?).filterMap Conditions.Step.filter? := by
  rw [conditions_build, Conditions.filters_foldl]
  rfl

theorem fault?_build :
    (build table steps).fault? =
      (steps.filterMap Step.condition?).findSome? Conditions.Step.fault? := by
  rw [fault?, conditions_build, Conditions.fault?_foldl]
  rfl

end Delete

/-! ## Insertions -/

namespace Insert

def Step.added : Step → List Record
  | rows added => added
  | onConflict _ | batchSize _ => []

def build (table : TableName) (steps : List Step) : Insert :=
  steps.foldl apply { table }

theorem table_apply (insert : Insert) (step : Step) : (insert.apply step).table = insert.table := by
  cases step <;> rfl

/-- A step adds its rows behind those before. -/
theorem rows_apply (insert : Insert) (step : Step) :
    (insert.apply step).rows = insert.rows ++ step.added := by
  cases step with
  | rows rows => rfl
  | onConflict choice => exact (List.append_nil _).symm
  | batchSize n => exact (List.append_nil _).symm

variable (table : TableName) (steps : List Step)

theorem table_build : (build table steps).table = table :=
  foldl_unchanged table_apply steps { table }

/-- After any number of steps the statement holds the rows that the steps added, in the order of
the steps. -/
theorem rows_build : (build table steps).rows = steps.flatMap Step.added := by
  have hfoldl : ∀ insert : Insert,
      (steps.foldl apply insert).rows = insert.rows ++ steps.flatMap Step.added := by
    induction steps with
    | nil => exact fun insert => (List.append_nil insert.rows).symm
    | cons step rest ih =>
        intro insert
        rw [List.foldl_cons, ih, rows_apply, List.append_assoc, List.flatMap_cons]
  exact hfoldl { table }

end Insert

/-! ## Updates -/

namespace Update

/-- The fault of assigning a column that has no name. -/
def columnFault? (column : String) : Option String :=
  if Text.isBlankText column then some "SET column name is empty" else none

namespace Step

def condition? : Step → Option Conditions.Step
  | condition step => some step
  | _ => none

/-- The fault of the assignments that a step makes: the first column without a name, or an amount
that is no number. -/
def assignmentFault? : Step → Option String
  | set column _ => columnFault? column
  | setAll pairs => pairs.findSome? fun pair => columnFault? pair.1
  | arithmetic column operation amount =>
      if amount.isNumeric then columnFault? column
      else
        some (operation.wireName ++ " amount for '" ++ column ++ "' must be numeric, got " ++
          amount.literal)
  | lockVersion _ | condition _ => none

end Step

def step (update : Update) (step : Step) : Update :=
  kept update (update.apply step)

def build (table : TableName) (steps : List Step) : Update :=
  steps.foldl Update.step { table }

/-- An update goes on from another one by assignments alone, which met a fault or not. -/
structure Assigns (update later : Update) (fault? : Option String) : Prop where
  table : later.table = update.table
  conditions : later.conditions = update.conditions
  assignmentFault? : later.assignmentFault? = update.assignmentFault?.or fault?

variable (update : Update)

theorem assigns_record (fault : String) : Assigns update (update.record fault) (some fault) :=
  ⟨rfl, rfl, rfl⟩

theorem assigns_assign (column : String) (assignment : Assignment) :
    Assigns update (update.assign column assignment) (columnFault? column) := by
  unfold assign columnFault?
  split
  · exact update.assigns_record _
  · exact ⟨rfl, rfl, Option.or_none.symm⟩

/-- Many assignments at once meet the fault of the first column without a name. -/
theorem assigns_setAll (pairs : List (String × Scalar)) :
    Assigns update (update.setAll pairs) (pairs.findSome? fun pair => columnFault? pair.1) := by
  unfold setAll
  induction pairs generalizing update with
  | nil => exact ⟨rfl, rfl, Option.or_none.symm⟩
  | cons pair rest ih =>
      -- the first pair is assigned, and the rest goes on from there
      have hset := update.assigns_assign pair.1 (.value pair.2)
      have hrest := ih (update.set pair.1 pair.2)
      refine ⟨hrest.table.trans hset.table, hrest.conditions.trans hset.conditions, ?_⟩
      rw [List.foldl_cons, hrest.assignmentFault?, set, hset.assignmentFault?, Option.or_assoc,
        List.findSome?_cons]
      cases columnFault? pair.1 <;> rfl

/-- Adding or taking away meets a fault in the name of the column or else in the amount. -/
theorem assigns_arithmetic (column : String) (operation : Arithmetic) (amount : Scalar) :
    Assigns update (update.arithmetic column operation amount)
      (Step.arithmetic column operation amount).assignmentFault? := by
  unfold arithmetic Step.assignmentFault?
  simp only
  split
  · exact update.assigns_assign column _
  · exact update.assigns_record _

theorem step_condition (step : Conditions.Step) :
    update.step (.condition step) =
      { update with conditions := update.conditions.step step } := by
  unfold Update.step Conditions.step
  simp only [apply]
  cases update.conditions.apply step <;> rfl

/-- Steps of the conditions alone change nothing else. -/
theorem foldl_condition (steps : List Conditions.Step) :
    (steps.map Step.condition).foldl Update.step update =
      { update with conditions := steps.foldl Conditions.step update.conditions } := by
  induction steps generalizing update with
  | nil => rfl
  | cons step rest ih => rw [List.map_cons, List.foldl_cons, ih, step_condition, List.foldl_cons]

/-- What is assigned has no part in the conditions. -/
theorem setAll_withConditions (conditions : Conditions) (pairs : List (String × Scalar)) :
    ({ update with conditions } : Update).setAll pairs =
      { update.setAll pairs with conditions } := by
  unfold setAll
  induction pairs generalizing update with
  | nil => rfl
  | cons pair rest ih =>
      have hset : ({ update with conditions } : Update).set pair.1 pair.2 =
          { update.set pair.1 pair.2 with conditions } := by
        unfold set assign
        split <;> rfl
      rw [List.foldl_cons, List.foldl_cons, hset, ih]

theorem conditions_step (step : Step) :
    (update.step step).conditions =
      step.condition?.toList.foldl Conditions.step update.conditions := by
  cases step with
  | set column value => exact (update.assigns_assign column _).conditions
  | setAll pairs => exact (update.assigns_setAll pairs).conditions
  | arithmetic column operation amount =>
      exact (update.assigns_arithmetic column operation amount).conditions
  | lockVersion version => rfl
  | condition step =>
      rw [step_condition]
      rfl

/-- The first fault of the assignments stays, whatever step follows. -/
theorem assignmentFault?_step (step : Step) :
    (update.step step).assignmentFault? = update.assignmentFault?.or step.assignmentFault? := by
  cases step with
  | set column value => exact (update.assigns_assign column _).assignmentFault?
  | setAll pairs => exact (update.assigns_setAll pairs).assignmentFault?
  | arithmetic column operation amount =>
      exact (update.assigns_arithmetic column operation amount).assignmentFault?
  | lockVersion version => exact Option.or_none.symm
  | condition step =>
      rw [step_condition]
      exact Option.or_none.symm

/-- The fault of the assignments is that of the first step that met one in them. -/
theorem assignmentFault?_foldl (steps : List Step) :
    (steps.foldl Update.step update).assignmentFault? =
      update.assignmentFault?.or (steps.findSome? Step.assignmentFault?) := by
  induction steps generalizing update with
  | nil => exact Option.or_none.symm
  | cons step rest ih =>
      rw [List.foldl_cons, ih, assignmentFault?_step, Option.or_assoc]
      cases hfault : step.assignmentFault? <;> simp [hfault]

variable (table : TableName) (steps : List Step)

theorem conditions_build :
    (build table steps).conditions =
      (steps.filterMap Step.condition?).foldl Conditions.step {} :=
  Conditions.foldl_of_step_eq conditions_step steps { table }

theorem filters_build :
    (build table steps).conditions.filters =
      (steps.filterMap Step.condition?).filterMap Conditions.Step.filter? := by
  rw [conditions_build, Conditions.filters_foldl]
  rfl

/-- The fault of an update is the first one of its assignments or else the first one of its
conditions. -/
theorem fault?_build :
    (build table steps).fault? =
      (steps.findSome? Step.assignmentFault?).or
        ((steps.filterMap Step.condition?).findSome? Conditions.Step.fault?) := by
  rw [fault?, conditions_build, Conditions.fault?_foldl, build, assignmentFault?_foldl]
  rfl

end Update

end TwinQuery
