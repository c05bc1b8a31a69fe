import TwinQuery.Proofs.Session.Executing
import TwinQuery.Proofs.Statement.Refusal

/-!
# Valid statements

Whether a statement is valid and whether it has a text are decided apart from each other, by checks
of the same defects. They agree on every statement but an insertion in batches of no rows, which is
invalid and has a text: `Statement.consistent`. So a valid statement always makes one call with its
text, and an invalid one makes none.
-/

namespace TwinQuery

/-! ## Texts that begin with a word -/

/-- The template is empty or begins with a text that is not blank. -/
def Template.Worded : Template → Prop
  | [] => True
  | .text fixed :: _ => Text.isBlankText fixed ≠ true
  | .slot _ :: _ => False

theorem Template.worded_ite (defective : Prop) [Decidable defective] {fixed : String}
    (hword : Text.isBlankText fixed ≠ true) (rest : Template) :
    Worded (if defective then [] else .text fixed :: rest) := by
  split
  next => exact trivial
  next => exact hword

/-- A template that is not empty has a text that is not blank. -/
theorem Bindings.not_blank_fill {template : Template} (hworded : template.Worded)
    (hwritten : template ≠ []) (bindings : Bindings) :
    Text.isBlankText (bindings.fill template).1 ≠ true := by
  cases template with
  | nil => exact absurd rfl hwritten
  | cons piece rest =>
      cases piece with
      | slot value => exact hworded.elim
      | text fixed =>
          intro hblank
          apply hworded
          rw [fill, Text.isBlankText, String.toList_append, List.all_append, Bool.and_eq_true]
            at hblank
          exact hblank.1

namespace Statement

/-- What text there is begins with a keyword, whatever the names and the values in it. -/
theorem worded_template (statement : Statement) : statement.template.Worded := by
  cases statement with
  | select statement =>
      exact Template.worded_ite _ (by simp [Text.isBlankText, Text.isBlank]) _
  | insert statement =>
      exact Template.worded_ite _ (by simp [Text.isBlankText, Text.isBlank]) _
  | update statement =>
      exact Template.worded_ite _ (by simp [Text.isBlankText, Text.isBlank]) _
  | delete statement =>
      exact Template.worded_ite _ (by simp [Text.isBlankText, Text.isBlank]) _

theorem not_blank_render {statement : Statement} (hwritten : statement.template ≠ [])
    (bindings : Bindings) : Text.isBlankText (statement.render bindings).1 ≠ true :=
  bindings.not_blank_fill statement.worded_template hwritten

theorem render_of_template {statement : Statement} (htemplate : statement.template = [])
    (bindings : Bindings) : statement.render bindings = ("", bindings) := by
  rw [render, htemplate]
  rfl

theorem render_eq_empty_iff (statement : Statement) (bindings : Bindings) :
    (statement.render bindings).1 = "" ↔ statement.template = [] := by
  constructor
  · intro hempty
    refine Decidable.byContradiction fun hwritten => ?_
    have hblank := not_blank_render hwritten bindings
    rw [hempty] at hblank
    exact hblank rfl
  · intro htemplate
    rw [render_of_template htemplate]

end Statement

/-! ## The defects of each kind -/

/-- A read has no text exactly where it is not valid. -/
theorem Select.template_eq_nil_iff (select : Select) :
    select.template = [] ↔ select.validate ≠ .ok () := by
  unfold template validate
  cases select.fault? with
  | none => simp
  | some fault => simp

theorem Delete.template_eq_nil_iff (delete : Delete) :
    delete.template = [] ↔ delete.validate ≠ .ok () := by
  unfold template validate
  cases delete.fault? with
  | none => simp
  | some fault => simp

theorem Update.template_eq_nil_iff (update : Update) :
    update.template = [] ↔ update.validate ≠ .ok () := by
  unfold template validate
  cases update.fault? with
  | some fault => simp
  | none => cases update.assignments.isEmpty <;> simp

namespace Insert

/-- There are columns as soon as some row has one. -/
theorem columns_eq_nil_iff (insert : Insert) :
    insert.columns = [] ↔ insert.rows.all OrderedMap.isEmpty = true := by
  have hnil : ∀ names : List String, names.eraseDups = [] ↔ names = [] := by
    intro names
    cases names with
    | nil => simp
    | cons name rest => simp [List.eraseDups_cons]
  simp [columns_eq_eraseDups, hnil, OrderedMap.columns, OrderedMap.isEmpty]

/-- An insertion has no text where it has no values or a fault, whatever its batches are. -/
theorem template_eq_nil_iff (insert : Insert) :
    insert.template = [] ↔ insert.columns = [] ∨ insert.fault? ≠ none := by
  unfold template
  cases insert.fault? with
  | none => simp
  | some fault => simp

theorem findIdx?_isEmpty_eq_none_iff (insert : Insert) :
    insert.rows.findIdx? OrderedMap.isEmpty = none ↔ insert.fault? = none := by
  simp [List.findIdx?_eq_none_iff, fault?]

/-- An insertion is valid where it has values, no fault, and batches that are not empty. -/
theorem validate_eq_ok_iff (insert : Insert) :
    insert.validate = .ok () ↔
      insert.columns ≠ [] ∧ insert.fault? = none ∧ insert.batchSize? ≠ some 0 := by
  rw [Ne, columns_eq_nil_iff, ← findIdx?_isEmpty_eq_none_iff]
  unfold validate
  cases insert.rows.all OrderedMap.isEmpty with
  | true => simp
  | false =>
      cases insert.rows.findIdx? OrderedMap.isEmpty with
      | some i => simp
      | none => by_cases hbatch : insert.batchSize? = some 0 <;> simp [hbatch]

/-- The same rows, not in batches of a given size. -/
def unbatched (insert : Insert) : Insert :=
  { insert with batchSize? := none }

/-- The insertion is in batches of no rows, and valid but for that. -/
def OnlyBatchesEmpty (insert : Insert) : Prop :=
  insert.batchSize? = some 0 ∧ insert.unbatched.validate = .ok ()

theorem validate_unbatched_eq_ok_iff (insert : Insert) :
    insert.unbatched.validate = .ok () ↔ insert.columns ≠ [] ∧ insert.fault? = none := by
  refine insert.unbatched.validate_eq_ok_iff.trans ?_
  simp [unbatched, columns, fault?]

end Insert

namespace Statement

def OnlyBatchesEmpty : Statement → Prop
  | insert statement => statement.OnlyBatchesEmpty
  | _ => False

theorem validate_of_onlyBatchesEmpty {statement : Statement}
    (hbatches : statement.OnlyBatchesEmpty) : statement.validate ≠ .ok () := by
  cases statement with
  | insert statement =>
      intro hvalid
      exact (statement.validate_eq_ok_iff.1 hvalid).2.2 hbatches.1
  | _ => exact hbatches.elim

/-- A statement has no text exactly where it is not valid, batches of no rows apart. -/
theorem template_eq_nil_iff (statement : Statement) :
    statement.template = [] ↔ statement.validate ≠ .ok () ∧ ¬statement.OnlyBatchesEmpty := by
  cases statement with
  | select statement =>
      exact statement.template_eq_nil_iff.trans (and_iff_left not_false).symm
  | update statement =>
      exact statement.template_eq_nil_iff.trans (and_iff_left not_false).symm
  | delete statement =>
      exact statement.template_eq_nil_iff.trans (and_iff_left not_false).symm
  | insert statement =>
      refine statement.template_eq_nil_iff.trans ?_
      change _ ↔ ¬statement.validate = .ok () ∧ ¬(_ ∧ statement.unbatched.validate = .ok ())
      rw [Insert.validate_eq_ok_iff, Insert.validate_unbatched_eq_ok_iff]
      grind

/-- There is no body exactly where a fault was met. -/
theorem array_eq_error_iff (statement : Statement) :
    (∃ error, statement.array = .error error) ↔ ∃ fault, statement.fault? = some fault := by
  unfold array
  cases statement.fault? with
  | none => simp
  | some fault => simp

/-- Validation finds every fault met while building. -/
theorem validate_of_fault {statement : Statement} {fault : String}
    (hfault : statement.fault? = some fault) : statement.validate ≠ .ok () := by
  cases statement with
  | select statement => simp [validate, Select.validate_of_fault hfault]
  | update statement => simp [validate, Update.validate_of_fault hfault]
  | delete statement => simp [validate, Delete.validate_of_fault hfault]
  | insert statement =>
      intro hvalid
      have hnone := (statement.validate_eq_ok_iff.1 hvalid).2.1
      exact Option.some_ne_none fault (hfault.symm.trans hnone)

/-- A valid statement makes one call, with its text and nothing else. -/
theorem calls_execute {statement : Statement} (hvalid : statement.validate = .ok ())
    {σ : Type} [Service σ] (session : Session σ) :
    (statement.execute session).2.calls = session.calls ++ [queryCall statement.sql] := by
  have hwritten : statement.template ≠ [] := fun htemplate =>
    (statement.template_eq_nil_iff.1 htemplate).1 hvalid
  have hblank : Text.isBlankText statement.sql ≠ true := not_blank_render hwritten .inline
  unfold execute
  rw [hvalid]
  change (TwinQuery.execute statement.sql statement.bindings session).2.calls = _
  rw [execute_of_not_blank hblank, Session.calls_executed]

/-- The validity, the text, the bindings, the body and the execution of a statement agree. -/
structure Consistent (statement : Statement) : Prop where
  /-- The text is empty when the statement is invalid, but for batches of no rows. -/
  text_eq_empty_iff : ∀ bindings, (statement.render bindings).1 = "" ↔
    (∃ error, statement.validate = .error error) ∧ ¬statement.OnlyBatchesEmpty
  /-- In either style an empty text adds no value. -/
  bindings_of_empty : ∀ bindings, (statement.render bindings).1 = "" →
    (statement.render bindings).2 = bindings
  invalid_of_batches : statement.OnlyBatchesEmpty → ∃ error, statement.validate = .error error
  array_error_iff : (∃ error, statement.array = .error error) ↔
    ∃ fault, statement.fault? = some fault
  invalid_of_fault : ∀ fault, statement.fault? = some fault →
    ∃ error, statement.validate = .error error
  /-- A valid statement makes one call, whatever the service is and does. -/
  calls_of_valid : statement.validate = .ok () →
    ∀ (σ : Type) [Service σ] (session : Session σ),
      (statement.execute session).2.calls = session.calls ++
        [{ method := .post
           path := "/query"
           body? := some (.object [("query", .string statement.sql)]) }]
  execute_of_invalid : ∀ error, statement.validate = .error error →
    ∀ (σ : Type) [Service σ] (session : Session σ),
      statement.execute session = (.error error, session)

theorem exists_error_iff (statement : Statement) :
    (∃ error, statement.validate = .error error) ↔ statement.validate ≠ .ok () := by
  cases statement.validate with
  | ok _ => simp
  | error error => simp

/-- No steps build a statement on which the checks disagree, but for batches of no rows. -/
theorem consistent (statement : Statement) : statement.Consistent where
  text_eq_empty_iff := by
    intro bindings
    rw [render_eq_empty_iff, template_eq_nil_iff, exists_error_iff]
  bindings_of_empty := by
    intro bindings hempty
    rw [render_of_template ((statement.render_eq_empty_iff bindings).1 hempty)]
  invalid_of_batches := fun hbatches =>
    statement.exists_error_iff.2 (validate_of_onlyBatchesEmpty hbatches)
  array_error_iff := statement.array_eq_error_iff
  invalid_of_fault := fun _ hfault => statement.exists_error_iff.2 (validate_of_fault hfault)
  calls_of_valid := fun hvalid _ _ session => calls_execute hvalid session
  execute_of_invalid := fun _ hinvalid _ _ session => execute_of_validate hinvalid session

/-- A row in batches of no rows is refused and written all the same. -/
example :
    let row : Record := OrderedMap.ofList [("a", .int 1)]
    let statement : Statement := .insert { table := ⟨"t"⟩, rows := [row], batchSize? := some 0 }
    statement.OnlyBatchesEmpty ∧ statement.sql = "INSERT INTO \"t\" (\"a\") VALUES (1)" :=
  ⟨⟨rfl, rfl⟩, rfl⟩

end Statement

end TwinQuery
