import TwinQuery.Proofs.Statement.Encoding

/-!
# The operation of a body

A body leaves out what has its default, writes filters and assignments in the order of their
columns, and gives no tag to the values in them. Still it determines what the statement is to do,
as long as no double is an infinity or NaN: `Statement.body_lossless`. And it holds nothing else:
`Statement.body_eq_of_operation_eq`.
-/

namespace TwinQuery

open Sql

/-! ## Operations -/

/-- The filter that counts for a column, which is the last one on it. -/
def Conditions.filter? (conditions : Conditions) (column : String) : Option FilterEntry :=
  (lastOn column conditions.filters).map Filter.entry

/-- What a statement is to do. Filters, assignments and rows are maps from columns. -/
inductive Statement.Operation where
  | select (table : TableName) (columns : List String) (filter? : String → Option FilterEntry)
      (sort : List SortField) (limit? offset? : Option UInt64)
  | insert (table : TableName) (rows : List (String → Option Scalar))
      (onConflict? : Option ConflictResolution) (batchSize? : Option UInt64)
  | update (table : TableName) (assignment? : String → Option Assignment)
      (filter? : String → Option FilterEntry) (lockVersion? : Option UInt64)
  | delete (table : TableName) (filter? : String → Option FilterEntry)
      (cascade? softDelete? : Option Bool)

namespace Statement

def operation : Statement → Operation
  | select statement =>
      .select statement.table statement.columns statement.conditions.filter? statement.sort
        statement.limit? statement.offset?
  | insert statement =>
      .insert statement.table (statement.rows.map OrderedMap.get?) statement.onConflict?
        statement.batchSize?
  | update statement =>
      .update statement.table statement.assignments.get? statement.conditions.filter?
        statement.lockVersion?
  | delete statement =>
      .delete statement.table statement.conditions.filter? statement.cascade?
        statement.softDelete?

/-- Both are reads, insertions, updates or deletions. -/
def SameKind : Statement → Statement → Prop
  | select _, select _ | insert _, insert _ | update _, update _ | delete _, delete _ => True
  | _, _ => False

end Statement

/-- No filter has an infinity or NaN in its operand. -/
def Conditions.IsFinite (conditions : Conditions) : Prop :=
  ∀ filter ∈ conditions.filters, ∀ value ∈ filter.operand.scalars, value.IsFinite

instance (conditions : Conditions) : Decidable conditions.IsFinite :=
  inferInstanceAs (Decidable (∀ filter ∈ conditions.filters, ∀ value ∈ filter.operand.scalars,
    value.IsFinite))

namespace Statement

/-- No double of a statement is an infinity or NaN. -/
def IsFinite : Statement → Prop
  | select statement => statement.conditions.IsFinite
  | insert statement => ∀ row ∈ statement.rows, ∀ entry ∈ row.entries, entry.2.IsFinite
  | update statement =>
      (∀ entry ∈ statement.assignments.entries, entry.2.scalar.IsFinite) ∧
        statement.conditions.IsFinite
  | delete statement => statement.conditions.IsFinite

instance : DecidablePred IsFinite
  | select statement => inferInstanceAs (Decidable statement.conditions.IsFinite)
  | insert statement => inferInstanceAs (Decidable (∀ row ∈ statement.rows,
      ∀ entry ∈ row.entries, entry.2.IsFinite))
  | update statement => inferInstanceAs (Decidable ((∀ entry ∈ statement.assignments.entries,
      entry.2.scalar.IsFinite) ∧ statement.conditions.IsFinite))
  | delete statement => inferInstanceAs (Decidable statement.conditions.IsFinite)

end Statement

/-! ## Equal images -/

section Images

variable {α β γ : Type} {f : α → β} {g : α → γ}

theorem option_map_eq_of_map_eq {first second : Option α}
    (hfg : ∀ a ∈ first, ∀ b ∈ second, f a = f b → g a = g b)
    (heq : first.map f = second.map f) : first.map g = second.map g := by
  cases first with
  | none => rw [Option.map_eq_none_iff.1 heq.symm]
  | some a =>
      obtain ⟨b, rfl, hab⟩ := Option.map_eq_some_iff.1 heq.symm
      exact congrArg some (hfg a rfl b rfl hab.symm)

theorem list_map_eq_of_map_eq {first second : List α}
    (hfg : ∀ a ∈ first, ∀ b ∈ second, f a = f b → g a = g b)
    (heq : first.map f = second.map f) : first.map g = second.map g := by
  induction first generalizing second with
  | nil => rw [List.map_eq_nil_iff.1 heq.symm]
  | cons a rest ih =>
      obtain ⟨b, others, rfl, hab, hothers⟩ := List.map_eq_cons_iff.1 heq.symm
      have hrest : rest.map g = others.map g :=
        ih (fun later hlater other hother =>
          hfg later (List.mem_cons_of_mem a hlater) other (List.mem_cons_of_mem b hother))
          hothers.symm
      rw [List.map_cons, List.map_cons, hrest,
        hfg a List.mem_cons_self b List.mem_cons_self hab.symm]

/-- Maps that agree under an injection of their values agree. -/
theorem lookup_eq_of_map_eq {P : α → Prop} {first second : List (String × α)} {column : String}
    (hf : ∀ a b, P a → P b → f a = f b → a = b) (hfirst : ∀ entry ∈ first, P entry.2)
    (hsecond : ∀ entry ∈ second, P entry.2)
    (heq : (first.lookup column).map f = (second.lookup column).map f) :
    first.lookup column = second.lookup column := by
  have hsame := option_map_eq_of_map_eq (g := id) (fun a ha b hb =>
    hf a b (hfirst _ (Dictionary.mem_of_find? ha)) (hsecond _ (Dictionary.mem_of_find? hb))) heq
  simpa [Dictionary.find?] using hsame

end Images

/-! ## The parts of an operation -/

section Parts

variable {first second : Conditions}

theorem TableName.eq_of_json {first second : TableName}
    (heq : some (Json.string first.text) = some (.string second.text)) : first = second := by
  cases first
  cases second
  cases heq
  rfl

/-- The map of filters in a body determines the filter that counts for each column. -/
theorem Conditions.filter?_eq (hfirst : first.IsFinite) (hsecond : second.IsFinite)
    (heq : first.toDictionary.map (fun (column, entry) => (column, entry.toJson)) =
      second.toDictionary.map fun (column, entry) => (column, entry.toJson)) :
    first.filter? = second.filter? := by
  funext column
  have hfound := first.find?_entries column
  rw [heq, second.find?_entries] at hfound
  have hmem : ∀ {conditions : Conditions} {filter : Filter},
      filter ∈ lastOn column conditions.filters → filter ∈ conditions.filters := by
    intro conditions filter hfilter
    exact List.mem_reverse.1 (List.mem_of_find?_eq_some hfilter)
  exact option_map_eq_of_map_eq (fun filter hfilter other hother =>
    Filter.entry_eq_of_toJson_eq (hfirst filter (hmem hfilter)) (hsecond other (hmem hother)))
    hfound.symm

/-- A record in a body determines the value of each column. -/
theorem Record.get?_eq {first second : OrderedMap Scalar}
    (hfirst : ∀ entry ∈ first.entries, entry.2.IsFinite)
    (hsecond : ∀ entry ∈ second.entries, entry.2.IsFinite)
    (heq : Record.toJson first = Record.toJson second) : first.get? = second.get? := by
  funext column
  have hfound := Record.find?_fields first column
  have hfields : Dictionary.ofList (Record.fields first) =
      Dictionary.ofList (Record.fields second) := Json.object.inj heq
  rw [hfields, Record.find?_fields] at hfound
  exact lookup_eq_of_map_eq (fun _ _ => Scalar.eq_of_toJson_eq) hfirst hsecond hfound.symm

end Parts

/-! ## Each kind of statement -/

/-- What a field holds is known from its JSON. -/
theorem Json.eq_of_field? {α : Type} {f : α → Json} {name : String} {body : Json}
    {first second : Option α} (hf : Function.Injective f)
    (hfirst : body.field? name = first.map f) (hsecond : body.field? name = second.map f) :
    first = second :=
  Option.map_injective hf (hfirst.symm.trans hsecond)

theorem Select.columns?_request (select : Select) :
    select.columns = select.request.columns?.getD ["*"] := by
  rw [request]
  by_cases hall : select.isAll = true
  · rw [if_pos hall, Option.getD_none, select.isAll_iff.1 hall]
  · rw [if_neg hall, Option.getD_some]

theorem Select.sort?_request (select : Select) : select.sort = select.request.sort?.getD [] := by
  rw [request]
  by_cases hempty : select.sort.isEmpty = true
  · rw [if_pos hempty, Option.getD_none, List.isEmpty_iff.1 hempty]
  · rw [if_neg hempty, Option.getD_some]

/-- The body of a read determines what is read. -/
theorem Select.operation_eq {first second : Select} (hfirst : first.conditions.IsFinite)
    (hsecond : second.conditions.IsFinite) (heq : first.request.toJson = second.request.toJson) :
    (Statement.select first).operation = (Statement.select second).operation := by
  obtain ⟨htable, hcolumns, -, hsort, hlimit, hoffset⟩ := heq ▸ first.request.field?_toJson
  obtain ⟨htable', hcolumns', -, hsort', hlimit', hoffset'⟩ := second.request.field?_toJson
  have hentries := (heq ▸ first.filtersOfJson?_request).symm.trans second.filtersOfJson?_request
  have hnames : first.request.columns? = second.request.columns? :=
    Json.eq_of_field? (fun _ _ hnames =>
      List.map_injective_iff.2 (fun _ _ => Json.string.inj) (Json.array.inj hnames))
      hcolumns hcolumns'
  have hfields : first.request.sort? = second.request.sort? :=
    Json.eq_of_field? (fun _ _ hfields =>
      List.map_injective_iff.2 SortField.toJson_injective (Json.array.inj hfields)) hsort hsort'
  have hlimits : first.limit? = second.limit? :=
    Json.eq_of_field? unsignedJson_injective hlimit hlimit'
  have hoffsets : first.offset? = second.offset? :=
    Json.eq_of_field? unsignedJson_injective hoffset hoffset'
  have htables : first.table = second.table := TableName.eq_of_json (htable.symm.trans htable')
  have hfilters := Conditions.filter?_eq hfirst hsecond (Option.some.inj hentries)
  rw [Statement.operation, Statement.operation, htables, first.columns?_request,
    second.columns?_request, hnames, hfilters, first.sort?_request, second.sort?_request, hfields,
    hlimits, hoffsets]

/-- The body of an insertion determines what is inserted. -/
theorem Insert.operation_eq {first second : Insert}
    (hfirst : (Statement.insert first).IsFinite) (hsecond : (Statement.insert second).IsFinite)
    (heq : first.request.toJson = second.request.toJson) :
    (Statement.insert first).operation = (Statement.insert second).operation := by
  obtain ⟨htable, hconflict, hbatch⟩ := heq ▸ first.request.field?_options
  obtain ⟨htable', hconflict', hbatch'⟩ := second.request.field?_options
  have hrecords := (heq ▸ first.request.field?_records).symm.trans second.request.field?_records
  have htables : first.table = second.table := TableName.eq_of_json (htable.symm.trans htable')
  have hrows : first.rows.map OrderedMap.get? = second.rows.map OrderedMap.get? :=
    list_map_eq_of_map_eq (fun row hrow other hother =>
      Record.get?_eq (hfirst row hrow) (hsecond other hother))
      (Json.array.inj (Option.some.inj hrecords))
  have hchoice : first.onConflict? = second.onConflict? :=
    Json.eq_of_field? (fun _ _ hchoice =>
      ConflictResolution.wireName_injective (Json.string.inj hchoice)) hconflict hconflict'
  have hbatches : first.batchSize? = second.batchSize? :=
    Json.eq_of_field? unsignedJson_injective hbatch hbatch'
  rw [Statement.operation, Statement.operation, htables, hrows, hchoice, hbatches]

theorem Update.operation_eq {first second : Update}
    (hfirst : (Statement.update first).IsFinite) (hsecond : (Statement.update second).IsFinite)
    (heq : first.request.toJson = second.request.toJson) :
    (Statement.update first).operation = (Statement.update second).operation := by
  obtain ⟨htable, -, -, hversion⟩ := heq ▸ first.request.field?_toJson
  obtain ⟨htable', -, -, hversion'⟩ := second.request.field?_toJson
  have hupdates := (heq ▸ first.fields?_updates).symm.trans second.fields?_updates
  have hentries := (heq ▸ first.filtersOfJson?_request).symm.trans second.filtersOfJson?_request
  have htables : first.table = second.table := TableName.eq_of_json (htable.symm.trans htable')
  have hassignments : first.assignments.get? = second.assignments.get? := by
    funext column
    have hfound := first.find?_entries column
    rw [Option.some.inj hupdates, second.find?_entries] at hfound
    exact lookup_eq_of_map_eq (fun _ _ => Assignment.eq_of_toJson_eq) hfirst.1 hsecond.1
      hfound.symm
  have hfilters := Conditions.filter?_eq hfirst.2 hsecond.2 (Option.some.inj hentries)
  have hversions : first.lockVersion? = second.lockVersion? :=
    Json.eq_of_field? unsignedJson_injective hversion hversion'
  rw [Statement.operation, Statement.operation, htables, hassignments, hfilters, hversions]

theorem Delete.operation_eq {first second : Delete} (hfirst : first.conditions.IsFinite)
    (hsecond : second.conditions.IsFinite) (heq : first.request.toJson = second.request.toJson) :
    (Statement.delete first).operation = (Statement.delete second).operation := by
  obtain ⟨htable, -, hcascade, hsoft⟩ := heq ▸ first.request.field?_toJson
  obtain ⟨htable', -, hcascade', hsoft'⟩ := second.request.field?_toJson
  have hentries := (heq ▸ first.filtersOfJson?_request).symm.trans second.filtersOfJson?_request
  have htables : first.table = second.table := TableName.eq_of_json (htable.symm.trans htable')
  have hfilters := Conditions.filter?_eq hfirst hsecond (Option.some.inj hentries)
  have hcascades : first.cascade? = second.cascade? :=
    Json.eq_of_field? (fun _ _ => Json.bool.inj) hcascade hcascade'
  have hsofts : first.softDelete? = second.softDelete? :=
    Json.eq_of_field? (fun _ _ => Json.bool.inj) hsoft hsoft'
  rw [Statement.operation, Statement.operation, htables, hfilters, hcascades, hsofts]

namespace Statement

theorem body_of_array {statement : Statement} {body : Json} (harray : statement.array = .ok body) :
    statement.body = body := by
  unfold array at harray
  split at harray
  next => exact absurd harray (by simp)
  next => exact Except.ok.inj harray

/-- Statements of one kind that have the same body are to do the same. What the body holds is also
read back part by part: the operator and the operand of every filter, and every sort field. -/
theorem body_lossless :
    (∀ first second : Statement, first.SameKind second → first.IsFinite → second.IsFinite →
      ∀ body, first.array = .ok body → second.array = .ok body →
        first.operation = second.operation) ∧
      (∀ filter : Filter, (∀ value ∈ filter.operand.scalars, value.IsFinite) →
        (filter.entry.toJson.field? "operator").map Operator.decode = some (.ok filter.operator) ∧
          (filter.entry.toJson.field? "value").map Operand.decode = some (.ok filter.operand)) ∧
      ∀ field : SortField, SortField.decode field.toJson = .ok field := by
  refine ⟨?_, Filter.decode_entry, SortField.decode_toJson⟩
  intro first second hkind hfirst hsecond body hbody hbody'
  have heq : first.body = second.body :=
    (body_of_array hbody).trans (body_of_array hbody').symm
  cases first with
  | select first =>
      cases second with
      | select second => exact Select.operation_eq hfirst hsecond heq
      | _ => exact hkind.elim
  | insert first =>
      cases second with
      | insert second => exact Insert.operation_eq hfirst hsecond heq
      | _ => exact hkind.elim
  | update first =>
      cases second with
      | update second => exact Update.operation_eq hfirst hsecond heq
      | _ => exact hkind.elim
  | delete first =>
      cases second with
      | delete second => exact Delete.operation_eq hfirst hsecond heq
      | _ => exact hkind.elim

def assignedOnce : Statement :=
  .update (Update.build ⟨"t"⟩
    [.set "b" (.float 1.5), .condition (.compare "c" .equal (.single (.int 1))),
      .arithmetic "a" .increment (.int 1), .condition (.compare "c" .isIn (.single (.int 2)))])

/-- The same in another order, one of the assignments made twice. -/
def assignedAgain : Statement :=
  .update (Update.build ⟨"t"⟩
    [.arithmetic "a" .increment (.int 1), .set "b" (.text "x"), .set "b" (.float 1.5),
      .condition (.compare "c" .isIn (.list [.int 2]))])

theorem body_lossless_assignedAgain :
    assignedOnce.SameKind assignedAgain ∧ assignedOnce.IsFinite ∧ assignedAgain.IsFinite ∧
      assignedAgain.array = .ok assignedOnce.body ∧
      assignedOnce.operation = assignedAgain.operation := by
  have hbody : assignedAgain.array = .ok assignedOnce.body := rfl
  have hsame := body_lossless.1 assignedOnce assignedAgain trivial (by decide) (by decide)
    assignedOnce.body rfl hbody
  exact ⟨trivial, by decide, by decide, hbody, hsame⟩

end Statement

/-! ## Nothing but the operation -/

section Bodies

/-- The map of filters holds nothing but the filter that counts for each column. -/
theorem Conditions.toDictionary_eq {first second : Conditions}
    (heq : first.filter? = second.filter?) : first.toDictionary = second.toDictionary := by
  refine Dictionary.eq_of_find?_eq (Dictionary.sorted_ofList _) (Dictionary.sorted_ofList _) ?_
  intro column
  rw [find?_toDictionary, find?_toDictionary]
  exact congrFun heq column

theorem Conditions.isEmpty_iff (conditions : Conditions) :
    conditions.filters.isEmpty = true ↔ conditions.filter? = fun _ => none := by
  constructor
  · intro hempty
    funext column
    rw [filter?, List.isEmpty_iff.1 hempty]
    rfl
  · intro hnone
    rw [List.isEmpty_iff, List.eq_nil_iff_forall_not_mem]
    intro filter hfilter
    have hlast : lastOn filter.column conditions.filters = none :=
      Option.map_eq_none_iff.1 (congrFun hnone filter.column)
    have hother := List.find?_eq_none.1 hlast filter (List.mem_reverse.2 hfilter)
    exact hother (decide_eq_true rfl)

/-- A record in a body holds nothing but the values of its columns, in an order of its own. -/
theorem Record.toJson_eq {first second : OrderedMap Scalar} (heq : first.get? = second.get?) :
    Record.toJson first = Record.toJson second := by
  refine congrArg Json.object (Dictionary.eq_of_find?_eq (Dictionary.sorted_ofList _)
    (Dictionary.sorted_ofList _) fun column => ?_)
  rw [find?_fields, find?_fields, heq]

/-- Maps with the same values make the same dictionary, whatever the order of their columns. -/
theorem OrderedMap.ofList_entries_eq {α : Type} {first second : OrderedMap α}
    (heq : first.get? = second.get?) :
    Dictionary.ofList first.entries = Dictionary.ofList second.entries := by
  refine Dictionary.eq_of_find?_eq (Dictionary.sorted_ofList _) (Dictionary.sorted_ofList _) ?_
  intro column
  rw [Dictionary.find?_ofList, Dictionary.find?_ofList, lookup_reverse first.distinct,
    lookup_reverse second.distinct]
  exact congrFun heq column

/-- The body holds nothing but the operation: statements that are to do the same have one body. -/
theorem Statement.body_eq_of_operation_eq {first second : Statement}
    (heq : first.operation = second.operation) : first.body = second.body := by
  cases first with
  | select first =>
      cases second with
      | select second =>
          obtain ⟨htable, hcolumns, hfilters, hsort, hlimit, hoffset⟩ :=
            Operation.select.inj heq
          have hall : first.isAll = second.isAll := by
            rw [Select.isAll, Select.isAll, hcolumns]
          have hempty : first.conditions.filters.isEmpty = second.conditions.filters.isEmpty := by
            rw [Bool.eq_iff_iff, Conditions.isEmpty_iff, Conditions.isEmpty_iff, hfilters]
          have hentries := Conditions.toDictionary_eq hfilters
          simp only [body, Select.request, QueryRequest.toJson, htable, hall, hcolumns, hempty,
            hentries, hsort, hlimit, hoffset]
      | _ => exact absurd heq (by simp [operation])
  | insert first =>
      cases second with
      | insert second =>
          obtain ⟨htable, hrows, hconflict, hbatch⟩ := Operation.insert.inj heq
          have hrecords : first.rows.map Record.toJson = second.rows.map Record.toJson :=
            list_map_eq_of_map_eq (fun row _ other _ => Record.toJson_eq) hrows
          simp only [body, Insert.request, InsertRequest.toJson, htable, hconflict, hbatch,
            hrecords]
      | _ => exact absurd heq (by simp [operation])
  | update first =>
      cases second with
      | update second =>
          obtain ⟨htable, hassignments, hfilters, hversion⟩ := Operation.update.inj heq
          have hupdates := OrderedMap.ofList_entries_eq hassignments
          have hentries := Conditions.toDictionary_eq hfilters
          simp only [body, Update.request, UpdateRequest.toJson, htable, hupdates, hentries,
            hversion]
      | _ => exact absurd heq (by simp [operation])
  | delete first =>
      cases second with
      | delete second =>
          obtain ⟨htable, hfilters, hcascade, hsoft⟩ := Operation.delete.inj heq
          have hentries := Conditions.toDictionary_eq hfilters
          simp only [body, Delete.request, DeleteRequest.toJson, htable, hentries, hcascade, hsoft]
      | _ => exact absurd heq (by simp [operation])

end Bodies

end TwinQuery
