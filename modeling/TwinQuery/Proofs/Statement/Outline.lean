import TwinQuery.Proofs.Sql.Shape

/-!
# Outlines

The outline of what is rendered is all of it but its values: the table, the columns, the operators
and how long their lists are, the kinds of the assignments, the columns of the rows, the sort order
and the page. It decides the template up to what is in its slots: `Rendering.blank_template_eq`.
-/

namespace TwinQuery

/-! ## Templates without their values -/

def Piece.blank : Piece → Piece
  | text fixed => .text fixed
  | slot _ => .slot .null

namespace Template

theorem map_joined (f : Piece → Piece) (separator : String)
    (hseparator : f (.text separator) = .text separator) (parts : List Template) :
    (joined separator parts).map f = joined separator (parts.map fun part => part.map f) := by
  induction parts with
  | nil => rfl
  | cons part rest ih =>
      cases rest with
      | nil => rfl
      | cons following rest =>
          simp only [joined, List.map_cons, List.map_append, hseparator] at ih ⊢
          rw [ih]

/-- Parts that are alike in their texts are so when they are joined. -/
theorem blank_joined_of_keys_eq {α κ : Type} {key : α → κ} {part : α → Template}
    {first second : List α} (separator : String) (hkeys : first.map key = second.map key)
    (hpart : ∀ a b, key a = key b → (part a).map Piece.blank = (part b).map Piece.blank) :
    (joined separator (first.map part)).map Piece.blank =
      (joined separator (second.map part)).map Piece.blank := by
  rw [map_joined _ _ rfl, map_joined _ _ rfl, List.map_map, List.map_map]
  exact congrArg _ (Sql.map_eq_map_of_keys_eq hkeys hpart)

theorem blank_joined_of_length_eq {α β : Type} {f : α → Template} {g : β → Template}
    {first : List α} {second : List β} (separator : String)
    (hlength : first.length = second.length)
    (hpart : ∀ a b, (f a).map Piece.blank = (g b).map Piece.blank) :
    (joined separator (first.map f)).map Piece.blank =
      (joined separator (second.map g)).map Piece.blank := by
  rw [map_joined _ _ rfl, map_joined _ _ rfl, List.map_map, List.map_map]
  exact congrArg _ (Sql.map_eq_map_of_length_eq hlength hpart)

end Template

/-! ## Outlines -/

/-- A condition without its values: the column, the operator, and how long a list is. -/
def Filter.outline (filter : Filter) : String × Operator × Option Nat :=
  (filter.column, filter.shape)

/-- What is rendered with values in it: a statement, the statement that counts the rows of a
select, or conditions alone, with their keyword or without. -/
inductive Rendering where
  | statement (statement : Statement)
  | count (select : Select)
  | whereClause (conditions : Conditions)
  | clause (conditions : Conditions)

/-- What is rendered, without its values. Where a fault was met there is nothing to render. -/
inductive Outline where
  | select (table : TableName) (columns : List String)
      (conditions : List (String × Operator × Option Nat)) (sort : List SortField)
      (limit? offset? : Option UInt64) (faulty : Bool)
  /-- The columns of each row, in the order in which they were set. -/
  | insert (table : TableName) (rows : List (List String))
  | update (table : TableName) (assignments : List (String × Option Arithmetic))
      (conditions : List (String × Operator × Option Nat)) (faulty : Bool)
  | delete (table : TableName) (conditions : List (String × Operator × Option Nat))
      (faulty : Bool)
  | count (table : TableName) (conditions : List (String × Operator × Option Nat))
      (faulty : Bool)
  | whereClause (conditions : List (String × Operator × Option Nat))
  | clause (conditions : List (String × Operator × Option Nat))
  deriving DecidableEq, Repr

def Conditions.outline (conditions : Conditions) : List (String × Operator × Option Nat) :=
  conditions.filters.map Filter.outline

def Statement.outline : Statement → Outline
  | select statement =>
      .select statement.table statement.columns statement.conditions.outline statement.sort
        statement.limit? statement.offset? statement.fault?.isSome
  | insert statement => .insert statement.table (statement.rows.map OrderedMap.columns)
  | update statement =>
      .update statement.table
        (statement.assignments.entries.map fun entry => (entry.1, entry.2.shape))
        statement.conditions.outline statement.fault?.isSome
  | delete statement =>
      .delete statement.table statement.conditions.outline statement.fault?.isSome

namespace Rendering

def template : Rendering → Template
  | statement written => written.template
  | count select => select.countTemplate
  | whereClause conditions => conditions.whereClause
  | clause conditions => conditions.clause

def outline : Rendering → Outline
  | statement written => written.outline
  | count select => .count select.table select.conditions.outline select.fault?.isSome
  | whereClause conditions => .whereClause conditions.outline
  | clause conditions => .clause conditions.outline

end Rendering

/-! ## The outline decides the texts -/

/-- The outline of a condition decides its text up to its values. -/
theorem Filter.blank_eq_of_outline_eq {first second : Filter}
    (houtline : first.outline = second.outline) :
    first.template.map Piece.blank = second.template.map Piece.blank := by
  obtain ⟨hcolumn, hshape⟩ := Prod.mk.inj houtline
  have hoperator : first.operator = second.operator := (Prod.mk.inj hshape).1
  have halike := Filter.alike_of_shape_eq hshape
  unfold Filter.template
  rw [hcolumn, hoperator]
  revert halike
  generalize first.operand = left
  generalize second.operand = right
  intro halike
  cases halike with
  | none => rfl
  | single value other => rfl
  | @list values others hlength =>
      cases values with
      | nil =>
          have hnil : others = [] := List.eq_nil_of_length_eq_zero hlength.symm
          rw [hnil]
      | cons value values =>
          cases others with
          | nil => simp at hlength
          | cons other others =>
              have hlists := Template.blank_joined_of_length_eq
                (f := fun member => [.slot member]) (g := fun member => [.slot member])
                ", " hlength fun _ _ => rfl
              simp only [List.cons_append, List.map_cons, List.map_append] at hlists ⊢
              rw [hlists]

namespace Conditions

variable {first second : Conditions}

theorem blank_clause_eq (houtline : first.outline = second.outline) :
    first.clause.map Piece.blank = second.clause.map Piece.blank :=
  Template.blank_joined_of_keys_eq " AND " houtline fun _ _ => Filter.blank_eq_of_outline_eq

theorem isEmpty_filters_eq (houtline : first.outline = second.outline) :
    first.filters.isEmpty = second.filters.isEmpty := by
  have hempty := congrArg List.isEmpty houtline
  simpa [outline] using hempty

theorem blank_whereClause_eq (houtline : first.outline = second.outline) :
    first.whereClause.map Piece.blank = second.whereClause.map Piece.blank := by
  unfold whereClause
  rw [isEmpty_filters_eq houtline]
  split
  next => rfl
  next => rw [List.map_cons, List.map_cons, blank_clause_eq houtline]

/-- The outline of conditions decides their clause up to its values. -/
theorem blank_whereTail_eq (houtline : first.outline = second.outline) :
    first.whereTail.map Piece.blank = second.whereTail.map Piece.blank := by
  unfold whereTail
  rw [isEmpty_filters_eq houtline]
  split
  next => rfl
  next => rw [List.map_cons, List.map_cons, blank_whereClause_eq houtline]

end Conditions

/-- The text of a read is decided, up to its values, by its table, its columns, its conditions
without theirs, its sort order and its page. -/
theorem Select.blank_template_eq {first second : Select} (htable : first.table = second.table)
    (hcolumns : first.columns = second.columns)
    (hconditions : first.conditions.outline = second.conditions.outline)
    (hsort : first.sort = second.sort) (hlimit : first.limit? = second.limit?)
    (hoffset : first.offset? = second.offset?)
    (hfaulty : first.fault?.isSome = second.fault?.isSome) :
    first.template.map Piece.blank = second.template.map Piece.blank := by
  have hsorted : first.sortTail = second.sortTail := by
    unfold sortTail
    rw [hsort]
  have htail := Conditions.blank_whereTail_eq hconditions
  unfold template
  rw [hfaulty, htable, hcolumns, hsorted, hlimit, hoffset]
  split
  next => rfl
  next => simp only [List.map_cons, List.map_append, htail]

theorem Select.blank_countTemplate_eq {first second : Select} (htable : first.table = second.table)
    (hconditions : first.conditions.outline = second.conditions.outline)
    (hfaulty : first.fault?.isSome = second.fault?.isSome) :
    first.countTemplate.map Piece.blank = second.countTemplate.map Piece.blank := by
  have htail := Conditions.blank_whereTail_eq hconditions
  unfold countTemplate
  rw [hfaulty, htable]
  split
  next => rfl
  next => rw [List.map_cons, List.map_cons, htail]

theorem Delete.blank_template_eq {first second : Delete} (htable : first.table = second.table)
    (hconditions : first.conditions.outline = second.conditions.outline)
    (hfaulty : first.fault?.isSome = second.fault?.isSome) :
    first.template.map Piece.blank = second.template.map Piece.blank := by
  have htail := Conditions.blank_whereTail_eq hconditions
  unfold template
  rw [hfaulty, htable]
  split
  next => rfl
  next => rw [List.map_cons, List.map_cons, htail]

theorem Update.blank_assignmentTemplate_eq {first second : String × Assignment}
    (hkeys : (first.1, first.2.shape) = (second.1, second.2.shape)) :
    (assignmentTemplate first.1 first.2).map Piece.blank =
      (assignmentTemplate second.1 second.2).map Piece.blank := by
  obtain ⟨column, assignment⟩ := first
  obtain ⟨other, reassignment⟩ := second
  obtain ⟨hcolumn, hshape⟩ := Prod.mk.inj hkeys
  dsimp only at hcolumn hshape ⊢
  rw [hcolumn]
  cases assignment with
  | value value =>
      cases reassignment with
      | value _ => rfl
      | arithmetic operation amount => simp [Assignment.shape] at hshape
  | arithmetic operation amount =>
      cases reassignment with
      | value value => simp [Assignment.shape] at hshape
      | arithmetic second _ =>
          have hoperation : operation = second := Option.some.inj hshape
          rw [hoperation]
          rfl

/-- The text of an update is decided, up to its values, by its table, its columns with the kinds of
their assignments, and its conditions without theirs. -/
theorem Update.blank_template_eq {first second : Update} (htable : first.table = second.table)
    (hassignments : (first.assignments.entries.map fun entry => (entry.1, entry.2.shape)) =
      second.assignments.entries.map fun entry => (entry.1, entry.2.shape))
    (hconditions : first.conditions.outline = second.conditions.outline)
    (hfaulty : first.fault?.isSome = second.fault?.isSome) :
    first.template.map Piece.blank = second.template.map Piece.blank := by
  have hempty : first.assignments.isEmpty = second.assignments.isEmpty := by
    have hnone := congrArg List.isEmpty hassignments
    simpa [OrderedMap.isEmpty] using hnone
  have hset := Template.blank_joined_of_keys_eq ", " hassignments fun _ _ =>
    blank_assignmentTemplate_eq
  have htail := Conditions.blank_whereTail_eq hconditions
  unfold template
  rw [hempty, hfaulty, htable]
  split
  next => rfl
  next => simp only [List.map_cons, List.map_append, hset, htail]

namespace Insert

variable {first second : Insert}

theorem columns_eq
    (hrows : first.rows.map OrderedMap.columns = second.rows.map OrderedMap.columns) :
    first.columns = second.columns := by
  unfold columns
  rw [List.flatMap_def, List.flatMap_def, hrows]

/-- A row without columns is one without entries. -/
theorem isSome_fault?_eq
    (hrows : first.rows.map OrderedMap.columns = second.rows.map OrderedMap.columns) :
    first.fault?.isSome = second.fault?.isSome := by
  have hany : ∀ insert : Insert, insert.rows.any OrderedMap.isEmpty =
      (insert.rows.map OrderedMap.columns).any List.isEmpty := by
    intro insert
    rw [List.any_map]
    congr 1
    funext row
    simp [OrderedMap.isEmpty, OrderedMap.columns]
  unfold fault?
  rw [hany first, hany second, hrows]

theorem blank_template_eq (htable : first.table = second.table)
    (hrows : first.rows.map OrderedMap.columns = second.rows.map OrderedMap.columns) :
    first.template.map Piece.blank = second.template.map Piece.blank := by
  have hlength : first.rows.length = second.rows.length := by
    have hlengths := congrArg List.length hrows
    simpa using hlengths
  have hcolumns := columns_eq hrows
  have hfaulty := isSome_fault?_eq hrows
  -- a row writes one slot for each column of the header, whatever it holds
  have htuple : ∀ row other : Record, (tuple second.columns row).map Piece.blank =
      (tuple second.columns other).map Piece.blank := by
    intro row other
    have hslots := Template.blank_joined_of_length_eq
      (f := fun column => [.slot ((row.get? column).getD .null)])
      (g := fun column => [.slot ((other.get? column).getD .null)]) ", "
      (rfl : second.columns.length = second.columns.length) fun _ _ => rfl
    simp only [tuple, List.cons_append, List.map_cons, List.map_append, hslots]
  have htuples := Template.blank_joined_of_length_eq ", " hlength htuple
  unfold template
  simp only [hcolumns, hfaulty, htable]
  split
  next => rfl
  next => rw [List.map_cons, List.map_cons, htuples]

end Insert

/-- The outline of a statement decides its text up to its values. -/
theorem Statement.blank_template_eq {first second : Statement}
    (houtline : first.outline = second.outline) :
    first.template.map Piece.blank = second.template.map Piece.blank := by
  cases first with
  | select first =>
      cases second with
      | select second =>
          obtain ⟨htable, hcolumns, hconditions, hsort, hlimit, hoffset, hfaulty⟩ :=
            Outline.select.inj houtline
          exact Select.blank_template_eq htable hcolumns hconditions hsort hlimit hoffset hfaulty
      | _ => simp [outline] at houtline
  | insert first =>
      cases second with
      | insert second =>
          obtain ⟨htable, hrows⟩ := Outline.insert.inj houtline
          exact Insert.blank_template_eq htable hrows
      | _ => simp [outline] at houtline
  | update first =>
      cases second with
      | update second =>
          obtain ⟨htable, hassignments, hconditions, hfaulty⟩ := Outline.update.inj houtline
          exact Update.blank_template_eq htable hassignments hconditions hfaulty
      | _ => simp [outline] at houtline
  | delete first =>
      cases second with
      | delete second =>
          obtain ⟨htable, hconditions, hfaulty⟩ := Outline.delete.inj houtline
          exact Delete.blank_template_eq htable hconditions hfaulty
      | _ => simp [outline] at houtline

namespace Rendering

variable {first second : Rendering}

theorem blank_template_eq (houtline : first.outline = second.outline) :
    first.template.map Piece.blank = second.template.map Piece.blank := by
  cases first with
  | statement first =>
      cases second with
      | statement second => exact Statement.blank_template_eq houtline
      | _ => cases first <;> simp [outline, Statement.outline] at houtline
  | count first =>
      cases second with
      | count second =>
          obtain ⟨htable, hconditions, hfaulty⟩ := Outline.count.inj houtline
          exact Select.blank_countTemplate_eq htable hconditions hfaulty
      | statement second => cases second <;> simp [outline, Statement.outline] at houtline
      | _ => simp [outline] at houtline
  | whereClause first =>
      cases second with
      | whereClause second =>
          exact Conditions.blank_whereClause_eq (Outline.whereClause.inj houtline)
      | statement second => cases second <;> simp [outline, Statement.outline] at houtline
      | _ => simp [outline] at houtline
  | clause first =>
      cases second with
      | clause second => exact Conditions.blank_clause_eq (Outline.clause.inj houtline)
      | statement second => cases second <;> simp [outline, Statement.outline] at houtline
      | _ => simp [outline] at houtline

end Rendering

end TwinQuery
