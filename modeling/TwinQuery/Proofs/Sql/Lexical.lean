import TwinQuery.Proofs.Sql.Shape
import TwinQuery.Proofs.Sql.Templates

/-!
# The tokens of statements

The text of a statement is read as the skeleton of the statement, and the shape of a statement
decides its skeleton up to what stands in the places: `Statement.tokens_render`. Names and
values, whatever characters they hold, therefore never change which keywords, operators, commas
and parentheses a reader of the text sees. The same holds of the text that counts the rows of a
query: `Select.tokens_count`.
-/

namespace TwinQuery

open Sql

/-! ## Conditions -/

namespace Sql

theorem reads_operator (operator : Operator) :
    Reads operator.token (operatorTokens operator) := by
  unfold Reads
  cases operator <;> cbv

theorem reads_always : Reads "1=1" [.number false 1 0, .symbol "=", .number false 1 0] := by
  unfold Reads
  cbv

theorem reads_never : Reads "1=0" [.number false 1 0, .symbol "=", .number false 0 0] := by
  unfold Reads
  cbv

theorem leads_opening : Leads "(" [.symbol "("] :=
  leads_symbol (c := '(') (by simp)

theorem leads_space_opening : Leads " (" [.symbol "("] :=
  leads_space.append leads_opening

theorem readsAs_closing : ReadsAs [.text ")"] [symbol ")"] := by
  have hclosing : Reads ")" [.symbol ")"] := by
    unfold Reads
    cbv
  exact readsAs_fixed hclosing

/-- A part between parentheses. -/
theorem readsAs_parenthesized {opening : String} (hopening : Leads opening [.symbol "("])
    {template : Template} {skeleton : Skeleton} (hpart : ReadsAs template skeleton) :
    ReadsAs (.text opening :: template ++ [.text ")"]) (Skeleton.parenthesized skeleton) := by
  have hclosed := hpart.append readsAs_closing (breaksFirst_text rfl rfl [])
  exact (leadsAs_fixed hopening).append hclosed

end Sql

/-- A column and the operator behind it are read as such, whatever the column is named. -/
theorem Filter.readsAs_subject (filter : Filter) :
    ReadsAs [.text (Identifier.column filter.column ++ " " ++ filter.operator.token)]
      filter.subject := by
  have hoperator := (leadsAs_fixed leads_space).append
    (readsAs_fixed (reads_operator filter.operator))
  have hsubject := (readsAs_column filter.column).append hoperator (breaksFirst_text rfl rfl _)
  refine hsubject.of_fill_eq fun bindings => ?_
  simp only [Bindings.fill_text_append]
  rfl

/-- A filter is read as its column, its operator and its operand. -/
theorem Filter.readsAs_template (filter : Filter) :
    ReadsAs filter.template filter.skeleton := by
  have hsubject := filter.readsAs_subject
  unfold Filter.template Filter.skeleton
  cases filter.operand with
  | none => exact hsubject
  | single value =>
      have hvalue := (leadsAs_fixed leads_space).append (readsAs_slot value)
      refine (hsubject.append hvalue (breaksFirst_text rfl rfl _)).of_fill_eq fun bindings => ?_
      exact bindings.fill_text_append _ " " _
  | list values =>
      cases values with
      | nil =>
          simp only
          split
          · exact readsAs_fixed reads_always
          · exact readsAs_fixed reads_never
      | cons value values =>
          have hlist := readsAs_parenthesized leads_space_opening
            (readsAs_commas fun (member : Scalar) (_ : member ∈ value :: values) =>
              readsAs_slot member)
          refine (hsubject.append hlist (breaksFirst_text rfl rfl _)).of_fill_eq fun bindings => ?_
          exact bindings.fill_text_append _ " (" _

namespace Conditions

variable (conditions : Conditions)

theorem readsAs_clause : ReadsAs conditions.clause conditions.skeleton := by
  have hand : Leads " AND " [.word "AND"] := by
    apply leads_of_eq_append_space " AND" rfl
    cbv
  exact readsAs_joined hand rfl rfl fun filter _ => filter.readsAs_template

theorem breaksFirst_whereTail : BreaksFirst conditions.whereTail := by
  unfold whereTail
  split
  · exact breaksFirst_nil
  · exact breaksFirst_text rfl rfl _

/-- The clause of the conditions is read with its keyword, or left out with it. -/
theorem readsAs_whereTail : ReadsAs conditions.whereTail conditions.whereSkeleton := by
  unfold whereTail whereClause whereSkeleton
  split
  · exact readsAs_nil
  · have hwhere : Leads "WHERE " [.word "WHERE"] := by
      apply leads_of_eq_append_space "WHERE" rfl
      cbv
    have hclause := (leadsAs_fixed hwhere).append conditions.readsAs_clause
    exact (leadsAs_fixed leads_space).append hclause

end Conditions

/-! ## Statements -/

namespace Select

variable (select : Select)

/-- An entry of the projection that is `*` or a path is read as one. -/
theorem readsAs_projection {entry : String}
    (hentry : entry = "*" ∨ Identifier.isPath entry = true) :
    ReadsAs [.text (Identifier.projection entry)] [entryMark entry] := by
  have hstar : Reads "*" [.symbol "*"] := by
    unfold Reads
    cbv
  have hpath : Identifier.isPath "*" = false := by decide
  unfold entryMark Identifier.projection
  by_cases hall : entry = "*"
  · rw [hall, hpath, if_pos rfl]
    exact readsAs_fixed hstar
  · have hplain := hentry.resolve_left hall
    rw [if_neg hall, if_pos hplain]
    exact readsAs_column entry

theorem reads_direction (direction : SortDirection) :
    Reads direction.keyword [.word direction.keyword] := by
  unfold Reads
  cases direction <;> cbv

theorem breaksFirst_sortTail : BreaksFirst select.sortTail := by
  unfold sortTail
  split
  · exact breaksFirst_nil
  · exact breaksFirst_text (String.toList_append ..) rfl _

/-- The sort order is read field by field. -/
theorem readsAs_sortTail : ReadsAs select.sortTail select.sortSkeleton := by
  unfold sortTail sortSkeleton
  split
  · exact readsAs_nil
  · have horder : Leads " ORDER BY " [.word "ORDER", .word "BY"] := by
      apply leads_of_eq_append_space " ORDER BY" rfl
      cbv
    have hfield : ∀ field ∈ select.sort,
        ReadsAs [.text (Identifier.column field.column ++ " " ++ field.direction.keyword)]
          [.column field.column, keyword field.direction.keyword] := by
      intro field _
      have hdirection := (leadsAs_fixed leads_space).append
        (readsAs_fixed (reads_direction field.direction))
      have hcolumn := (readsAs_column field.column).append hdirection (breaksFirst_text rfl rfl _)
      refine hcolumn.of_fill_eq fun bindings => ?_
      simp only [Bindings.fill_text_append]
      rfl
    have hsort := (leadsAs_fixed horder).append (readsAs_text_commas hfield)
    refine hsort.of_fill_eq fun bindings => ?_
    exact bindings.fill_text_append _ _ []

theorem breaksFirst_numberTail {word : String} {cs : List Char} (hword : word.toList = ' ' :: cs)
    (n? : Option UInt64) : BreaksFirst (numberTail word n?) := by
  cases n? with
  | none => exact breaksFirst_nil
  | some n =>
      have htext : (word ++ n.toNat.repr).toList = ' ' :: (cs ++ n.toNat.repr.toList) := by
        rw [String.toList_append, hword, List.cons_append]
      exact breaksFirst_text htext rfl []

theorem readsAs_numberTail {text word : String} (hword : Leads text [.word word])
    (n? : Option UInt64) : ReadsAs (numberTail text n?) (numberSkeleton word n?) := by
  cases n? with
  | none => exact readsAs_nil
  | some n =>
      have hnumber := (leadsAs_fixed hword).append (readsAs_count n)
      refine hnumber.of_fill_eq fun bindings => ?_
      exact bindings.fill_text_append _ _ []

theorem leads_limit : Leads " LIMIT " [.word "LIMIT"] := by
  apply leads_of_eq_append_space " LIMIT" rfl
  cbv

theorem leads_offset : Leads " OFFSET " [.word "OFFSET"] := by
  apply leads_of_eq_append_space " OFFSET" rfl
  cbv

theorem leads_select : Leads "SELECT " [.word "SELECT"] := by
  apply leads_of_eq_append_space "SELECT" rfl
  cbv

theorem leads_from : Leads " FROM " [.word "FROM"] := by
  apply leads_of_eq_append_space " FROM" rfl
  cbv

variable {select}

/-- A read is read as its projection, its table, its conditions, its sort order and its page. -/
theorem readsAs_template (hnames : select.ProjectsNames) (htemplate : select.template ≠ []) :
    ReadsAs select.template select.skeleton := by
  unfold template at htemplate ⊢
  split at htemplate
  next => exact absurd rfl htemplate
  next hfault =>
  rw [if_neg hfault]
  -- the parts are put together from the last one on, each in front of one that breaks
  have hprojection := readsAs_text_commas fun entry hentry =>
    readsAs_projection (hnames entry hentry)
  have hlimit := readsAs_numberTail leads_limit select.limit?
  have hoffset := readsAs_numberTail leads_offset select.offset?
  have hbreaksLimit : BreaksFirst (numberTail " LIMIT " select.limit?) :=
    breaksFirst_numberTail rfl select.limit?
  have hbreaksOffset : BreaksFirst (numberTail " OFFSET " select.offset?) :=
    breaksFirst_numberTail rfl select.offset?
  have hbreaksTail := (select.conditions.breaksFirst_whereTail.append
    select.breaksFirst_sortTail).append hbreaksLimit |>.append hbreaksOffset
  have htail := ((select.conditions.readsAs_whereTail.append select.readsAs_sortTail
    select.breaksFirst_sortTail).append hlimit hbreaksLimit).append hoffset hbreaksOffset
  have htable := (leadsAs_fixed leads_from).append
    ((readsAs_table select.table).append htail hbreaksTail)
  have hall := (leadsAs_fixed leads_select).append
    (hprojection.append htable (breaksFirst_text rfl rfl _))
  simp only [skeleton, keyword, List.append_assoc, List.cons_append, List.nil_append,
    List.map_cons, List.map_nil] at hall ⊢
  refine hall.of_fill_eq fun bindings => ?_
  simp only [Bindings.fill_text_append]

/-- A count is read as its table and its conditions. -/
theorem readsAs_countTemplate (htemplate : select.countTemplate ≠ []) :
    ReadsAs select.countTemplate select.countSkeleton := by
  unfold countTemplate at htemplate ⊢
  split at htemplate
  next => exact absurd rfl htemplate
  next hfault =>
  rw [if_neg hfault]
  have hcount : Leads "SELECT COUNT(*) FROM "
      [.word "SELECT", .word "COUNT", .symbol "(", .symbol "*", .symbol ")", .word "FROM"] := by
    apply leads_of_eq_append_space "SELECT COUNT(*) FROM" rfl
    cbv
  have hall := (leadsAs_fixed hcount).append
    ((readsAs_table select.table).append select.conditions.readsAs_whereTail
      select.conditions.breaksFirst_whereTail)
  refine hall.of_fill_eq fun bindings => ?_
  exact bindings.fill_text_append _ _ _

/-- The text of a count is read as exactly the tokens of its skeleton, whatever names and values
it holds. The shapes of its conditions alone decide the skeleton up to what stands in the places;
the projection, the sort order and the page do not come into it. -/
theorem tokens_count (bindings : Bindings) (hfault : select.fault? = none) :
    tokens (bindings.fill select.countTemplate).1.toList =
        some (select.countSkeleton.fill bindings) ∧
      (bindings.fill select.countTemplate).2.values =
        bindings.values ++ select.countSkeleton.slots ∧
      ∀ other : Select,
        other.conditions.filters.map Filter.shape =
          select.conditions.filters.map Filter.shape →
        other.countSkeleton.map Mark.frame = select.countSkeleton.map Mark.frame := by
  have htemplate : select.countTemplate ≠ [] := by
    simp [countTemplate, hfault]
  have hreads := select.readsAs_countTemplate htemplate
  refine ⟨hreads.reads bindings, ?_, fun other hshape => ?_⟩
  · rw [Bindings.values_fill, hreads.values]
  · have hconditions := Conditions.frames_whereSkeleton_eq hshape
    simp only [countSkeleton, List.map_append, List.map_cons, hconditions, Mark.frame]

end Select

namespace Insert

theorem readsAs_tuple (columns : List String) (row : Record) :
    ReadsAs (tuple columns row) (tupleSkeleton columns row) :=
  readsAs_parenthesized leads_opening (readsAs_commas fun column _ =>
    readsAs_slot ((row.get? column).getD .null))

theorem leads_into : Leads "INSERT INTO " [.word "INSERT", .word "INTO"] := by
  apply leads_of_eq_append_space "INSERT INTO" rfl
  cbv

theorem leads_values : Leads ") VALUES " [.symbol ")", .word "VALUES"] := by
  apply leads_of_eq_append_space ") VALUES" rfl
  cbv

/-- An insertion is read as its table, its columns and its rows. -/
theorem readsAs_template {insert : Insert} (htemplate : insert.template ≠ []) :
    ReadsAs insert.template insert.skeleton := by
  unfold template at htemplate ⊢
  simp only at htemplate ⊢
  split at htemplate
  next => exact absurd rfl htemplate
  next hfault =>
  rw [if_neg hfault]
  have hheader := readsAs_text_commas fun column (_ : column ∈ insert.columns) =>
    readsAs_column column
  have hrows := readsAs_commas fun row (_ : row ∈ insert.rows) =>
    readsAs_tuple insert.columns row
  have hvalues := (leadsAs_fixed leads_values).append hrows
  have hcolumns := (leadsAs_fixed leads_space_opening).append
    (hheader.append hvalues (breaksFirst_text rfl rfl _))
  have hall := (leadsAs_fixed leads_into).append
    ((readsAs_table insert.table).append hcolumns (breaksFirst_text rfl rfl _))
  simp only [skeleton, Skeleton.parenthesized, keyword, symbol, List.append_assoc,
    List.cons_append, List.nil_append, List.map_cons, List.map_nil] at hall ⊢
  refine hall.of_fill_eq fun bindings => ?_
  simp only [Bindings.fill_text_append]

end Insert

namespace Update

/-- An assignment is read as its column and its value, or as its column, its sign and its
amount. -/
theorem readsAs_assignment (column : String) (assignment : Assignment) :
    ReadsAs (assignmentTemplate column assignment) (assignmentSkeleton column assignment) := by
  have hequals : Leads " = " [.symbol "="] := by
    apply leads_of_eq_append_space " =" rfl
    cbv
  have hsign : ∀ operation : Arithmetic, Reads operation.sign [.symbol operation.sign] := by
    intro operation
    unfold Reads
    cases operation <;> cbv
  have hcolumn := readsAs_column column
  cases assignment with
  | value value =>
      have hvalue := (leadsAs_fixed hequals).append (readsAs_slot value)
      have hall := hcolumn.append hvalue (breaksFirst_text rfl rfl _)
      refine hall.of_fill_eq fun bindings => ?_
      exact bindings.fill_text_append _ " = " _
  | arithmetic operation amount =>
      have hamount := (leadsAs_fixed leads_space).append (readsAs_slot amount)
      have hsigned := (leadsAs_fixed leads_space).append
        ((readsAs_fixed (hsign operation)).append hamount (breaksFirst_text rfl rfl _))
      have hvalue := (leadsAs_fixed hequals).append
        (hcolumn.append hsigned (breaksFirst_text rfl rfl _))
      have hall := hcolumn.append hvalue (breaksFirst_text rfl rfl _)
      refine hall.of_fill_eq fun bindings => ?_
      simp only [assignmentTemplate, Bindings.fill_text_append]
      rfl

theorem leads_update : Leads "UPDATE " [.word "UPDATE"] := by
  apply leads_of_eq_append_space "UPDATE" rfl
  cbv

theorem leads_set : Leads " SET " [.word "SET"] := by
  apply leads_of_eq_append_space " SET" rfl
  cbv

/-- An update is read as its table, its assignments and its conditions. -/
theorem readsAs_template {update : Update} (htemplate : update.template ≠ []) :
    ReadsAs update.template update.skeleton := by
  unfold template at htemplate ⊢
  split at htemplate
  next => exact absurd rfl htemplate
  next hfault =>
  rw [if_neg hfault]
  have hassignments := readsAs_commas
    fun (entry : String × Assignment) (_ : entry ∈ update.assignments.entries) =>
      readsAs_assignment entry.1 entry.2
  have hset := (leadsAs_fixed leads_set).append
    (hassignments.append update.conditions.readsAs_whereTail
      update.conditions.breaksFirst_whereTail)
  have hall := (leadsAs_fixed leads_update).append
    ((readsAs_table update.table).append hset (breaksFirst_text rfl rfl _))
  simp only [skeleton, keyword, List.cons_append, List.nil_append,
    List.map_cons, List.map_nil] at hall ⊢
  refine hall.of_fill_eq fun bindings => ?_
  simp only [Bindings.fill_text_append]

end Update

namespace Delete

theorem leads_delete : Leads "DELETE FROM " [.word "DELETE", .word "FROM"] := by
  apply leads_of_eq_append_space "DELETE FROM" rfl
  cbv

/-- A deletion is read as its table and its conditions. -/
theorem readsAs_template {delete : Delete} (htemplate : delete.template ≠ []) :
    ReadsAs delete.template delete.skeleton := by
  unfold template at htemplate ⊢
  split at htemplate
  next => exact absurd rfl htemplate
  next hfault =>
  rw [if_neg hfault]
  have hall := (leadsAs_fixed leads_delete).append
    ((readsAs_table delete.table).append delete.conditions.readsAs_whereTail
      delete.conditions.breaksFirst_whereTail)
  refine hall.of_fill_eq fun bindings => ?_
  exact bindings.fill_text_append _ _ _

end Delete

namespace Statement

/-- A statement whose text is not empty is read as its skeleton. -/
theorem readsAs_template {statement : Statement} (hnames : statement.ProjectsNames)
    (htemplate : statement.template ≠ []) : ReadsAs statement.template statement.skeleton := by
  cases statement with
  | select select => exact Select.readsAs_template hnames htemplate
  | insert insert => exact Insert.readsAs_template htemplate
  | update update => exact Update.readsAs_template htemplate
  | delete delete => exact Delete.readsAs_template htemplate

/-- In either style the text of a statement is read as exactly the tokens of its skeleton, the
values are collected in the order of their places, and every statement of the same shape has
the same skeleton up to what stands in the places. -/
theorem tokens_render (statement : Statement) (bindings : Bindings)
    (hnames : statement.ProjectsNames) (htext : (statement.render bindings).1 ≠ "") :
    tokens (statement.render bindings).1.toList = some (statement.skeleton.fill bindings) ∧
      (statement.render bindings).2.values = bindings.values ++ statement.skeleton.slots ∧
      ∀ other : Statement, other.shape = statement.shape →
        other.skeleton.map Mark.frame = statement.skeleton.map Mark.frame := by
  have htemplate : statement.template ≠ [] := by
    intro hempty
    apply htext
    rw [render, hempty]
    rfl
  have hreads := readsAs_template hnames htemplate
  refine ⟨hreads.reads bindings, ?_, fun other hshape => frames_eq_of_shape_eq hshape⟩
  rw [render, Bindings.values_fill, hreads.values]

/-- Quotes, a comment mark and a keyword in names and values. -/
def hostile : Statement :=
  .select
    { table := ⟨"a\" --"⟩
      columns := ["u.id", "*"]
      conditions :=
        { filters :=
            [⟨"x' AND \"y", .notIn, .list [.text "it's, --", .int (-3), .null], rfl, by decide⟩] }
      sort := [⟨"u.id", .descending⟩]
      limit? := some 5 }

theorem tokens_render_hostile :
    tokens (hostile.render .numbered).1.toList =
      some [.word "SELECT", .name "u", .symbol ".", .name "id", .symbol ",", .symbol "*",
        .word "FROM", .name "a\" --", .word "WHERE", .name "x' AND \"y", .word "NOT",
        .word "IN", .symbol "(", .placeholder 1, .symbol ",", .placeholder 2, .symbol ",",
        .placeholder 3, .symbol ")", .word "ORDER", .word "BY", .name "u", .symbol ".",
        .name "id", .word "DESC", .word "LIMIT", .number false 5 0] := by
  have htokens := (tokens_render hostile .numbered (by decide) (by decide)).1
  rw [htokens]
  decide

end Statement

end TwinQuery
