import TwinQuery.Proofs.Sql.Parsing

/-!
# What statements say

The description of a read, an update or a deletion is what a reader of its text recovers from
it: `Select.ofTokens?_written`, `Update.ofTokens?_written` and `Delete.ofTokens?_written`.
-/

namespace TwinQuery

open Sql

/-! ## Conditions -/

def Filter.condition (filter : Filter) : Condition :=
  match filter.operand with
  | .none => .test filter.column filter.operator.token .nothing
  | .single value => .test filter.column filter.operator.token (.value (shown value))
  | .list [] => .constant (decide (filter.operator = .notIn))
  | .list values => .test filter.column filter.operator.token (.values (values.map shown))

namespace Sql

/-- The operator of a condition is read from its tokens, in front of anything. -/
theorem operatorAt?_operatorTokens (operator : Operator) (rest : List Token) :
    operatorAt? (operatorTokens operator ++ rest) = some (operator.token, rest) := by
  cases operator <;> rfl

theorem head?_operatorTokens_append (operator : Operator) (rest : List Token) :
    (operatorTokens operator ++ rest).head? ≠ some (.symbol ".") := by
  cases operator <;> simp [operatorTokens]

theorem Compared.ofTokens?_literal (value : Scalar) :
    Compared.ofTokens? [literalToken value] = some (.value (shown value)) := by
  have hopening : (some (literalToken value) = some (.symbol "(")) ↔ False := by
    simpa using literalToken_ne_symbol value "("
  simp [Compared.ofTokens?, Literal.ofTokens?, hopening, ofToken?_literalToken]

/-- A list between parentheses is read as its values. -/
theorem Compared.ofTokens?_list {values : List Scalar} (hne : values ≠ []) :
    Compared.ofTokens?
        (Skeleton.parenthesized
          (Skeleton.separated (values.map fun value => [.slot value]))).written =
      some (.values (values.map shown)) := by
  have hcomma : ∀ value ∈ values, Token.symbol "," ∉ Skeleton.written [.slot value] := by
    intro value _ hmem
    exact literalToken_ne_symbol value "," (List.mem_singleton.1 hmem).symm
  have hread : ∀ value ∈ values,
      Literal.ofTokens? (Skeleton.written [.slot value]) = some (shown value) :=
    fun value _ => ofToken?_literalToken value
  have hlist := listOf?_separated hne hcomma hread
  have hlast : ∀ inner : List Token,
      (Token.symbol "(" :: (inner ++ [.symbol ")"])).getLast? = some (.symbol ")") := by
    intro inner
    rw [← List.cons_append]
    exact List.getLast?_concat
  rw [Skeleton.written_parenthesized]
  simp [Compared.ofTokens?, hlist, hlast]

end Sql

namespace Filter

variable (filter : Filter)

theorem written_subject :
    filter.subject.written = columnTokens filter.column ++ operatorTokens filter.operator := by
  rw [subject, Skeleton.written_cons, Skeleton.written_fixed]
  rfl

/-- A column, its operator and an operand are read as one test. -/
theorem ofTokens?_subject {rest : List Token} {operand : Compared}
    (hoperand : Compared.ofTokens? rest = some operand) :
    Condition.ofTokens? (filter.subject.written ++ rest) =
      some (.test filter.column filter.operator.token operand) := by
  have hcolumn := columnAt?_columnTokens filter.column
    (head?_operatorTokens_append filter.operator rest)
  obtain ⟨part, later, hpart⟩ := exists_columnTokens_eq filter.column
  rw [written_subject, List.append_assoc]
  -- a column begins with a name, so these tokens compare no constants
  have hconstant : ∀ more : List Token,
      columnTokens filter.column ++ (operatorTokens filter.operator ++ rest) ≠
        .number false 1 0 :: more := by
    intro more
    simp [hpart]
  rw [Condition.ofTokens?, if_neg (hconstant _), if_neg (hconstant _), hcolumn]
  simp only [Option.bind_eq_bind, Option.bind_some, operatorAt?_operatorTokens, hoperand]
  rfl

/-- A filter is read back as its condition. -/
theorem ofTokens?_written :
    Condition.ofTokens? filter.skeleton.written = some filter.condition := by
  unfold skeleton condition
  cases filter.operand with
  | none =>
      rw [← List.append_nil filter.subject.written]
      exact filter.ofTokens?_subject rfl
  | single value =>
      simp only [Skeleton.written_append]
      exact filter.ofTokens?_subject (Compared.ofTokens?_literal value)
  | list values =>
      cases values with
      | nil =>
          simp only
          split <;> rename_i hoperator <;> simp [hoperator] <;> rfl
      | cons value values =>
          simp only [Skeleton.written_append]
          exact filter.ofTokens?_subject (Compared.ofTokens?_list (by simp))

/-- A condition holds no words but those of operators and of values, whatever its column is
named. -/
theorem wordsIn_written : WordsIn conditionWords filter.skeleton.written := by
  have hliteral : literalWords ⊆ conditionWords := by decide
  have hsubject : WordsIn conditionWords filter.subject.written := by
    rw [written_subject, wordsIn_append]
    exact ⟨wordsIn_columnTokens _ _, wordsIn_operatorTokens _⟩
  unfold skeleton
  cases filter.operand with
  | none => exact hsubject
  | single value =>
      simp only [Skeleton.written_append]
      exact wordsIn_append.2 ⟨hsubject, (wordsIn_literalToken value).mono hliteral⟩
  | list values =>
      cases values with
      | nil =>
          simp only
          split <;> decide
      | cons value values =>
          have hlist : WordsIn conditionWords (Skeleton.separated
              ((value :: values).map fun member => [.slot member])).written := by
            refine wordsIn_separated fun part hpart => ?_
            obtain ⟨member, -, rfl⟩ := List.mem_map.1 hpart
            exact (wordsIn_literalToken member).mono hliteral
          simp only [Skeleton.written_append, Skeleton.written_parenthesized]
          refine wordsIn_append.2 ⟨hsubject, wordsIn_cons.2 ⟨by decide, ?_⟩⟩
          exact wordsIn_append.2 ⟨hlist, by decide⟩

end Filter

namespace Conditions

variable (conditions : Conditions)

/-- What stands after the keyword of the clause, if there is a condition. -/
def clauseTokens? : Option (List Token) :=
  if conditions.filters.isEmpty then none else some conditions.skeleton.written

theorem written_skeleton :
    conditions.skeleton.written =
      [.word "AND"].intercalate (conditions.filters.map fun filter => filter.skeleton.written) := by
  have hparts := flatMap_intercalate Mark.written [keyword "AND"]
    (conditions.filters.map Filter.skeleton)
  rw [List.map_map] at hparts
  exact hparts

/-- The clause of the conditions is there exactly where there is a condition. -/
theorem written_whereSkeleton :
    conditions.whereSkeleton.written = optionalClause "WHERE" conditions.clauseTokens? := by
  unfold whereSkeleton clauseTokens?
  split <;> rfl

/-- The conditions of a clause are read back one for each filter, in their order. -/
theorem conditionsOf?_clauseTokens? :
    conditionsOf? conditions.clauseTokens? = some (conditions.filters.map Filter.condition) := by
  unfold clauseTokens?
  split
  next hempty =>
    rw [List.isEmpty_iff.1 hempty]
    rfl
  next hne =>
    have hfree : ∀ part ∈ conditions.filters.map fun filter => filter.skeleton.written,
        Token.word "AND" ∉ part := by
      intro part hpart
      obtain ⟨filter, -, rfl⟩ := List.mem_map.1 hpart
      exact filter.wordsIn_written.not_mem (by decide)
    have hparts : (conditions.filters.map fun filter => filter.skeleton.written) ≠ [] := by
      simpa using hne
    rw [conditionsOf?, written_skeleton, List.splitOn_intercalate _ hfree hparts]
    exact mapM_map_of_eq_some fun filter _ => filter.ofTokens?_written

def clauseWords : List String :=
  "WHERE" :: "AND" :: conditionWords

theorem wordsIn_clause :
    WordsIn clauseWords (optionalClause "WHERE" conditions.clauseTokens?) := by
  unfold clauseTokens?
  split
  next => decide
  next =>
    refine wordsIn_cons.2 ⟨by decide, wordsIn_iff.2 fun word hword => ?_⟩
    rw [written_skeleton] at hword
    rcases mem_intercalate hword with hand | ⟨part, hpart, hmem⟩
    · cases List.mem_singleton.1 hand
      decide
    · obtain ⟨filter, -, rfl⟩ := List.mem_map.1 hpart
      have hmore : conditionWords ⊆ clauseWords := by decide
      exact hmore (wordsIn_iff.1 filter.wordsIn_written word hmem)

end Conditions

/-! ## Reads -/

def Sql.Projected.ofEntry (entry : String) : Projected :=
  if entry = "*" then .all else .column entry

namespace Select

variable (select : Select)

def description : Description :=
  .select select.table.text (select.columns.map Projected.ofEntry)
    (select.conditions.filters.map Filter.condition) select.sort
    (select.limit?.map UInt64.toNat) (select.offset?.map UInt64.toNat)

/-- An entry of a projection is read as itself. -/
theorem ofTokens?_entry (entry : String) :
    Projected.ofTokens? (Skeleton.written [entryMark entry]) = some (Projected.ofEntry entry) := by
  unfold entryMark Projected.ofEntry
  split
  next => rfl
  next =>
    obtain ⟨part, rest, hpart⟩ := exists_columnTokens_eq entry
    have hwritten : Skeleton.written [.column entry] = columnTokens entry :=
      List.append_nil (columnTokens entry)
    have hname : columnTokens entry ≠ [.symbol "*"] := by simp [hpart]
    rw [hwritten, Projected.ofTokens?, if_neg hname, columnOf?_columnTokens, Option.map_some]

/-- An entry of a projection is not cut by a comma. -/
theorem comma_not_mem_entry (entry : String) :
    Token.symbol "," ∉ Skeleton.written [entryMark entry] := by
  unfold entryMark
  split
  next => decide
  next =>
    have hwritten : Skeleton.written [.column entry] = columnTokens entry :=
      List.append_nil (columnTokens entry)
    rw [hwritten]
    exact comma_not_mem_columnTokens entry

theorem wordsIn_projection :
    WordsIn []
      (Skeleton.separated (select.columns.map fun entry => [entryMark entry])).written := by
  refine wordsIn_separated fun part hpart => ?_
  obtain ⟨entry, -, rfl⟩ := List.mem_map.1 hpart
  unfold entryMark
  split
  next => decide
  next => exact wordsIn_append.2 ⟨wordsIn_columnTokens [] entry, by decide⟩

/-- What stands after the first keyword of the sort order, if there is one. -/
def sortTokens? : Option (List Token) :=
  if select.sort.isEmpty then none
  else
    some (.word "BY" :: (Skeleton.separated (select.sort.map fun field =>
      [.column field.column, keyword field.direction.keyword])).written)

theorem written_sortSkeleton :
    select.sortSkeleton.written = optionalClause "ORDER" select.sortTokens? := by
  unfold sortSkeleton sortTokens?
  split <;> rfl

theorem written_field (field : SortField) :
    Skeleton.written [.column field.column, keyword field.direction.keyword] =
      columnTokens field.column ++ [.word field.direction.keyword] := rfl

theorem sortOf?_sortTokens? : sortOf? select.sortTokens? = some select.sort := by
  unfold sortTokens?
  split
  next hempty =>
    rw [List.isEmpty_iff.1 hempty]
    rfl
  next hne =>
    have hcomma : ∀ field ∈ select.sort, Token.symbol "," ∉
        Skeleton.written [.column field.column, keyword field.direction.keyword] := by
      intro field _ hmem
      rw [written_field] at hmem
      rcases List.mem_append.1 hmem with hcolumn | hdirection
      · exact comma_not_mem_columnTokens field.column hcolumn
      · exact Token.noConfusion (List.mem_singleton.1 hdirection)
    have hread : ∀ field ∈ select.sort, sortFieldOf?
        (Skeleton.written [.column field.column, keyword field.direction.keyword]) =
          some field := by
      intro field _
      have hdirection : directionOf? [.word field.direction.keyword] = some field.direction := by
        cases field.direction <;> rfl
      rw [written_field, sortFieldOf?, columnAt?_columnTokens field.column (by simp)]
      simp [hdirection]
    have hlist := listOf?_separated (by simpa using hne) hcomma hread
    rw [List.map_id'] at hlist
    exact hlist

def sortWords : List String :=
  ["ORDER", "BY", "ASC", "DESC"]

theorem wordsIn_sort :
    WordsIn sortWords (optionalClause "ORDER" select.sortTokens?) := by
  unfold sortTokens?
  split
  next => decide
  next =>
    refine wordsIn_cons.2 ⟨by decide, wordsIn_cons.2 ⟨by decide, ?_⟩⟩
    refine wordsIn_separated fun part hpart => ?_
    obtain ⟨field, -, rfl⟩ := List.mem_map.1 hpart
    rw [written_field, wordsIn_append]
    refine ⟨wordsIn_columnTokens _ _, ?_⟩
    cases field.direction <;> decide

def numberTokens? (n? : Option UInt64) : Option (List Token) :=
  n?.map fun n => [.number false n.toNat 0]

theorem written_numberSkeleton (word : String) (n? : Option UInt64) :
    (numberSkeleton word n?).written = optionalClause word (numberTokens? n?) := by
  cases n? <;> rfl

theorem numberOf?_numberTokens? (n? : Option UInt64) :
    numberOf? (numberTokens? n?) = some (n?.map UInt64.toNat) := by
  cases n? <;> rfl

theorem wordsIn_number (word : String) (n? : Option UInt64) :
    WordsIn [word] (optionalClause word (numberTokens? n?)) := by
  cases n? with
  | none => exact wordsIn_iff.2 fun _ hword => absurd hword List.not_mem_nil
  | some n => simp [WordsIn, optionalClause, numberTokens?, Token.word?]

/-- A read is its projection and a clause for each of its parts, in this order. -/
theorem written_skeleton :
    select.skeleton.written =
      .word "SELECT" ::
        ((Skeleton.separated (select.columns.map fun entry => [entryMark entry])).written ++
          .word "FROM" :: [.name select.table.text] ++
          optionalClause "WHERE" select.conditions.clauseTokens? ++
          optionalClause "ORDER" select.sortTokens? ++
          optionalClause "LIMIT" (numberTokens? select.limit?) ++
          optionalClause "OFFSET" (numberTokens? select.offset?)) := by
  rw [skeleton, Skeleton.written_append, Skeleton.written_append, Skeleton.written_append,
    Skeleton.written_append, Skeleton.written_append, Skeleton.written_cons,
    Conditions.written_whereSkeleton, written_sortSkeleton, written_numberSkeleton,
    written_numberSkeleton]
  rfl

/-- A read is read back as what it says. -/
theorem ofTokens?_written (hcolumns : select.columns ≠ []) :
    Description.ofTokens? select.skeleton.written = some select.description := by
  have hprojection := listOf?_separated hcolumns
    (fun entry _ => comma_not_mem_entry entry) fun entry _ => ofTokens?_entry entry
  -- what stands in front of a keyword does not hold it; the words are those of the parts so far
  have hfrom := select.wordsIn_projection
  have hwhere : WordsIn ["FROM"]
      ((Skeleton.separated (select.columns.map fun entry => [entryMark entry])).written ++
        .word "FROM" :: [.name select.table.text]) :=
    wordsIn_append.2 ⟨hfrom.mono (by decide), by simp [WordsIn, Token.word?]⟩
  have horder := hwhere.append select.conditions.wordsIn_clause
  have hlimit := horder.append select.wordsIn_sort
  have hoffset := hlimit.append (wordsIn_number "LIMIT" select.limit?)
  rw [written_skeleton, Description.ofTokens?, if_pos rfl, Description.ofSelect?]
  rw [clause_optional _ (hoffset.not_mem (by decide))]
  simp only
  rw [clause_optional _ (hlimit.not_mem (by decide))]
  simp only
  rw [clause_optional _ (horder.not_mem (by decide))]
  simp only
  rw [clause_optional _ (hwhere.not_mem (by decide))]
  simp only
  rw [clause_append (hfrom.not_mem (by decide))]
  simp only [Option.bind_some, tableOf?, hprojection, Conditions.conditionsOf?_clauseTokens?,
    sortOf?_sortTokens?, numberOf?_numberTokens?, Option.bind_eq_bind]
  rfl

end Select

/-! ## Updates -/

def Assignment.assigned : Assignment → Assigned
  | .value given => .value (shown given)
  | .arithmetic operation amount => .arithmetic operation (shown amount)

namespace Update

variable (update : Update)

def description : Description :=
  .update update.table.text
    (update.assignments.entries.map fun entry => (entry.1, entry.2.assigned))
    (update.conditions.filters.map Filter.condition)

theorem written_value (column : String) (value : Scalar) :
    (assignmentSkeleton column (.value value)).written =
      columnTokens column ++ [.symbol "=", literalToken value] := rfl

theorem written_arithmetic (column : String) (operation : Arithmetic) (amount : Scalar) :
    (assignmentSkeleton column (.arithmetic operation amount)).written =
      columnTokens column ++ .symbol "=" ::
        (columnTokens column ++ [.symbol operation.sign, literalToken amount]) := rfl

/-- No value looks like a column. -/
theorem columnAt?_literalToken (value : Scalar) : columnAt? [literalToken value] = none := by
  cases htoken : literalToken value with
  | name part =>
      have hliteral := ofToken?_literalToken value
      rw [htoken] at hliteral
      simp [Literal.ofToken?] at hliteral
  | _ => rfl

/-- An assignment is read back as its column and what is assigned to it. -/
theorem assignmentOf?_written (column : String) (assignment : Assignment) :
    assignmentOf? (assignmentSkeleton column assignment).written =
      some (column, assignment.assigned) := by
  cases assignment with
  | value value =>
      have hassigned : Assigned.ofTokens? column [literalToken value] =
          some (.value (shown value)) := by
        rw [Assigned.ofTokens?, columnAt?_literalToken]
        simp [Literal.ofTokens?, ofToken?_literalToken]
      rw [written_value, assignmentOf?, columnAt?_columnTokens column (by simp)]
      simp [hassigned, Assignment.assigned]
  | arithmetic operation amount =>
      have hsign : signOf? (.symbol operation.sign) = some operation := by
        cases operation <;> rfl
      have hpoint : [Token.symbol operation.sign, literalToken amount].head? ≠
          some (.symbol ".") := by
        cases operation <;> simp [Arithmetic.sign]
      have hassigned : Assigned.ofTokens? column
          (columnTokens column ++ [.symbol operation.sign, literalToken amount]) =
          some (.arithmetic operation (shown amount)) := by
        rw [Assigned.ofTokens?, columnAt?_columnTokens column hpoint]
        simp [hsign, ofToken?_literalToken]
      rw [written_arithmetic, assignmentOf?, columnAt?_columnTokens column (by simp)]
      simp [hassigned, Assignment.assigned]

theorem comma_not_mem_assignment (column : String) (assignment : Assignment) :
    Token.symbol "," ∉ (assignmentSkeleton column assignment).written := by
  intro hmem
  cases assignment with
  | value value =>
      rw [written_value] at hmem
      rcases List.mem_append.1 hmem with hcolumn | hvalue
      · exact comma_not_mem_columnTokens column hcolumn
      · simp [(literalToken_ne_symbol value ",").symm] at hvalue
  | arithmetic operation amount =>
      rw [written_arithmetic] at hmem
      rcases List.mem_append.1 hmem with hcolumn | hvalue
      · exact comma_not_mem_columnTokens column hcolumn
      · rcases List.mem_append.1 (List.mem_of_ne_of_mem (by simp) hvalue) with hsource | hamount
        · exact comma_not_mem_columnTokens column hsource
        · cases operation <;>
            simp [Arithmetic.sign, (literalToken_ne_symbol amount ",").symm] at hamount

theorem wordsIn_assignment (column : String) (assignment : Assignment) :
    WordsIn literalWords (assignmentSkeleton column assignment).written := by
  have hcolumn := wordsIn_columnTokens literalWords column
  cases assignment with
  | value value =>
      rw [written_value]
      exact wordsIn_append.2 ⟨hcolumn, wordsIn_cons.2 ⟨by decide, wordsIn_literalToken value⟩⟩
  | arithmetic operation amount =>
      have hamount : WordsIn literalWords [.symbol operation.sign, literalToken amount] :=
        wordsIn_cons.2 ⟨by simp [WordsIn, Token.word?], wordsIn_literalToken amount⟩
      rw [written_arithmetic]
      exact wordsIn_append.2
        ⟨hcolumn, wordsIn_cons.2 ⟨by decide, wordsIn_append.2 ⟨hcolumn, hamount⟩⟩⟩

theorem written_skeleton :
    update.skeleton.written =
      .word "UPDATE" ::
        ([.name update.table.text] ++
          .word "SET" :: (Skeleton.separated (update.assignments.entries.map fun entry =>
            assignmentSkeleton entry.1 entry.2)).written ++
          optionalClause "WHERE" update.conditions.clauseTokens?) := by
  rw [skeleton, Skeleton.written_append, Skeleton.written_append,
    Conditions.written_whereSkeleton]
  rfl

/-- An update is read back as what it says. -/
theorem ofTokens?_written (hassigned : update.assignments.entries ≠ []) :
    Description.ofTokens? update.skeleton.written = some update.description := by
  have hassignments := listOf?_separated hassigned
    (fun entry _ => comma_not_mem_assignment entry.1 entry.2)
    fun entry _ => assignmentOf?_written entry.1 entry.2
  have hset : WordsIn [] [.name update.table.text] := by simp [WordsIn, Token.word?]
  have hwords : WordsIn literalWords (Skeleton.separated
      (update.assignments.entries.map fun entry =>
        assignmentSkeleton entry.1 entry.2)).written := by
    refine wordsIn_separated fun part hpart => ?_
    obtain ⟨entry, -, rfl⟩ := List.mem_map.1 hpart
    exact wordsIn_assignment entry.1 entry.2
  have hclause : WordsIn ("SET" :: literalWords) (.word "SET" :: (Skeleton.separated
      (update.assignments.entries.map fun entry =>
        assignmentSkeleton entry.1 entry.2)).written) :=
    wordsIn_cons.2 ⟨by decide, hwords.mono (by decide)⟩
  have hwhere := hset.append hclause
  rw [written_skeleton, Description.ofTokens?, if_neg (by decide), if_pos rfl,
    Description.ofUpdate?, clause_optional _ (hwhere.not_mem (by decide))]
  simp only
  rw [clause_append (hset.not_mem (by decide))]
  simp only [Option.bind_some, tableOf?, hassignments, Conditions.conditionsOf?_clauseTokens?,
    Option.bind_eq_bind]
  rfl

end Update

/-! ## Deletions -/

namespace Delete

variable (delete : Delete)

def description : Description :=
  .delete delete.table.text (delete.conditions.filters.map Filter.condition)

theorem written_skeleton :
    delete.skeleton.written =
      .word "DELETE" ::
        ([.word "FROM", .name delete.table.text] ++
          optionalClause "WHERE" delete.conditions.clauseTokens?) := by
  rw [skeleton, Skeleton.written_append, Conditions.written_whereSkeleton]
  rfl

/-- A deletion is read back as what it says. -/
theorem ofTokens?_written :
    Description.ofTokens? delete.skeleton.written = some delete.description := by
  have hwhere : WordsIn ["FROM"] [.word "FROM", .name delete.table.text] := by
    simp [WordsIn, Token.word?]
  rw [written_skeleton, Description.ofTokens?, if_neg (by decide), if_neg (by decide), if_pos rfl,
    Description.ofDelete?, clause_optional _ (hwhere.not_mem (by decide))]
  simp only [List.head?_cons, if_true, List.tail_cons, tableOf?, Option.bind_some,
    Conditions.conditionsOf?_clauseTokens?, Option.bind_eq_bind]
  rfl

end Delete

end TwinQuery
