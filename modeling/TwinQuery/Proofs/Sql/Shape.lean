import TwinQuery.Proofs.Sql.Skeleton

/-!
# Shapes of statements

The shape of a statement is what decides its skeleton up to what stands in the places: the kind
of the statement, the operators of its conditions and the lengths of their lists, the kinds of
its assignments, the numbers of its rows and columns, the directions of its sort order, and
whether it has a limit and an offset.
-/

namespace TwinQuery

open Sql

/-- The shape of a condition: its operator, and how long its list is if it has one. -/
def Filter.shape (filter : Filter) : Operator × Option Nat :=
  (filter.operator,
    match filter.operand with
    | .list values => some values.length
    | _ => none)

def Assignment.shape : Assignment → Option Arithmetic
  | .value _ => none
  | .arithmetic operation _ => some operation

/-- What decides the skeleton of a statement up to its names, numbers and values. -/
inductive Shape where
  /-- Which entries of the projection are `*`, the conditions, the directions of the sort order,
  and whether there are a limit and an offset. -/
  | select (projection : List Bool) (conditions : List (Operator × Option Nat))
      (sort : List SortDirection) (limit offset : Bool)
  /-- How many rows and columns there are. -/
  | insert (rows columns : Nat)
  | update (assignments : List (Option Arithmetic)) (conditions : List (Operator × Option Nat))
  | delete (conditions : List (Operator × Option Nat))
  deriving DecidableEq, Repr

def Statement.shape : Statement → Shape
  | select statement =>
      .select (statement.columns.map fun entry => entry == "*")
        (statement.conditions.filters.map Filter.shape)
        (statement.sort.map SortField.direction) statement.limit?.isSome statement.offset?.isSome
  | insert statement => .insert statement.rows.length statement.columns.length
  | update statement =>
      .update (statement.assignments.entries.map fun entry => entry.2.shape)
        (statement.conditions.filters.map Filter.shape)
  | delete statement => .delete (statement.conditions.filters.map Filter.shape)

/-! ## The shape decides the frames -/

namespace Sql

section Frames

variable {α β γ κ : Type}

theorem map_intercalate (f : α → β) (separator : List α) (parts : List (List α)) :
    (separator.intercalate parts).map f =
      (separator.map f).intercalate (parts.map fun part => part.map f) := by
  simpa only [List.map_eq_flatMap] using
    flatMap_intercalate (fun entry => [f entry]) separator parts

/-- What depends on keys only is the same where the keys are. -/
theorem map_eq_map_of_keys_eq {key : α → κ} {f : α → β} {first second : List α}
    (hkeys : first.map key = second.map key) (hf : ∀ a b, key a = key b → f a = f b) :
    first.map f = second.map f := by
  induction first generalizing second with
  | nil =>
      have hsecond : second = [] := List.map_eq_nil_iff.1 hkeys.symm
      rw [hsecond]
  | cons a rest ih =>
      cases second with
      | nil => simp at hkeys
      | cons b later =>
          obtain ⟨hhead, htail⟩ := List.cons.inj hkeys
          rw [List.map_cons, List.map_cons, hf a b hhead, ih htail]

/-- What is the same for all entries depends on their number only. -/
theorem map_eq_map_of_length_eq {f : α → γ} {g : β → γ} {first : List α} {second : List β}
    (hlength : first.length = second.length) (hf : ∀ a b, f a = g b) :
    first.map f = second.map g := by
  induction first generalizing second with
  | nil =>
      have hsecond : second = [] := List.eq_nil_of_length_eq_zero hlength.symm
      rw [hsecond]
      rfl
  | cons a rest ih =>
      cases second with
      | nil => simp at hlength
      | cons b later =>
          rw [List.map_cons, List.map_cons, hf a b, ih (Nat.succ.inj hlength)]

end Frames

namespace Skeleton

theorem map_frame_separated (parts : List Skeleton) :
    (separated parts).map Mark.frame =
      [.fixed (.symbol ",")].intercalate (parts.map fun part => part.map Mark.frame) :=
  map_intercalate Mark.frame [symbol ","] parts

theorem map_frame_parenthesized (part : Skeleton) :
    (parenthesized part).map Mark.frame =
      .fixed (.symbol "(") :: part.map Mark.frame ++ [.fixed (.symbol ")")] := by
  simp [parenthesized, symbol, Mark.frame]

/-- Parts that all look alike. -/
theorem frames_separated_of_length_eq {α β : Type} {f : α → Skeleton} {g : β → Skeleton}
    {first : List α} {second : List β} (hlength : first.length = second.length)
    (hf : ∀ a b, (f a).map Mark.frame = (g b).map Mark.frame) :
    (separated (first.map f)).map Mark.frame = (separated (second.map g)).map Mark.frame := by
  rw [map_frame_separated, map_frame_separated, List.map_map, List.map_map]
  exact congrArg _ (map_eq_map_of_length_eq hlength hf)

/-- Parts that look as their keys say. -/
theorem frames_separated_of_keys_eq {α κ : Type} {key : α → κ} {f : α → Skeleton}
    {first second : List α} (hkeys : first.map key = second.map key)
    (hf : ∀ a b, key a = key b → (f a).map Mark.frame = (f b).map Mark.frame) :
    (separated (first.map f)).map Mark.frame = (separated (second.map f)).map Mark.frame := by
  rw [map_frame_separated, map_frame_separated, List.map_map, List.map_map]
  exact congrArg _ (map_eq_map_of_keys_eq hkeys hf)

end Skeleton

end Sql

/-! ## The shapes of conditions -/

/-- Operands that differ in their values alone. -/
inductive Operand.Alike : Operand → Operand → Prop
  | none : Alike .none .none
  | single (first second : Scalar) : Alike (.single first) (.single second)
  | list {first second : List Scalar} (hlength : first.length = second.length) :
      Alike (.list first) (.list second)

/-- An operator takes an operand of one kind, so the operator and the length of a list decide an
operand up to its values. -/
theorem Filter.alike_of_shape_eq {first second : Filter} (hshape : first.shape = second.shape) :
    first.operand.Alike second.operand := by
  obtain ⟨hoperator, hlength⟩ := Prod.mk.inj hshape
  have hfirst := first.accepted
  have hsecond := second.accepted
  cases hleft : first.operand with
  | none =>
      rw [hleft] at hfirst hlength
      cases hright : second.operand with
      | none => exact .none
      | single value =>
          rw [hright, ← hoperator] at hsecond
          exact absurd (hfirst.symm.trans hsecond.1) (by decide)
      | list values => simp [hright] at hlength
  | single value =>
      rw [hleft] at hfirst hlength
      cases hright : second.operand with
      | none =>
          rw [hright, ← hoperator] at hsecond
          exact absurd (hsecond.symm.trans hfirst.1) (by decide)
      | single other => exact .single value other
      | list values => simp [hright] at hlength
  | list values =>
      rw [hleft] at hlength
      cases hright : second.operand with
      | none => simp [hright] at hlength
      | single value => simp [hright] at hlength
      | list others => exact .list (by simpa [hright] using hlength)

/-- The shape of a condition decides its frames: the operator and the length of a list do. -/
theorem Filter.frames_eq_of_shape_eq {first second : Filter} (hshape : first.shape = second.shape) :
    first.skeleton.map Mark.frame = second.skeleton.map Mark.frame := by
  have hoperator : first.operator = second.operator := (Prod.mk.inj hshape).1
  have hsubject : first.subject.map Mark.frame = second.subject.map Mark.frame := by
    simp [Filter.subject, hoperator, Mark.frame]
  have halike := Filter.alike_of_shape_eq hshape
  unfold Filter.skeleton
  revert halike
  generalize first.operand = left
  generalize second.operand = right
  intro halike
  cases halike with
  | none => exact hsubject
  | single value other => simp [hsubject, Mark.frame]
  | @list values others hlength =>
      cases values with
      | nil =>
          have hnil : others = [] := List.eq_nil_of_length_eq_zero hlength.symm
          simp [hnil, hoperator]
      | cons value values =>
          cases others with
          | nil => simp at hlength
          | cons other others =>
              have hlists := Skeleton.frames_separated_of_length_eq
                (f := fun member => [.slot member]) (g := fun member => [.slot member])
                hlength fun _ _ => rfl
              rw [List.map_append, List.map_append, hsubject,
                Skeleton.map_frame_parenthesized, Skeleton.map_frame_parenthesized, hlists]

/-- The shapes of the conditions decide the frames of their clause. -/
theorem Conditions.frames_whereSkeleton_eq {first second : Conditions}
    (hshape : first.filters.map Filter.shape = second.filters.map Filter.shape) :
    first.whereSkeleton.map Mark.frame = second.whereSkeleton.map Mark.frame := by
  have hempty : first.filters.isEmpty = second.filters.isEmpty := by
    rw [← List.isEmpty_map, hshape, List.isEmpty_map]
  have hfilters := map_eq_map_of_keys_eq hshape fun _ _ => Filter.frames_eq_of_shape_eq
  have hclause : first.skeleton.map Mark.frame = second.skeleton.map Mark.frame := by
    unfold Conditions.skeleton
    rw [map_intercalate, map_intercalate, List.map_map, List.map_map]
    exact congrArg _ hfilters
  unfold Conditions.whereSkeleton
  rw [hempty]
  split
  · rfl
  · rw [List.map_cons, List.map_cons, hclause]

theorem Select.frames_numberSkeleton_eq (word : String) {first second : Option UInt64}
    (hsome : first.isSome = second.isSome) :
    (Select.numberSkeleton word first).map Mark.frame =
      (Select.numberSkeleton word second).map Mark.frame := by
  cases first with
  | none =>
      cases second with
      | none => rfl
      | some n => simp at hsome
  | some m =>
      cases second with
      | none => simp at hsome
      | some n => rfl

theorem Insert.frames_tupleSkeleton_eq {first second : List String}
    (hlength : first.length = second.length) (row other : Record) :
    (Insert.tupleSkeleton first row).map Mark.frame =
      (Insert.tupleSkeleton second other).map Mark.frame := by
  have hslots := Skeleton.frames_separated_of_length_eq
    (f := fun column => [.slot ((row.get? column).getD .null)])
    (g := fun column => [.slot ((other.get? column).getD .null)]) hlength fun _ _ => rfl
  unfold Insert.tupleSkeleton
  rw [Skeleton.map_frame_parenthesized, Skeleton.map_frame_parenthesized, hslots]

/-- The shape of an assignment decides its frames, whatever the column. -/
theorem Update.frames_assignmentSkeleton_eq {first second : Assignment}
    (hshape : first.shape = second.shape) (column other : String) :
    (Update.assignmentSkeleton column first).map Mark.frame =
      (Update.assignmentSkeleton other second).map Mark.frame := by
  cases first with
  | value value =>
      cases second with
      | value _ => rfl
      | arithmetic operation amount => simp [Assignment.shape] at hshape
  | arithmetic operation amount =>
      cases second with
      | value value => simp [Assignment.shape] at hshape
      | arithmetic second _ =>
          have hoperation : operation = second := Option.some.inj hshape
          rw [hoperation]
          rfl

/-- Statements of one shape have the same keywords, operators, commas and parentheses in the
same places. -/
theorem Statement.frames_eq_of_shape_eq {first second : Statement}
    (hshape : first.shape = second.shape) :
    first.skeleton.map Mark.frame = second.skeleton.map Mark.frame := by
  cases first with
  | select first =>
      cases second with
      | select second =>
          obtain ⟨hprojection, hconditions, hsort, hlimit, hoffset⟩ := Shape.select.inj hshape
          have hempty : first.sort.isEmpty = second.sort.isEmpty := by
            rw [← List.isEmpty_map, hsort, List.isEmpty_map]
          have hcolumns := Skeleton.frames_separated_of_keys_eq
            (f := fun entry => [Select.entryMark entry]) hprojection (by
              intro a b hab
              by_cases ha : a = "*"
              · have hb : b = "*" := by simpa [ha] using hab
                rw [ha, hb]
              · have hb : b ≠ "*" := by simpa [ha] using hab
                simp [Select.entryMark, ha, hb, Mark.frame])
          have hfields := Skeleton.frames_separated_of_keys_eq
            (f := fun field : SortField => [.column field.column, keyword field.direction.keyword])
            hsort (by
              intro a b hab
              simp [hab, Mark.frame])
          have hsorted : first.sortSkeleton.map Mark.frame =
              second.sortSkeleton.map Mark.frame := by
            unfold Select.sortSkeleton
            rw [hempty]
            split
            · rfl
            · rw [List.map_append, List.map_append, hfields]
          simp only [Statement.skeleton, Select.skeleton, List.map_append, List.map_cons,
            hcolumns, hsorted, Conditions.frames_whereSkeleton_eq hconditions,
            Select.frames_numberSkeleton_eq _ hlimit, Select.frames_numberSkeleton_eq _ hoffset,
            Mark.frame]
      | _ => simp [Statement.shape] at hshape
  | insert first =>
      cases second with
      | insert second =>
          obtain ⟨hrows, hcolumns⟩ := Shape.insert.inj hshape
          have hheader := Skeleton.frames_separated_of_length_eq
            (f := fun column => [.column column]) (g := fun column => [.column column]) hcolumns
            fun _ _ => rfl
          have htuples := Skeleton.frames_separated_of_length_eq
            (f := Insert.tupleSkeleton first.columns) (g := Insert.tupleSkeleton second.columns)
            hrows fun row other => Insert.frames_tupleSkeleton_eq hcolumns row other
          simp only [Statement.skeleton, Insert.skeleton, List.map_append, List.map_cons,
            Skeleton.map_frame_parenthesized, hheader, htuples, Mark.frame]
      | _ => simp [Statement.shape] at hshape
  | update first =>
      cases second with
      | update second =>
          obtain ⟨hassignments, hconditions⟩ := Shape.update.inj hshape
          have hset := Skeleton.frames_separated_of_keys_eq
            (f := fun entry : String × Assignment =>
              Update.assignmentSkeleton entry.1 entry.2) hassignments
            fun a b hab => Update.frames_assignmentSkeleton_eq hab a.1 b.1
          simp only [Statement.skeleton, Update.skeleton, List.map_append, List.map_cons, hset,
            Conditions.frames_whereSkeleton_eq hconditions, Mark.frame]
      | _ => simp [Statement.shape] at hshape
  | delete first =>
      cases second with
      | delete second =>
          have hconditions := Shape.delete.inj hshape
          simp only [Statement.skeleton, Delete.skeleton, List.map_append, List.map_cons,
            Conditions.frames_whereSkeleton_eq hconditions, Mark.frame]
      | _ => simp [Statement.shape] at hshape

end TwinQuery
