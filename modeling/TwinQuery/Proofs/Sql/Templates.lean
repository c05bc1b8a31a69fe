import TwinQuery.Proofs.Sql.Skeleton

/-!
# Reading templates

A template is read as a skeleton when both are filled by the same bindings, whatever these are.
`ReadsAs` and `LeadsAs` say of a template what `Reads` and `Leads` say of a text, and templates
compose as texts do, since the values of the first part move the numbers of the second part in
the text and in the skeleton alike.
-/

namespace TwinQuery

namespace Bindings

def after (bindings : Bindings) (values : List Scalar) : Bindings :=
  { bindings with values := bindings.values ++ values }

theorem after_nil (bindings : Bindings) : bindings.after [] = bindings := by
  simp [after]

theorem after_after (bindings : Bindings) (first second : List Scalar) :
    (bindings.after first).after second = bindings.after (first ++ second) := by
  simp [after, List.append_assoc]

/-- The second of two templates is filled from the bindings that the values of the first one
left. -/
theorem fst_fill_append (bindings : Bindings) (first second : Template) :
    (bindings.fill (first ++ second)).1 =
      (bindings.fill first).1 ++ ((bindings.after first.values).fill second).1 := by
  rw [fill_append, fill_snd]
  rfl

/-- A text may be cut in two. -/
theorem fill_text_append (bindings : Bindings) (first second : String) (rest : Template) :
    bindings.fill (.text (first ++ second) :: rest) =
      bindings.fill (.text first :: .text second :: rest) := by
  simp [fill, String.append_assoc]

/-- Texts with a separator between them may be cut at the separators. -/
theorem fill_text_intercalate (bindings : Bindings) (separator : String) (texts : List String)
    (rest : Template) :
    bindings.fill (.text (separator.intercalate texts) :: rest) =
      bindings.fill (Template.joined separator (texts.map fun text => [.text text]) ++ rest) := by
  induction texts with
  | nil => simp [fill, Template.joined]
  | cons text texts ih =>
      cases texts with
      | nil => simp [Template.joined]
      | cons following texts =>
          have hjoined : Template.joined separator
              ((text :: following :: texts).map fun text => [.text text]) ++ rest =
              .text text :: .text separator ::
                (Template.joined separator ((following :: texts).map fun text => [.text text]) ++
                  rest) := rfl
          rw [hjoined, String.intercalate_cons_cons, fill_text_append, fill_text_append]
          simp only [fill] at ih ⊢
          rw [← ih]

end Bindings

namespace Sql

/-! ## Filling skeletons -/

namespace Skeleton

theorem slots_append (first second : Skeleton) :
    slots (first ++ second) = slots first ++ slots second := by
  induction first with
  | nil => rfl
  | cons mark rest ih => cases mark <;> simp [slots, ih]

/-- A skeleton is filled part by part. -/
theorem fill_append (bindings : Bindings) (first second : Skeleton) :
    fill bindings (first ++ second) =
      fill bindings first ++ fill (bindings.after (slots first)) second := by
  induction first generalizing bindings with
  | nil => simp [fill, slots, Bindings.after_nil]
  | cons mark rest ih =>
      cases mark with
      | slot value =>
          have hbind : (bindings.bind value).2 = bindings.after [value] := rfl
          simp only [List.cons_append, fill, slots, ih, hbind, Bindings.after_after,
            List.nil_append]
      | column name => simp [fill, slots, ih]
      | _ => simp [fill, slots, ih]

theorem slots_fixed (read : List Token) : slots (read.map Mark.fixed) = [] := by
  induction read with
  | nil => rfl
  | cons token rest ih => exact ih

theorem fill_fixed (bindings : Bindings) (read : List Token) :
    fill bindings (read.map Mark.fixed) = read := by
  induction read with
  | nil => rfl
  | cons token rest ih => exact congrArg (token :: ·) ih

end Skeleton

/-! ## Templates as skeletons -/

/-- However it is filled, a template is read as a skeleton with the same values. -/
structure ReadsAs (template : Template) (skeleton : Skeleton) : Prop where
  values : template.values = skeleton.slots
  reads : ∀ bindings, Reads (bindings.fill template).1 (skeleton.fill bindings)

/-- However it is filled, a template is read as a skeleton with the same values, and what
follows it as if it stood alone. -/
structure LeadsAs (template : Template) (skeleton : Skeleton) : Prop where
  values : template.values = skeleton.slots
  leads : ∀ bindings, Leads (bindings.fill template).1 (skeleton.fill bindings)

/-- However it is filled, a template continues no token in front of it. -/
def BreaksFirst (template : Template) : Prop :=
  ∀ bindings : Bindings, Breaks (bindings.fill template).1.toList

section Compose

variable {first second : Template} {left right : Skeleton}

/-- Templates are read one after another where the second one breaks. -/
theorem ReadsAs.append (hfirst : ReadsAs first left) (hsecond : ReadsAs second right)
    (hbreak : BreaksFirst second) : ReadsAs (first ++ second) (left ++ right) where
  values := by
    rw [Template.values_append, Skeleton.slots_append, hfirst.values, hsecond.values]
  reads := by
    intro bindings
    rw [Bindings.fst_fill_append, Skeleton.fill_append, ← hfirst.values]
    exact (hfirst.reads bindings).append (hsecond.reads _) (hbreak _)

/-- A template that leaves the reading open may stand in front of any other. -/
theorem LeadsAs.append (hfirst : LeadsAs first left) (hsecond : ReadsAs second right) :
    ReadsAs (first ++ second) (left ++ right) where
  values := by
    rw [Template.values_append, Skeleton.slots_append, hfirst.values, hsecond.values]
  reads := by
    intro bindings
    rw [Bindings.fst_fill_append, Skeleton.fill_append, ← hfirst.values]
    exact (hfirst.leads bindings).reads_append (hsecond.reads _)

/-- Templates that are filled alike are read alike. -/
theorem ReadsAs.of_fill_eq (hsecond : ReadsAs second left)
    (hfill : ∀ bindings, Bindings.fill bindings first = bindings.fill second) :
    ReadsAs first left where
  values := by
    have hvalues := congrArg (fun filled : String × Bindings => filled.2.values)
      (hfill Bindings.inline)
    simp only [Bindings.values_fill] at hvalues
    exact (List.append_cancel_left hvalues).trans hsecond.values
  reads := by
    intro bindings
    rw [hfill]
    exact hsecond.reads bindings

theorem readsAs_nil : ReadsAs [] [] where
  values := rfl
  reads := by
    intro bindings
    exact tokens_nil

end Compose

theorem breaksFirst_nil : BreaksFirst [] := by
  intro bindings
  exact breaks_nil

theorem breaksFirst_text {text : String} {c : Char} {cs : List Char}
    (htext : text.toList = c :: cs) (hc : isBreak c = true) (rest : Template) :
    BreaksFirst (.text text :: rest) := by
  intro bindings
  simp only [Bindings.fill, String.toList_append, htext, List.cons_append]
  exact breaks_cons hc _

theorem Breaks.append {first second : List Char} (hfirst : Breaks first) (hsecond : Breaks second) :
    Breaks (first ++ second) := by
  cases first with
  | nil => exact hsecond
  | cons c rest => exact breaks_cons (hfirst c rfl) _

theorem BreaksFirst.append {first second : Template} (hfirst : BreaksFirst first)
    (hsecond : BreaksFirst second) : BreaksFirst (first ++ second) := by
  intro bindings
  rw [Bindings.fst_fill_append, String.toList_append]
  exact (hfirst bindings).append (hsecond _)

/-! ## The pieces of templates -/

theorem readsAs_fixed {text : String} {read : List Token} (htext : Reads text read) :
    ReadsAs [.text text] (read.map Mark.fixed) where
  values := (Skeleton.slots_fixed read).symm
  reads := by
    intro bindings
    rw [Skeleton.fill_fixed]
    simpa [Bindings.fill] using htext

theorem leadsAs_fixed {text : String} {read : List Token} (htext : Leads text read) :
    LeadsAs [.text text] (read.map Mark.fixed) where
  values := (Skeleton.slots_fixed read).symm
  leads := by
    intro bindings
    rw [Skeleton.fill_fixed]
    simpa [Bindings.fill] using htext

theorem readsAs_table (table : TableName) :
    ReadsAs [.text (Identifier.quote table.text)] [.table table] where
  values := rfl
  reads := by
    intro bindings
    simpa [Bindings.fill, Skeleton.fill] using reads_quote table.text

/-- A column is read as one, whatever its name. -/
theorem readsAs_column (name : String) :
    ReadsAs [.text (Identifier.column name)] [.column name] where
  values := rfl
  reads := by
    intro bindings
    simpa [Bindings.fill, Skeleton.fill] using reads_column name

theorem readsAs_count (n : UInt64) : ReadsAs [.text n.toNat.repr] [.count n] where
  values := rfl
  reads := by
    intro bindings
    simpa [Bindings.fill, Skeleton.fill] using reads_repr n.toNat

/-- A value is read as the one token that stands for it in the style of the bindings. -/
theorem readsAs_slot (value : Scalar) : ReadsAs [.slot value] [.slot value] where
  values := rfl
  reads := by
    intro bindings
    cases hstyle : bindings.style with
    | inline =>
        simpa [Bindings.fill, Bindings.bind, Skeleton.fill, Skeleton.valueToken, hstyle] using
          reads_literal value
    | numbered =>
        simpa [Bindings.fill, Bindings.bind, Skeleton.fill, Skeleton.valueToken, hstyle] using
          reads_placeholder (bindings.values.length + 1)

/-- Parts with a separator between them are read as their skeletons with its token between
them. -/
theorem readsAs_joined {α : Type} {separator : String} {token : Token} {c : Char} {cs : List Char}
    (hseparator : Leads separator [token]) (hchars : separator.toList = c :: cs)
    (hc : isBreak c = true) {template : α → Template} {skeleton : α → Skeleton} {parts : List α}
    (hparts : ∀ part ∈ parts, ReadsAs (template part) (skeleton part)) :
    ReadsAs (Template.joined separator (parts.map template))
      ([Mark.fixed token].intercalate (parts.map skeleton)) := by
  induction parts with
  | nil => exact readsAs_nil
  | cons part rest ih =>
      have hpart := hparts part List.mem_cons_self
      have hrest := ih fun later hlater => hparts later (List.mem_cons_of_mem _ hlater)
      -- no separator stands behind the last part
      cases rest with
      | nil => simpa [Template.joined] using hpart
      | cons following rest =>
          have hfollowing := (leadsAs_fixed hseparator).append hrest
          have hall := hpart.append hfollowing (breaksFirst_text hchars hc _)
          simpa only [List.map_cons, Template.joined, List.intercalate_cons_cons, List.map_nil,
            List.cons_append, List.nil_append, List.append_assoc] using hall

/-- Parts with commas between them are read part by part. -/
theorem readsAs_commas {α : Type} {template : α → Template} {skeleton : α → Skeleton}
    {parts : List α} (hparts : ∀ part ∈ parts, ReadsAs (template part) (skeleton part)) :
    ReadsAs (Template.joined ", " (parts.map template))
      (Skeleton.separated (parts.map skeleton)) :=
  readsAs_joined leads_comma rfl rfl hparts

/-- A list of texts with commas between them. -/
theorem readsAs_text_commas {α : Type} {text : α → String} {skeleton : α → Skeleton}
    {parts : List α} (hparts : ∀ part ∈ parts, ReadsAs [.text (text part)] (skeleton part)) :
    ReadsAs [.text (", ".intercalate (parts.map text))]
      (Skeleton.separated (parts.map skeleton)) := by
  have hjoined := readsAs_commas hparts
  refine hjoined.of_fill_eq fun bindings => ?_
  rw [Bindings.fill_text_intercalate, List.append_nil, List.map_map]
  rfl

end Sql

end TwinQuery
