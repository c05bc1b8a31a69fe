import TwinQuery.Proofs.Statement.Building
import TwinQuery.Proofs.Statement.Outline

/-!
# Segments of a text

A text with values in it consists of segments and of what stands for the values between them:
literals in one style, numbers in the other. `Rendering.one_template` says that both styles fill
one row of segments, and that which segments these are depends on the outline of what is rendered
alone, so that no value ever reaches them.
-/

namespace TwinQuery

/-! ## Templates in segments -/

namespace Template

/-- The texts before the first slot, between each slot and the next, and behind the last one. -/
def segments : Template → List String
  | [] => [""]
  | .text fixed :: rest => (segments rest).modifyHead (fixed ++ ·)
  | .slot _ :: rest => "" :: segments rest

/-- Segments with a placeholder between each and the next. -/
def weave : List String → List String → String
  | [], _ => ""
  | segment :: _, [] => segment
  | segment :: segments, placeholder :: placeholders =>
      segment ++ placeholder ++ weave segments placeholders

/-- There is one segment more than there are values. -/
theorem length_segments (template : Template) :
    template.segments.length = template.values.length + 1 := by
  induction template with
  | nil => rfl
  | cons piece rest ih =>
      cases piece with
      | text fixed => simpa [segments, values] using ih
      | slot value => simpa [segments, values] using ih

/-- The segments of a template do not depend on its values. -/
theorem segments_map_blank (template : Template) :
    segments (template.map Piece.blank) = segments template := by
  induction template with
  | nil => rfl
  | cons piece rest ih =>
      cases piece with
      | text fixed => simp [segments, Piece.blank, ih]
      | slot value => simp [segments, Piece.blank, ih]

theorem weave_modifyHead {segments : List String} (hsegments : segments ≠ []) (fixed : String)
    (placeholders : List String) :
    weave (segments.modifyHead (fixed ++ ·)) placeholders =
      fixed ++ weave segments placeholders := by
  cases segments with
  | nil => exact absurd rfl hsegments
  | cons segment later =>
      cases placeholders with
      | nil => rfl
      | cons placeholder placeholders => simp [weave, String.append_assoc]

end Template

/-- What stands for values in a text, given the values before them. -/
def PlaceholderStyle.placeholders (style : PlaceholderStyle) (before : Nat)
    (values : List Scalar) : List String :=
  match style with
  | .inline => values.map Scalar.literal
  | .numbered => (List.range' (before + 1) values.length).map fun number => "$" ++ number.repr

theorem Bindings.placeholders_cons (bindings : Bindings) (value : Scalar) (values : List Scalar) :
    bindings.style.placeholders bindings.values.length (value :: values) =
      (bindings.bind value).1 ::
        bindings.style.placeholders (bindings.bind value).2.values.length values := by
  cases hstyle : bindings.style with
  | inline => simp [PlaceholderStyle.placeholders, bind, hstyle]
  | numbered => simp [PlaceholderStyle.placeholders, bind, hstyle, List.range'_succ]

/-- Filling a template weaves what stands for its values into its segments. -/
theorem Bindings.fst_fill (template : Template) (bindings : Bindings) :
    (bindings.fill template).1 =
      Template.weave template.segments
        (bindings.style.placeholders bindings.values.length template.values) := by
  induction template generalizing bindings with
  | nil =>
      cases hstyle : bindings.style with
      | inline => rfl
      | numbered => rfl
  | cons piece rest ih =>
      cases piece with
      | text fixed =>
          have hsegments : Template.segments rest ≠ [] := by
            apply List.ne_nil_of_length_pos
            rw [Template.length_segments]
            exact Nat.succ_pos _
          simp only [fill, Template.segments, Template.values, ih]
          exact (Template.weave_modifyHead hsegments fixed _).symm
      | slot value =>
          have hstyle : (bindings.bind value).2.style = bindings.style := rfl
          simp only [fill, Template.segments, Template.values, ih, hstyle, placeholders_cons,
            Template.weave, String.empty_append]

/-! ## One template -/

namespace Rendering

variable {first second : Rendering}

/-- Renderings of one outline have the same segments. -/
theorem segments_eq_of_outline_eq (houtline : first.outline = second.outline) :
    first.template.segments = second.template.segments := by
  rw [← Template.segments_map_blank, blank_template_eq houtline, Template.segments_map_blank]

/-- In both styles and whatever values are held before, a rendering weaves what stands for `values`
into `segments` and adds these values, in this order, to those held. -/
structure Weaves (rendering : Rendering) (segments : List String) (values : List Scalar) :
    Prop where
  length : segments.length = values.length + 1
  inline : ∀ held : List Scalar, Bindings.fill ⟨.inline, held⟩ rendering.template =
    (Template.weave segments (values.map Scalar.literal), ⟨.inline, held ++ values⟩)
  numbered : ∀ held : List Scalar, Bindings.fill ⟨.numbered, held⟩ rendering.template =
    (Template.weave segments
      ((List.range' (held.length + 1) values.length).map fun number => "$" ++ number.repr),
      ⟨.numbered, held ++ values⟩)
  /-- The two texts of a statement are those with no values before, and what it binds in either
  are these values. -/
  texts : ∀ written, rendering = .statement written →
    written.sql = Template.weave segments (values.map Scalar.literal) ∧
      written.bindings = values ∧
      written.parameterized =
        (Template.weave segments
          ((List.range' 1 values.length).map fun number => "$" ++ number.repr), values)

/-- Every rendering weaves its values into its segments. -/
theorem weaves (rendering : Rendering) :
    Weaves rendering rendering.template.segments rendering.template.values where
  length := Template.length_segments rendering.template
  inline held := Prod.ext (Bindings.fst_fill _ _) (Bindings.fill_snd _ _)
  numbered held := Prod.ext (Bindings.fst_fill _ _) (Bindings.fill_snd _ _)
  texts := by
    rintro written rfl
    exact ⟨Bindings.fst_fill _ _, Bindings.values_fill _ _,
      Prod.ext (Bindings.fst_fill _ _) (Bindings.values_fill _ _)⟩

/-- Both styles render one template: there are segments and values such that the literals of the
values stand between the segments in one style and their numbers in the other, and every rendering
of the same outline has these segments with values of its own, hence the same text where numbers
stand for the values. -/
theorem one_template (rendering : Rendering) :
    ∃ segments values, Weaves rendering segments values ∧
      ∀ other : Rendering, other.outline = rendering.outline →
        (∃ others, others.length = values.length ∧ Weaves other segments others) ∧
          ∀ held kept : List Scalar, held.length = kept.length →
            (Bindings.fill ⟨.numbered, held⟩ other.template).1 =
              (Bindings.fill ⟨.numbered, kept⟩ rendering.template).1 := by
  refine ⟨_, _, rendering.weaves, fun other houtline => ?_⟩
  have hsegments := segments_eq_of_outline_eq houtline
  have hother := other.weaves
  rw [hsegments] at hother
  -- one segment more than values in both, so the values are equally many
  have hlength : other.template.values.length = rendering.template.values.length :=
    Nat.succ.inj (hother.length.symm.trans rendering.weaves.length)
  refine ⟨⟨_, hlength, hother⟩, fun held kept hheld => ?_⟩
  rw [hother.numbered, rendering.weaves.numbered, hlength, hheld]

/-- The update that names users, adds to their visits, and chooses them by two identifiers. -/
def visited (name amount first second : Scalar) : Rendering :=
  .statement (.update (Update.build ⟨"users"⟩
    [.set "name" name, .arithmetic "visits" .increment amount,
      .condition (.compare "id" .isIn (.list [first, second]))]))

/-- A value that looks like a placeholder, one with a quote, and NULL leave the text alone. -/
theorem one_template_visited :
    let written := visited (.text "O'Brien") (.int 1) (.int 4) (.int 5)
    let other := visited .null (.float 0.5) (.text "$1") (.bool true)
    other.outline = written.outline ∧
      (Bindings.numbered.fill other.template).1 = (Bindings.numbered.fill written.template).1 := by
  intro written other
  have houtline : other.outline = written.outline := by decide
  obtain ⟨_, _, _, hsame⟩ := one_template written
  exact ⟨houtline, (hsame other houtline).2 [] [] rfl⟩

end Rendering

end TwinQuery
