import TwinQuery.Scalar

/-!
# Templates and bindings

The text of a statement is a template: pieces of fixed text, and slots that hold the values of
the statement. Bindings fill the slots in order, either by writing the literal of each value
or by numbering the slots `$1`, `$2`, and so on, and in both styles collect the values. The
fixed text never depends on a value. `values_fill` says that the values are collected in the
order in which they appear, and `fill_append` that a template is filled part by part.
-/

namespace TwinQuery

/-- A piece of the text of a statement. -/
inductive Piece where
  | text (fixed : String)
  | slot (value : Scalar)
  deriving DecidableEq, Repr

/-- The text of a statement with its values left in slots. -/
abbrev Template := List Piece

namespace Template

/-- The templates one after another, a text between each and the next. -/
def joined (separator : String) : List Template → Template
  | [] => []
  | [template] => template
  | template :: next :: rest => template ++ .text separator :: joined separator (next :: rest)

/-- The values in the slots, in order. -/
def values : Template → List Scalar
  | [] => []
  | .text _ :: rest => values rest
  | .slot value :: rest => value :: values rest

theorem values_append (first second : Template) :
    values (first ++ second) = values first ++ values second := by
  induction first with
  | nil => rfl
  | cons piece rest ih =>
    cases piece with
    | text fixed => exact ih
    | slot value => exact congrArg (value :: ·) ih

end Template

/-- What stands in the text for a value. -/
inductive PlaceholderStyle where
  /-- The literal of the value. -/
  | inline
  /-- A dollar sign and the number of the slot. -/
  | numbered
  deriving DecidableEq, Repr

/-- The values met so far in the text of a statement, in the order in which they appear. -/
structure Bindings where
  style : PlaceholderStyle
  values : List Scalar := []
  deriving Repr

namespace Bindings

/-- No values yet, literals in the text. -/
def inline : Bindings :=
  { style := .inline }

/-- No values yet, numbers in the text. -/
def numbered : Bindings :=
  { style := .numbered }

/-- Add a value and say what stands for it in the text. -/
def bind (bindings : Bindings) (value : Scalar) : String × Bindings :=
  let values := bindings.values ++ [value]
  let placeholder :=
    match bindings.style with
    | .inline => value.literal
    | .numbered => "$" ++ values.length.repr
  (placeholder, { bindings with values })

/-- Fill the slots of a template in order. -/
def fill (bindings : Bindings) : Template → String × Bindings
  | [] => ("", bindings)
  | .text fixed :: rest =>
      let (text, filled) := bindings.fill rest
      (fixed ++ text, filled)
  | .slot value :: rest =>
      let (placeholder, bound) := bindings.bind value
      let (text, filled) := bound.fill rest
      (placeholder ++ text, filled)

theorem style_fill (template : Template) (bindings : Bindings) :
    (bindings.fill template).2.style = bindings.style := by
  induction template generalizing bindings with
  | nil => rfl
  | cons piece rest ih =>
    cases piece with
    | text fixed => exact ih bindings
    | slot value => exact ih (bindings.bind value).2

/-- Filling a template adds its values, in the order in which they appear in the text. -/
theorem values_fill (template : Template) (bindings : Bindings) :
    (bindings.fill template).2.values = bindings.values ++ template.values := by
  induction template generalizing bindings with
  | nil => exact (List.append_nil _).symm
  | cons piece rest ih =>
    cases piece with
    | text fixed => exact ih bindings
    | slot value =>
      refine (ih (bindings.bind value).2).trans ?_
      simp [bind, Template.values]

/-- The bindings after a template. They depend on its values only. -/
theorem fill_snd (template : Template) (bindings : Bindings) :
    (bindings.fill template).2 =
      { bindings with values := bindings.values ++ template.values } := by
  have hstyle := style_fill template bindings
  have hvalues := values_fill template bindings
  cases h : (bindings.fill template).2
  simp_all

/-- A template is filled part by part. -/
theorem fill_append (first second : Template) (bindings : Bindings) :
    bindings.fill (first ++ second) =
      ((bindings.fill first).1 ++ ((bindings.fill first).2.fill second).1,
        ((bindings.fill first).2.fill second).2) := by
  induction first generalizing bindings with
  | nil => simp [fill]
  | cons piece rest ih =>
    cases piece with
    | text fixed => simp [fill, ih, String.append_assoc]
    | slot value => simp [fill, ih, String.append_assoc]

end Bindings

end TwinQuery
