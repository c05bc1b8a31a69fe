import TwinQuery.Json.Token

/-!
# Reading JSON text

The tokens of a text are taken one by one. What is open around the place reached, outermost
last, is the whole state of the reader, so reading is a fold over the tokens. Of two fields of
one name the later counts, and no more than 127 brackets may be open at once.
-/

namespace TwinQuery.Json

/-- An array or object that is still open: what it holds so far, for an object also the name
of the field that is being read. Items stand in reverse. -/
inductive Frame where
  | array (items : List Json)
  | object (fields : Dictionary Json) (name : String)

/-- What may come next. -/
inductive Position where
  /-- A value. -/
  | value
  /-- A value, or the end of an array that is still empty. -/
  | firstItem
  /-- The name of a field of an object with the given fields. -/
  | name (fields : Dictionary Json)
  /-- A name, or the end of an object that is still empty. -/
  | firstName
  /-- The colon after a name. -/
  | colon (fields : Dictionary Json) (name : String)

inductive Progress where
  /-- Something must come. -/
  | expecting (position : Position) (around : List Frame)
  /-- A value has ended: in an open array or object, or at the end of the text. -/
  | ended (value : Json) (around : List Frame)

def depthLimit : Nat := 127

/-- Open an array or object, unless too many are open. -/
def Progress.enter (position : Position) (around : List Frame) (depth : Nat) : Option Progress :=
  if depth < depthLimit then some (.expecting position around) else none

def startValue (around : List Frame) : Token → Option Progress
  | .scalar value => some (.ended value around)
  | .openArray => Progress.enter .firstItem around around.length
  | .openObject => Progress.enter .firstName around around.length
  | _ => none

def Progress.step : Progress → Token → Option Progress
  | .expecting .value around, token => startValue around token
  | .expecting .firstItem around, .closeArray => some (.ended (.array []) around)
  | .expecting .firstItem around, token => startValue (.array [] :: around) token
  | .expecting (.name fields) around, .scalar (.string name) =>
      some (.expecting (.colon fields name) around)
  | .expecting (.name _) _, _ => none
  | .expecting .firstName around, .closeObject => some (.ended (.object []) around)
  | .expecting .firstName around, .scalar (.string name) =>
      some (.expecting (.colon [] name) around)
  | .expecting .firstName _, _ => none
  | .expecting (.colon fields name) around, .colon =>
      some (.expecting .value (.object fields name :: around))
  | .expecting (.colon _ _) _, _ => none
  | .ended value (.array items :: around), .comma =>
      some (.expecting .value (.array (value :: items) :: around))
  | .ended value (.array items :: around), .closeArray =>
      some (.ended (.array (value :: items).reverse) around)
  | .ended value (.object fields name :: around), .comma =>
      some (.expecting (.name (Dictionary.insert name value fields)) around)
  | .ended value (.object fields name :: around), .closeObject =>
      some (.ended (.object (Dictionary.insert name value fields)) around)
  | .ended _ _, _ => none

def Progress.run : Progress → List Token → Option Progress
  | progress, [] => some progress
  | progress, token :: rest => (progress.step token).bind fun next => Progress.run next rest

/-- The value that a text writes, or nothing when it is not a JSON text. -/
def parse? (s : String) : Option Json := do
  let tokens ← tokens? s.toList
  match ← Progress.run (.expecting .value []) tokens with
  | .ended value [] => some value
  | _ => none

end TwinQuery.Json
