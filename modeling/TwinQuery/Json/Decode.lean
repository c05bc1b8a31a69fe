import TwinQuery.Decimal.Layout
import TwinQuery.Json.Basic
import TwinQuery.Text.Escaped

/-!
# Reading typed values out of JSON

A typed value is read strictly: what is found either has the form asked for or the reader says
what it found and what it expected. The fields of an object are read in the order of their
names and the first that does not fit is reported; fields that nobody asks for are ignored.
-/

namespace TwinQuery.Json

/-- Why a JSON value is not of the form asked for. -/
inductive Mismatch where
  /-- A value of another form. -/
  | invalidType (found : Json) (expected : String)
  /-- A value of the right form that is out of range. -/
  | invalidValue (found : String) (expected : String)
  /-- A list of another length. -/
  | invalidLength (length : Nat) (expected : String)
  /-- A name that is not one of those to choose from. -/
  | unknownVariant (name : String) (known : List String)
  /-- A field that has to be there and is not. -/
  | missingField (name : String)
  /-- A value that fits none of the forms of a type. -/
  | noVariant (type : String)

/-- What a value is, for a reader that expected something else. -/
def describe : Json → String
  | .null => "null"
  | .bool value => "boolean \x60" ++ (if value then "true" else "false") ++ "\x60"
  | .int value => "integer \x60" ++ Decimal.ofInt value ++ "\x60"
  | .float value => "floating point \x60" ++ Decimal.Layout.json.text value ++ "\x60"
  | .string value => "string " ++ Text.escaped value
  | .array _ => "sequence"
  | .object _ => "map"

/-- A choice of names, for a reader that knows none other. -/
def oneOf (names : List String) : String :=
  let marked := names.map fun name => "\x60" ++ name ++ "\x60"
  match marked with
  | [first, second] => "expected " ++ first ++ " or " ++ second
  | marked => "expected one of " ++ ", ".intercalate marked

namespace Mismatch

def message : Mismatch → String
  | invalidType found expected => "invalid type: " ++ found.describe ++ ", expected " ++ expected
  | invalidValue found expected => "invalid value: " ++ found ++ ", expected " ++ expected
  | invalidLength length expected =>
      "invalid length " ++ Decimal.ofInt length ++ ", expected " ++ expected
  | unknownVariant name known => "unknown variant \x60" ++ name ++ "\x60, " ++ oneOf known
  | missingField name => "missing field \x60" ++ name ++ "\x60"
  | noVariant type => "data did not match any variant of untagged enum " ++ type

end Mismatch

abbrev Decoder (α : Type) := Json → Except Mismatch α

def decodeUnsigned : Decoder UInt64
  | .int (.ofNat n) => .ok n.toUInt64
  | .int (.negSucc n) => .error (.invalidValue (describe (.int (.negSucc n))) "u64")
  | found => .error (.invalidType found "u64")

def decodeString : Decoder String
  | .string value => .ok value
  | found => .error (.invalidType found "a string")

def decodeOption {α : Type} (decoder : Decoder α) : Decoder (Option α)
  | .null => .ok none
  | found => (decoder found).map some

def decodeDictionary {α : Type} (decoder : Decoder α) : Decoder (Dictionary α)
  | .object fields => fields.mapM fun (name, value) => (decoder value).map fun read => (name, read)
  | found => .error (.invalidType found "a map")

/-- One of a list of names, given as a string or as the only field of an object, with null as
its value. -/
def decodeName {α : Type} (choices : List (String × α)) : Decoder α
  | .string name => choose name
  | .object [(name, value)] => do
      let choice ← choose name
      match value with
      | .null => .ok choice
      | found => .error (.invalidType found "unit")
  | .object _ => .error (.invalidValue "map" "map with a single key")
  | found => .error (.invalidType found "string or map")
where
  choose (name : String) : Except Mismatch α :=
    match choices.lookup name with
    | some choice => .ok choice
    | none => .error (.unknownVariant name (choices.map (·.1)))

/-- Read the fields of a record into a value that is filled in step by step, whether they come
as an object or as the list of their values in the order of `fields`. -/
def decodeRecord {α : Type} (type : String) (start : α)
    (fields : List (String × (α → Json → Except Mismatch α))) : Decoder α
  | .object found =>
      found.foldlM (fun (held : α) (entry : String × Json) =>
        match fields.lookup entry.1 with
        | some read => read held entry.2
        | none => .ok held) start
  | .array items => do
      let read ← (fields.zip items).foldlM (fun (held : α) entry => entry.1.2 held entry.2) start
      if fields.length < items.length then
        .error (.invalidLength items.length "fewer elements in array")
      else .ok read
  | found => .error (.invalidType found ("struct " ++ type))

/-- A record of which no field is found keeps what it starts with. -/
theorem decodeRecord_of_unknown {α : Type} (type : String) (start : α)
    (fields : List (String × (α → Json → Except Mismatch α))) {found : Dictionary Json}
    (hunknown : ∀ entry ∈ found, entry.1 ∉ fields.map Prod.fst) :
    decodeRecord type start fields (.object found) = .ok start := by
  rw [decodeRecord]
  induction found with
  | nil => rfl
  | cons entry rest ih =>
      have hnone : fields.lookup entry.1 = none := by
        rw [List.lookup_eq_none_iff]
        intro field hfield
        rw [bne_iff_ne]
        exact fun heq => hunknown entry List.mem_cons_self (heq ▸ List.mem_map_of_mem hfield)
      rw [List.foldlM_cons, hnone]
      exact ih fun later hlater => hunknown later (List.mem_cons_of_mem _ hlater)

end TwinQuery.Json
