/-!
# Percent coding

In a URL a byte may be written as a percent sign and two base-sixteen digits. Each component
of a URL has its own set of characters that have to be written so; whatever is not ASCII
always is, byte by byte of its UTF-8 form.
-/

namespace TwinQuery.Url

/-- A set of ASCII characters that a component cannot hold as they are. -/
abbrev EncodeSet := Char → Bool

def controlSet : EncodeSet := fun c =>
  c.toNat < 0x20 || c.toNat == 0x7F

def fragmentSet : EncodeSet := fun c =>
  controlSet c || [' ', '"', '<', '>', '\x60'].contains c

/-- What a query cannot hold, one of a special scheme no single quote either. -/
def querySet (special : Bool) : EncodeSet := fun c =>
  controlSet c || [' ', '"', '#', '<', '>'].contains c || (special && c == '\'')

def pathSet : EncodeSet := fun c =>
  fragmentSet c || ['#', '?', '\x7b', '\x7d'].contains c

def userinfoSet : EncodeSet := fun c =>
  pathSet c || ['/', ':', ';', '=', '@', '[', '\\', ']', '^', '|'].contains c

def encodeByte (byte : Nat) : List Char :=
  ['%', (Nat.digitChar (byte / 16)).toUpper, (Nat.digitChar (byte % 16)).toUpper]

def utf8Bytes (c : Char) : List Nat :=
  let n := c.toNat
  if n < 0x80 then [n]
  else if n < 0x800 then [0xC0 + n / 0x40, 0x80 + n % 0x40]
  else if n < 0x10000 then [0xE0 + n / 0x1000, 0x80 + n / 0x40 % 0x40, 0x80 + n % 0x40]
  else
    [0xF0 + n / 0x40000, 0x80 + n / 0x1000 % 0x40, 0x80 + n / 0x40 % 0x40, 0x80 + n % 0x40]

def encodeChar (set : EncodeSet) (c : Char) : List Char :=
  if c.toNat < 0x80 && !set c then [c] else (utf8Bytes c).flatMap encodeByte

/-- A text as a component with the given set holds it. -/
def percentEncode (set : EncodeSet) (cs : List Char) : String :=
  String.ofList (cs.flatMap (encodeChar set))

def hexValue? (c : Char) : Option Nat :=
  if c.isDigit then some (c.toNat - '0'.toNat)
  else if 'a' ≤ c ∧ c ≤ 'f' then some (c.toNat - 'a'.toNat + 10)
  else if 'A' ≤ c ∧ c ≤ 'F' then some (c.toNat - 'A'.toNat + 10)
  else none

/-- The bytes that a text writes. A percent sign without two digits stands for itself. -/
def percentDecode : List Char → List Nat
  | [] => []
  | '%' :: a :: b :: rest =>
      match hexValue? a, hexValue? b with
      | some high, some low => (high * 16 + low) :: percentDecode rest
      | _, _ => '%'.toNat :: percentDecode (a :: b :: rest)
  | c :: rest => utf8Bytes c ++ percentDecode rest

end TwinQuery.Url
