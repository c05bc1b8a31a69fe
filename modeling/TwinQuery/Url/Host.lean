import TwinQuery.Decimal.Numeral
import TwinQuery.Text.Parts
import TwinQuery.Url.Domain

/-!
# Hosts

A host is a domain name, an address of four or of sixteen bytes, or, where the scheme is not
one of the special ones, any text.
-/

namespace TwinQuery.Url

inductive Host where
  | name (text : String)
  /-- An address of four bytes, as one number. -/
  | ipv4 (address : Nat)
  /-- An address of eight pieces of two bytes. -/
  | ipv6 (pieces : List Nat)
  deriving DecidableEq, Repr

/-! ## Addresses of four bytes -/

def digits? (base : Nat) (cs : List Char) : Option Nat :=
  cs.foldlM (fun n c => do
    let digit ← hexValue? c
    if digit < base then some (n * base + digit) else none) 0

/-- A part of an address: decimal, octal after a zero, or base sixteen after `0x`. -/
def addressPart? (cs : List Char) : Option Nat :=
  match cs with
  | [] => none
  | '0' :: 'x' :: rest | '0' :: 'X' :: rest => digits? 16 rest
  | '0' :: c :: rest => digits? 8 (c :: rest)
  | cs => digits? 10 cs

def addressParts (name : String) : List (List Char) :=
  let parts := Text.parts (· == '.') name.toList
  match parts.reverse with
  | [] :: earlier :: rest => (earlier :: rest).reverse
  | _ => parts

/-- Whether the last part of a name is a number, so that the name has to be an address. -/
def endsInNumber (name : String) : Bool :=
  match (addressParts name).getLast? with
  | none => false
  | some part =>
      (!part.isEmpty && part.all Char.isDigit) ||
        (match part with
          | '0' :: 'x' :: rest | '0' :: 'X' :: rest => (digits? 16 rest).isSome
          | _ => false)

/-- The address that a name writes: the last part fills the bytes that the others leave. -/
def ipv4? (name : String) : Except Fault Nat :=
  let parts := addressParts name
  match parts.mapM addressPart? with
  | none => .error .ipv4Address
  | some numbers =>
      if 4 < numbers.length then .error .ipv4Address
      else
        match numbers.reverse with
        | [] => .error .ipv4Address
        | last :: earlier =>
            if earlier.all (· < 256) && decide (last < 1 <<< (8 * (4 - earlier.length))) then
              let leading := (earlier.reverse.zip [24, 16, 8, 0]).foldl
                (fun n (part, shift) => n + part <<< shift) 0
              .ok (leading + last)
            else .error .ipv4Address

def ipv4Text (address : Nat) : String :=
  ".".intercalate ([24, 16, 8, 0].map fun shift => ((address >>> shift) % 256).repr)

/-! ## Addresses of eight pieces -/

def piece? (cs : List Char) : Option Nat :=
  if cs.isEmpty ∨ 4 < cs.length then none else digits? 16 cs

def byte? (cs : List Char) : Option Nat :=
  match cs with
  | [] => none
  | '0' :: _ :: _ => none
  | cs => (Decimal.nat? cs).bind fun n => if n < 256 then some n else none

/-- The pieces of a run between colons. The last part of the last run may be an address of four
bytes, which takes two pieces. -/
def pieces? (last : Bool) : List (List Char) → Option (List Nat)
  | [] => some []
  | [part] =>
      if last && part.contains '.' then
        match (Text.parts (· == '.') part).mapM byte? with
        | some [a, b, c, d] => some [a * 256 + b, c * 256 + d]
        | _ => none
      else (piece? part).map fun n => [n]
  | part :: rest => do
      let n ← piece? part
      return n :: (← pieces? last rest)

def run? (last : Bool) (cs : List Char) : Option (List Nat) :=
  if cs.isEmpty then some [] else pieces? last (Text.parts (· == ':') cs)

/-- Cut a text at its first pair of colons. -/
def cutDouble : List Char → Option (List Char × List Char)
  | [] => none
  | ':' :: ':' :: rest => some ([], rest)
  | c :: rest => (cutDouble rest).map fun (before, after) => (c :: before, after)

/-- The address that a text between brackets writes: eight pieces, a run of zeros written as
two colons once. -/
def ipv6? (cs : List Char) : Except Fault (List Nat) :=
  let pieces : Option (List Nat) :=
    match cutDouble cs with
    | none => (run? true cs).bind fun pieces => if pieces.length = 8 then some pieces else none
    | some (before, after) => do
        let first ← run? false before
        let second ← run? true after
        let held := first.length + second.length
        if held < 8 then return first ++ List.replicate (8 - held) 0 ++ second else none
  match pieces with
  | some pieces => .ok pieces
  | none => .error .ipv6Address

def zeroRun (pieces : List Nat) : Nat :=
  (pieces.takeWhile (· == 0)).length

/-- The place and the length of the longest run of zeros, the first of several. -/
def longestZeros (pieces : List Nat) : Nat × Nat :=
  (List.range pieces.length).foldl (fun best place =>
    let length := zeroRun (pieces.drop place)
    if best.2 < length then (place, length) else best) (0, 0)

def piecesText (pieces : List Nat) : List Char :=
  [':'].intercalate (pieces.map (Nat.toDigits 16))

/-- The text of an address, its longest run of at least two zeros written as two colons. -/
def ipv6Text (pieces : List Nat) : String :=
  let (place, length) := longestZeros pieces
  String.ofList
    (if length < 2 then piecesText pieces
    else
      piecesText (pieces.take place) ++ [':', ':'] ++ piecesText (pieces.drop (place + length)))

/-! ## Hosts -/

/-- What no host holds, whatever the scheme. -/
def isForbiddenInHost (c : Char) : Bool :=
  ['\x00', '\t', '\n', '\x0d', ' ', '#', '/', ':', '<', '>', '?', '@', '[', '\\', ']', '^',
    '|'].contains c

def bracketed? (cs : List Char) : Option (List Char) :=
  match cs.reverse with
  | ']' :: inner => some inner.reverse
  | _ => none

namespace Host

/-- Read a host. One of a special scheme is a domain name or an address. -/
def parse (special : Bool) (cs : List Char) : Except Fault Host :=
  match cs with
  | '[' :: rest =>
      match bracketed? rest with
      | some inner => (ipv6? inner).map Host.ipv6
      | none => .error .ipv6Address
  | cs =>
      if special then do
        let text ← Domain.ofBytes (percentDecode cs)
        if text.isEmpty then .error .emptyHost
        else if endsInNumber text then return .ipv4 (← ipv4? text)
        else return .name text
      else if cs.any isForbiddenInHost then .error .hostCharacter
      else .ok (.name (percentEncode controlSet cs))

def text : Host → String
  | name text => text
  | ipv4 address => ipv4Text address
  | ipv6 pieces => "[" ++ ipv6Text pieces ++ "]"

end Host

end TwinQuery.Url
