/-!
# The compact form of labels

A label of a domain name that holds other characters than those of ASCII is written in ASCII:
first its ASCII characters, then the places of the others as a sequence of differences, each a
number of varying length in base thirty-six.
-/

namespace TwinQuery.Url.Domain.Compact

def digits : List Char :=
  "abcdefghijklmnopqrstuvwxyz0123456789".toList

def digit (n : Nat) : Char :=
  digits.getD n '0'

def digitValue? (c : Char) : Option Nat :=
  digits.idxOf? c

/-- The value below which the digit at a position is the last of its number. Positions are
counted in multiples of thirty-six. -/
def threshold (position bias : Nat) : Nat :=
  max 1 (min 26 (position - bias))

/-- The bias that goes with the size of a difference: a position for each division by
thirty-five that brings it into the first range, and a share of the next one. -/
def biasOf (size : Nat) : Nat :=
  if size ≤ 455 then 36 * size / (size + 38) else 36 + biasOf (size / 35)
termination_by size

/-- The bias after a difference, given how many characters there are now. The first difference
is damped, since it alone reaches up from ASCII. -/
def adapt (difference held : Nat) (first : Bool) : Nat :=
  let size := difference / (if first then 700 else 2)
  biasOf (size + size / held)

/-- A number of varying length, from the digit at a position on. -/
def writeNumber (bias position n : Nat) : List Char :=
  let least := threshold position bias
  let radix := 36 - least
  if n < least then [digit n]
  else digit (least + (n - least) % radix) :: writeNumber bias (position + 36) ((n - least) / radix)
termination_by n
decreasing_by
  have hpos : 1 ≤ threshold position bias := Nat.le_max_left 1 _
  have hle := Nat.div_le_self (n - threshold position bias) (36 - threshold position bias)
  omega

/-- Read a number of varying length from the digit at a position on, whose unit is `weight`:
the value, and what follows. -/
def readNumber? (bias : Nat) :
    (position weight : Nat) → List Char → Option (Nat × List Char)
  | _, _, [] => none
  | position, weight, c :: rest => do
      let value ← digitValue? c
      let least := threshold position bias
      if value < least then return (value * weight, rest)
      else
        let (higher, after) ← readNumber? bias (position + 36) (weight * (36 - least)) rest
        return (value * weight + higher, after)

/-- A character put into a label that grows by increasing code points: its code point, its
place, and how many characters are there before it comes. -/
structure Insertion where
  point : Nat
  place : Nat
  held : Nat

/-- The insertions that make a label out of its ASCII characters: by code point, and those of
one code point from left to right. -/
def insertions (label : List Char) : List Insertion :=
  let others := label.zipIdx.filter fun entry => 0x80 ≤ entry.1.toNat
  let ordered := others.mergeSort fun first second => first.1.toNat ≤ second.1.toNat
  ordered.map fun (c, i) =>
    let before := label.take i
    { point := c.toNat
      place := before.countP (·.toNat ≤ c.toNat)
      held := label.countP (·.toNat < c.toNat) + before.count c }

/-- Where one stands between insertions: the code point and the place that a step would reach
next, and the bias of the next number. -/
structure Cursor where
  point : Nat := 0x80
  place : Nat := 0
  bias : Nat := 72

/-- How many places lie before an insertion. After the last place of a code point comes the
first one of the next. -/
def Cursor.distance (cursor : Cursor) (next : Insertion) : Nat :=
  (next.point - cursor.point) * (next.held + 1) + next.place - cursor.place

/-- The insertion before which so many places lie. -/
def Cursor.ahead (cursor : Cursor) (held distance : Nat) : Insertion :=
  let places := cursor.place + distance
  { point := cursor.point + places / (held + 1), place := places % (held + 1), held }

def Cursor.past (cursor : Cursor) (next : Insertion) : Cursor :=
  { point := next.point
    place := next.place + 1
    bias := adapt (cursor.distance next) (next.held + 1) (cursor.place == 0) }

def writeInsertions : Cursor → List Insertion → List Char
  | _, [] => []
  | cursor, next :: rest =>
      writeNumber cursor.bias 36 (cursor.distance next) ++ writeInsertions (cursor.past next) rest

def encode (label : List Char) : List Char :=
  let basic := label.filter fun c => c.toNat < 0x80
  (if basic.isEmpty then [] else basic ++ ['-']) ++ writeInsertions {} (insertions label)

/-- Read distances and carry out the insertions that they lead to. Every number takes a
character, so the fuel, the characters left, does not run out. -/
def readInsertions? : (fuel : Nat) → Cursor → List Nat → List Char → Option (List Nat)
  | _, _, held, [] => some held
  | 0, _, _, _ => none
  | fuel + 1, cursor, held, cs => do
      let (distance, rest) ← readNumber? cursor.bias 36 1 cs
      let next := cursor.ahead held.length distance
      readInsertions? fuel (cursor.past next) (held.insertIdx next.place next.point) rest

/-- The label that a compact form stands for. The last hyphen ends its ASCII characters, if
there are any. -/
def decode? (cs : List Char) : Option (List Char) := do
  let reversed := cs.reverse
  let basic := ((reversed.dropWhile (· ≠ '-')).drop 1).reverse
  let tail := if basic.isEmpty then cs else (reversed.takeWhile (· ≠ '-')).reverse
  let points ← readInsertions? cs.length {} (basic.map Char.toNat) tail
  points.mapM fun n => if n.isValidChar then some (Char.ofNat n) else none

end TwinQuery.Url.Domain.Compact
