/-!
# Text as bytes

Texts are cut by their size in bytes but only between characters, and bytes from outside
become text with a replacement character in place of every part that is not UTF-8.
-/

namespace TwinQuery.Text

/-- The last place, counted in bytes, up to the given one at which a text can be cut. It is looked
for one byte at a time towards the front, past the places inside a character. -/
def cutPlace (s : String) : (place : Nat) → s.Pos
  | 0 => s.startPos
  | place + 1 =>
      if hplace : (String.Pos.Raw.mk (place + 1)).IsValid s then ⟨⟨place + 1⟩, hplace⟩
      else cutPlace s place

/-- A text as it is when it takes at most `limit` bytes, and otherwise what stands before the last
place within them, followed by three dots. -/
def abridge (limit : Nat) (s : String) : String :=
  if s.utf8ByteSize ≤ limit then s
  else (s.sliceTo (cutPlace s limit)).copy ++ "..."

/-- What the first byte of a character announces: how many bytes follow it, the bits it
contributes itself, and the range of the byte after it. -/
structure Lead where
  following : Nat
  bits : Nat
  low : Nat
  high : Nat

/-- The lead bytes of characters of two, three and four bytes. The range of the second byte
rules out overlong forms, surrogates and numbers beyond the last code point. -/
def lead? (byte : Nat) : Option Lead :=
  if 0xC2 ≤ byte ∧ byte ≤ 0xDF then some ⟨1, byte - 0xC0, 0x80, 0xBF⟩
  else if byte = 0xE0 then some ⟨2, 0, 0xA0, 0xBF⟩
  else if byte = 0xED then some ⟨2, 0xD, 0x80, 0x9F⟩
  else if 0xE1 ≤ byte ∧ byte ≤ 0xEF then some ⟨2, byte - 0xE0, 0x80, 0xBF⟩
  else if byte = 0xF0 then some ⟨3, 0, 0x90, 0xBF⟩
  else if 0xF1 ≤ byte ∧ byte ≤ 0xF3 then some ⟨3, byte - 0xF0, 0x80, 0xBF⟩
  else if byte = 0xF4 then some ⟨3, 4, 0x80, 0x8F⟩
  else none

/-- Read the bytes that follow a lead byte: the code point when all of them are there, and the
bytes left over in either case. -/
def following? : (count bits low high : Nat) → List Nat → Option Nat × List Nat
  | 0, bits, _, _, rest => (some bits, rest)
  | _ + 1, _, _, _, [] => (none, [])
  | count + 1, bits, low, high, byte :: rest =>
      if low ≤ byte ∧ byte ≤ high then
        following? count (bits * 64 + (byte - 0x80)) 0x80 0xBF rest
      else (none, byte :: rest)

theorem following?_length_le (count bits low high : Nat) (bytes : List Nat) :
    (following? count bits low high bytes).2.length ≤ bytes.length := by
  fun_induction following? count bits low high bytes with
  | case1 => simp
  | case2 => simp
  | case3 _ _ _ _ _ _ _ ih => exact Nat.le_trans ih (Nat.le_succ _)
  | case4 => simp

/-- The text of a sequence of bytes, each longest part that starts a character but does not
complete it, and each byte that starts none, read as a replacement character. -/
def decodeLossy : List Nat → List Char
  | [] => []
  | byte :: rest =>
      if byte < 0x80 then Char.ofNat byte :: decodeLossy rest
      else
        match lead? byte with
        | none => '\uFFFD' :: decodeLossy rest
        | some lead =>
            let result := following? lead.following lead.bits lead.low lead.high rest
            (match result.1 with
              | some code => Char.ofNat code
              | none => '\uFFFD') :: decodeLossy result.2
termination_by bytes => bytes.length
decreasing_by
  · simp
  · simp
  · exact Nat.lt_succ_of_le (following?_length_le _ _ _ _ _)

end TwinQuery.Text
