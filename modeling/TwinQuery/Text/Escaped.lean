import TwinQuery.Text.Visible

/-!
# Escaped text

Diagnostics show a text between double quotes with every character that a reader could
mistake written as an escape: the quote and the backslash, the usual control characters by
their letter, and any other character that is not visible on its own by its code point.
-/

namespace TwinQuery.Text

/-- The digits of a number in base sixteen, small letters, no leading zeros. -/
def hex (n : Nat) : List Char :=
  Nat.toDigits 16 n

/-- How one character is shown inside an escaped text. -/
def escapeChar (c : Char) : List Char :=
  if c = '"' then ['\\', '"']
  else if c = '\\' then ['\\', '\\']
  else if c = '\n' then ['\\', 'n']
  else if c = '\r' then ['\\', 'r']
  else if c = '\t' then ['\\', 't']
  else if c = '\x00' then ['\\', '0']
  else if isVisible c then [c]
  else ['\\', 'u', '\x7b'] ++ hex c.toNat ++ ['\x7d']

def escaped (s : String) : String :=
  String.ofList ('"' :: (s.toList.flatMap escapeChar ++ ['"']))

end TwinQuery.Text
