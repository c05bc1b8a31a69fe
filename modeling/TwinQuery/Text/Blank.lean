/-!
# Blank characters

A character is blank when it has the White_Space property. Blank characters may surround a
table name, an operator or a number without changing it, they separate the words of an
operator, and a text of blanks only counts as no text at all.
-/

namespace TwinQuery.Text

/-- The characters with the White_Space property. -/
def isBlank (c : Char) : Bool :=
  let n := c.toNat
  (0x09 ≤ n && n ≤ 0x0D) || n == 0x20 || n == 0x85 || n == 0xA0 || n == 0x1680 ||
    (0x2000 ≤ n && n ≤ 0x200A) || n == 0x2028 || n == 0x2029 || n == 0x202F ||
    n == 0x205F || n == 0x3000

def dropBlanks (cs : List Char) : List Char :=
  cs.dropWhile isBlank

def trimChars (cs : List Char) : List Char :=
  (dropBlanks (dropBlanks cs).reverse).reverse

def trimStart (s : String) : String :=
  String.ofList (dropBlanks s.toList)

def trim (s : String) : String :=
  String.ofList (trimChars s.toList)

def isBlankText (s : String) : Bool :=
  s.toList.all isBlank

/-- The word that a text begins with, empty when it begins with a blank, and the words after
it. -/
def splitWords : List Char → List Char × List (List Char)
  | [] => ([], [])
  | c :: rest =>
      let (word, later) := splitWords rest
      if isBlank c then ([], if word.isEmpty then later else word :: later)
      else (c :: word, later)

/-- The maximal runs of characters that are not blank, in order. -/
def words (cs : List Char) : List (List Char) :=
  let (word, later) := splitWords cs
  if word.isEmpty then later else word :: later

end TwinQuery.Text
