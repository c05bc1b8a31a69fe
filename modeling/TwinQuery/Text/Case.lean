/-!
# Letter case

Keywords are compared in capital letters and sort directions in small ones. Only capitals
that are ASCII letters can spell a keyword, so `capitals` covers exactly the letters whose
capital form consists of ASCII letters and leaves every other character alone.
-/

namespace TwinQuery.Text

/-- The capital form of a letter, where it is written in ASCII letters: those of ASCII itself,
the dotless i, the long s, the sharp s and the Latin ligatures. Any other character stands for
itself, since its capital form holds a character that is not ASCII. -/
def capitals (c : Char) : List Char :=
  match c with
  | 'ß' => ['S', 'S']
  | 'ı' => ['I']
  | 'ſ' => ['S']
  | 'ﬀ' => ['F', 'F']
  | 'ﬁ' => ['F', 'I']
  | 'ﬂ' => ['F', 'L']
  | 'ﬃ' => ['F', 'F', 'I']
  | 'ﬄ' => ['F', 'F', 'L']
  | 'ﬅ' => ['S', 'T']
  | 'ﬆ' => ['S', 'T']
  | c => [c.toUpper]

def upper (cs : List Char) : List Char :=
  cs.flatMap capitals

def asciiLower (s : String) : String :=
  String.ofList (s.toList.map Char.toLower)

end TwinQuery.Text
