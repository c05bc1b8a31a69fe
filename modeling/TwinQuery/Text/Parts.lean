/-!
# Parts of a text

A text is cut at every character of a kind. Two such characters next to each other have an empty
part between them, so a text without any is one part.
-/

namespace TwinQuery.Text

/-- The parts of a text between the characters of a kind. -/
def parts (separates : Char → Bool) : List Char → List (List Char)
  | [] => [[]]
  | c :: rest =>
      if separates c then [] :: parts separates rest
      else
        match parts separates rest with
        | [] => [[c]]
        | part :: later => (c :: part) :: later

end TwinQuery.Text
