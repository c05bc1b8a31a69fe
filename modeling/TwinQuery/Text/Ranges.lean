/-!
# Tables of code points

A property of characters is a table of ranges of code points in increasing order. An entry
starts with the first code point that it is about, so the entry of a character is the last one
that does not start behind it, and bisection finds it.
-/

namespace TwinQuery.Text

variable {α : Type}

/-- How many entries start at or before `n`, when all up to position `low` do and none from
position `high` on does. The distance of the two positions shrinks with every step. -/
def countUpTo (table : Array (Nat × α)) (n : Nat) : (fuel low high : Nat) → Nat
  | 0, low, _ => low
  | fuel + 1, low, high =>
      if high ≤ low then low
      else
        let middle := (low + high) / 2
        match table[middle]? with
        | none => low
        | some (first, _) =>
            if n < first then countUpTo table n fuel low middle
            else countUpTo table n fuel (middle + 1) high

def lookup? (table : Array (Nat × α)) (n : Nat) : Option (Nat × α) :=
  match countUpTo table n table.size 0 table.size with
  | 0 => none
  | before + 1 => table[before]?

def inRanges (ranges : Array (Nat × Nat)) (n : Nat) : Bool :=
  (lookup? ranges n).any fun (_, last) => n ≤ last

end TwinQuery.Text
