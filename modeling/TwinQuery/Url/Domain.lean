import TwinQuery.Text.Utf8
import TwinQuery.Url.Domain.Compact
import TwinQuery.Url.Domain.Fold
import TwinQuery.Url.Domain.Label
import TwinQuery.Url.Fault
import TwinQuery.Url.Percent

/-!
# Domain names

A domain name is kept in ASCII. Its characters are brought into their plain forms and composed,
and a label that still holds other characters is written in its compact form after `xn--`. A
label that comes in compact form stays as it is, but has to stand for a label that could have
been written out.
-/

namespace TwinQuery.Url.Domain

/-- Characters of ASCII that no domain name holds. -/
def isForbidden (c : Char) : Bool :=
  c.toNat ≤ 0x20 || c.toNat == 0x7F ||
    ['#', '%', '/', ':', '<', '>', '?', '@', '[', '\\', ']', '^', '|'].contains c

def isPlain (c : Char) : Bool :=
  isAllowed c && fold c == [c] && !isForbidden c && c != '.'

def longestRead : Nat := 2000

/-- A label in ASCII, and the characters that it stands for. -/
structure Label where
  ascii : List Char
  characters : List Char

def readCompact? (compact : List Char) : Option Label := do
  if compact.isEmpty || compact.getLast? == some '-' || longestRead < compact.length then none
  let characters ← Compact.decode? compact
  if characters.all isPlain && Text.composed characters == characters then
    return { ascii := "xn--".toList ++ compact, characters }
  else none

def label? (characters : List Char) : Option Label :=
  match characters with
  | 'x' :: 'n' :: '-' :: '-' :: compact =>
      if isAscii compact then readCompact? compact else none
  | characters =>
      if isAscii characters then some { ascii := characters, characters }
      else some { ascii := "xn--".toList ++ Compact.encode characters, characters }

def readLabels? (name : List Char) : Option (List Label) := do
  let parts ← (labels name).mapM label?
  let backwards := parts.any fun label => label.characters.any runsBackwards
  let fits (label : Label) : Bool :=
    isWellFormed label.characters && (!backwards || hasOneDirection label.characters)
  if parts.all fits then return parts else none

/-- The ASCII form of the domain name that bytes write. -/
def ofBytes (bytes : List Nat) : Except Fault String :=
  let name := Text.decodeLossy bytes
  let plain := Text.composed (name.flatMap fold)
  if !name.all isAllowed || plain.any isForbidden then .error .domainName
  else
    match readLabels? plain with
    | some parts => .ok (String.ofList (['.'].intercalate (parts.map (·.ascii))))
    | none => .error .domainName

end TwinQuery.Url.Domain
