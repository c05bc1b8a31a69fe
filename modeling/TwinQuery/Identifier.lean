import TwinQuery.Error
import TwinQuery.Text.Blank
import TwinQuery.Text.Quoted

/-!
# Identifiers

Names are written between double quotes, so no name can change the shape of a statement. A
column name made of plain parts joined by dots is quoted part by part. Only an entry of a
projection that is not made of plain parts, such as `*` or `COUNT(*)`, is written as it
stands.
-/

namespace TwinQuery.Identifier

/-- The name of a table, without the blanks around it. A blank name and one with a NUL
character are refused. -/
def table (name : String) : Except Error String :=
  let trimmed := Text.trim name
  if trimmed.isEmpty then .error .missingTable
  else if trimmed.toList.contains '\x00' then
    .error (.invalidIdentifier "identifier cannot contain NUL character")
  else .ok trimmed

def quote (name : String) : String :=
  Text.quoted '"' name

def isPlainStart (c : Char) : Bool :=
  c = '_' || c.isAlpha

def isPlainRest (c : Char) : Bool :=
  c = '_' || c = '$' || c.isAlphanum

/-- Whether the characters are a letter or an underscore followed by letters, digits,
underscores and dollar signs, all of ASCII. -/
def isPlainChars : List Char → Bool
  | [] => false
  | c :: rest => isPlainStart c && rest.all isPlainRest

def isPlain (name : String) : Bool :=
  isPlainChars name.toList

/-- The parts of a text between its dots. There is always at least one. -/
def dotted : List Char → List (List Char)
  | [] => [[]]
  | c :: rest =>
      if c = '.' then [] :: dotted rest
      else
        match dotted rest with
        | [] => [[c]]
        | part :: parts => (c :: part) :: parts

/-- Whether a name consists of plain parts, one or more, joined by dots. -/
def isPath (name : String) : Bool :=
  (dotted name.toList).all isPlainChars

/-- A column name as it is written in conditions, assignments, headers and sort orders. -/
def column (name : String) : String :=
  if isPath name then
    ".".intercalate ((dotted name.toList).map fun part => quote (String.ofList part))
  else quote name

/-- An entry of a projection: a column name, or an expression that is written as it stands. -/
def projection (entry : String) : String :=
  if isPath entry then column entry else entry

/-- The name of a savepoint. It is written without quotes, so it has to be plain. -/
def savepoint (name : String) : Except Error String :=
  if isPlain name then .ok name
  else .error (.invalidIdentifier ("invalid savepoint name: '" ++ name ++ "'"))

end TwinQuery.Identifier
