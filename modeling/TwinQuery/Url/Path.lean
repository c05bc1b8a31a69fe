import TwinQuery.Text.Parts
import TwinQuery.Url.Basic

/-!
# Reading paths

A path is read segment by segment and grows as a text: a segment is written after the last
slash, a single dot adds nothing, and a double dot takes the last segment away. In the path of
a file, a letter followed by a colon names a drive, which a double dot leaves alone; a bar may
stand for the colon of a first segment.

A tab or line end inside a URL counts for nothing, with one exception: after the colon of a
drive at the start of the path of a file it ends the segment, as a slash would.
-/

namespace TwinQuery.Url

/-- Whether a URL is read as if a character were not there. -/
def isIgnored (c : Char) : Bool :=
  c == '\t' || c == '\n' || c == '\x0d'

def counted (cs : List Char) : List Char :=
  cs.filter fun c => !isIgnored c

def isSlash (scheme : String) (c : Char) : Bool :=
  c == '/' || (isSpecial scheme && c == '\\')

/-! ## Segments -/

def isSingleDot (segment : List Char) : Bool :=
  [".".toList, "%2e".toList].contains (segment.map Char.toLower)

def isDoubleDot (segment : List Char) : Bool :=
  ["..".toList, ".%2e".toList, "%2e.".toList, "%2e%2e".toList].contains
    (segment.map Char.toLower)

/-- Whether a segment is a letter followed by a colon, or by a bar that stands for one. -/
def isDrive (segment : List Char) : Bool :=
  match segment with
  | [letter, mark] => letter.isAlpha && (mark == ':' || mark == '|')
  | _ => false

def isPlainDrive (segment : List Char) : Bool :=
  match segment with
  | [letter, mark] => letter.isAlpha && mark == ':'
  | _ => false

/-- Whether a text starts with a drive as a segment of its own. -/
def startsWithDrive (cs : List Char) : Bool :=
  isDrive (cs.take 2) && ((cs[2]?).map fun c => ['/', '\\', '?', '#'].contains c).getD true

/-! ## Growing a path -/

def upToLastSlash (path : List Char) : List Char :=
  (path.reverse.dropWhile (· != '/')).reverse

def lastSegment (path : List Char) : List Char :=
  (path.reverse.takeWhile (· != '/')).reverse

def slashed (path : List Char) : List Char :=
  if path.getLast? == some '/' then path else path ++ ['/']

/-- A path without its last segment. The drive of a file stays. -/
def shorten (file : Bool) (path : List Char) : List Char :=
  if file && isPlainDrive (lastSegment path) then path else upToLastSlash path

/-- Whether the slash at the end of a path may go with the segment before it. The one slash of
a path stays, and so does the slash after a segment in the form of a drive. -/
def canDropSlash (path : List Char) : Bool :=
  let earlier := path.dropLast
  path.getLast? == some '/' && earlier.contains '/' &&
    !startsWithDrive (lastSegment earlier ++ ['/'])

def goUp (file : Bool) (path : List Char) : List Char :=
  shorten file (if canDropSlash path then path.dropLast else path)

/-- The path of a file or another URL while it is read, and whether a drive at its start has
taken the place of a host. -/
structure Trail where
  path : List Char
  drive : Bool := false
  deriving DecidableEq, Repr

namespace Trail

/-- A path with one segment more. `closed` says that a slash follows the segment. -/
def add (file : Bool) (trail : Trail) (segment : List Char) (closed : Bool) : Trail :=
  if isDoubleDot segment then
    let path := goUp file trail.path
    { trail with path := if closed then slashed path else path }
  else if isSingleDot segment then { trail with path := slashed trail.path }
  else
    let close (path : List Char) : List Char := if closed then path ++ ['/'] else path
    if file && trail.path.length == 1 && isDrive segment then
      { path := close (trail.path ++ segment.take 1 ++ [':']), drive := true }
    else { trail with path := close (trail.path ++ segment) }

/-- The drive that a segment starts with, and what follows it, when something ignored stands
after the colon: then the drive is a segment of its own. -/
def brokenDrive? (segment : List Char) : Option (List Char × List Char) :=
  match segment.dropWhile isIgnored with
  | [] => none
  | letter :: rest =>
      match rest.dropWhile isIgnored with
      | [] => none
      | mark :: after =>
          if isPlainDrive [letter, mark] && (after.head?.map isIgnored).getD false &&
              !(counted after).isEmpty then
            some ([letter, mark], counted after)
          else none

/-- A path with a segment more, as it stands in a text. After a drive that no slash follows yet
comes a slash. -/
def addRaw (file : Bool) (trail : Trail) (segment : List Char) (closed : Bool) : Trail :=
  let encoded (cs : List Char) : List Char := (percentEncode pathSet cs).toList
  let plain := counted segment
  if file && isPlainDrive (trail.path.drop 1) && !plain.isEmpty then
    add file { trail with path := trail.path ++ ['/'] } (encoded plain) closed
  else
    match if file && trail.path.length == 1 then brokenDrive? segment else none with
    | some (drive, after) =>
        let path := trail.path ++ drive ++ ['/'] ++ encoded after
        { trail with path := if closed then path ++ ['/'] else path }
    | none => add file trail (encoded plain) closed

end Trail

def Path.ofTrail (trail : Trail) : Path :=
  .rooted (String.ofList trail.path)

/-! ## Reading -/

/-- A path with the segments of a text after it. A slash follows each but the last. -/
def addSegments (file : Bool) : Trail → List (List Char) → Trail
  | trail, [] => trail
  | trail, [segment] => trail.addRaw file segment false
  | trail, segment :: rest => addSegments file (trail.addRaw file segment true) rest

/-- The path of a file without empty segments in front. -/
def filePath (path : List Char) : List Char :=
  '/' :: path.dropWhile (· == '/')

def extendPath (scheme : String) (path cs : List Char) : Trail × List Char :=
  let inside (c : Char) : Bool := c != '?' && c != '#'
  let file := scheme == "file"
  let trail := addSegments file { path } (Text.parts (isSlash scheme) (cs.takeWhile inside))
  (if file then { trail with path := filePath trail.path } else trail, cs.dropWhile inside)

/-- The path after a host, and what follows it. A special URL always has a path. -/
def pathAfterHost (scheme : String) (cs : List Char) : Trail × List Char :=
  match cs.dropWhile isIgnored with
  | [] => if isSpecial scheme then extendPath scheme ['/'] [] else ({ path := [] }, [])
  | c :: rest =>
      if isSlash scheme c then extendPath scheme ['/'] rest
      else if !isSpecial scheme && (c == '?' || c == '#') then ({ path := [] }, c :: rest)
      else extendPath scheme ['/'] (c :: rest)

end TwinQuery.Url
