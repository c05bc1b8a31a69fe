import TwinQuery.Url.Path

/-!
# Reading URLs

A text is read from left to right: the scheme, the host with its user and port, the path, the
query and the fragment. A text without a scheme is resolved against a base, from which it
takes what it does not state itself.
-/

namespace TwinQuery.Url

/-! ## Scheme -/

def isSchemeChar (c : Char) : Bool :=
  c.isAlphanum || c == '+' || c == '-' || c == '.'

/-- The scheme of a text, in small letters, and what follows its colon. -/
def scheme? (cs : List Char) : Option (String × List Char) :=
  match cs with
  | [] => none
  | first :: _ =>
      if first.isAlpha then
        match cs.dropWhile isSchemeChar with
        | ':' :: rest =>
            some (String.ofList ((cs.takeWhile isSchemeChar).map Char.toLower), rest)
        | _ => none
      else none

/-! ## Query and fragment -/

def queryAndFragment (special : Bool) (cs : List Char) : Option String × Option String :=
  let fragment (cs : List Char) : Option String :=
    match cs with
    | '#' :: rest => some (percentEncode fragmentSet rest)
    | _ => none
  match cs with
  | '?' :: rest =>
      (some (percentEncode (querySet special) (rest.takeWhile (· != '#'))),
        fragment (rest.dropWhile (· != '#')))
  | cs => (none, fragment cs)

def withTail (url : Url) (cs : List Char) : Url :=
  let (query?, fragment?) := queryAndFragment (isSpecial url.scheme) cs
  { url with query?, fragment? }

/-! ## Host -/

def endsAuthority (scheme : String) (c : Char) : Bool :=
  c == '?' || c == '#' || isSlash scheme c

/-- Split a text after the last character of a kind. -/
def splitAfterLast? (mark : Char) (cs : List Char) : Option (List Char × List Char) :=
  let reversed := cs.reverse
  match reversed.dropWhile (· != mark) with
  | [] => none
  | _ :: before => some (before.reverse, (reversed.takeWhile (· != mark)).reverse)

def userinfo (cs : List Char) : String × String :=
  (percentEncode userinfoSet (cs.takeWhile (· != ':')),
    percentEncode userinfoSet ((cs.dropWhile (· != ':')).drop 1))

def cutPort : (inBrackets : Bool) → List Char → List Char × Option (List Char)
  | _, [] => ([], none)
  | inBrackets, c :: rest =>
      if c = ':' ∧ inBrackets = false then ([], some rest)
      else
        let inBrackets := if c = '[' then true else if c = ']' then false else inBrackets
        let (host, port) := cutPort inBrackets rest
        (c :: host, port)

/-- The port that digits write, none when it is the one that the scheme stands for. -/
def parsePort (scheme : String) (cs : List Char) : Except Fault (Option Nat) :=
  if cs.isEmpty then .ok none
  else
    match Decimal.nat? cs with
    | none => .error .port
    | some n =>
        if 65535 < n then .error .port
        else .ok (if defaultPort? scheme = some n then none else some n)

/-- The URL that a text after two slashes writes. A port ends at a backslash too, also where the
path does not. -/
def afterSlashes (scheme : String) (cs : List Char) : Except Fault Url := do
  let authority := cs.takeWhile fun c => !endsAuthority scheme c
  let rest := cs.dropWhile fun c => !endsAuthority scheme c
  let ((username, password), hostAndPort, bareMark) :=
    match splitAfterLast? '@' authority with
    | some (before, after) => (userinfo before, after, before.isEmpty)
    | none => (("", ""), authority, false)
  let (hostText, portText?) := cutPort false hostAndPort
  let named := !username.isEmpty || !password.isEmpty
  let host ←
    if !hostText.isEmpty then Host.parse (isSpecial scheme) hostText
    else if isSpecial scheme || portText?.isSome || named || (bareMark && !rest.isEmpty) then
      throw .emptyHost
    else pure (.name "")
  let portText := portText?.getD []
  let port? ← parsePort scheme (portText.takeWhile (· != '\\'))
  let (trail, rest) := pathAfterHost scheme (portText.dropWhile (· != '\\') ++ rest)
  let path := Path.ofTrail trail
  return withTail { scheme, username, password, host? := some host, port?, path } rest

/-! ## Files -/

/-- A text without so many of its first characters that count. -/
def dropCounted : Nat → List Char → List Char
  | 0, cs => cs
  | _, [] => []
  | n + 1, c :: cs => if isIgnored c then dropCounted (n + 1) cs else dropCounted n cs

/-- A file URL with a host and the path and tail of a text after the given path. -/
def fileUrl (host : Host) (path cs : List Char) : Url :=
  let (trail, rest) := extendPath "file" path cs
  withTail { scheme := "file", host? := some host, path := .ofTrail trail } (counted rest)

/-- The file URL that a text after two slashes writes. A drive is no host, nor does a host stand
before one, and the local machine is not named. -/
def fileAfterSlashes (cs : List Char) : Except Fault Url :=
  let inside (c : Char) : Bool := !endsAuthority "file" c
  let hostText := counted (cs.takeWhile inside)
  let rest := cs.dropWhile inside
  if isDrive hostText then .ok (fileUrl (.name "") ['/'] cs)
  else if hostText.isEmpty then .ok (fileUrl (.name "") ['/'] rest)
  else
    (Host.parse true hostText).map fun host =>
      if host = .name "localhost" then fileUrl (.name "") ['/'] rest
      else
        let (trail, rest) := pathAfterHost "file" rest
        let host := if trail.drive then .name "" else host
        withTail { scheme := "file", host? := some host, path := .ofTrail trail } (counted rest)

/-- The drive at the start of a path, with the slash before it. -/
def leadingDrive? (path : List Char) : Option (List Char) :=
  let first := (path.drop 1).takeWhile (· != '/')
  if isPlainDrive first then some ('/' :: first) else none

/-- Read a file URL after its scheme, or a text resolved against a file. -/
def parseFile (base? : Option Url) (cs : List Char) : Except Fault Url :=
  let baseHost := (base?.bind Url.host?).getD (.name "")
  let basePath := (base?.map fun base => base.path.text.toList).getD []
  let slash (c : Char) : Bool := c == '/' || c == '\\'
  let plain := counted cs
  match plain with
  | [] =>
      .ok (base?.elim (fileUrl (.name "") ['/'] []) fun base => { base with fragment? := none })
  | first :: rest =>
      if slash first then
        if (rest.head?.map slash).getD false then fileAfterSlashes (dropCounted 2 cs)
        else if startsWithDrive rest then .ok (fileUrl (.name "") [] cs)
        else
          match leadingDrive? basePath with
          | some drive => .ok (fileUrl (.name "") drive cs)
          | none => .ok (fileUrl baseHost [] cs)
      else
        match base? with
        | none => .ok (fileUrl (.name "") ['/'] cs)
        | some base =>
            if first = '?' then
              .ok (withTail { base with query? := none, fragment? := none } plain)
            else if first = '#' then
              .ok { base with fragment? := some (percentEncode fragmentSet rest) }
            else if startsWithDrive plain then .ok (fileUrl (.name "") ['/'] cs)
            else .ok (fileUrl baseHost (shorten true basePath) cs)

/-! ## Relative texts -/

/-- Resolve a text without a scheme against a URL whose path is not flat. -/
def parseRelative (base : Url) (cs : List Char) : Except Fault Url :=
  let slash (c : Char) : Bool := c == '/' || c == '\\'
  let under (path cs : List Char) : Url :=
    let (trail, tail) := extendPath base.scheme path cs
    withTail { base with path := .ofTrail trail, query? := none, fragment? := none } tail
  match cs with
  | [] => .ok { base with fragment? := none }
  | '?' :: _ => .ok (withTail { base with query? := none, fragment? := none } cs)
  | '#' :: rest => .ok { base with fragment? := some (percentEncode fragmentSet rest) }
  | first :: rest =>
      if slash first then
        match cs with
        | '/' :: '/' :: after => afterSlashes base.scheme after
        | _ =>
            if (rest.head?.map slash).getD false then
              afterSlashes base.scheme (cs.dropWhile slash)
            else .ok (under ['/'] rest)
      else
        let path := upToLastSlash base.path.text.toList
        .ok (under (if path.isEmpty then ['/'] else path) cs)

/-! ## URLs -/

/-- Read a text after a scheme that is not one of the special ones. -/
def parseOther (scheme : String) (cs : List Char) : Except Fault Url :=
  match cs with
  | '/' :: '/' :: rest => afterSlashes scheme rest
  | '/' :: rest =>
      let (trail, tail) := extendPath scheme ['/'] rest
      .ok (withTail { scheme, path := .ofTrail trail } tail)
  | cs =>
      let inside (c : Char) : Bool := c != '?' && c != '#'
      .ok (withTail { scheme, path := .flat (percentEncode controlSet (cs.takeWhile inside)) }
        (cs.dropWhile inside))

def trimmed (s : String) : List Char :=
  let outer (c : Char) : Bool := c.toNat ≤ 0x20
  ((s.toList.dropWhile outer).reverse.dropWhile outer).reverse

/-- The URL that a text writes, resolved against a base if there is one. -/
def parse (base? : Option Url) (s : String) : Except Fault Url :=
  let whole := trimmed s
  let cs := counted whole
  match scheme? cs with
  | some (scheme, rest) =>
      let same? := base?.filter fun base => base.scheme == scheme
      if scheme == "file" then parseFile same? ((whole.dropWhile (· != ':')).drop 1)
      else if isSpecial scheme then
        let slash (c : Char) : Bool := c == '/' || c == '\\'
        match same? with
        | some base =>
            if (rest.takeWhile slash).length < 2 then parseRelative base rest
            else afterSlashes scheme (rest.dropWhile slash)
        | none => afterSlashes scheme (rest.dropWhile slash)
      else parseOther scheme rest
  | none =>
      match base? with
      | none => .error .relativeWithoutBase
      | some base =>
          match cs, base.path with
          | '#' :: rest, _ =>
              .ok { base with fragment? := some (percentEncode fragmentSet rest) }
          | _, .flat _ => .error .relativeToFlatBase
          | cs, .rooted _ =>
              if base.scheme == "file" then parseFile (some base) whole else parseRelative base cs

def join (base : Url) (s : String) : Except Fault Url :=
  parse (some base) s

end TwinQuery.Url
