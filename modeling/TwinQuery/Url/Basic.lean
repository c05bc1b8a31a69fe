import TwinQuery.Url.Host

/-!
# URLs

A URL has a scheme, mostly a host with a user and a port, a path, and may have a query and a
fragment. The path is a series of segments, each after a slash. Without a host it may be flat
instead, one text that no other URL can be resolved against.
-/

namespace TwinQuery

namespace Url

inductive Path where
  | flat (text : String)
  /-- A path that starts with a slash, or is empty. -/
  | rooted (text : String)
  deriving DecidableEq, Repr

end Url

structure Url where
  scheme : String
  username : String := ""
  password : String := ""
  host? : Option Url.Host := none
  port? : Option Nat := none
  path : Url.Path := .rooted ""
  query? : Option String := none
  fragment? : Option String := none
  deriving DecidableEq, Repr

namespace Url

/-- The port that a special scheme stands for. -/
def defaultPort? (scheme : String) : Option Nat :=
  match scheme with
  | "http" | "ws" => some 80
  | "https" | "wss" => some 443
  | "ftp" => some 21
  | _ => none

/-- The schemes whose URLs always have a host and a path. -/
def isSpecial (scheme : String) : Bool :=
  (defaultPort? scheme).isSome || scheme == "file"

def credentials (url : Url) : String :=
  if url.username.isEmpty && url.password.isEmpty then ""
  else
    url.username ++ (if url.password.isEmpty then "" else ":" ++ url.password) ++ "@"

def Path.text : Path → String
  | flat text => text
  | rooted text => text

/-- What stands between the scheme and the path. A path that starts with two slashes is kept
from being read as a host. -/
def authority (url : Url) : String :=
  match url.host? with
  | some host =>
      "//" ++ url.credentials ++ host.text ++
        url.port?.elim "" fun port => ":" ++ port.repr
  | none =>
      match url.path with
      | .rooted text => if text.startsWith "//" then "/." else ""
      | .flat _ => ""

def text (url : Url) : String :=
  url.scheme ++ ":" ++ url.authority ++ url.path.text ++
    url.query?.elim "" ("?" ++ ·) ++ url.fragment?.elim "" ("#" ++ ·)

end Url

end TwinQuery
