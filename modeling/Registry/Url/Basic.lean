import Registry.Text.Percent

/-!
# URLs

The parts of a URL, and its text. A path is either a list of segments, each of which follows a
slash, or a text of its own for a URL such as `urn:x` that has neither a host nor a first slash.
-/

namespace Registry

namespace Url

inductive Kind where
  | file
  /-- A scheme of the web with a host: `http`, `https`, `ws`, `wss` or `ftp`. -/
  | special
  | general
  deriving DecidableEq, Repr

def Kind.ofScheme (scheme : String) : Kind :=
  if scheme = "file" then .file
  else if ["http", "https", "ws", "wss", "ftp"].contains scheme then .special
  else .general

/-- Whether a backslash counts as a slash, and a path is never empty. -/
def Kind.isSpecial (k : Kind) : Bool := k != .general

def defaultPort? (scheme : String) : Option Nat :=
  if scheme = "http" ∨ scheme = "ws" then some 80
  else if scheme = "https" ∨ scheme = "wss" then some 443
  else if scheme = "ftp" then some 21
  else none

inductive Path where
  | rootless (text : String)
  | segments (parts : List String)
  deriving DecidableEq, Repr

def Path.toString : Path → String
  | rootless text => text
  | segments parts => parts.foldr (fun part rest => "/" ++ part ++ rest) ""

end Url

structure Url where
  scheme : String
  /-- User name and password as they are written before the host; empty if there is neither. -/
  userinfo : String
  /-- The host as it is written; `some ""` if the slashes before it stand without a host. -/
  host : Option String
  /-- The port, if it is not the one that the scheme uses anyway. -/
  port : Option Nat
  path : Url.Path
  query : Option String
  fragment : Option String
  deriving DecidableEq, Repr

namespace Url

def kind (u : Url) : Kind := .ofScheme u.scheme

def isHttp (u : Url) : Bool := u.scheme == "http" || u.scheme == "https"

def hostAndPort (u : Url) : String :=
  u.host.getD "" ++ match u.port with
    | some port => ":" ++ toString port
    | none => ""

/-- What stands between the scheme and the path. Without a host, a dot keeps a path that starts with
an empty segment apart from one. -/
def authority (u : Url) : String :=
  match u.host with
  | some _ => "//" ++ (if u.userinfo.isEmpty then "" else u.userinfo ++ "@") ++ u.hostAndPort
  | none =>
    match u.path with
    | .segments ("" :: _ :: _) => "/."
    | _ => ""

def withoutFragment (u : Url) : String :=
  u.scheme ++ ":" ++ u.authority ++ u.path.toString ++ match u.query with
    | some q => "?" ++ q
    | none => ""

def toString (u : Url) : String :=
  u.withoutFragment ++ match u.fragment with
    | some f => "#" ++ f
    | none => ""

/-- The segments of the path that are not empty. -/
def pathSegments (u : Url) : List String :=
  match u.path with
  | .rootless _ => []
  | .segments parts => parts.filter (!·.isEmpty)

def keptBare (c : Char) : Bool := 0x20 ≤ c.toNat && c.toNat < 0x7f

def keptInFragment (c : Char) : Bool := keptBare c && !(" \"<>\x60".toList.contains c)

def keptInQuery (special : Bool) (c : Char) : Bool :=
  keptBare c && !(" \"#<>".toList.contains c) && !(special && c == '\'')

def keptInPath (c : Char) : Bool := keptInFragment c && !("#?\x7b\x7d".toList.contains c)

def keptInUserinfo (c : Char) : Bool := keptInPath c && !("/:;=@[\\]^|".toList.contains c)

def escape (keep : Char → Bool) (cs : List Char) : String :=
  String.ofList (Text.Percent.encode keep cs)

end Url

end Registry
