import Registry.Source
import Registry.Url.Reader
import Registry.Text.Blank

/-!
# Reading over HTTP

A read is a request to the location without its fragment, with a query that asks for nested
collections inline unless the location has one of its own. Up to eight redirects are followed, and
authorization is sent only to where it was meant for.
-/

namespace Registry

structure Response where
  status : Nat
  headers : List (String × String)
  body : List UInt8
  deriving DecidableEq, Repr

structure Network where
  send : (url : String) → Headers → Option Response

namespace Network

def unreachable : Network := ⟨fun _ _ => none⟩

end Network

namespace Http

/-- The keys and values of a query, as forms write them. -/
def queryPairs (query : String) : List (String × String) :=
  let plain (cs : List Char) : String :=
    String.ofList (Text.Utf8.decodeLossy
      (Text.Percent.decode (cs.map fun c => if c = '+' then ' ' else c)))
  ((query.toList.splitOn '&').filter (!·.isEmpty)).map fun part =>
    match Text.cut? '=' part with
    | some (key, v) => (plain key, plain v)
    | none => (plain part, "")

def withInline (u : Url) : Url :=
  if (queryPairs (u.query.getD "")).any (·.1 == "inline") then u
  else
    let query := match u.query with
      | some q => if q.isEmpty then "inline=*" else q ++ "&inline=*"
      | none => "inline=*"
    { u with query := some query }

/-- The value of a header, whatever the case of its name. -/
def header? (r : Response) (name : String) : Option String :=
  (r.headers.find? fun h => Text.sameIgnoringCase h.1 name).map Prod.snd

def isRedirect (status : Nat) : Bool := [301, 302, 303, 307, 308].contains status

/-- What a registry says about a document: the headers that belong to registries, by the rest of
their names, in order. -/
def attributes (r : Response) : Table String :=
  let named : Table String := r.headers.filterMap fun (name, _) => do
    let rest ← Text.dropStart? (Text.lowerAscii name) "xregistry-"
    let v ← header? r name
    some (rest, v)
  (Table.ofEntries named).mergeSort fun a b => a.1 ≤ b.1

/-- Follows a URL through redirects to the answer behind them. -/
def follow (n : Network) (redirects : Nat) (u : Url) (headers : Headers) : Option (Url × Response) :=
  match n.send u.withoutFragment headers with
  | none => none
  | some r =>
    if 400 ≤ r.status then none
    else match if isRedirect r.status then header? r "location" else none with
      | none => some (u, r)
      | some target =>
        match redirects with
        | 0 => none
        | redirects + 1 =>
          match u.join? target with
          | none => none
          | some next =>
            follow n redirects next
              (headers.filter fun h => !Text.sameIgnoringCase h.1 "authorization")

def read (n : Network) (inlineQuery : Bool) (request : Request) : Option RawDocument := do
  let u ← Url.ofText? request.location
  let (found, r) ← follow n 8 (if inlineQuery then withInline u else u) request.headers
  some ⟨found.withoutFragment, String.ofList (Text.Utf8.decodeLossy r.body), attributes r⟩

end Http

end Registry
