import Registry.Fetcher
import Registry.Model
import Registry.Text.Base64

/-!
# Payloads

A version, or a resource without versions, carries its payload in one of several forms: inline, at a
URL, or encoded in base64. The payload found first is kept under the name of its resource type;
nothing else changes.
-/

namespace Registry

namespace Payload

inductive Form where
  | inline
  | url
  | base64
  deriving DecidableEq, Repr

/-- The fields that may hold the payload of a resource type, in the order in which they count. -/
def candidates (singular : String) : List (String × Form) :=
  [(singular, .inline), ("resource", .inline), (singular ++ "url", .url), ("resourceurl", .url),
    (singular ++ "base64", .base64), ("resourcebase64", .base64)]

/-- The payload that a base64 text spells; none unless it spells a text. -/
def decode (encoded : String) : Option Value := do
  let bytes ← Text.Base64.decode? (Text.trim encoded).toList
  let text ← Text.Utf8.decode? bytes
  Document.read? .permissive (String.ofList text)

def load (headers : Headers) (form : Form) (v : Value) (f : Fetcher) : Option Value × Fetcher :=
  match form, v with
  | .inline, v => (some v, f)
  | .url, .string url =>
    let ((_, document), f) := f.fetch url headers .reuse
    (document, f)
  | .base64, .string encoded => (decode encoded, f)
  | _, _ => (none, f)

/-- The first field of an entity that holds a payload. -/
def source? (singular : String) (entity : Fields) : Option (Form × Value) :=
  (candidates singular).findSome? fun (field, form) => (entity.get? field).map (form, ·)

/-- Keeps the payload of an entity under the name of its resource type. -/
def populate (headers : Headers) (singular : String) (entity : Fields) (f : Fetcher) :
    Fields × Fetcher :=
  if entity.has singular then (entity, f)
  else match source? singular entity with
    | none => (entity, f)
    | some (form, v) =>
      match load headers form v f with
      | (some payload, f) => (entity ++ [(singular, payload)], f)
      | (none, f) => (entity, f)

def isPopulated (singular : String) (entity : Fields) : Bool := entity.has singular

/-- Populates the versions of a resource, or the resource itself if it has none. -/
def populateResource (headers : Headers) (singular : String) (resource : Fields) (f : Fetcher) :
    Fields × Fetcher :=
  match resource.get? "versions" with
  | some (.mapping _) =>
    resource.changeAt "versions"
      (fun versions f => versions.mapState
        (fun _ version f => version.changeMapping (populate headers singular) f) f) f
  | _ => populate headers singular resource f

def populateGroup (headers : Headers) (types : List ResourceType) (group : Fields) (f : Fetcher) :
    Fields × Fetcher :=
  types.foldl (fun (group, f) type => group.changeAt type.plural
    (fun resources f => resources.mapState
      (fun _ resource f => resource.changeMapping (populateResource headers type.singular) f) f) f)
    (group, f)

def populateAll (m : Model) (headers : Headers) (root : Fields) (f : Fetcher) : Fields × Fetcher :=
  m.groups.foldl (fun (root, f) type => root.changeAt type.plural
    (fun groups f => groups.mapState
      (fun _ group f => group.changeMapping (populateGroup headers type.resources) f) f) f)
    (root, f)

end Payload

end Registry
