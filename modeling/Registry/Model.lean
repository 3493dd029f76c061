import Registry.Fault
import Registry.Value
import Registry.Text.Split

/-!
# Models

The vocabulary of a registry: its group types, and the resource types that each of them declares.
A model is read from a document; one is built in.
-/

namespace Registry

structure ResourceType where
  plural : String
  singular : String
  deriving DecidableEq, Repr

def ResourceType.idAttribute (r : ResourceType) : String := r.singular ++ "id"

structure GroupType where
  plural : String
  singular : String
  resources : List ResourceType
  deriving DecidableEq, Repr

namespace GroupType

def idAttribute (g : GroupType) : String := g.singular ++ "id"

def resource? (g : GroupType) (plural : String) : Option ResourceType :=
  g.resources.find? (·.plural == plural)

end GroupType

structure Model where
  groups : List GroupType
  document : Value

namespace Model

/-- The plural and singular name of a definition. The plural is its key unless it gives one itself;
the singular is the plural without a final `s` unless it gives one. -/
def names (key : Option String) (fields : Fields) : Except ModelDefect (String × String) :=
  match (fields.textAt? "plural").or key with
  | none => .error .unnamed
  | some plural =>
    .ok (plural, (fields.textAt? "singular").getD ((Text.dropEnd? plural "s").getD plural))

/-- The definitions of a collection, each with its key if the collection has keys; the kind of the
value if it is no collection. -/
def definitions : Option Value → Except String (List (Option String × Value))
  | none => .ok []
  | some (.mapping fields) => .ok (fields.map fun e => (some e.1, e.2))
  | some (.sequence items) => .ok (items.map fun v => (none, v))
  | some v => .error v.kind

def readResource (key : Option String) (definition : Value) : Except ModelDefect ResourceType :=
  match definition.fields? with
  | none => .error (.resourceNotMapping key)
  | some fields => (names key fields).map fun (plural, singular) => ⟨plural, singular⟩

def readGroup (key : Option String) (definition : Value) : Except ModelDefect GroupType :=
  match definition.fields? with
  | none => .error (.groupNotMapping key)
  | some fields => do
    let (plural, singular) ← names key fields
    let resources := (fields.get? "resources").filter (· ≠ .null)
    match definitions resources with
    | .error kind => .error (.resourcesNotMapping plural kind)
    | .ok entries =>
      let resources ← entries.mapM fun (key, v) => readResource key v
      .ok ⟨plural, singular, resources⟩

def ofValue (document : Value) : Except ModelDefect Model :=
  match definitions (document.get? "groups") with
  | .error kind => .error (.groupsNotMapping kind)
  | .ok entries => (entries.mapM fun (key, v) => readGroup key v).map (⟨·, document⟩)

/-- The group type of a given name: its singular name first, else its plural one. -/
def group? (m : Model) (name : String) : Option GroupType :=
  (m.groups.find? (·.singular == name)).or (m.groups.find? (·.plural == name))

def isGroupCollection (m : Model) (name : String) : Bool := m.groups.any (·.plural == name)

/-- The group type that a key at the top of a document stands for. -/
def collection? (m : Model) (key : String) : Option GroupType :=
  (m.group? key).filter (·.plural == key)

/-- The first resource type of any group whose collection has a given name. -/
def resource? (m : Model) (plural : String) : Option ResourceType :=
  m.groups.findSome? (·.resource? plural)

def firstResource? (m : Model) (group : String) : Option ResourceType :=
  (m.group? group).bind (·.resources.head?)

def typedAttribute (name type : String) : String × Value :=
  (name, .mapping [("name", .string name), ("type", .string type)])

def declaration (plural singular : String) (rest : Fields) : String × Value :=
  (plural, .mapping ([("plural", .string plural), ("singular", .string singular)] ++ rest))

def messageDeclaration : String × Value :=
  declaration "messages" "message" [
    ("maxversions", .number (.integer 1)),
    ("hasdocument", .boolean false),
    ("attributes", .mapping [
      typedAttribute "basemessageurl" "xid",
      typedAttribute "envelope" "string",
      typedAttribute "envelopemetadata" "object",
      typedAttribute "protocol" "string",
      typedAttribute "protocoloptions" "object",
      typedAttribute "dataschemaformat" "string",
      typedAttribute "dataschemauri" "uri",
      typedAttribute "datacontenttype" "string"])]

def standardDocument : Value :=
  .mapping [("groups", .mapping [
    declaration "endpoints" "endpoint" [
      ("attributes", .mapping [
        typedAttribute "usage" "string",
        typedAttribute "protocol" "string",
        typedAttribute "envelope" "string",
        ("messagegroups", .mapping [
          ("name", .string "messagegroups"),
          ("type", .string "array"),
          ("item", .mapping [("type", .string "xid")])])]),
      ("resources", .mapping [messageDeclaration])],
    declaration "messagegroups" "messagegroup" [
      ("attributes", .mapping [typedAttribute "envelope" "string", typedAttribute "protocol" "string"]),
      ("resources", .mapping [messageDeclaration])],
    declaration "schemagroups" "schemagroup" [
      ("resources", .mapping [
        declaration "schemas" "schema" [
          ("hasdocument", .boolean true),
          ("attributes", .mapping [typedAttribute "format" "string"])]])]])]

def message : ResourceType := ⟨"messages", "message"⟩

/-- The model that is built in: endpoints and message groups with messages, and schema groups with
schemas. -/
def standard : Model :=
  { groups := [⟨"endpoints", "endpoint", [message]⟩, ⟨"messagegroups", "messagegroup", [message]⟩,
      ⟨"schemagroups", "schemagroup", [⟨"schemas", "schema"⟩]⟩]
    document := standardDocument }

theorem ofValue_standardDocument : ofValue standardDocument = .ok standard := by rfl

end Model

end Registry
