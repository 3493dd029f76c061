import Registry.Json.Writer
import Registry.SchemaClass

/-!
# Rendering

What the built-in engine makes of a composed document: the document itself, and an index from its
messages to the classes of their payloads. A document without groups is not rendered.
-/

namespace Registry

structure Engine where
  name : String
  language : String
  style : String
  deriving DecidableEq, Repr

namespace Engine

def composed : Engine := ⟨"composed", "xregistry", "composed"⟩

def all : List Engine := [composed]

/-- The engine for a language and a style, whatever their case. -/
def find? (language style : String) : Option Engine :=
  all.find? fun e =>
    Text.sameIgnoringCase e.language language && Text.sameIgnoringCase e.style style

end Engine

inductive Rendering where
  | files (files : List (String × String))
  /-- The engine declined. -/
  | aborted (reason : String)
  deriving DecidableEq, Repr

namespace Render

def hasGroups (m : Model) (document : Value) : Bool :=
  m.groups.any fun g => ((document.get? g.plural).bind Value.fields?).any (!·.isEmpty)

/-- A message that names a data schema and its format. -/
structure TypedMessage where
  collection : String
  groupId : String
  messageId : String
  reference : String
  format : String
  deriving DecidableEq, Repr

def TypedMessage.key (t : TypedMessage) : String :=
  t.collection ++ "/" ++ t.groupId ++ "/" ++ t.messageId

def typedInGroup (collection groupId : String) (group : Value) : List TypedMessage :=
  match (group.get? "messages").bind Value.fields? with
  | none => []
  | some messages => messages.filterMap fun (id, message) => do
    let reference ← message.textAt? "dataschemauri"
    let format ← message.textAt? "dataschemaformat"
    some ⟨collection, groupId, id, reference, format⟩

/-- The messages of a document that name a data schema, in the order of the document. -/
def typedMessages (document : Value) : List TypedMessage :=
  match document with
  | .mapping root => root.flatMap fun (collection, groups) =>
    match groups with
    | .mapping groups => groups.flatMap fun (id, group) => typedInGroup collection id group
    | _ => []
  | _ => []

/-- The index of some messages, added to what it has so far. -/
def index (project : String) (document : Value) :
    List TypedMessage → Fields → Loader → Except Fault Fields × Loader
  | [], types, l => (.ok types, l)
  | t :: rest, types, l =>
    match l.schemaClass t.reference project document t.format with
    | (.error fault, l) => (.error fault, l)
    | (.ok name, l) => index project document rest (types.insert t.key (.string name)) l

def filesOf (project : String) (document : Value) (types : Fields) : List (String × String) :=
  (project ++ ".json", Json.pretty document) ::
    if types.isEmpty then [] else [(project ++ ".types.json", Json.pretty (.mapping types))]

end Render

def Loader.render (l : Loader) (project : String) (document : Value) :
    Except Fault Rendering × Loader :=
  if Render.hasGroups l.model document then
    let (types, l) := Render.index project document (Render.typedMessages document) [] l
    (types.map fun types => .files (Render.filesOf project document types), l)
  else (.ok (.aborted "document has no groups"), l)

end Registry
