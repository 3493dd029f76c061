import Registry.Model

/-!
# Defaults

Every group and resource gets its id as an attribute, and every CloudEvents message the metadata that
its envelope has to have. Only missing attributes are added. A CloudEvents message without a type
ends the pass; what was added before stays.
-/

namespace Registry.Defaults

def cloudEvents : String := "CloudEvents/1.0"

def namesCloudEvents (message : Fields) (key : String) : Bool :=
  (message.textAt? key).any (Text.sameIgnoringCase · cloudEvents)

/-- The attribute that holds the envelope metadata of a CloudEvents message; none for any other
message. -/
def metadataKey? (message : Fields) : Option String :=
  if namesCloudEvents message "envelope" then some "envelopemetadata"
  else if namesCloudEvents message "format" then some "metadata"
  else none

/-- The metadata attributes that a CloudEvents message has unless it declares its own. -/
def metadataDefaults : Fields :=
  [("id", .mapping [("type", .string "string"), ("required", .boolean true),
      ("description", .string "A unique identifier for the event")]),
    ("time", .mapping [("type", .string "timestamp"), ("required", .boolean true),
      ("description", .string "A ISO8601 timestamp of when the event happened")]),
    ("source", .mapping [("type", .string "uritemplate"), ("required", .boolean true),
      ("value", .string "\x7bsourceuri\x7d"),
      ("description", .string "The URI of the source of the event")])]

def addMissing (defaults fields : Fields) : Fields :=
  defaults.foldl (fun fields e => fields.insertNew e.1 e.2) fields

def completeMetadata (id key : String) (message : Fields) : Fields × Option Fault :=
  let message := message.insertNew key (.mapping [])
  match message.get? key with
  | some (.mapping metadata) =>
    if Table.has metadata "type" then
      (message.insert key (.mapping (addMissing metadataDefaults metadata)), none)
    else (message, some (.missingMessageType id))
  | _ => (message, some (.invalidDocument id (.metadataNotMapping key)))

def completeMessage (id : String) (message : Fields) : Fields × Option Fault :=
  match metadataKey? message with
  | none => (message, none)
  | some key => completeMetadata id key message

def completeResource (type : ResourceType) (id : String) (resource : Fields) :
    Fields × Option Fault :=
  let resource := resource.insertNew type.idAttribute (.string id)
  if type.singular = "message" then completeMessage id resource else (resource, none)

def completeGroup (type : GroupType) (id : String) (group : Fields) : Fields × Option Fault :=
  Fields.attemptAll (fun (r : ResourceType) => Fields.attemptAt r.plural
      (Table.mapUntil fun id resource => resource.attemptMapping (completeResource r id)))
    type.resources (group.insertNew type.idAttribute (.string id))

/-- Completes every group and resource of a document, up to the first fault. -/
def complete (m : Model) (root : Fields) : Fields × Option Fault :=
  Fields.attemptAll (fun (g : GroupType) => Fields.attemptAt g.plural
      (Table.mapUntil fun id group => group.attemptMapping (completeGroup g id)))
    m.groups root

end Registry.Defaults
