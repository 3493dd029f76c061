/-!
# Faults

What can go wrong with definitions, by cause, and the wording of each cause. Reads that fail are no
faults: they leave a document out.
-/

namespace Registry

inductive DocumentDefect where
  | notMapping
  /-- A message's envelope metadata, kept under the given key, is not a mapping. -/
  | metadataNotMapping (key : String)
  deriving DecidableEq, Repr

def DocumentDefect.reason : DocumentDefect → String
  | notMapping => "document is not a mapping"
  | metadataNotMapping key => "'" ++ key ++ "' is not a mapping"

inductive ModelDefect where
  | groupsNotMapping (kind : String)
  | groupNotMapping (key : Option String)
  | resourcesNotMapping (group kind : String)
  | resourceNotMapping (key : Option String)
  /-- A definition has neither a key nor a plural name. -/
  | unnamed
  deriving DecidableEq, Repr

def ModelDefect.reason : ModelDefect → String
  | groupsNotMapping kind => "'groups' must be a mapping, found " ++ kind
  | groupNotMapping key =>
    "group definition " ++ key.getD "<unnamed>" ++ " must be a mapping"
  | resourcesNotMapping group kind =>
    "'resources' of group " ++ group ++ " must be a mapping, found " ++ kind
  | resourceNotMapping key =>
    "resource definition " ++ key.getD "<unnamed>" ++ " must be a mapping"
  | unnamed => "definition without 'plural' name"

inductive SchemaDefect where
  | schemaNotFound
  | documentNotLoaded
  | fragmentNotFound
  | versionNotFound
  | versionWithoutSchema
  | noTypeName
  | avroRecordMissing
  | avroRecordMismatch (found expected : String)
  | avroUnionWithoutName
  | avroRecordNotInUnion (name : String)
  | protoNotText
  | protoMessageMissing (name : String)
  deriving DecidableEq, Repr

def SchemaDefect.reason : SchemaDefect → String
  | schemaNotFound => "schema not found"
  | documentNotLoaded => "document could not be loaded"
  | fragmentNotFound => "fragment not found"
  | versionNotFound => "schema version not found"
  | versionWithoutSchema => "version has no schema"
  | noTypeName => "no type name"
  | avroRecordMissing => "Avro: top-level record not found"
  | avroRecordMismatch found expected =>
    "Avro: class name mismatch for top-level record: " ++ found ++ " != " ++ expected
  | avroUnionWithoutName => "Avro: explicit ':ClassName' suffix required for a top-level union"
  | avroRecordNotInUnion name => "Avro: record " ++ name ++ " not found in union"
  | protoNotText => "Proto: schema is not proto text"
  | protoMessageMissing name => "Proto: top-level message " ++ name ++ " not found"

inductive Fault where
  | invalidDocument (uri : String) (defect : DocumentDefect)
  | malformedModel (defect : ModelDefect)
  | schemaReference (reference : String) (defect : SchemaDefect)
  | formatMismatch (expected found : String)
  /-- A CloudEvents message whose metadata names no type. -/
  | missingMessageType (message : String)
  | unwritable
  deriving DecidableEq, Repr

def Fault.message : Fault → String
  | invalidDocument uri defect => "Invalid document " ++ uri ++ ": " ++ defect.reason
  | malformedModel defect => "Malformed registry model: " ++ defect.reason
  | schemaReference reference defect =>
    "Schema reference " ++ reference ++ " cannot be resolved: " ++ defect.reason
  | formatMismatch expected found =>
    "Schema format mismatch: expected " ++ expected ++ ", found " ++ found
  | missingMessageType message =>
    "CloudEvents message " ++ message ++ " has no 'type' in its envelope metadata"
  | unwritable => "IO error"

end Registry
