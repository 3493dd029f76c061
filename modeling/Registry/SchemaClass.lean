import Registry.Loader
import Registry.Naming
import Registry.Text.Word

/-!
# Schema classes

The qualified name of the class that a reference to a schema stands for. The version of the schema
that counts must have the requested format, and its payload must hold the type that is named.
-/

namespace Registry

namespace SchemaClass

/-- The segments of a schema's place: of the fragment if there is one, else of the URL's path. -/
def segments (schema : String) : List String :=
  let path := match Text.cutAt? '#' schema with
    | some (_, fragment) => Pointer.ofFragment fragment
    | none => ((Url.ofText? schema).map (·.path.toString)).getD schema
  ((Text.pieces '/' path).filter (!·.isEmpty)).map Pointer.unescape

def resourceId? (path : List String) : Option String := path[3]?

/-- The id that the group at the start of a path gives itself; the key of the group if it gives
none. -/
def groupId? (root : Value) (path : List String) : Option String := do
  let type ← path[0]?
  let id ← path[1]?
  let group ← (← root.get? type).get? id
  let key := ((Text.dropEnd? type "s").map (· ++ "id")).getD ""
  some ((((group.get? key).or (group.get? "id")).bind Value.text?).getD id)

def recordName? (record : Value) : Option String := do
  if record.textAt? "type" ≠ some "record" then none
  let name ← record.textAt? "name"
  match record.textAt? "namespace" with
  | some ns => some (if ns.isEmpty then name else ns ++ "." ++ name)
  | none => some name

/-- The record of an Avro schema that a class name means: the only one, or one of a union. -/
def avroRecord (className : String) : Value → Except SchemaDefect String
  | .mapping fields =>
    match recordName? (.mapping fields) with
    | none => .error .avroRecordMissing
    | some full =>
      if className.isEmpty || Text.sameIgnoringCase full className then .ok full
      else .error (.avroRecordMismatch full className)
  | .sequence records =>
    if className.isEmpty then .error .avroUnionWithoutName
    else match (records.filterMap recordName?).find? (· == className) with
      | some full => .ok full
      | none => .error (.avroRecordNotInUnion className)
  | _ => .error .avroRecordMissing

def messageAtStart? (cs : List Char) : Option String :=
  if "message".toList.isPrefixOf cs then
    let rest := cs.drop 7
    let name := (Text.trimStart rest).takeWhile Text.isWordChar
    let behind := Text.trimStart ((Text.trimStart rest).dropWhile Text.isWordChar)
    if rest.head?.any Text.isBlank && !name.isEmpty && behind.head? == some '\x7b' then
      some (String.ofList name)
    else none
  else none

def firstMessage? (text : String) : Option String :=
  (Text.suffixes text.toList).findSome? messageAtStart?

/-- The message of a Protocol Buffers schema that a class name means. -/
def protoMessage (className : String) (payload : Value) : Except SchemaDefect String :=
  match payload.text? with
  | none => .error .protoNotText
  | some text =>
    match firstMessage? text with
    | none => .error (.protoMessageMissing className)
    | some message =>
      if className.isEmpty then .ok message
      else if Text.sameIgnoringCase message (Naming.stripNamespace className) then .ok className
      else .ok (Naming.namespaceDot className "" ++ message)

/-- The class name of a schema whose format says nothing about its types: the name given, else the
last segment of its place that is no version. -/
def plainClass (project className : String) (path : List String) : Except SchemaDefect String :=
  if !className.isEmpty then .ok (project ++ "." ++ className)
  else match path.reverse with
    | _ :: "versions" :: name :: _ => .ok name
    | name :: _ => .ok name
    | [] => .error .noTypeName

def ofPayload (family project className : String) (path : List String) (payload : Value) :
    Except SchemaDefect String :=
  if Text.startsWith family "avro" then (avroRecord className payload).map (project ++ "." ++ ·)
  else if Text.startsWith family "proto" then
    (protoMessage className payload).map (project ++ "." ++ ·)
  else plainClass project className path

def isSchema : Value → Bool
  | .mapping _ | .sequence _ | .string _ => true
  | _ => false

def find (l : Loader) (root : Value) (reference : Reference) : Except SchemaDefect Value × Loader :=
  match reference with
  | .fragment path _ =>
    let pointer := "#" ++ path
    (match (root.lookup pointer).filter isSchema with
      | some schema => .ok schema
      | none => .error .schemaNotFound, l.addSchemaReference pointer)
  | .external location fragment _ =>
    let (document, l) := l.loadSchemaDocument location []
    (match document, fragment with
      | none, _ => .error .documentNotLoaded
      | some document, none => .ok document
      | some document, some fragment =>
        match document.lookup fragment with
        | some schema => .ok schema
        | none => .error .fragmentNotFound, l)

/-- The version of a schema that counts, and the name it goes by unless one is given. -/
def version (schema : Value) (path : List String) : Except SchemaDefect (Value × String) :=
  match schema.latestVersion? with
  | some (_, version) =>
    let own := ((schema.get? "schemaid").or (schema.get? "id")).bind Value.text?
    .ok (version, (own.or (resourceId? path)).getD "")
  | none =>
    if schema.isMapping then .ok (schema, (resourceId? path).getD "") else .error .versionNotFound

/-- The name of a class, given the name that its reference or its schema goes by. A name from the
schema in the same document is qualified by the group unless it starts like the group. -/
def qualified (root : Value) (reference : Reference) (path : List String) (name : String) : String :=
  if reference.isFragment && reference.typeName?.isNone then
    match groupId? root path with
    | some group => if Text.startsWith name group then name else group ++ "." ++ name
    | none => name
  else name

/-- The payload of a version of a schema, loaded if it is kept elsewhere. -/
def payload (l : Loader) (text : String) (version : Value) : Except Fault Value × Loader :=
  match version.textAt? "schemaurl" with
  | some url =>
    let (document, l) := l.loadSchemaDocument url []
    (match document with
      | some document => .ok document
      | none => .error (.schemaReference url .schemaNotFound), l)
  | none =>
    (match version.get? "schema" with
      | some schema => .ok schema
      | none => .error (.schemaReference text .versionWithoutSchema), l)

/-- The family of a format: what stands before its first slash, in small letters. -/
def family (format : String) : String :=
  Text.lowerAscii (((Text.cutAt? '/' format).map Prod.fst).getD format)

end SchemaClass

/-- The class that a reference to a schema stands for, qualified by the project. -/
def Loader.schemaClass (l : Loader) (text project : String) (root : Value) (format : String) :
    Except Fault String × Loader :=
  let reference := Reference.ofText text
  let refused {α : Type} (defect : SchemaDefect) : Except Fault α :=
    .error (.schemaReference text defect)
  match SchemaClass.find l root reference with
  | (.error defect, l) => (refused defect, l)
  | (.ok schema, l) =>
    let path := SchemaClass.segments reference.withoutTypeName
    match SchemaClass.version schema path with
    | .error defect => (refused defect, l)
    | .ok (version, name) =>
      let className := SchemaClass.qualified root reference path (reference.typeName?.getD name)
      let declared := (version.textAt? "format").getD ""
      if !Text.sameIgnoringCase declared format then
        (.error (.formatMismatch format declared), l)
      else
        match SchemaClass.payload l text version with
        | (.error fault, l) => (.error fault, l)
        | (.ok payload, l) =>
          (match SchemaClass.ofPayload (SchemaClass.family declared) project className path payload with
            | .ok full => .ok full
            | .error defect => refused defect, l)

end Registry
