import Registry.Settings
import Registry.Settings.Format
import Registry.Settings.Path
import Registry.World

/-!
# Layers of settings

Settings come from several files and from the environment, one on top of the other: mappings merge,
and any other value of an upper layer replaces what is below it. A file that need not be there and
whose text cannot be read counts as missing.
-/

namespace Registry.Settings

def variableValue (s : String) : Value :=
  let cs := s.toList
  if Text.lower cs == "true".toList then .boolean true
  else if Text.lower cs == "false".toList then .boolean false
  else match Decimal.signedIn? 10 cs, Decimal.float? cs with
    | some z, _ => .number (.integer z)
    | none, some x => .number (.real x)
    | none, none => .string s

def separator : List Char := ['_', '_']

/-- A name with a dot for each separator. -/
def dotted : List Char → List Char
  | '_' :: '_' :: cs => '.' :: dotted cs
  | c :: cs => c :: dotted cs
  | [] => []

def ofEnvironment (environment : Table String) : Fields :=
  environment.filterMap fun (name, v) => do
    let name := String.ofList (Text.lower name.toList)
    let rest ← Text.dropStart? name "xregistry__"
    some (String.ofList (dotted rest.toList), variableValue v)

def fileName : String := "xregistry.toml"

/-- The paths of the settings files that need not be there, lowest first. -/
def optionalFiles (w : World) : List String :=
  let own := (w.settingsDirectory.map (Disk.join · fileName)).filter w.disk.pathExists
  [fileName, "." ++ fileName, "config/" ++ fileName] ++ own.toList

/-- Puts a settings file on top, if it is there; none if it cannot be read. -/
def addFile (d : Disk) (fields : Fields) (path : String) : Option Fields :=
  match find? d path with
  | none => some fields
  | some (format, text) => (fieldsOf? format text).map (addLayer fields)

/-- The settings that hold in a world, with a settings file that has to be there; none if something
in them cannot be read. -/
def ofWorld? (w : World) (path : Option String) : Option Settings := do
  let fields ← (optionalFiles w).foldlM (addFile w.disk) []
  let fields ← match path with
    | none => some fields
    | some path =>
      let (format, text) ← find? w.disk path
      (fieldsOf? format text).map (addLayer fields)
  ofFields? (addLayer fields (ofEnvironment w.environment))

/-- The paths of the files that the settings may be read from. -/
def consulted (w : World) (path : Option String) : List String :=
  let own := (w.settingsDirectory.map (Disk.join · fileName)).toList
  ([fileName, "." ++ fileName, "config/" ++ fileName] ++ own ++ path.toList).flatMap fun path =>
    path :: variants path

end Registry.Settings
