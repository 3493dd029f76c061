import Registry.Disk
import Registry.Http
import Registry.Json.Reader
import Registry.Location
import Registry.Model

/-!
# The world around a run

The files, the network and the environment that a run meets, and the source of documents they make:
locations with an HTTP scheme are read over the network, all others are paths. Models are read from
the world too; where none can be read, the built-in one counts.
-/

namespace Registry

structure World where
  disk : Disk
  network : Network
  environment : Table String
  /-- Where the user keeps settings. -/
  settingsDirectory : Option String

namespace World

/-- The path of the file that a location names. -/
def pathOf (location : String) : String :=
  match (Url.ofText? location).filter (·.scheme == "file") with
  | some u => String.ofList (Text.Utf8.decodeLossy (Text.Percent.decode u.path.toString.toList))
  | none => location

def read (w : World) (inlineQuery : Bool) (request : Request) : Option RawDocument :=
  if Location.isHttp request.location then Http.read w.network inlineQuery request
  else
    let location := Location.stripFragment request.location
    (w.disk.readText (pathOf location)).map fun text => ⟨location, text, []⟩

/-- The source of the documents in the world. A run that met more of them than its extent would stop
there. -/
def source (w : World) (inlineQuery : Bool) : Source :=
  { extent := 0x100000000, answer := fun _ request => w.read inlineQuery request }

/-- The URL of a model: one whose path ends neither in `/model` nor in `.json` is that of a registry,
which has its model below it. -/
def modelUrl? (location : String) : Option Url := do
  let u ← (Url.ofText? location).filter Url.isHttp
  let path := u.path.toString
  if Text.endsWith path "/model" || Text.endsWith path ".json" then some u
  else Url.ofText? (String.ofList (location.toList.reverse.dropWhile (· == '/')).reverse ++ "/model")

def modelText (w : World) (location : String) : Option String :=
  if Location.isHttp location then do
    let (_, r) ← Http.follow w.network 5 (← modelUrl? location) []
    some (String.ofList (← Text.Utf8.decode? r.body))
  else w.disk.readText location

/-- The model at a location; the built-in one if there is none to be read. -/
def model (w : World) (location : Option String) : Except ModelDefect Model :=
  match ((location.bind w.modelText).bind Json.read?) with
  | some document => Model.ofValue document
  | none => .ok .standard

end World

end Registry
