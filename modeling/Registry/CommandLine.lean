import Registry.CommandLine.Arguments
import Registry.Lint
import Registry.Output
import Registry.Settings.Layers

/-!
# The command line

What each command does in a world: `generate` renders definitions into a directory, `validate` lints
them, and `list` names the engines. A run prints lines and may end in a fault.
-/

namespace Registry.CommandLine

inductive CommandFault where
  | unreadableSettings
  | registry (fault : Fault)
  /-- A request header without an equals sign. -/
  | malformedHeader (text : String)
  | noEngine (language style : String)
  | noOutput
  | notLoaded (location : String)
  | invalidDefinitions (location : String) (errors : Nat)
  deriving DecidableEq, Repr

def CommandFault.message : CommandFault → String
  | unreadableSettings => "loading configuration"
  | registry fault => fault.message
  | malformedHeader text => "request header '" ++ text ++ "' is not key=value"
  | noEngine language style =>
    "no template for language '" ++ language ++ "' and style '" ++ style ++ "'"
  | noOutput => "--output is required"
  | notLoaded location => "could not load definitions from " ++ location
  | invalidDefinitions location errors => location ++ " has " ++ toString errors ++ " error(s)"

/-- What a command comes to. -/
inductive Plan where
  /-- Lines are printed, and there may be a fault. -/
  | print (lines : List String) (fault : Option CommandFault)
  /-- Files are written into a directory, and their paths are printed. -/
  | write (directory : String) (files : List (String × String))
  deriving DecidableEq, Repr

structure Session where
  settings : Settings
  headers : Headers
  loader : Loader

/-- Puts the headers given on the command line over others. -/
def addHeaders (headers : Headers) : List String → Except CommandFault Headers
  | [] => .ok headers
  | text :: rest =>
    match Text.cutAt? '=' text with
    | none => .error (.malformedHeader text)
    | some (name, v) => addHeaders (headers.insert (Text.trim name) (Text.trim v)) rest

def Session.start (w : World) (i : Invocation) : Except CommandFault Session := do
  let settings ← match Settings.ofWorld? w i.config with
    | some settings => .ok settings
    | none => .error .unreadableSettings
  let model ← match w.model (settings.modelLocation w.environment i.model) with
    | .ok model => .ok model
    | .error defect => .error (.registry (.malformedModel defect))
  let headers ← addHeaders settings.headers i.headers
  .ok { settings, headers
        loader := .start model (w.source settings.inlineQuery) settings.policy }

def documentOf (result : Except Fault Loaded) : Except CommandFault (String × Value) :=
  match result with
  | .error fault => .error (.registry fault)
  | .ok (location, none) => .error (.notLoaded location)
  | .ok (location, some document) => .ok (location, document)

/-- The project name that the location of definitions suggests: the last name in it, up to its first
dot. -/
def projectNameOf (definitions : String) : String :=
  let last := (definitions.toList.splitOnP fun c => c == '/' || c == '\\').getLast?.getD []
  let stem := last.takeWhile (· ≠ '.')
  if stem.isEmpty then "project" else String.ofList stem

def loadDefinitions (s : Session) (g : Generation) : Except Fault Loaded × Loader :=
  let options : LoadOptions :=
    { messageGroupFilter := g.messageGroup, endpointFilter := g.endpoint }
  if g.stacked.isEmpty then s.loader.loadWithDependencies g.definitions s.headers options
  else s.loader.loadStacked (g.definitions :: g.stacked) s.headers options

def generate (s : Session) (g : Generation) : Except CommandFault Plan × Loader :=
  let language := (g.language.or s.settings.language).getD Engine.composed.language
  let style := (g.style.or s.settings.style).getD Engine.composed.style
  if (Engine.find? language style).isNone then (.error (.noEngine language style), s.loader)
  else match g.output.or s.settings.outputDirectory with
    | none => (.error .noOutput, s.loader)
    | some output =>
      let project := (g.projectName.or s.settings.projectName).getD (projectNameOf g.definitions)
      let (result, l) := loadDefinitions s g
      match documentOf result with
      | .error fault => (.error fault, l)
      | .ok (_, document) =>
        match l.render project document with
        | (.error fault, l) => (.error (.registry fault), l)
        | (.ok (.aborted _), l) => (.ok (.print [] none), l)
        | (.ok (.files files), l) => (.ok (.write output files), l)

def lineOf (kind : String) (f : Lint.Finding) : String :=
  kind ++ "[" ++ f.problem.code ++ "] " ++ f.path ++ ": " ++ f.problem.message

def validate (s : Session) (definitions : String) : Except CommandFault Plan × Loader :=
  let (result, l) := s.loader.loadWithDependencies definitions s.headers {}
  (do
    let (location, document) ← documentOf result
    let errors := Lint.errors l.model document
    let lines := (Lint.warnings l.model document).map (lineOf "warning") ++
      errors.map (lineOf "error")
    .ok <|
      if errors.isEmpty then .print (lines ++ [location ++ ": ok"]) none
      else .print lines (some (.invalidDefinitions location errors.length)), l)

def padded (width : Nat) (s : String) : String :=
  s ++ String.ofList (List.replicate (width - s.length) ' ')

def listing : List String :=
  let row (language style : String) : String := padded 12 language ++ " " ++ style
  row "LANGUAGE" "STYLE" :: Engine.all.map fun e => row e.language e.style

/-- What an invocation comes to, and the loader that it used. -/
def planWith (w : World) (i : Invocation) : Except CommandFault Plan × Option Loader :=
  match i.command with
  | .list => (.ok (.print listing none), none)
  | .generate g =>
    match Session.start w i with
    | .error fault => (.error fault, none)
    | .ok s =>
      let (result, l) := generate s g
      (result, some l)
  | .validate definitions =>
    match Session.start w i with
    | .error fault => (.error fault, none)
    | .ok s =>
      let (result, l) := validate s definitions
      (result, some l)

def plan (w : World) (i : Invocation) : Plan :=
  match (planWith w i).1 with
  | .ok plan => plan
  | .error fault => .print [] (some fault)

structure Report where
  status : Nat
  lines : List String
  message : Option String
  deriving DecidableEq, Repr

def Report.printed (lines : List String) (fault : Option CommandFault) : Report :=
  match fault with
  | none => ⟨0, lines, none⟩
  | some fault => ⟨1, lines, some ("Error: " ++ fault.message)⟩

def Report.refused : Refusal → Report
  | .help => ⟨0, [], none⟩
  | .invalid => ⟨2, [], none⟩

/-- Runs the program on a world: the report, and the disk afterwards. -/
def run (w : World) (args : List String) : Report × Disk :=
  match readArguments args with
  | .error reason => (.refused reason, w.disk)
  | .ok i =>
    match plan w i with
    | .print lines fault => (.printed lines fault, w.disk)
    | .write directory files =>
      match w.disk.writeAll directory files with
      | (some paths, d) => (.printed paths none, d)
      | (none, d) => (.printed [] (some (.registry .unwritable)), d)

/-- The paths of the files that an invocation looks at, as far as the world it met shows. -/
def consulted (w : World) (i : Invocation) : List String :=
  let paths := match i.command with
    | .list => []
    | _ =>
      let model := (Settings.ofWorld? w i.config).bind (·.modelLocation w.environment i.model)
      let locations := match (planWith w i).2 with
        | some l => l.fetcher.requests.map fun (r : Request) => r.location
        | none => []
      Settings.consulted w i.config ++ model.toList ++
        locations.map fun location => World.pathOf (Location.stripFragment location)
  paths.filter fun path => !Location.isHttp path

end Registry.CommandLine
