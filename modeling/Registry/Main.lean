import Registry.CommandLine

/-!
# The program

Runs the command line on the files and the environment around it. What a run looks at is read as the
run asks for it: it is planned on the files known so far, until it asks for no other one.
-/

namespace Registry.CommandLine

def variableNames : List String :=
  ["XREGISTRY_MODEL_PATH", "XREGISTRY__MODEL__URL", "XREGISTRY__DEFAULTS__PROJECT_NAME",
    "XREGISTRY__DEFAULTS__LANGUAGE", "XREGISTRY__DEFAULTS__STYLE", "XREGISTRY__DEFAULTS__OUTPUT_DIR",
    "XREGISTRY__REGISTRY__AUTH_TOKEN", "XREGISTRY__REGISTRY__TIMEOUT_SECS",
    "XREGISTRY__LOADER__PARSE_POLICY", "XREGISTRY__LOADER__INLINE_QUERY"]

def readEnvironment : IO (Table String) := do
  let entries ← variableNames.mapM fun name => return (name, ← IO.getEnv name)
  return entries.filterMap fun (name, v) => v.map (name, ·)

def findSettingsDirectory : IO (Option String) := do
  match (← IO.getEnv "XDG_CONFIG_HOME").filter Disk.isAbsolute with
  | some directory => return some (Disk.join directory "xregistry")
  | none => return (← IO.getEnv "HOME").map (Disk.join · ".config/xregistry")

/-- A world without files, at the working directory. No network is reached from it. -/
def emptyWorld : IO World := do
  let here := (Disk.steps (← IO.currentDir).toString).1
  return { disk := .empty here, network := .unreachable, environment := ← readEnvironment
           settingsDirectory := ← findSettingsDirectory }

/-- A disk that knows what is at some paths. -/
def readFiles (d : Disk) (paths : List String) : IO Disk :=
  paths.foldlM (fun d (path : String) => do
    try return d.withFile path (← IO.FS.readBinFile path).toList
    catch _ => return d) d

/-- The world with all files that an invocation looks at. -/
partial def observe (i : Invocation) (known : List String) (w : World) : IO World := do
  let new := ((consulted w i).filter (!known.contains ·)).eraseDups
  if new.isEmpty then return w
  observe i (known ++ new) { w with disk := ← readFiles w.disk new }

def writeFiles (directory : String) (files : List (String × String)) : IO (List String) := do
  if !directory.isEmpty then IO.FS.createDirAll directory
  files.mapM fun (name, text) => do
    let path := Disk.join directory name
    IO.FS.writeFile path text
    return path

def carryOut : Plan → IO Report
  | .print lines fault => return .printed lines fault
  | .write directory files => do
    try return .printed (← writeFiles directory files) none
    catch e => return ⟨1, [], some ("Error: " ++ Fault.message .unwritable ++ ": " ++ toString e)⟩

def usage : List String :=
  ["Usage: xregistry [--config FILE] [--model LOCATION] [--requestheaders KEY=VALUE]... COMMAND",
    "",
    "Commands:",
    "  generate -d LOCATION [-d LOCATION]... [-l LANGUAGE] [-s STYLE] [-o DIRECTORY]",
    "           [--projectname NAME] [--messagegroup PART] [--endpoint PART]",
    "  validate -d LOCATION",
    "  list"]

def runProgram (args : List String) : IO UInt32 := do
  match readArguments args with
  | .error .help => usage.forM IO.println *> return 0
  | .error .invalid => usage.forM IO.eprintln *> return 2
  | .ok i =>
    let report ← carryOut (plan (← observe i [] (← emptyWorld)) i)
    report.lines.forM IO.println
    report.message.toList.forM IO.eprintln
    return report.status.toUInt32

end Registry.CommandLine

def main (args : List String) : IO UInt32 := Registry.CommandLine.runProgram args
