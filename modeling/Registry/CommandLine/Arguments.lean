import Registry.Text.Split

/-!
# Command line arguments

Options have a value, which follows as the next argument or stands behind an equals sign; behind a
short name it may stand without one. Some options belong to every command and may come before or
after its name; where both have one, the latter counts.
-/

namespace Registry.CommandLine

structure OptionType where
  long : String
  short : Option Char := none
  repeatable : Bool := false
  mayBeEmpty : Bool := true

def sharedOptions : List OptionType :=
  [⟨"config", none, false, true⟩, ⟨"model", none, false, true⟩,
    ⟨"requestheaders", none, true, true⟩]

def generateOptions : List OptionType :=
  [⟨"definitions", some 'd', true, true⟩, ⟨"language", some 'l', false, true⟩,
    ⟨"style", some 's', false, true⟩, ⟨"output", some 'o', false, false⟩,
    ⟨"projectname", none, false, true⟩, ⟨"messagegroup", none, false, true⟩,
    ⟨"endpoint", none, false, true⟩] ++ sharedOptions

def validateOptions : List OptionType := ⟨"definitions", some 'd', false, true⟩ :: sharedOptions

/-- The values given to options, in order. -/
abbrev Given := List (String × String)

inductive Refusal where
  | help
  | invalid
  deriving DecidableEq, Repr

def Given.add (given : Given) (type : OptionType) (v : String) : Except Refusal Given :=
  if !type.repeatable && given.any (·.1 == type.long) then .error .invalid
  else if !type.mayBeEmpty && v.isEmpty then .error .invalid
  else .ok (given ++ [(type.long, v)])

/-- Whether an argument can be the value of the option before it. -/
def isValue (arg : String) : Bool := !Text.startsWith arg "-" || arg == "-"

inductive Shown where
  /-- An option with the value that stands in the argument itself, if there is one. -/
  | option (type : OptionType) (attached : Option String)
  | refused (reason : Refusal)

def showLong (types : List OptionType) (cs : List Char) : Shown :=
  let (name, attached) := match Text.cut? '=' cs with
    | some (name, v) => (String.ofList name, some (String.ofList v))
    | none => (String.ofList cs, none)
  if name = "help" then .refused (if attached.isSome then .invalid else .help)
  else match types.find? (·.long == name) with
    | some type => .option type attached
    | none => .refused .invalid

def showShort (types : List OptionType) (c : Char) (cs : List Char) : Shown :=
  if c = 'h' then .refused .help
  else match types.find? (·.short == some c), cs with
    | none, _ => .refused .invalid
    | some type, [] => .option type none
    | some type, '=' :: cs => .option type (some (String.ofList cs))
    | some type, cs => .option type (some (String.ofList cs))

/-- What an argument shows that is no command. -/
def shownBy (types : List OptionType) (arg : String) : Shown :=
  match arg.toList with
  | '-' :: '-' :: cs => showLong types cs
  | '-' :: c :: cs => showShort types c cs
  | _ => .refused .invalid

/-- Reads options up to the name of a command, if there are any: the values given, and the command
with the arguments behind it. -/
def readOptions (types : List OptionType) (commands : List String) :
    Given → List String → Except Refusal (Given × Option (String × List String))
  | given, [] => .ok (given, none)
  | given, arg :: rest =>
    if commands.contains arg then .ok (given, some (arg, rest))
    else if arg = "--" then (if rest.isEmpty then .ok (given, none) else .error .invalid)
    else match shownBy types arg, rest with
      | .refused reason, _ => .error reason
      | .option type (some v), rest =>
        match given.add type v with
        | .ok given => readOptions types commands given rest
        | .error reason => .error reason
      | .option _ none, [] => .error .invalid
      | .option type none, v :: rest =>
        if !isValue v then .error .invalid
        else match given.add type v with
          | .ok given => readOptions types commands given rest
          | .error reason => .error reason

def Given.all (given : Given) (long : String) : List String :=
  given.filterMap fun (name, v) => if name = long then some v else none

def Given.one? (given : Given) (long : String) : Option String := (given.all long).head?

structure Generation where
  /-- The first definitions, and those stacked on them. -/
  definitions : String
  stacked : List String
  language : Option String
  style : Option String
  output : Option String
  projectName : Option String
  messageGroup : Option String
  endpoint : Option String
  deriving DecidableEq, Repr

inductive Command where
  | generate (generation : Generation)
  | validate (definitions : String)
  | list
  deriving DecidableEq, Repr

structure Invocation where
  config : Option String
  model : Option String
  /-- The request headers, each a key and a value with an equals sign between them. -/
  headers : List String
  command : Command
  deriving DecidableEq, Repr

def command? (name : String) (given : Given) : Option Command :=
  match name with
  | "generate" =>
    match given.all "definitions" with
    | [] => none
    | definitions :: stacked => some <| .generate {
        definitions, stacked
        language := given.one? "language", style := given.one? "style"
        output := given.one? "output", projectName := given.one? "projectname"
        messageGroup := given.one? "messagegroup", endpoint := given.one? "endpoint" }
  | "validate" => (given.one? "definitions").map .validate
  | _ => some .list

def optionsOf (name : String) : List OptionType :=
  match name with
  | "generate" => generateOptions
  | "validate" => validateOptions
  | _ => sharedOptions

def commandNames : List String := ["generate", "validate", "list"]

/-- Why a request for help on commands is refused: help is given on one command or on none. -/
def helpOn : List String → Refusal
  | [] => .help
  | [name] => if ("help" :: commandNames).contains name then .help else .invalid
  | _ => .invalid

def readArguments (args : List String) : Except Refusal Invocation := do
  let (outer, command) ← readOptions sharedOptions ("help" :: commandNames) [] args
  match command with
  | none => .error .invalid
  | some ("help", rest) => .error (helpOn rest)
  | some (name, rest) =>
    let (inner, _) ← readOptions (optionsOf name) [] [] rest
    match command? name inner with
    | none => .error .invalid
    | some command =>
      let headers := inner.all "requestheaders"
      .ok {
        config := (inner.one? "config").or (outer.one? "config")
        model := (inner.one? "model").or (outer.one? "model")
        headers := if headers.isEmpty then outer.all "requestheaders" else headers
        command }

end Registry.CommandLine
