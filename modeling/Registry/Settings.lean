import Registry.Document
import Registry.Source
import Registry.Text.Case
import Registry.Toml.Writer

/-!
# Settings

What a user may set beforehand, as the sections of a settings document. A value of another kind
counts where it can be converted; unknown keys are ignored.
-/

namespace Registry

structure Settings where
  modelUrl : Option String := none
  projectName : Option String := none
  language : Option String := none
  style : Option String := none
  outputDirectory : Option String := none
  authToken : Option String := none
  timeoutSeconds : Nat := 30
  policy : ParsePolicy := .permissive
  inlineQuery : Bool := true
  deriving DecidableEq, Repr

namespace Settings

def realText (x : Float) : String :=
  if x.isNaN then "NaN"
  else
    let magnitude := if x.isInf then "inf".toList else (Decimal.shortest x).positional
    String.ofList (if Decimal.signBit x then '-' :: magnitude else magnitude)

def text? : Value → Option String
  | .string s => some s
  | .boolean b => some (if b then "true" else "false")
  | .number (.integer z) => some (toString z)
  | .number (.real x) => some (realText x)
  | _ => none

def word? (s : String) : Option Bool :=
  let s := Text.lower s.toList
  if ["true", "on", "yes"].any (·.toList == s) then some true
  else if ["false", "off", "no"].any (·.toList == s) then some false
  else none

def flag? : Value → Option Bool
  | .boolean b => some b
  | .number (.integer z) => some (z ≠ 0)
  | .number (.real x) => some (x != 0.0)
  | .string s => if s = "1" then some true else if s = "0" then some false else word? s
  | _ => none

/-- The number of at most 64 bits that a text spells. -/
def natural? (s : String) : Option Nat :=
  let ds := match s.toList with
    | '+' :: ds => ds
    | ds => ds
  if ds.isEmpty || !ds.all Char.isDigit then none
  else some (Decimal.ofDigits ds) |>.filter (· < Decimal.wordCount)

def count? : Value → Option Nat
  | .boolean b => some b.toNat
  | .number (.integer z) => if Decimal.fitsUnsigned z then some z.toNat else none
  | .number (.real x) => some x.round.toUInt64.toNat
  | .string s =>
    match word? s with
    | some b => some b.toNat
    | none => natural? s
  | _ => none

def policyOfName? (name : String) : Option ParsePolicy :=
  let name := String.ofList (Text.lower name.toList)
  if name = "permissive" then some .permissive else if name = "strict" then some .strict else none

/-- The policy that a value names, as a text or as a single key. -/
def policy? : Value → Option ParsePolicy
  | .string s => policyOfName? s
  | .mapping [(key, _)] => policyOfName? key
  | _ => none

/-- The entries of a section; a sequence gives the values of its keys in order. -/
def section? (name : String) (keys : List String) (document : Fields) : Option Fields :=
  match document.get? name with
  | none => some []
  | some (.mapping fields) => some fields
  | some (.sequence items) => some (keys.zip items)
  | some _ => none

/-- A value under a key, converted; the default if there is none. -/
def read {α : Type} (convert : Value → Option α) (default : α) (fields : Fields) (key : String) :
    Option α :=
  match fields.get? key with
  | none => some default
  | some v => convert v

def optionalText : Value → Option (Option String)
  | .null => some none
  | v => (text? v).map some

def ofFields? (document : Fields) : Option Settings := do
  let model ← section? "model" ["url"] document
  let defaults ← section? "defaults" ["project_name", "language", "style", "output_dir"] document
  let registry ← section? "registry" ["auth_token", "timeout_secs"] document
  let loader ← section? "loader" ["parse_policy", "inline_query"] document
  some {
    modelUrl := ← read optionalText none model "url"
    projectName := ← read optionalText none defaults "project_name"
    language := ← read optionalText none defaults "language"
    style := ← read optionalText none defaults "style"
    outputDirectory := ← read optionalText none defaults "output_dir"
    authToken := ← read optionalText none registry "auth_token"
    timeoutSeconds := ← read count? 30 registry "timeout_secs"
    policy := ← read policy? .permissive loader "parse_policy"
    inlineQuery := ← read flag? true loader "inline_query" }

def headers (s : Settings) : Headers :=
  match s.authToken with
  | some token => [("Authorization", "Bearer " ++ token)]
  | none => []

/-- Where the model is: as given, else as the environment says unless it is empty, else as set. -/
def modelLocation (s : Settings) (environment : Table String) (given : Option String) :
    Option String :=
  (given.or ((environment.get? "XREGISTRY_MODEL_PATH").filter (· ≠ ""))).or s.modelUrl

def policyName : ParsePolicy → String
  | .permissive => "permissive"
  | .strict => "strict"

/-- The settings as a TOML document; none if a number does not fit there. -/
def written? (s : Settings) : Option String :=
  let texts (entries : List (String × Option String)) : List (String × Toml.Scalar) :=
    entries.filterMap fun (key, v) => v.map fun v => (key, .text v)
  if Decimal.negativeCount ≤ s.timeoutSeconds then none
  else some <| Toml.written [
    ("model", texts [("url", s.modelUrl)]),
    ("defaults", texts [("project_name", s.projectName), ("language", s.language),
      ("style", s.style), ("output_dir", s.outputDirectory)]),
    ("registry", texts [("auth_token", s.authToken)] ++ [("timeout_secs", .natural s.timeoutSeconds)]),
    ("loader", [("parse_policy", .text (policyName s.policy)),
      ("inline_query", .boolean s.inlineQuery)])]

end Settings

end Registry
