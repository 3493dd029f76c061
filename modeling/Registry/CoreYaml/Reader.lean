import Registry.CoreYaml.Layout
import Registry.Decimal.Numeral
import Registry.Value
import Registry.Yaml.Node

/-!
# Reading YAML settings

The value of a YAML text of settings, or none. A plain scalar is null, a boolean, a number or a string
by its spelling, and a tag of the core schema asks for one of these. Keys are texts or integers, and
none is repeated in a mapping.
-/

namespace Registry.CoreYaml

open Yaml (Token Tag Node)

/-- The meanings of tag handles after the directives of a document, of which the last one alone
counts, and the tokens behind them. The version may be stated once. -/
def readDirectives : (version : Bool) → (handles : Table String) → List Token →
    Option (Table String × List Token)
  | version, _, .version .. :: ts => if version then none else readDirectives true [] ts
  | version, _, .handle name meaning :: ts => readDirectives version [(name, meaning)] ts
  | _, handles, ts => some (handles, ts)

def corePrefix : String := "tag:yaml.org,2002:"

/-- The tag of a handle and a suffix. A handle without meaning stands for itself, unless it is one
with a name. -/
def resolve (handles : Table String) (handle suffix : String) : Option Tag :=
  match handles.get? handle with
  | some meaning => some ⟨meaning, suffix⟩
  | none =>
    if handle = "!!" then some ⟨corePrefix, suffix⟩
    else if handle.isEmpty || handle == "!" then some ⟨handle, suffix⟩
    else none

/-- The dialect of a document that starts with the directives at the start of some tokens, and what
follows them. -/
def directives? (ts : List Token) : Option (Node.Dialect × List Token) :=
  (readDirectives false [] ts).map fun (handles, rest) =>
    ({ resolve := resolve handles, ownNumbers := true, bareValues := true }, rest)

inductive Datum where
  /-- Nothing, which is null as a value and no key. -/
  | missing
  /-- Something that settings cannot hold. -/
  | unsuitable
  | value (v : Value)

namespace Datum

def value? : Datum → Option Value
  | missing => some .null
  | unsuitable => none
  | value v => some v

def scalar? : Datum → Option Value
  | value (.string s) => some (.string s)
  | value (.number (.integer z)) => some (.number (.integer z))
  | _ => none

def key? : Datum → Option String
  | value (.string s) => some s
  | value (.number (.integer z)) => some (toString z)
  | _ => none

end Datum

/-- The spellings of numbers that settings cannot hold. -/
def unsuitableWords : List String :=
  [".inf", ".Inf", ".INF", "+.inf", "+.Inf", "+.INF", "-.inf", "-.Inf", "-.INF", ".nan", ".NAN"]

def integer? (cs : List Char) : Option Int :=
  let based : Option Int := match cs with
    | '0' :: 'x' :: ds => Decimal.signedIn? 16 ds
    | '0' :: 'o' :: ds => Decimal.signedIn? 8 ds
    | '+' :: ds => Decimal.signedIn? 10 ds
    | _ => none
  based.or (Decimal.signedIn? 10 cs)

/-- What a text stands for that spells a number with a point, an exponent or a word. -/
def real? (text : String) : Option Datum :=
  if unsuitableWords.contains text then some .unsuitable
  else (Decimal.float? text.toList).map fun x => .value (.number (.real x))

def boolean? (text : String) : Option Bool :=
  if text = "true" then some true else if text = "false" then some false else none

def plainDatum (text : String) : Datum :=
  if ["", "~", "null"].contains text then .value .null
  else match boolean? text, integer? text.toList with
    | some b, _ => .value (.boolean b)
    | none, some z => .value (.number (.integer z))
    | none, none => (real? text).getD (.value (.string text))

/-- What a plain scalar stands for to which the core schema gives a tag. -/
def taggedDatum (suffix text : String) : Datum :=
  match suffix with
  | "bool" => ((boolean? text).map fun b => .value (.boolean b)).getD .missing
  | "int" => ((Decimal.signedIn? 10 text.toList).map fun z => .value (.number (.integer z))).getD
      .missing
  | "float" => (real? text).getD .missing
  | "null" => if text = "~" ∨ text = "null" then .value .null else .missing
  | _ => .value (.string text)

def scalarDatum (tag : Option Tag) (text : String) (plain : Bool) : Datum :=
  match tag with
  | none => if plain then plainDatum text else .value (.string text)
  | some t => if plain ∧ t.meaning = corePrefix then taggedDatum t.suffix text
      else .value (.string text)

def sequenceDatum (items : List Datum) : Datum :=
  match items.mapM Datum.value? with
  | some vs => .value (.sequence vs)
  | none => .unsuitable

/-- The entries of a mapping, from its keys and values in turn. What stands for nothing is no key, and
then the value is taken for one. -/
def pairUp : (key : Option Datum) → List Datum → List (Datum × Datum)
  | none, .missing :: ds => pairUp none ds
  | none, k :: ds => pairUp (some k) ds
  | some k, v :: ds => (k, v) :: pairUp none ds
  | _, [] => []

/-- What a mapping stands for, from its keys and values in turn; an error if a key is repeated. -/
def mappingDatum? (parts : List Datum) : Option Datum :=
  let entries := pairUp none parts
  if !decide (entries.filterMap fun e => e.1.scalar?).Nodup then none
  else
    let fields := entries.mapM fun (k, v) => do some (← k.key?, ← v.value?)
    some <| match fields with
      | some fields => .value (.mapping (Table.ofEntries fields))
      | none => .unsuitable

/-- What the anchors stand for whose nodes have been read, the last one first. -/
abbrev Known := List (Nat × Datum)

def Known.set (known : Known) (anchor : Option Nat) (d : Datum) : Known :=
  (anchor.map (·, d)).toList ++ known

mutual

/-- What a node stands for, and the anchors known after it. An alias inside its own node stands for
nothing. -/
def datum? (known : Known) : Node → Option (Datum × Known)
  | .aliasOf id => some ((known.lookup id).getD .missing, known)
  | .scalar anchor tag text plain =>
    let d := scalarDatum tag text plain
    some (d, known.set anchor d)
  | .sequence anchor _ items => do
    let (ds, known) ← itemData? known items
    let d := sequenceDatum ds
    some (d, known.set anchor d)
  | .mapping anchor _ entries => do
    let (ds, known) ← entryData? known entries
    let d ← mappingDatum? ds
    some (d, known.set anchor d)

def itemData? (known : Known) : List Node → Option (List Datum × Known)
  | [] => some ([], known)
  | n :: ns => do
    let (d, known) ← datum? known n
    let (ds, known) ← itemData? known ns
    some (d :: ds, known)

def entryData? (known : Known) : List (Node × Node) → Option (List Datum × Known)
  | [] => some ([], known)
  | (k, v) :: rest => do
    let (dk, known) ← datum? known k
    let (dv, known) ← datum? known v
    let (ds, known) ← entryData? known rest
    some (dk :: dv :: ds, known)

end

/-- The value of a text that holds at most one document; an empty mapping if it holds none. -/
def read? (text : String) : Option Value := do
  let tokens ← tokens? text
  match ← Node.ofTokens? directives? (tokens.dropWhile (· == .documentEnd)) with
  | none => some (.mapping [])
  | some n => do
    let (d, _) ← datum? [] n
    d.value?

end Registry.CoreYaml
