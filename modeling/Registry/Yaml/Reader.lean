import Registry.Value
import Registry.Decimal.Numeral
import Registry.Decimal.Word
import Registry.Yaml.Node

/-!
# Reading YAML

The value of a YAML text, or none. A plain scalar without a tag is null, a boolean, a number or a
string by its spelling; a tag of the text's own language is an error. Collections nest to a depth of
128, and aliases may be followed a hundred times as often as the text has events.
-/

namespace Registry.Yaml

def basePart? : List Char → Option (Nat × List Char)
  | '0' :: 'x' :: cs => some (16, cs)
  | '0' :: 'o' :: cs => some (8, cs)
  | '0' :: 'b' :: cs => some (2, cs)
  | _ => none

/-- Whether a spelling has a leading zero before more decimal digits; it is a string then. -/
def hasLeadingZero (cs : List Char) : Bool :=
  let (_, ds) := Decimal.signPart cs
  1 < ds.length && ds.head? == some '0' && ds.all Char.isDigit

def integer? (cs : List Char) : Option Int :=
  let (sign, ds) := Decimal.signPart cs
  let magnitude := match basePart? ds with
    | some (base, digits) => Decimal.naturalIn? base digits
    | none => if hasLeadingZero cs then none else Decimal.naturalIn? 10 ds
  magnitude.map fun n => if sign = some '-' then -n else n

inductive Width where
  /-- It fits 64 bits, with or without a sign. -/
  | word
  /-- It fits 128 bits. -/
  | wide
  | beyond

def width (z : Int) : Width :=
  if Decimal.fitsSigned z || Decimal.fitsUnsigned z then .word
  else if -0x80000000000000000000000000000000 ≤ z ∧ z < 0x100000000000000000000000000000000 then .wide
  else .beyond

def finite? (cs : List Char) : Option Float :=
  let (sign, ds) := Decimal.signPart cs
  (Decimal.decimal? ds).bind fun d =>
    let x := d.toFloat
    if x.isInf then none else some (if sign = some '-' then -x else x)

def isNotFinite (text : String) : Bool :=
  [".inf", ".Inf", ".INF", "+.inf", "+.Inf", "+.INF", "-.inf", "-.Inf", "-.INF", ".nan", ".NaN",
    ".NAN"].contains text

/-- The value of a scalar that spells a number with a point or an exponent; what is not finite is
null. -/
def realValue? (text : String) : Option Value :=
  if isNotFinite text then some .null
  else (finite? text.toList).map fun x => .number (.real x)

def isNullWord (text : String) : Bool := ["null", "Null", "NULL", "~"].contains text

def booleanWord? (text : String) : Option Bool :=
  if ["true", "True", "TRUE"].contains text then some true
  else if ["false", "False", "FALSE"].contains text then some false
  else none

/-- The value of a scalar that spells an integer of at most 128 bits: an error if it has more than
64. -/
def integerValue? (text : String) : Option (Option Value) :=
  match integer? text.toList with
  | none => none
  | some z =>
    match width z with
    | .word => some (some (.number (.integer z)))
    | .wide => some none
    | .beyond => none

def plainValue? (text : String) : Option Value :=
  if text.isEmpty || isNullWord text then some .null
  else match booleanWord? text with
    | some b => some (.boolean b)
    | none =>
      match integerValue? text with
      | some v => v
      | none =>
        if hasLeadingZero text.toList then some (.string text)
        else some ((realValue? text).getD (.string text))

/-- Whether a tag belongs to the text's own language. -/
def isLocalTag (tag : Option Tag) : Bool := tag.any fun t => t.text.toList.head? == some '!'

def scalarValue? (tag : Option Tag) (text : String) (plain : Bool) : Option Value :=
  match tag.map Tag.text with
  | none => if plain then plainValue? text else some (.string text)
  | some "tag:yaml.org,2002:bool" => (booleanWord? text).map .boolean
  | some "tag:yaml.org,2002:int" => (integerValue? text).bind id
  | some "tag:yaml.org,2002:float" => realValue? text
  | some "tag:yaml.org,2002:null" => if isNullWord text then some .null else none
  | some _ => if isLocalTag tag then none else some (.string text)

/-- A computation that follows aliases, with the number it may still follow. -/
abbrev Following := StateT Nat Option

def follow (anchored : List (Nat × Node)) : Node → Following Node
  | .aliasOf id => do
    let left ← get
    if left = 0 then failure
    set (left - 1)
    ((anchored.reverse.lookup id : Option Node) : Following Node)
  | n => pure n

/-- The text of a node that is a key; its tag does not matter. -/
def keyText (anchored : List (Nat × Node)) (n : Node) : Following String := do
  match ← follow anchored n with
  | .scalar _ _ text _ => pure text
  | _ => failure

/-- The value of a node, given a reader of the nodes inside it; without one it may be no collection. -/
def valueBy (anchored : List (Nat × Node)) (inside? : Option (Node → Following Value)) (n : Node) :
    Following Value := do
  match ← follow anchored n, inside? with
  | .scalar _ tag text plain, _ => (scalarValue? tag text plain : Option Value)
  | .sequence _ tag items, some inside =>
    if isLocalTag tag then failure
    else
      let vs ← items.mapM inside
      pure (.sequence vs)
  | .mapping _ tag entries, some inside =>
    if isLocalTag tag then failure
    else
      let es ← entries.mapM fun (k, v) => do
        let key ← keyText anchored k
        let value ← inside v
        pure (key, value)
      pure (.mapping (Table.ofEntries es))
  | _, _ => failure

/-- The value of a node in which collections nest to a given depth. -/
def valueOf (anchored : List (Nat × Node)) : (depth : Nat) → Node → Following Value
  | 0 => valueBy anchored none
  | depth + 1 => valueBy anchored (some (valueOf anchored depth))

def depthLimit : Nat := 128

/-- The value of a text that holds at most one document; null if it holds none. -/
def read? (text : String) : Option Value := do
  let tokens ← Token.ofText? text
  match ← Node.ofTokens? Node.Dialect.ofDirectives? tokens with
  | none => some .null
  | some n => (valueOf n.anchored depthLimit n |>.run (100 * n.events)).map Prod.fst

end Registry.Yaml
