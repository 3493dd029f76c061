import Registry.Value
import Registry.Decimal.Shortest
import Registry.Text.Percent

/-!
# Writing JSON

The text of a value: on one line, or indented by two spaces with each item and each entry on a line
of its own. A number that is not an integer is written with the fewest digits that read back,
positionally from 1e-5 up to, but without, 1e16.
-/

namespace Registry.Json

/-- The escape of a control character: a letter where there is one, else four small digits. -/
def escapeControl (n : Nat) : List Char :=
  if n = 8 then ['\\', 'b']
  else if n = 9 then ['\\', 't']
  else if n = 10 then ['\\', 'n']
  else if n = 12 then ['\\', 'f']
  else if n = 13 then ['\\', 'r']
  else ['\\', 'u', '0', '0', Nat.digitChar (n / 16), Nat.digitChar (n % 16)]

def escape (c : Char) : List Char :=
  if c = '"' then ['\\', '"']
  else if c = '\\' then ['\\', '\\']
  else if c.toNat < 0x20 then escapeControl c.toNat
  else [c]

def quote (s : String) : List Char := '"' :: s.toList.flatMap escape ++ ['"']

/-- The digits of a nonzero number as they are written: point, zeros and exponent. -/
def decimalText (d : Decimal) : List Char :=
  let ds := Decimal.digitChars d.digits
  let point : Int := ds.length + d.exponent
  if 0 ≤ d.exponent ∧ point ≤ 16 then d.positional ++ ['.', '0']
  else if -5 < point ∧ point ≤ 16 then d.positional
  else
    let e := point - 1
    let mantissa := match ds with
      | [c] => [c]
      | c :: cs => c :: '.' :: cs
      | [] => []
    mantissa ++ 'e' :: (if 0 ≤ e then '+' else '-') :: Decimal.digitChars e.natAbs

/-- A number that is not an integer; what is not finite is `null`. -/
def realText (x : Float) : List Char :=
  if x.isNaN || x.isInf then "null".toList
  else
    let magnitude := if x == 0.0 then ['0', '.', '0'] else decimalText (Decimal.shortest x)
    if Decimal.signBit x then '-' :: magnitude else magnitude

def integerText (z : Int) : List Char :=
  if z < 0 then '-' :: Decimal.digitChars z.natAbs else Decimal.digitChars z.natAbs

def numberText : Number → List Char
  | .integer z => integerText z
  | .real x => realText x

/-- A line break and the indentation of a level; nothing on one line. -/
def lineBreak (pretty : Bool) (level : Nat) : List Char :=
  if pretty then '\n' :: List.replicate (2 * level) ' ' else []

def colon (pretty : Bool) : List Char := if pretty then [':', ' '] else [':']

mutual

def text (pretty : Bool) (level : Nat) : Value → List Char
  | .null => "null".toList
  | .boolean true => "true".toList
  | .boolean false => "false".toList
  | .number n => numberText n
  | .string s => quote s
  | .sequence [] => ['[', ']']
  | .sequence (v :: vs) =>
    '[' :: lineBreak pretty (level + 1) ++ text pretty (level + 1) v ++
      itemsText pretty (level + 1) vs ++ lineBreak pretty level ++ [']']
  | .mapping [] => ['\x7b', '\x7d']
  | .mapping ((k, v) :: rest) =>
    '\x7b' :: lineBreak pretty (level + 1) ++ quote k ++ colon pretty ++
      text pretty (level + 1) v ++ entriesText pretty (level + 1) rest ++
      lineBreak pretty level ++ ['\x7d']

def itemsText (pretty : Bool) (level : Nat) : List Value → List Char
  | [] => []
  | v :: vs => ',' :: lineBreak pretty level ++ text pretty level v ++ itemsText pretty level vs

def entriesText (pretty : Bool) (level : Nat) : List (String × Value) → List Char
  | [] => []
  | (k, v) :: rest =>
    ',' :: lineBreak pretty level ++ quote k ++ colon pretty ++ text pretty level v ++
      entriesText pretty level rest

end

def compact (v : Value) : String := String.ofList (text false 0 v)

/-- A value with each item and entry on a line of its own. -/
def pretty (v : Value) : String := String.ofList (text true 0 v)

end Registry.Json
