import Registry.Decimal.Numeral
import Registry.Decimal.Word
import Registry.Value

/-!
# TOML scalars

The value of a word: a boolean, an integer of 64 bits, a binary64 number, or a date or time, which is
kept as the text of its standard form.
-/

namespace Registry.Toml

/-- Digits that may have single underscores between them. -/
def digits? (isDigit : Char → Bool) (cs : List Char) : Option (List Char) :=
  let groups := cs.splitOn '_'
  if groups.all fun g => !g.isEmpty && g.all isDigit then some groups.flatten else none

def wholeDigits? (cs : List Char) : Option (List Char) :=
  (digits? Char.isDigit cs).filter fun ds => ds.length == 1 || ds.head? != some '0'

def integer? (cs : List Char) : Option Int :=
  let based (base : Nat) (ds : List Char) : Option Int := do
    let ds ← digits? (fun c => (Decimal.digitIn? base c).isSome) ds
    (Decimal.naturalIn? base ds).map Int.ofNat
  let z : Option Int := match cs with
    | '0' :: 'x' :: ds => based 16 ds
    | '0' :: 'o' :: ds => based 8 ds
    | '0' :: 'b' :: ds => based 2 ds
    | cs =>
      let (sign, ds) := Decimal.signPart cs
      (wholeDigits? ds).map fun ds =>
        if sign = some '-' then -(Decimal.ofDigits ds : Int) else Decimal.ofDigits ds
  z.filter Decimal.fitsSigned

/-- A word without its underscores, if they stand between digits. -/
def withoutUnderscores? : (afterDigit : Bool) → List Char → Option (List Char)
  | _, [] => some []
  | afterDigit, '_' :: cs =>
    if afterDigit && cs.head?.any Char.isDigit then withoutUnderscores? false cs else none
  | _, c :: cs => (withoutUnderscores? c.isDigit cs).map (c :: ·)

def notFinite? (cs : List Char) : Option Float :=
  if cs == "inf".toList then some (Float.ofBits 0x7ff0000000000000)
  else if cs == "nan".toList then some (Float.ofBits 0x7ff8000000000000)
  else none

def magnitude? (cs : List Char) : Option Float := do
  let cs ← withoutUnderscores? false cs
  let whole := cs.takeWhile Char.isDigit
  let behind := cs.dropWhile Char.isDigit
  let leadingZero := 1 < whole.length && whole.head? == some '0'
  let emptyFraction := match behind with
    | '.' :: cs => !cs.head?.any Char.isDigit
    | _ => false
  if whole.isEmpty || behind.isEmpty || leadingZero || emptyFraction then none
  else (Decimal.decimal? cs).map (·.toFloat)

/-- The number with a point, an exponent or a special name that a word spells. Digits may spell the
negative infinity, but not the positive one. -/
def real? (cs : List Char) : Option Float :=
  let (sign, cs) := Decimal.signPart cs
  let negative := sign = some '-'
  let magnitude := (notFinite? cs).or ((magnitude? cs).filter fun x => negative || !x.isInf)
  magnitude.map fun x => if negative then -x else x

/-- The number of exactly `count` digits at the start of a text. -/
def readDigits (count : Nat) (cs : List Char) : Option (Nat × List Char) :=
  let ds := cs.take count
  if ds.length = count ∧ ds.all Char.isDigit then some (Decimal.ofDigits ds, cs.drop count) else none

def readMark (c : Char) : List Char → Option (List Char)
  | d :: cs => if c = d then some cs else none
  | [] => none

def daysIn (year month : Nat) : Nat :=
  if month = 2 then
    if year % 4 = 0 ∧ (year % 100 ≠ 0 ∨ year % 400 = 0) then 29 else 28
  else if [4, 6, 9, 11].contains month then 30
  else 31

def readDate (cs : List Char) : Option (List Char) := do
  let (year, cs) ← readDigits 4 cs
  let (month, cs) ← readDigits 2 (← readMark '-' cs)
  let (day, cs) ← readDigits 2 (← readMark '-' cs)
  if 1 ≤ month ∧ month ≤ 12 ∧ 1 ≤ day ∧ day ≤ daysIn year month then some cs else none

/-- A time in its standard form, and what follows it. A fraction has at most nine digits, and does not
end in zeros. -/
def readTime (s : List Char) : Option (List Char × List Char) := do
  let (hour, cs) ← readDigits 2 s
  let (minute, cs) ← readDigits 2 (← readMark ':' cs)
  let (second, cs) ← readDigits 2 (← readMark ':' cs)
  if 24 ≤ hour ∨ 60 ≤ minute ∨ 61 ≤ second then none
  match cs with
  | '.' :: cs =>
    let ds := cs.takeWhile Char.isDigit
    if ds.isEmpty then none
    let fraction := ((ds.take 9).reverse.dropWhile (· == '0')).reverse
    some (s.take 8 ++ (if fraction.isEmpty then [] else '.' :: fraction), cs.dropWhile Char.isDigit)
  | cs => some (s.take 8, cs)

/-- A time zone in its standard form; nothing is left behind it. -/
def zone? (cs : List Char) : Option (List Char) :=
  match cs with
  | [] => some []
  | ['Z'] | ['z'] => some ['Z']
  | sign :: offset => do
    if sign ≠ '+' ∧ sign ≠ '-' then none
    let (hour, rest) ← readDigits 2 offset
    let (minute, rest) ← readDigits 2 (← readMark ':' rest)
    if rest.isEmpty ∧ hour < 24 ∧ minute < 60 then some cs else none

/-- The standard form of the date, the time or the date and time that a word spells. -/
def moment? (cs : List Char) : Option (List Char) :=
  match readDate cs with
  | some [] => some cs
  | some (mark :: rest) => do
    if mark ≠ ' ' ∧ mark ≠ 'T' ∧ mark ≠ 't' then none
    let (time, rest) ← readTime rest
    let zone ← zone? rest
    some (cs.take 10 ++ 'T' :: time ++ zone)
  | none => do
    let (time, rest) ← readTime cs
    if rest.isEmpty then some time else none

def word? (cs : List Char) : Option Value :=
  if cs == "true".toList then some (.boolean true)
  else if cs == "false".toList then some (.boolean false)
  else ((integer? cs).map fun z => Value.number (.integer z)).or <|
    ((real? cs).map fun x => Value.number (.real x)).or <|
      (moment? cs).map fun cs => .string (String.ofList cs)

def isWordChar (c : Char) : Bool := c.isAlphanum || ['+', '-', '_', '.', ':'].contains c

/-- The value of the word at the start of a text. A date may have a blank between it and a time. -/
def readWord (s : List Char) : Option (Value × List Char) :=
  let word := s.takeWhile isWordChar
  let rest := s.dropWhile isWordChar
  match readDate word, rest with
  | some [], ' ' :: d :: more =>
    if d.isDigit then
      (word? (word ++ ' ' :: (d :: more).takeWhile isWordChar)).map
        (·, (d :: more).dropWhile isWordChar)
    else (word? word).map (·, rest)
  | _, _ => (word? word).map (·, rest)

end Registry.Toml
