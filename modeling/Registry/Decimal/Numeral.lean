import Registry.Decimal.Shortest
import Registry.Decimal.Word
import Registry.Text.Percent

/-!
# Numerals

Numbers as texts spell them: digits in a base, signs, and decimal notation with a point and an
exponent.
-/

namespace Registry.Decimal

def digitIn? (base : Nat) (c : Char) : Option Nat :=
  (Text.Percent.hexValue? c).filter (· < base)

/-- The number that digits spell in a base; at least one digit. -/
def naturalIn? (base : Nat) (cs : List Char) : Option Nat :=
  if cs.isEmpty then none
  else cs.foldlM (fun n c => (digitIn? base c).map (base * n + ·)) 0

def signPart : List Char → Option Char × List Char
  | '+' :: cs => (some '+', cs)
  | '-' :: cs => (some '-', cs)
  | cs => (none, cs)

/-- The integer with or without a sign that a text spells in a base, if it fits a word with a sign. -/
def signedIn? (base : Nat) (cs : List Char) : Option Int :=
  let (sign, ds) := signPart cs
  let z : Option Int := (naturalIn? base ds).map fun n => if sign = some '-' then -n else n
  z.filter fitsSigned

/-- A number in decimal notation: digits with an optional point among them, and an exponent. -/
def decimal? (cs : List Char) : Option Decimal :=
  let whole := cs.takeWhile Char.isDigit
  let cs := cs.dropWhile Char.isDigit
  let (fraction, cs) := match cs with
    | '.' :: cs => (cs.takeWhile Char.isDigit, cs.dropWhile Char.isDigit)
    | cs => ([], cs)
  if whole.isEmpty && fraction.isEmpty then none
  else
    let digits := ofDigits (whole ++ fraction)
    match cs with
    | [] => some ⟨digits, -fraction.length⟩
    | e :: cs =>
      if e ≠ 'e' ∧ e ≠ 'E' then none
      else
        let (sign, ds) := signPart cs
        if ds.isEmpty || !ds.all Char.isDigit then none
        else
          let n : Int := ofDigits ds
          some ⟨digits, (if sign = some '-' then -n else n) - fraction.length⟩

/-- The binary64 number that a text spells in decimal notation, or by a word if it is not finite. -/
def float? (cs : List Char) : Option Float :=
  let (sign, ds) := signPart cs
  let word := ds.map Char.toLower
  let magnitude :=
    if word = "inf".toList ∨ word = "infinity".toList then some (Float.ofBits 0x7ff0000000000000)
    else if word = "nan".toList then some (Float.ofBits 0x7ff8000000000000)
    else (decimal? ds).map (·.toFloat)
  magnitude.map fun x => if sign = some '-' then -x else x

end Registry.Decimal
