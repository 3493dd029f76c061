import Registry.Text.CaseTable
import Registry.Text.Word

/-!
# Case

Capitals and small letters of single characters and of whole texts. A capital may be several
characters, and a final sigma has a small form of its own.
-/

namespace Registry.Text

/-- The code point that a list of runs maps a code point to. -/
def mapRuns (runs : List CaseRun) (n : Nat) : Option Nat :=
  (runs.find? fun r => r.first ≤ n && n ≤ r.last && (n - r.first) % r.step == 0).map fun r =>
    ((n : Int) + r.shift).toNat

def upperChar (c : Char) : List Char :=
  if c.toNat < 0x80 then [c.toUpper]
  else match upperExpansions.lookup c.toNat with
    | some ns => ns.map Char.ofNat
    | none => [((mapRuns upperRuns c.toNat).map Char.ofNat).getD c]

def lowerChar (c : Char) : List Char :=
  if c.toNat < 0x80 then [c.toLower]
  else if c.toNat = 0x130 then ['i', Char.ofNat 0x307]
  else [((mapRuns lowerRuns c.toNat).map Char.ofNat).getD c]

/-- Whether the first character that is not case-ignorable is a cased one. -/
def casedNext (cs : List Char) : Bool :=
  match cs.dropWhile fun c => inRanges caseIgnorableRanges c.toNat with
  | c :: _ => inRanges casedRanges c.toNat
  | [] => false

def upper (cs : List Char) : List Char := cs.flatMap upperChar

/-- Small letters for the characters that follow `before`, which is in reverse order. -/
def lowerFrom (before : List Char) : List Char → List Char
  | [] => []
  | c :: cs =>
    (if c.toNat = 0x3a3 then
      [Char.ofNat (if casedNext before && !casedNext cs then 0x3c2 else 0x3c3)]
    else lowerChar c) ++ lowerFrom (c :: before) cs

/-- A text in small letters: a capital sigma that ends a word becomes the final one. -/
def lower (cs : List Char) : List Char := lowerFrom [] cs

end Registry.Text
