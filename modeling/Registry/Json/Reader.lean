import Registry.Value
import Registry.Decimal.Shortest
import Registry.Decimal.Word
import Registry.Text.Percent

/-!
# Reading JSON

The value of a JSON text, or none. Arrays and objects nest to a depth of 127. Integers that fit 64
bits, signed or unsigned, are exact; any other number is read as its first digits, as far as they fit
64 bits, scaled by powers of ten in binary64 arithmetic, and must be finite. A repeated key keeps its
first place and its last value.
-/

namespace Registry.Json

/-- What is left of a text after reading something that is not empty. -/
abbrev Tail (s : List Char) := { r : List Char // r.length < s.length }

def isSpace (c : Char) : Bool := c == ' ' || c == '\n' || c == '\t' || c == '\r'

theorem length_dropWhile_le (p : Char → Bool) (s : List Char) :
    (s.dropWhile p).length ≤ s.length := by
  induction s with
  | nil => simp
  | cons c cs ih =>
    simp only [List.dropWhile_cons]
    split
    · exact Nat.le_succ_of_le ih
    · exact Nat.le_refl _

/-- The text between the quotes of a string, escapes untouched, given what follows the first quote. -/
def spanQuoted : (s : List Char) → Option (List Char × Tail s)
  | [] => none
  | '"' :: r => some ([], ⟨r, by simp⟩)
  | '\\' :: c :: r => (spanQuoted r).map fun (t, rest) =>
      ('\\' :: c :: t, ⟨rest.1, by have := rest.2; simp only [List.length_cons]; omega⟩)
  | c :: r => (spanQuoted r).map fun (t, rest) =>
      (c :: t, ⟨rest.1, by have := rest.2; simp only [List.length_cons]; omega⟩)

def hex4? (a b c d : Char) : Option Nat := do
  let a ← Text.Percent.hexValue? a
  let b ← Text.Percent.hexValue? b
  let c ← Text.Percent.hexValue? c
  let d ← Text.Percent.hexValue? d
  some (((a * 16 + b) * 16 + c) * 16 + d)

def simpleEscape? : Char → Option Char
  | '"' => some '"'
  | '\\' => some '\\'
  | '/' => some '/'
  | 'b' => some (Char.ofNat 8)
  | 'f' => some (Char.ofNat 12)
  | 'n' => some '\n'
  | 'r' => some '\r'
  | 't' => some '\t'
  | _ => none

/-- Resolves the escapes of a string. A surrogate counts only as half of a pair. -/
def unescape : List Char → Option (List Char)
  | [] => some []
  | '\\' :: 'u' :: a :: b :: c :: d :: rest =>
    match hex4? a b c d with
    | none => none
    | some n =>
      if 0xdc00 ≤ n ∧ n ≤ 0xdfff then none
      else if 0xd800 ≤ n ∧ n ≤ 0xdbff then
        match rest with
        | '\\' :: 'u' :: e :: f :: g :: h :: rest =>
          match hex4? e f g h with
          | none => none
          | some m =>
            if 0xdc00 ≤ m ∧ m ≤ 0xdfff then
              (unescape rest).map
                (Char.ofNat (0x10000 + (n - 0xd800) * 0x400 + (m - 0xdc00)) :: ·)
            else none
        | _ => none
      else (unescape rest).map (Char.ofNat n :: ·)
  | '\\' :: c :: rest =>
    match simpleEscape? c with
    | none => none
    | some d => (unescape rest).map (d :: ·)
  | c :: rest => if c.toNat < 0x20 ∨ c = '\\' then none else (unescape rest).map (c :: ·)

def readString (s : List Char) : Option (String × Tail s) := do
  let (raw, rest) ← spanQuoted s
  let cs ← unescape raw
  some (String.ofList cs, rest)

def maxWord : Nat := 0xffffffffffffffff

/-- Reads whole digits into a word for as long as they fit; the others are only counted. -/
def wholeDigits : (word skipped : Nat) → List Char → Nat × Nat
  | word, skipped, [] => (word, skipped)
  | word, skipped, c :: cs =>
    let next := word * 10 + (c.toNat - 48)
    if skipped = 0 ∧ next ≤ maxWord then wholeDigits next 0 cs else wholeDigits word (skipped + 1) cs

/-- Reads digits after the point into a word for as long as they fit, and counts those read. -/
def fractionDigits : (word used : Nat) → List Char → Nat × Nat
  | word, used, [] => (word, used)
  | word, used, c :: cs =>
    let next := word * 10 + (c.toNat - 48)
    if next ≤ maxWord then fractionDigits next (used + 1) cs else (word, used)

def tenTo (e : Nat) : Float := Float.ofScientific 1 false e

/-- A word times a power of ten in binary64 arithmetic. Exponents below -308 divide by `1e308`
first. -/
def scale? (word : Nat) (exponent : Int) : Option Float :=
  let f := Float.ofScientific word false 0
  if 0 ≤ exponent then
    if exponent ≤ 308 then
      let r := f * tenTo exponent.toNat
      if r.isInf then none else some r
    else if word = 0 then some f else none
  else if -308 ≤ exponent then some (f / tenTo (-exponent).toNat)
  else if -616 ≤ exponent then
    let g := f / tenTo 308
    if g == 0.0 then some g else some (g / tenTo (-exponent - 308).toNat)
  else some (f / tenTo 308 / tenTo 308)

/-- A number with a fraction or an exponent, or with too many digits for an integer. -/
def real? (negative : Bool) (word : Nat) (exponent : Int) : Option Number :=
  (scale? word exponent).map fun f => .real (if negative then -f else f)

def number? (negative : Bool) (whole : List Char) (fraction : Option (List Char))
    (power : Option (Bool × List Char)) : Option Number :=
  let (word, skipped) := wholeDigits 0 0 whole
  match fraction, power with
  | none, none =>
    if skipped ≠ 0 then real? negative word skipped
    else if !negative then some (.integer word)
    else if word = 0 ∨ Decimal.negativeCount < word then real? true word 0
    else some (.integer (-word))
  | _, _ =>
    let (word, used) := fractionDigits word 0 (fraction.getD [])
    let exponent : Int := skipped - used
    match power with
    | none => real? negative word exponent
    | some (down, digits) =>
      let e := Decimal.ofDigits digits
      if 0x80000000 ≤ e then
        if word ≠ 0 ∧ !down then none else some (.real (if negative then -0.0 else 0.0))
      else real? negative word (if down then exponent - e else exponent + e)

/-- The exponent at the start of a text: whether it is negative, its digits, and what follows. -/
def readPower (s : List Char) : Option (Option (Bool × List Char) × List Char) :=
  match s with
  | e :: r =>
    if e = 'e' ∨ e = 'E' then
      let (down, r) := match r with
        | '+' :: r => (false, r)
        | '-' :: r => (true, r)
        | r => (false, r)
      let ds := r.takeWhile Char.isDigit
      if ds.isEmpty then none else some (some (down, ds), r.dropWhile Char.isDigit)
    else some (none, s)
  | [] => some (none, [])

def readNumber (negative : Bool) (s : List Char) : Option (Number × List Char) := do
  let whole := s.takeWhile Char.isDigit
  let r := s.dropWhile Char.isDigit
  if whole.isEmpty ∨ (whole.head? = some '0' ∧ whole.length ≠ 1) then none
  let (fraction, r) ← match r with
    | '.' :: r =>
      let ds := r.takeWhile Char.isDigit
      if ds.isEmpty then none else some (some ds, r.dropWhile Char.isDigit)
    | r => some (none, r)
  let (power, r) ← readPower r
  let n ← number? negative whole fraction power
  some (n, r)

/-- Refuses to go on unless the rest of a text is shorter than the text. -/
def shorter (s r : List Char) : Option (Tail s) := if h : r.length < s.length then some ⟨r, h⟩ else none

def readItems (item : (s : List Char) → Option (Value × Tail s)) (s : List Char) :
    Option (List Value × Tail s) :=
  match item s with
  | none => none
  | some (v, r) =>
    match h : r.1.dropWhile isSpace with
    | ']' :: r' => some ([v], ⟨r', by
        have h1 := length_dropWhile_le isSpace r.1
        have h2 := r.2
        rw [h] at h1
        simp only [List.length_cons] at h1
        omega⟩)
    | ',' :: r' =>
      have hr : r'.length < s.length := by
        have h1 := length_dropWhile_le isSpace r.1
        have h2 := r.2
        rw [h] at h1
        simp only [List.length_cons] at h1
        omega
      (readItems item r').map fun (vs, r'') => (v :: vs, ⟨r''.1, Nat.lt_trans r''.2 hr⟩)
    | _ => none
termination_by s.length

def readEntry (item : (s : List Char) → Option (Value × Tail s)) (s : List Char) :
    Option ((String × Value) × Tail s) :=
  match h : s.dropWhile isSpace with
  | '"' :: r =>
    match readString r with
    | none => none
    | some (key, r') =>
      match h' : r'.1.dropWhile isSpace with
      | ':' :: r'' => (item r'').map fun (v, rest) => ((key, v), ⟨rest.1, by
          have h1 := length_dropWhile_le isSpace s
          have h2 := length_dropWhile_le isSpace r'.1
          have h3 := r'.2
          have h4 := rest.2
          rw [h] at h1
          rw [h'] at h2
          simp only [List.length_cons] at h1 h2
          omega⟩)
      | _ => none
  | _ => none

def readEntries (item : (s : List Char) → Option (Value × Tail s)) (s : List Char) :
    Option (List (String × Value) × Tail s) :=
  match readEntry item s with
  | none => none
  | some (e, r) =>
    match h : r.1.dropWhile isSpace with
    | '}' :: r' => some ([e], ⟨r', by
        have h1 := length_dropWhile_le isSpace r.1
        have h2 := r.2
        rw [h] at h1
        simp only [List.length_cons] at h1
        omega⟩)
    | ',' :: r' =>
      have hr : r'.length < s.length := by
        have h1 := length_dropWhile_le isSpace r.1
        have h2 := r.2
        rw [h] at h1
        simp only [List.length_cons] at h1
        omega
      (readEntries item r').map fun (es, r'') => (e :: es, ⟨r''.1, Nat.lt_trans r''.2 hr⟩)
    | _ => none
termination_by s.length

def readWord (word : String) (v : Value) (s : List Char) : Option (Value × List Char) :=
  if word.toList.isPrefixOf s then some (v, s.drop word.length) else none

def readScalar (s : List Char) : Option (Value × List Char) :=
  match s with
  | '"' :: r => (readString r).map fun (t, rest) => (.string t, rest.1)
  | 'n' :: _ => readWord "null" .null s
  | 't' :: _ => readWord "true" (.boolean true) s
  | 'f' :: _ => readWord "false" (.boolean false) s
  | '-' :: r => (readNumber true r).map fun (n, r) => (.number n, r)
  | _ => (readNumber false s).map fun (n, r) => (.number n, r)

/-- A value at the start of a text, with at most `depth` levels of arrays and objects. -/
def readValue : (depth : Nat) → (s : List Char) → Option (Value × Tail s)
  | depth, s => do
    let t := s.dropWhile isSpace
    let (v, r) ← match depth, t with
      | 0, '[' :: _ | 0, '\x7b' :: _ => none
      | depth + 1, '[' :: r =>
        match r.dropWhile isSpace with
        | ']' :: r => some (Value.sequence [], r)
        | r => (readItems (readValue depth) r).map fun (vs, r) => (Value.sequence vs, r.1)
      | depth + 1, '\x7b' :: r =>
        match r.dropWhile isSpace with
        | '\x7d' :: r => some (Value.mapping [], r)
        | r => (readEntries (readValue depth) r).map fun (es, r) =>
            (Value.mapping (Table.ofEntries es), r.1)
      | _, t => readScalar t
    let rest ← shorter s r
    some (v, rest)

def depthLimit : Nat := 127

def read? (text : String) : Option Value :=
  match readValue depthLimit text.toList with
  | some (v, r) => if r.1.all isSpace then some v else none
  | none => none

end Registry.Json
