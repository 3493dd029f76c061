/-!
# Punycode

The spelling of a label outside ASCII: its ASCII characters, then the others as differences of place
and code point, smallest first. A difference is a row of digits to the base 36, each of which has a
threshold that follows the differences before it.
-/

namespace Registry.Url.Punycode

/-- The character of a digit: letters, then decimal digits. -/
def digit (d : Nat) : Char := Char.ofNat (if d < 26 then 0x61 + d else 0x30 + d - 26)

def digitValue? (c : Char) : Option Nat :=
  if 'a' ≤ c ∧ c ≤ 'z' then some (c.toNat - 0x61)
  else if 'A' ≤ c ∧ c ≤ 'Z' then some (c.toNat - 0x41)
  else if '0' ≤ c ∧ c ≤ '9' then some (c.toNat - 0x30 + 26)
  else none

/-- The threshold of the digit at place `k`. -/
def threshold (k bias : Nat) : Nat :=
  if k ≤ bias then 1 else if bias + 26 ≤ k then 26 else k - bias

/-- Shrinks a difference until it is small, counting the steps. -/
def shrink (delta steps : Nat) : Nat × Nat :=
  if h : 455 < delta then shrink (delta / 35) (steps + 36) else (delta, steps)
termination_by delta
decreasing_by omega

def adapt (delta count : Nat) (first : Bool) : Nat :=
  let delta := if first then delta / 700 else delta / 2
  let (delta, steps) := shrink (delta + delta / count) 0
  steps + 36 * delta / (delta + 38)

def digits (q k bias : Nat) : List Char :=
  let t := threshold k bias
  if h : t ≤ q ∧ 0 < t ∧ t < 36 then
    digit (t + (q - t) % (36 - t)) :: digits ((q - t) / (36 - t)) (k + 36) bias
  else [digit q]
termination_by q
decreasing_by
  have h1 : (q - threshold k bias) / (36 - threshold k bias) ≤ q - threshold k bias :=
    Nat.div_le_self ..
  omega

structure Encoding where
  delta : Nat
  bias : Nat
  handled : Nat
  output : List Char

/-- Encodes the places of one code point, after the smaller ones. -/
def encodePoint (n basic : Nat) (s : Encoding) (points : List Nat) : Encoding :=
  points.foldl (fun s c =>
    if c < n then { s with delta := s.delta + 1 }
    else if c = n then
      ⟨0, adapt s.delta (s.handled + 1) (s.handled == basic), s.handled + 1,
        s.output ++ digits s.delta 36 s.bias⟩
    else s) s

def encode (label : List Char) : List Char :=
  let points := label.map Char.toNat
  let plain := label.filter (·.toNat < 0x80)
  let wide := (points.filter (0x80 ≤ ·)).mergeSort.eraseDups
  let basic := plain.length
  let start : Encoding := ⟨0, 72, basic, if plain.isEmpty then [] else plain ++ ['-']⟩
  let (s, _) := wide.foldl (fun (s, last) n =>
    let s := { s with delta := s.delta + (n - last) * (s.handled + 1) }
    let s := encodePoint n basic s points
    ({ s with delta := s.delta + 1 }, n + 1)) (start, 0x80)
  s.output

/-- Reads digits from place `k` on, each worth `weight` times its value, on top of `n`: what they
come to, and what is left. -/
def readDigits? (bias : Nat) : List Char → (k weight n : Nat) → Option (Nat × List Char)
  | [], _, _, _ => none
  | c :: cs, k, weight, n => do
    let d ← digitValue? c
    let t := threshold k bias
    let n := n + d * weight
    if d < t then some (n, cs) else readDigits? bias cs (k + 36) (weight * (36 - t)) n

theorem length_lt_of_readDigits? {bias k weight n m : Nat} {cs rest : List Char}
    (h : readDigits? bias cs k weight n = some (m, rest)) : rest.length < cs.length := by
  induction cs generalizing k weight n with
  | nil => simp [readDigits?] at h
  | cons c cs ih =>
    cases hd : digitValue? c with
    | none => simp [readDigits?, hd] at h
    | some d =>
      by_cases ht : d < threshold k bias
      · simp only [readDigits?, hd, ht, if_true, Option.bind_eq_bind, Option.bind_some,
          Option.some.injEq, Prod.mk.injEq] at h
        simp [h.2]
      · simp only [readDigits?, hd, ht, if_false, Option.bind_eq_bind, Option.bind_some] at h
        have := ih h
        simp only [List.length_cons]
        omega

/-- Puts the characters that the digits stand for among those read so far; `place` is where the
latest one stands. -/
def insertAll? (bias point place : Nat) (read : List Char) (cs : List Char) : Option (List Char) :=
  if cs.isEmpty then some read
  else
    match _h : readDigits? bias cs 36 1 place with
    | none => none
    | some (sum, rest) =>
      let count := read.length + 1
      let n := point + sum / count
      if n.isValidChar ∧ 0x80 ≤ n then
        insertAll? (adapt (sum - place) count (place == 0)) n (sum % count + 1)
          (read.take (sum % count) ++ Char.ofNat n :: read.drop (sum % count)) rest
      else none
termination_by cs.length
decreasing_by exact length_lt_of_readDigits? _h

def decode? (cs : List Char) : Option (List Char) :=
  let ext := (cs.reverse.takeWhile (· ≠ '-')).reverse
  let plain := cs.take (cs.length - ext.length - 1)
  if plain.all (·.toNat < 0x80) then insertAll? 72 0x80 0 plain ext else none

end Registry.Url.Punycode
