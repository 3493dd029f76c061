import Registry.Text.CanonicalTable

/-!
# Canonical composition

Different texts can spell the same characters: a letter and a mark behind it, or one character for
both. The canonical form takes every character apart, puts the marks behind each letter in the order
of their classes, and composes what composes.
-/

namespace Registry.Text

/-- The letters of a syllable: the initial, the vowel, and the final one if there is one. -/
def hangulLetters? (c : Char) : Option (List Char) :=
  let s := c.toNat - 0xac00
  if c.toNat < 0xac00 ∨ 0xd7a4 ≤ c.toNat then none
  else
    let final := if s % 28 = 0 then [] else [Char.ofNat (0x11a7 + s % 28)]
    some (Char.ofNat (0x1100 + s / 588) :: Char.ofNat (0x1161 + s % 588 / 28) :: final)

/-- The syllable of an initial letter and a vowel, or of a syllable without a final letter and that
letter. -/
def hangulSyllable? (a b : Char) : Option Char :=
  let m := a.toNat
  let n := b.toNat
  if 0x1100 ≤ m ∧ m < 0x1113 ∧ 0x1161 ≤ n ∧ n < 0x1176 then
    some (Char.ofNat (0xac00 + ((m - 0x1100) * 21 + (n - 0x1161)) * 28))
  else if 0xac00 ≤ m ∧ m < 0xd7a4 ∧ (m - 0xac00) % 28 = 0 ∧ 0x11a7 < n ∧ n < 0x11c3 then
    some (Char.ofNat (m + n - 0x11a7))
  else none

/-- The class of a character: zero unless it combines with the one before it. -/
def combiningClass (c : Char) : Nat :=
  if c.toNat < 0x300 then 0
  else ((combiningClasses.find? fun r => r.1 ≤ c.toNat && c.toNat ≤ r.2.1).map (·.2.2)).getD 0

def decomposeChar (c : Char) : List Char :=
  if c.toNat < 0xc0 then [c]
  else (((hangulLetters? c).or (findText? compositeRuns c)).or (findText? splitRuns c)).getD [c]

/-- Puts a character before those that end a text, given last first, and have greater classes. -/
def putInOrder (c : Char) : List Char → List Char
  | [] => [c]
  | d :: before =>
    if combiningClass c ≠ 0 ∧ combiningClass c < combiningClass d then d :: putInOrder c before
    else c :: d :: before

def decompose (cs : List Char) : List Char :=
  ((cs.flatMap decomposeChar).foldl (fun before c => putInOrder c before) []).reverse

def composites : List (List Char × Char) :=
  compositeRuns.flatMap fun r => r.entries.map fun (c, text) => (text, c)

/-- The character that two characters compose to: the one whose decomposition is that of the first
one and then the second one. -/
def compose? (a b : Char) : Option Char :=
  (hangulSyllable? a b).or (composites.lookup (decomposeChar a ++ [b]))

structure Composed where
  /-- What stands before the latest character of class zero, last character first. -/
  before : List Char
  starter : Option Char
  /-- The marks behind it that did not compose, last first. -/
  marks : List Char

namespace Composed

def all (s : Composed) : List Char := s.marks ++ s.starter.toList ++ s.before

/-- Adds a character. It reaches the starter unless a mark of its class or a greater one is between
them. -/
def add (s : Composed) (c : Char) : Composed :=
  let reaches := s.marks.head?.all fun m => combiningClass m < combiningClass c
  match if reaches then s.starter.bind (compose? · c) else none with
  | some d => { s with starter := some d }
  | none =>
    if combiningClass c = 0 then ⟨s.all, some c, []⟩ else { s with marks := c :: s.marks }

end Composed

def canonical (cs : List Char) : List Char :=
  ((decompose cs).foldl Composed.add ⟨[], none, []⟩).all.reverse

end Registry.Text
