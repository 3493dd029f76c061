/-!
# UTF-8

Texts as bytes. Decoding takes one well-formed sequence at a time; where there is none it drops the
longest start of one, which `decodeLossy` shows as U+FFFD and `decode?` refuses.
-/

namespace Registry.Text.Utf8

def encodeChar (c : Char) : List UInt8 :=
  let n := c.toNat
  let tail (k : Nat) : UInt8 := UInt8.ofNat (0x80 + n / Nat.pow 64 k % 64)
  if n < 0x80 then [UInt8.ofNat n]
  else if n < 0x800 then [UInt8.ofNat (0xc0 + n / 64), tail 0]
  else if n < 0x10000 then [UInt8.ofNat (0xe0 + n / 0x1000), tail 1, tail 0]
  else [UInt8.ofNat (0xf0 + n / 0x40000), tail 2, tail 1, tail 0]

def encode (cs : List Char) : List UInt8 := cs.flatMap encodeChar

/-- Reads `count` continuation bytes, the first of them between `low` and `high`. -/
def readTail : (count acc low high : Nat) → (bytes : List UInt8) →
    Option Nat × { rest : List UInt8 // rest.length ≤ bytes.length }
  | 0, acc, _, _, bytes => (some acc, ⟨bytes, Nat.le_refl _⟩)
  | _ + 1, _, _, _, [] => (none, ⟨[], Nat.le_refl _⟩)
  | count + 1, acc, low, high, b :: bytes =>
    if low ≤ b.toNat ∧ b.toNat ≤ high then
      let (r, rest) := readTail count (acc * 64 + (b.toNat - 0x80)) 0x80 0xbf bytes
      (r, ⟨rest.1, Nat.le_succ_of_le rest.2⟩)
    else (none, ⟨b :: bytes, Nat.le_refl _⟩)

def readSequence (lead : UInt8) (bytes : List UInt8) :
    Option Nat × { rest : List UInt8 // rest.length ≤ bytes.length } :=
  let b := lead.toNat
  if b < 0x80 then (some b, ⟨bytes, Nat.le_refl _⟩)
  else if 0xc2 ≤ b ∧ b ≤ 0xdf then readTail 1 (b - 0xc0) 0x80 0xbf bytes
  else if b = 0xe0 then readTail 2 0 0xa0 0xbf bytes
  else if b = 0xed then readTail 2 0xd 0x80 0x9f bytes
  else if 0xe1 ≤ b ∧ b ≤ 0xef then readTail 2 (b - 0xe0) 0x80 0xbf bytes
  else if b = 0xf0 then readTail 3 0 0x90 0xbf bytes
  else if 0xf1 ≤ b ∧ b ≤ 0xf3 then readTail 3 (b - 0xf0) 0x80 0xbf bytes
  else if b = 0xf4 then readTail 3 4 0x80 0x8f bytes
  else (none, ⟨bytes, Nat.le_refl _⟩)

/-- The characters of some bytes, `none` for each ill-formed stretch. -/
def characters : List UInt8 → List (Option Char)
  | [] => []
  | b :: bytes =>
    let (r, rest) := readSequence b bytes
    r.map Char.ofNat :: characters rest.1
termination_by bytes => bytes.length
decreasing_by exact Nat.lt_succ_of_le rest.2

def decode? (bytes : List UInt8) : Option (List Char) := (characters bytes).mapM id

/-- The text of any bytes, with U+FFFD for each ill-formed stretch. -/
def decodeLossy (bytes : List UInt8) : List Char :=
  (characters bytes).map (·.getD (Char.ofNat 0xfffd))

end Registry.Text.Utf8
