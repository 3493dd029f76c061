import Registry.Text.Utf8

/-!
# Percent escapes

A byte written as a percent sign and two hexadecimal digits. A percent sign that no two digits
follow stands for itself.
-/

namespace Registry.Text.Percent

def hexValue? (c : Char) : Option Nat :=
  if '0' ≤ c ∧ c ≤ '9' then some (c.toNat - 0x30)
  else if 'a' ≤ c ∧ c ≤ 'f' then some (c.toNat - 0x57)
  else if 'A' ≤ c ∧ c ≤ 'F' then some (c.toNat - 0x37)
  else none

def hexDigit (n : Nat) : Char := Char.ofNat (if n < 10 then 0x30 + n else 0x37 + n)

def escapeByte (b : UInt8) : List Char := ['%', hexDigit (b.toNat / 16), hexDigit (b.toNat % 16)]

/-- A text in which every character outside `keep` is escaped byte by byte. -/
def encode (keep : Char → Bool) (cs : List Char) : List Char :=
  cs.flatMap fun c => if keep c then [c] else (Utf8.encodeChar c).flatMap escapeByte

def decode : List Char → List UInt8
  | '%' :: a :: b :: rest =>
    match hexValue? a, hexValue? b with
    | some x, some y => UInt8.ofNat (16 * x + y) :: decode rest
    | _, _ => Utf8.encodeChar '%' ++ decode (a :: b :: rest)
  | c :: rest => Utf8.encodeChar c ++ decode rest
  | [] => []

/-- A text with its escapes resolved, or as it is if they do not spell a text. -/
def unescape (s : String) : String :=
  if s.toList.contains '%' then
    match Utf8.decode? (decode s.toList) with
    | some cs => String.ofList cs
    | none => s
  else s

theorem encode_of_keep {keep : Char → Bool} {cs : List Char} (h : ∀ c ∈ cs, keep c = true) :
    encode keep cs = cs := by
  induction cs with
  | nil => rfl
  | cons c cs ih =>
    have hc := h c List.mem_cons_self
    have ht := ih fun d hd => h d (List.mem_cons_of_mem _ hd)
    unfold encode at ht ⊢
    rw [List.flatMap_cons, ht, if_pos hc]
    rfl

theorem unescape_of_not_mem {s : String} (h : '%' ∉ s.toList) : unescape s = s := by
  simp [unescape, h]

end Registry.Text.Percent
