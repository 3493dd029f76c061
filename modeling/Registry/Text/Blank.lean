/-!
# Blank characters

The characters with the Unicode property `White_Space`, and trimming by them.
-/

namespace Registry.Text

/-- Whether a character has the property `White_Space`. -/
def isBlank (c : Char) : Bool :=
  (9 ≤ c.toNat && c.toNat ≤ 13) || c.toNat == 0x20 || c.toNat == 0x85 || c.toNat == 0xa0 ||
  c.toNat == 0x1680 || (0x2000 ≤ c.toNat && c.toNat ≤ 0x200a) || c.toNat == 0x2028 ||
  c.toNat == 0x2029 || c.toNat == 0x202f || c.toNat == 0x205f || c.toNat == 0x3000

def trimStart (cs : List Char) : List Char := cs.dropWhile isBlank

def trimEnd (cs : List Char) : List Char := (cs.reverse.dropWhile isBlank).reverse

def trim (s : String) : String := String.ofList (trimEnd (trimStart s.toList))

def blank (s : String) : Bool := s.toList.all isBlank

theorem trim_of_ends {s : String} {first : Char} {cs : List Char} (hs : s.toList = first :: cs)
    (hfirst : isBlank first = false) (last : Char)
    (hl : s.toList.getLast? = some last) (hlast : isBlank last = false) : trim s = s := by
  have hstart : trimStart s.toList = s.toList := by
    rw [hs, trimStart, List.dropWhile_cons_of_neg (by simp [hfirst])]
  have hend : trimEnd s.toList = s.toList := by
    have hr : s.toList.reverse.head? = some last := by rw [List.head?_reverse, hl]
    obtain ⟨rest, hrest⟩ := List.head?_eq_some_iff.1 hr
    rw [trimEnd, hrest, List.dropWhile_cons_of_neg (by simp [hlast]), ← hrest,
      List.reverse_reverse]
  rw [trim, hstart, hend, String.ofList_toList]

end Registry.Text
