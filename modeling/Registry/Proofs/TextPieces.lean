import Mathlib.Data.List.Basic

/-!
# Pieces of texts

Lists that are put together with a separator between them, and cut at it again. What holds of the
characters below a bound is a fact about their codes, which can be checked one by one.
-/

namespace Registry.Text

lemma of_toNat_lt {P : Char → Prop} {bound : Nat} (h : ∀ n < bound, P (Char.ofNat n)) {c : Char}
    (hc : c.toNat < bound) : P c := by
  have hcode := h c.toNat hc
  rwa [Char.ofNat_toNat] at hcode

lemma toNat_lt_of_isAlphanum {c : Char} (h : c.isAlphanum = true) : c.toNat < 128 := by
  have h : (c.isUpper || c.isLower || c.isDigit) = true := h
  unfold Char.isUpper Char.isLower Char.isDigit at h
  simp only [Bool.or_eq_true, Bool.and_eq_true, decide_eq_true_eq, ge_iff_le,
    UInt32.le_iff_toNat_le] at h
  simp at h
  have hval : c.toNat = c.val.toNat := rfl
  omega

variable {α : Type} {a sep : α} {part separator : List α} {parts : List (List α)}

lemma mem_intercalate (h : a ∈ separator.intercalate parts) :
    a ∈ separator ∨ ∃ part ∈ parts, a ∈ part := by
  induction parts with
  | nil => simp at h
  | cons part parts ih =>
    cases parts with
    | nil => exact .inr ⟨part, List.mem_cons_self, by simpa using h⟩
    | cons next parts =>
      rw [List.intercalate_cons_cons, List.mem_append, List.mem_append] at h
      rcases h with (h | h) | h
      · exact .inr ⟨part, List.mem_cons_self, h⟩
      · exact .inl h
      · exact (ih h).imp_right fun ⟨other, ho, hc⟩ => ⟨other, List.mem_cons_of_mem _ ho, hc⟩

lemma infix_intercalate (separator : List α) (h : part ∈ parts) :
    part <:+: separator.intercalate parts := by
  induction parts with
  | nil => cases h
  | cons first parts ih =>
    cases parts with
    | nil =>
      obtain rfl := List.mem_singleton.1 h
      simp
    | cons next parts =>
      rw [List.intercalate_cons_cons, List.append_assoc]
      rcases List.mem_cons.1 h with rfl | h
      · exact (List.prefix_append _ _).isInfix
      · exact (ih h).trans ((List.suffix_append _ _).trans (List.suffix_append _ _)).isInfix

lemma flatMap_cons (sep : α) (h : parts ≠ []) :
    parts.flatMap (sep :: ·) = sep :: [sep].intercalate parts := by
  induction parts with
  | nil => exact absurd rfl h
  | cons part parts ih =>
    cases parts with
    | nil => simp
    | cons next parts =>
      rw [List.flatMap_cons, ih (List.cons_ne_nil _ _), List.intercalate_cons_cons]
      simp

variable [BEq α] [LawfulBEq α]

lemma splitOn_of_not_mem (h : sep ∉ part) : part.splitOn sep = [part] := by
  have hone : ([sep].intercalate [part]).splitOn sep = [part] :=
    List.splitOn_intercalate sep (by simpa using h) (by simp)
  simpa using hone

lemma mem_of_mem_splitOn {as : List α} (hp : part ∈ as.splitOn sep) (ha : a ∈ part) : a ∈ as := by
  have hin := (infix_intercalate [sep] hp).subset ha
  rwa [List.intercalate_splitOn] at hin

lemma sep_not_mem_of_mem_splitOn {as : List α} (hp : part ∈ as.splitOn sep) : sep ∉ part := by
  induction as generalizing part with
  | nil =>
    rw [List.splitOn_nil, List.mem_singleton] at hp
    simp [hp]
  | cons c as ih =>
    rw [List.splitOn_cons_eq_if_modifyHead] at hp
    split at hp
    · rcases List.mem_cons.1 hp with rfl | hp
      · simp
      · exact ih hp
    · next hc =>
      obtain ⟨first, rest, hs⟩ := List.exists_cons_of_ne_nil (List.splitOn_ne_nil sep as)
      rw [hs] at hp ih
      rcases List.mem_cons.1 hp with rfl | hp
      · have hfirst := ih List.mem_cons_self
        have hne : sep ≠ c := fun he => hc (by simp [he])
        exact List.mem_cons.not.2 (not_or.2 ⟨hne, hfirst⟩)
      · exact ih (List.mem_cons_of_mem _ hp)

end Registry.Text
