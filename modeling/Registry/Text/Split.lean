/-!
# Cutting texts

Cutting a text at a character, searching for a part of it, and comparing texts while ignoring
ASCII case. Main statements: cutting loses nothing but the separator, and cuts at the first or the
last one.
-/

namespace Registry.Text

/-- The parts before and after the first `sep`. -/
def cut? (sep : Char) : List Char → Option (List Char × List Char)
  | [] => none
  | c :: cs => if c = sep then some ([], cs) else (cut? sep cs).map fun p => (c :: p.1, p.2)

/-- The parts before and after the last `sep`. -/
def cutLast? (sep : Char) : List Char → Option (List Char × List Char)
  | [] => none
  | c :: cs =>
    match cutLast? sep cs with
    | some p => some (c :: p.1, p.2)
    | none => if c = sep then some ([], cs) else none

def cutAt? (sep : Char) (s : String) : Option (String × String) :=
  (cut? sep s.toList).map fun p => (String.ofList p.1, String.ofList p.2)

def cutAtLast? (sep : Char) (s : String) : Option (String × String) :=
  (cutLast? sep s.toList).map fun p => (String.ofList p.1, String.ofList p.2)

/-- The parts of a text between the separators; one part if there is none. -/
def pieces (sep : Char) (s : String) : List String := (s.toList.splitOn sep).map String.ofList

/-- Whether one list starts somewhere inside another one and lies in it as a whole. -/
def occursIn (part : List Char) : List Char → Bool
  | [] => part.isEmpty
  | c :: cs => part.isPrefixOf (c :: cs) || occursIn part cs

/-- A list and what is left of it behind each of its items. -/
def suffixes : List Char → List (List Char)
  | [] => [[]]
  | c :: cs => (c :: cs) :: suffixes cs

def contains (s part : String) : Bool := occursIn part.toList s.toList

def startsWith (s start : String) : Bool := start.toList.isPrefixOf s.toList

def endsWith (s ending : String) : Bool := ending.toList.isSuffixOf s.toList

def dropStart? (s start : String) : Option String :=
  if startsWith s start then some (String.ofList (s.toList.drop start.length)) else none

def dropEnd? (s ending : String) : Option String :=
  if endsWith s ending then
    some (String.ofList (s.toList.take (s.length - ending.length)))
  else none

def lowerAscii (s : String) : String := String.ofList (s.toList.map Char.toLower)

def sameIgnoringCase (s t : String) : Bool := lowerAscii s == lowerAscii t

/-- Making a capital small gives a small letter, so every other character comes from itself. -/
theorem eq_of_toLower_eq {c d : Char} (hd : d.isLower = false) (h : c.toLower = d) : c = d := by
  unfold Char.toLower at h
  split at h
  · next hcapital =>
    have hv := congrArg (·.val.toNat) h
    simp only [UInt32.le_iff_toNat_le, ge_iff_le] at hcapital
    simp [UInt32.toNat_add] at hv
    simp at hcapital
    unfold Char.isLower at hd
    simp [UInt32.le_iff_toNat_le] at hd
    omega
  · exact h

theorem occursIn_iff {part cs : List Char} : occursIn part cs = true ↔ part <:+: cs := by
  induction cs with
  | nil => rw [occursIn, List.isEmpty_iff, List.infix_nil]
  | cons c cs ih =>
    rw [occursIn, Bool.or_eq_true, List.isPrefixOf_iff_prefix, ih, List.infix_cons_iff]

def replaceChar (c : Char) (by_ : List Char) (s : String) : String :=
  String.ofList (s.toList.flatMap fun d => if d = c then by_ else [d])

theorem cut?_eq_some {sep : Char} {cs before after : List Char} (h : cut? sep cs = some (before, after)) :
    cs = before ++ sep :: after ∧ sep ∉ before := by
  induction cs generalizing before after with
  | nil => simp [cut?] at h
  | cons c cs ih =>
    by_cases hc : c = sep
    · simp only [cut?, hc, if_true, Option.some.injEq, Prod.mk.injEq] at h
      obtain ⟨rfl, rfl⟩ := h
      simp [hc]
    · simp only [cut?, if_neg hc, Option.map_eq_some_iff, Prod.exists, Prod.mk.injEq] at h
      obtain ⟨b, a, hba, rfl, rfl⟩ := h
      obtain ⟨h1, h2⟩ := ih hba
      exact ⟨by rw [h1]; rfl, by simp [h2, Ne.symm hc]⟩

theorem cut?_eq_none {sep : Char} {cs : List Char} : cut? sep cs = none ↔ sep ∉ cs := by
  induction cs with
  | nil => simp [cut?]
  | cons c cs ih =>
    by_cases hc : c = sep
    · simp [cut?, hc]
    · simp [cut?, hc, ih, Ne.symm hc]

theorem cut?_append {sep : Char} {before : List Char} (h : sep ∉ before) (after : List Char) :
    cut? sep (before ++ sep :: after) = some (before, after) := by
  induction before with
  | nil => simp [cut?]
  | cons c cs ih =>
    simp only [List.mem_cons, not_or] at h
    simp [cut?, Ne.symm h.1, ih h.2]

/-- Cutting does not see a change of characters that keeps the separator apart. -/
theorem cut?_map {sep : Char} {f : Char → Char} (hf : ∀ c, f c = sep ↔ c = sep) (cs : List Char) :
    cut? sep (cs.map f) = (cut? sep cs).map fun p => (p.1.map f, p.2.map f) := by
  induction cs with
  | nil => rfl
  | cons c cs ih =>
    by_cases hc : c = sep
    · simp [cut?, hc, (hf sep).2 rfl]
    · simp [cut?, hc, mt (hf c).1 hc, ih, Function.comp_def]

theorem cutLast?_eq_none {sep : Char} {cs : List Char} : cutLast? sep cs = none ↔ sep ∉ cs := by
  induction cs with
  | nil => simp [cutLast?]
  | cons c cs ih =>
    unfold cutLast?
    cases hcs : cutLast? sep cs with
    | some p =>
      have : sep ∈ cs := by
        apply Classical.byContradiction
        intro hn
        rw [ih.2 hn] at hcs
        simp at hcs
      simp [this]
    | none =>
      have := ih.1 hcs
      by_cases hc : c = sep
      · simp [hc]
      · simp [hc, this, Ne.symm hc]

theorem cutLast?_eq_some {sep : Char} {cs before after : List Char}
    (h : cutLast? sep cs = some (before, after)) : cs = before ++ sep :: after ∧ sep ∉ after := by
  induction cs generalizing before after with
  | nil => simp [cutLast?] at h
  | cons c cs ih =>
    unfold cutLast? at h
    cases hcs : cutLast? sep cs with
    | some p =>
      rw [hcs] at h
      simp only [Option.some.injEq, Prod.mk.injEq] at h
      obtain ⟨rfl, rfl⟩ := h
      obtain ⟨h1, h2⟩ := @ih p.1 p.2 hcs
      exact ⟨by rw [List.cons_append, ← h1], h2⟩
    | none =>
      rw [hcs] at h
      by_cases hc : c = sep
      · simp only [hc, if_true, Option.some.injEq, Prod.mk.injEq] at h
        obtain ⟨rfl, rfl⟩ := h
        exact ⟨by simp [hc], cutLast?_eq_none.1 hcs⟩
      · simp [hc] at h

theorem cutLast?_append {sep : Char} (before : List Char) {after : List Char} (h : sep ∉ after) :
    cutLast? sep (before ++ sep :: after) = some (before, after) := by
  induction before with
  | nil => simp [cutLast?, cutLast?_eq_none.2 h]
  | cons c cs ih => simp [cutLast?, ih]

theorem takeWhile_append_stop {α : Type} {p : α → Bool} {front : List α}
    (hfront : ∀ c ∈ front, p c = true) (rest : List α) (hrest : ∀ c ∈ rest.head?, p c = false) :
    (front ++ rest).takeWhile p = front ∧ (front ++ rest).dropWhile p = rest := by
  rw [List.takeWhile_append_of_pos hfront, List.dropWhile_append_of_pos hfront]
  cases rest with
  | nil => simp
  | cons c rest => simp [hrest c rfl]

end Registry.Text
