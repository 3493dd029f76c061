import Mathlib.Data.List.Forall2
import Registry.Url.Host
import Registry.Proofs.TextPieces

/-!
# Written domains

A domain whose characters come to small ASCII letters is written as these characters, and reads back
as it is. So does a decimal one.
-/

namespace Registry.Url

open Text

variable {cs : List Char}

lemma characters_of_ascii (h : ∀ c ∈ cs, c.toNat < 0x80) (bytes : List UInt8) :
    Utf8.characters (cs.flatMap Utf8.encodeChar ++ bytes) = cs.map some ++ Utf8.characters bytes := by
  induction cs with
  | nil => rfl
  | cons c cs ih =>
    rw [List.forall_mem_cons] at h
    have hbyte : (UInt8.ofNat c.toNat).toNat = c.toNat := by
      simp only [UInt8.toNat_ofNat']
      omega
    have hencode : Utf8.encodeChar c = [UInt8.ofNat c.toNat] := by
      unfold Utf8.encodeChar
      dsimp only
      rw [if_pos h.1]
    rw [List.flatMap_cons, hencode, List.append_assoc, List.singleton_append, Utf8.characters,
      Utf8.readSequence]
    dsimp only
    rw [hbyte, if_pos h.1]
    dsimp only
    rw [ih h.2, Option.map_some, Char.ofNat_toNat]
    rfl

lemma mapM_id_map_some {α : Type} (as : List α) : (as.map some).mapM id = some as := by
  induction as with
  | nil => rfl
  | cons a as ih => simp [List.mapM_cons, ih]

lemma forall₂_of_mapM {α β : Type} {f : α → Option β} {as : List α} {bs : List β}
    (h : as.mapM f = some bs) : List.Forall₂ (fun a b => f a = some b) as bs := by
  induction as generalizing bs with
  | nil =>
    obtain rfl := Option.some.inj h
    exact .nil
  | cons a as ih =>
    simp only [List.mapM_cons, Option.bind_eq_bind] at h
    obtain ⟨b, hb, h⟩ := Option.bind_eq_some_iff.1 h
    obtain ⟨rest, hrest, h⟩ := Option.bind_eq_some_iff.1 h
    obtain rfl := Option.some.inj h
    exact .cons hb (ih hrest)

lemma exists_of_mem_mapM {α β : Type} {f : α → Option β} {as : List α} {bs : List β}
    (h : as.mapM f = some bs) {b : β} (hb : b ∈ bs) : ∃ a ∈ as, f a = some b := by
  have hpairs := forall₂_of_mapM h
  clear h
  induction hpairs with
  | nil => cases hb
  | cons hread _ ih =>
    rcases List.mem_cons.1 hb with rfl | hb
    · exact ⟨_, List.mem_cons_self, hread⟩
    · obtain ⟨a, ha, hread⟩ := ih hb
      exact ⟨a, List.mem_cons_of_mem _ ha, hread⟩

lemma decode_of_ascii (h : ∀ c ∈ cs, c.toNat < 0x80 ∧ c ≠ '%') :
    Utf8.decode? (Percent.decode cs) = some cs := by
  have hbytes : Percent.decode cs = cs.flatMap Utf8.encodeChar := by
    induction cs with
    | nil => rfl
    | cons c cs ih =>
      rw [List.forall_mem_cons] at h
      rw [Percent.decode, ih h.2, List.flatMap_cons]
      exact fun _ _ _ he => absurd he h.1.2
  have hchars := characters_of_ascii (fun c hc => (h c hc).1) []
  rw [List.append_nil] at hchars
  rw [hbytes, Utf8.decode?, hchars, Utf8.characters, List.append_nil]
  exact mapM_id_map_some cs

namespace Domain

variable {mapped ascii piece label : List Char}

/-- A label is read as it is, or it is the spelling of one that needs it. -/
lemma readLabel?_cases (h : readLabel? piece = some label) :
    label = piece ∨ isAscii label = false ∧ piece = punycodeMark ++ Punycode.encode label := by
  unfold readLabel? at h
  split at h
  · next hmark =>
    obtain ⟨rest, rfl⟩ := List.isPrefixOf_iff_prefix.1 hmark
    have hrest : (punycodeMark ++ rest).drop 4 = rest := rfl
    rw [hrest, decodeLabel?] at h
    simp only [Option.bind_eq_bind] at h
    split at h
    · cases h
    · obtain ⟨spelled, -, h⟩ := Option.bind_eq_some_iff.1 h
      split at h
      · next hcheck =>
        obtain rfl := Option.some.inj h
        simp only [Bool.and_eq_true, Bool.not_eq_true', beq_iff_eq] at hcheck
        exact .inr ⟨hcheck.1.1, by rw [hcheck.2]⟩
      · cases h
  · exact .inl (Option.some.inj h).symm

lemma writeLabel_of_readLabel? (h : readLabel? piece = some label) (hascii : isAscii piece = true) :
    writeLabel label = piece := by
  rcases readLabel?_cases h with rfl | ⟨hwide, rfl⟩
  · rw [writeLabel, if_pos hascii]
  · rw [writeLabel, hwide, if_neg (by decide)]

lemma eq_of_readLabel? (h : readLabel? piece = some label) (hascii : isAscii label = true) :
    label = piece := by
  rcases readLabel?_cases h with rfl | ⟨hwide, rfl⟩
  · rfl
  · rw [hascii] at hwide
    cases hwide

/-- Small ASCII characters stand for themselves in a domain. -/
def Small (cs : List Char) : Prop := ∀ c ∈ cs, c.toNat < 0x80 ∧ c.toLower = c

lemma map?_of_ascii (h : ∀ c ∈ cs, c.toNat < 0x80) : map? cs = some (cs.map Char.toLower) :=
  if_pos (List.all_eq_true.2 fun c hc => decide_eq_true (h c hc))

lemma Small.map? (h : Small cs) : map? cs = some cs := by
  rw [map?_of_ascii fun c hc => (h c hc).1]
  exact congrArg some ((List.map_congr_left fun c hc => (h c hc).2).trans (List.map_id cs))

lemma small_map_toLower (h : ∀ c ∈ cs, c.toNat < 0x80) : Small (cs.map Char.toLower) := by
  rw [Small, List.forall_mem_map]
  intro c hc
  exact of_toNat_lt (P := fun c => c.toLower.toNat < 0x80 ∧ c.toLower.toLower = c.toLower)
    (by decide +kernel) (h c hc)

lemma labels?_eq (cs : List Char) : labels? cs = (map? cs).bind fun mapped =>
    ((mapped.splitOn '.').mapM readLabel?).bind fun labels =>
      if labels.all fun l => isLabel l && (!labels.any (·.any turnsDirection) || keepsDirection l)
      then some labels else none := rfl

lemma labels?_eq_some {labels : List (List Char)} (h : labels? cs = some labels) :
    ∃ mapped, map? cs = some mapped ∧ (mapped.splitOn '.').mapM readLabel? = some labels := by
  rw [labels?_eq] at h
  obtain ⟨mapped, hmap, h⟩ := Option.bind_eq_some_iff.1 h
  obtain ⟨read, hread, h⟩ := Option.bind_eq_some_iff.1 h
  split at h
  · exact ⟨mapped, hmap, Option.some.inj h ▸ hread⟩
  · cases h

lemma mapM_readLabel? {pieces : List (List Char)}
    (h : ∀ piece ∈ pieces, ¬punycodeMark.isPrefixOf piece = true) :
    pieces.mapM readLabel? = some pieces := by
  induction pieces with
  | nil => rfl
  | cons piece pieces ih =>
    rw [List.forall_mem_cons] at h
    rw [List.mapM_cons, ih h.2, readLabel?, if_neg h.1]
    rfl

lemma map_writeLabel {pieces labels : List (List Char)}
    (h : List.Forall₂ (fun piece label => readLabel? piece = some label) pieces labels)
    (hascii : ∀ piece ∈ pieces, isAscii piece = true) : labels.map writeLabel = pieces := by
  induction h with
  | nil => rfl
  | cons hlabel _ ih =>
    rw [List.forall_mem_cons] at hascii
    rw [List.map_cons, writeLabel_of_readLabel? hlabel hascii.1, ih hascii.2]

/-- A domain that comes to small characters is written as these, and reads back. -/
lemma toAscii?_of_small (hmap : map? cs = some mapped) (hsmall : Small mapped)
    (h : toAscii? cs = some ascii) : ascii = mapped ∧ toAscii? mapped = some mapped := by
  have hsame : toAscii? mapped = toAscii? cs := by
    rw [toAscii?, toAscii?, labels?_eq, labels?_eq, hsmall.map?, hmap]
  obtain ⟨labels, hlabels, hascii⟩ := Option.map_eq_some_iff.1 h
  obtain ⟨mapped', hmap', hread⟩ := labels?_eq_some hlabels
  obtain rfl := Option.some.inj (hmap.symm.trans hmap')
  have hwritten : labels.map writeLabel = mapped.splitOn '.' := by
    refine map_writeLabel (forall₂_of_mapM hread) fun piece hp => List.all_eq_true.2 fun c hc => ?_
    exact decide_eq_true (hsmall c (mem_of_mem_splitOn hp hc)).1
  have hmapped : ascii = mapped := by
    rw [← hascii, hwritten]
    exact List.intercalate_splitOn '.'
  exact ⟨hmapped, by rw [hsame, h, hmapped]⟩

/-- Without a mark of Punycode, a written domain is what its characters come to. -/
lemma map?_of_unmarked (h : toAscii? cs = some ascii) (hunmarked : ¬punycodeMark <:+: ascii) :
    map? cs = some ascii ∧ ∀ c ∈ ascii, c.toNat < 0x80 := by
  obtain ⟨labels, hlabels, hascii⟩ := Option.map_eq_some_iff.1 h
  obtain ⟨mapped, hmap, hread⟩ := labels?_eq_some hlabels
  have hplain : ∀ label ∈ labels, isAscii label = true := by
    intro label hl
    by_contra hwide
    refine hunmarked ?_
    have hmark : punycodeMark <:+: writeLabel label := by
      rw [writeLabel, if_neg hwide]
      exact (List.prefix_append _ _).isInfix
    rw [← hascii]
    exact hmark.trans (infix_intercalate ['.'] (List.mem_map_of_mem hl))
  have hsame : labels = mapped.splitOn '.' := by
    have hpairs := forall₂_of_mapM hread
    generalize mapped.splitOn '.' = pieces at hpairs
    clear hlabels hascii hread
    induction hpairs with
    | nil => rfl
    | cons hlabel _ ih =>
      rw [List.forall_mem_cons] at hplain
      rw [eq_of_readLabel? hlabel hplain.1, ih hplain.2]
  have hwritten : labels.map writeLabel = labels :=
    (List.map_congr_left fun label hl => if_pos (hplain label hl)).trans (List.map_id labels)
  have hmapped : ascii = mapped := by
    rw [← hascii, hwritten, hsame]
    exact List.intercalate_splitOn '.'
  refine ⟨hmapped ▸ hmap, fun c hc => ?_⟩
  rw [← hascii, hwritten] at hc
  rcases mem_intercalate hc with hdot | ⟨label, hl, hc⟩
  · rw [List.mem_singleton.1 hdot]
    decide
  · exact of_decide_eq_true (List.all_eq_true.1 (hplain label hl) c hc)

/-- What a digit is in a domain, checked for each. -/
structure PlainDigit (c : Char) : Prop where
  ascii : c.toNat < 0x80
  small : c.toLower = c
  mark : isMark c = false
  joiner : isJoiner c = false
  turns : turnsDirection c = false
  bad : isBadInDomain c = false
  ne_dot : c ≠ '.'
  ne_x : c ≠ 'x'

lemma plainDigit {c : Char} (h : c.isDigit = true) : PlainDigit c := by
  have hle : c.toNat ≤ 57 := (Char.isDigit_iff_toNat.1 h).2
  obtain ⟨h1, h2, h3, h4, h5, h6, h7, h8⟩ := of_toNat_lt (P := fun c =>
    c.isDigit = true → c.toNat < 0x80 ∧ c.toLower = c ∧ isMark c = false ∧ isJoiner c = false ∧
      turnsDirection c = false ∧ isBadInDomain c = false ∧ c ≠ '.' ∧ c ≠ 'x')
    (by decide +kernel) (Nat.lt_succ_of_le hle) h
  exact ⟨h1, h2, h3, h4, h5, h6, h7, h8⟩

lemma joinersFit_of_no_joiner (h : ∀ c ∈ cs, isJoiner c = false) (before : List Char) :
    joinersFit before cs = true := by
  induction cs generalizing before with
  | nil => rfl
  | cons c cs ih =>
    rw [List.forall_mem_cons] at h
    rw [joinersFit, ih h.2, h.1]
    rfl

lemma isLabel_of_digits (h : ∀ c ∈ label, c.isDigit = true) : isLabel label = true := by
  have hmark : label.head?.any isMark = false := by
    cases label with
    | nil => rfl
    | cons c label => exact (plainDigit (h c List.mem_cons_self)).mark
  have hascii : isAscii label = true :=
    List.all_eq_true.2 fun c hc => decide_eq_true (plainDigit (h c hc)).ascii
  rw [isLabel, hmark, joinersFit_of_no_joiner fun c hc => (plainDigit (h c hc)).joiner, hascii]
  rfl

lemma toAscii?_of_decimal (h : ∀ c ∈ cs, c.isDigit = true ∨ c = '.') :
    toAscii? cs = some cs := by
  have hsmall : Small cs := by
    intro c hc
    rcases h c hc with hd | rfl
    · exact ⟨(plainDigit hd).ascii, (plainDigit hd).small⟩
    · decide
  have hpieces : ∀ piece ∈ cs.splitOn '.', ∀ c ∈ piece, c.isDigit = true := by
    intro piece hp c hc
    refine (h c (mem_of_mem_splitOn hp hc)).resolve_right fun he => ?_
    exact sep_not_mem_of_mem_splitOn hp (he ▸ hc)
  have hread : (cs.splitOn '.').mapM readLabel? = some (cs.splitOn '.') := by
    refine mapM_readLabel? fun piece hp hmark => ?_
    obtain ⟨rest, rfl⟩ := List.isPrefixOf_iff_prefix.1 hmark
    exact (plainDigit (hpieces _ hp 'x' List.mem_cons_self)).ne_x rfl
  have hturns : (cs.splitOn '.').any (·.any turnsDirection) = false := by
    simp only [List.any_eq_false, List.any_eq_true, not_exists, not_and]
    intro piece hp c hc
    simp [(plainDigit (hpieces piece hp c hc)).turns]
  have hlabels : labels? cs = some (cs.splitOn '.') := by
    rw [labels?_eq, hsmall.map?, Option.bind_some, hread, Option.bind_some, hturns]
    refine if_pos (List.all_eq_true.2 fun piece hp => ?_)
    rw [isLabel_of_digits (hpieces piece hp)]
    rfl
  have hwritten : (cs.splitOn '.').map writeLabel = cs.splitOn '.' := by
    refine map_writeLabel (forall₂_of_mapM hread) fun piece hp => List.all_eq_true.2 fun c hc => ?_
    exact decide_eq_true (plainDigit (hpieces piece hp c hc)).ascii
  rw [toAscii?, hlabels, Option.map_some, hwritten]
  exact congrArg some (List.intercalate_splitOn '.')

end Domain

end Registry.Url
