import Mathlib.Data.List.Forall2
import Registry.Proofs.NameCases

/-!
# Converting a name again

A name of letters, digits and underscores that is in Pascal or snake case stays as it is when it is
converted again, and so does one in camel case whose parts start with no capital letter. A part gets
such a capital if it opens with underscores and a letter, because nothing stands in front of its
first underscore; the second conversion takes it away.
-/

namespace Registry.Naming

/-- The parts of a name between dots. -/
def dottedParts (name : String) : List (List Char) := name.toList.splitOn '.'

def IsPlain (part : List Char) : Prop := ∀ c ∈ part, c.isAlphanum = true ∨ c = '_'

/-- Whether the parts of a name hold ASCII letters, digits and underscores only. -/
def PlainName (name : String) : Prop := ∀ part ∈ dottedParts name, IsPlain part

/-- A part opens with underscores, and what stands behind them is a letter. -/
def Veiled (part : List Char) : Prop :=
  part.head? = some '_' ∧ (part.find? (· != '_')).any Char.isAlpha = true

/-- Whether a part starts with a capital letter. -/
def Capitalized (part : List Char) : Prop := part.head?.any Char.isUpper = true

instance (part : List Char) : Decidable (IsPlain part) := List.decidableBAll _ part

instance (name : String) : Decidable (PlainName name) := List.decidableBAll _ (dottedParts name)

instance (part : List Char) : Decidable (Veiled part) := inferInstanceAs (Decidable (_ ∧ _))

instance (part : List Char) : Decidable (Capitalized part) := inferInstanceAs (Decidable (_ = true))

open Naming.Part (pascalPart_eq underscored snakePart_cons)

variable {c : Char} {cs part run : List Char} {x : String}

/-- Every text of letters and digits is a run of small letters and digits with words behind it. -/
lemma exists_words (h : ∀ c ∈ cs, c.isAlphanum = true) :
    ∃ (run : List Char) (ws : List Word), (∀ c ∈ run, (c.isLower || c.isDigit) = true) ∧
      cs = run ++ ws.flatMap Word.text := by
  induction cs with
  | nil => exact ⟨[], [], by simp, rfl⟩
  | cons c cs ih =>
    rw [List.forall_mem_cons] at h
    obtain ⟨run, ws, hrun, rfl⟩ := ih h.2
    cases hc : c.isUpper with
    | true => exact ⟨[], ⟨c, run, hc, hrun⟩ :: ws, by simp, rfl⟩
    | false =>
      have hsmall : (c.isUpper || c.isLower || c.isDigit) = true := h.1
      rw [hc, Bool.false_or] at hsmall
      exact ⟨c :: run, ws, List.forall_mem_cons.2 ⟨hsmall, hrun⟩, rfl⟩

lemma isAlphanum_words (hrun : ∀ c ∈ run, (c.isLower || c.isDigit) = true) (ws : List Word) :
    ∀ c ∈ run ++ ws.flatMap Word.text, c.isAlphanum = true :=
  List.forall_mem_append.2 ⟨fun c hc => isAlphanum_of_run (hrun c hc), isAlphanum_flatMap_text ws⟩

lemma words_append (hrun : ∀ c ∈ run, (c.isLower || c.isDigit) = true) (ws : List Word) :
    words (run ++ ws.flatMap Word.text) =
      if run = [] then ws.map Word.text else run :: ws.map Word.text := by
  rw [words, if_neg (not_contains_underscore (isAlphanum_words hrun ws)), caseWords,
    runAndWords_append _ hrun]
  cases run with
  | nil => simp
  | cons c run =>
    have hc := isUpper_of_run (hrun c List.mem_cons_self)
    simp [hc]

lemma flatten_splitOn_underscore (part : List Char) :
    (part.splitOn '_').flatten = part.filter (· != '_') := by
  induction part with
  | nil => rfl
  | cons c part ih =>
    rw [List.splitOn_cons_eq_if_modifyHead]
    obtain ⟨first, rest, hs⟩ := List.exists_cons_of_ne_nil (List.splitOn_ne_nil '_' part)
    rw [hs, List.flatten_cons] at ih
    by_cases hc : c = '_'
    · simp [hc, hs, ih]
    · simp [hc, hs, ih]

lemma IsPlain.isAlphanum (h : IsPlain part) (hc : c ∈ part.filter (· != '_')) :
    c.isAlphanum = true := by
  rw [List.mem_filter, bne_iff_ne] at hc
  exact (h c hc.1).resolve_right hc.2

lemma filter_underscore (h : '_' ∉ part) : part.filter (· != '_') = part := by
  rw [List.filter_eq_self]
  intro c hc
  rw [bne_iff_ne]
  rintro rfl
  exact h hc

lemma IsPlain.isAlphanum_of_not_mem (h : IsPlain part) (hu : '_' ∉ part) :
    ∀ c ∈ part, c.isAlphanum = true := by
  rw [← filter_underscore hu]
  exact fun c => h.isAlphanum

/-- The words of a part make up all of it but the underscores. -/
lemma flatten_words (h : IsPlain part) : (words part).flatten = part.filter (· != '_') := by
  by_cases hu : '_' ∈ part
  · rw [words, if_pos (List.contains_iff_mem.2 hu), flatten_splitOn_underscore]
  · rw [filter_underscore hu]
    obtain ⟨run, ws, hrun, rfl⟩ := exists_words (h.isAlphanum_of_not_mem hu)
    rw [words_append hrun, List.flatMap_def]
    cases run <;> simp

lemma isAlphanum_flatten_words (h : IsPlain part) :
    ∀ c ∈ (words part).flatten, c.isAlphanum = true := by
  rw [flatten_words h]
  exact fun c => h.isAlphanum

lemma upperChar_of_isAlphanum (h : c.isAlphanum = true) : Text.upperChar c = [c.toUpper] := by
  have hlt := Text.toNat_lt_of_isAlphanum h
  rw [Text.upperChar, if_pos (by omega)]

lemma toUpper_of_isAlphanum (h : c.isAlphanum = true) :
    c.toUpper.isAlphanum = true ∧ c.toUpper.isLower = false ∧
      c.toUpper.isUpper = c.isAlpha ∧ (c.isLower = false → c.toUpper = c) :=
  of_isAlphanum (P := fun c => c.toUpper.isAlphanum = true ∧ c.toUpper.isLower = false ∧
    c.toUpper.isUpper = c.isAlpha ∧ (c.isLower = false → c.toUpper = c)) (by decide +kernel) h

lemma toLower_of_isAlphanum (h : c.isAlphanum = true) :
    c.toLower.isAlphanum = true ∧ c.toLower.isUpper = false ∧
      (c.isUpper = false → c.toLower = c) :=
  of_isAlphanum (P := fun c => c.toLower.isAlphanum = true ∧ c.toLower.isUpper = false ∧
    (c.isUpper = false → c.toLower = c)) (by decide +kernel) h

lemma isAlphanum_map_toLower (h : ∀ c ∈ cs, c.isAlphanum = true) :
    ∀ c ∈ cs.map Char.toLower, c.isAlphanum = true :=
  List.forall_mem_map.2 fun c hc => (toLower_of_isAlphanum (h c hc)).1

lemma capitalize_cons (h : c.isAlphanum = true) (cs : List Char) :
    capitalize (c :: cs) = c.toUpper :: cs.map Char.toLower := by
  rw [capitalize, upperChar_of_isAlphanum h, List.singleton_append]

lemma isAlphanum_capitalize (h : ∀ c ∈ cs, c.isAlphanum = true) :
    ∀ c ∈ capitalize cs, c.isAlphanum = true := by
  cases cs with
  | nil => simp [capitalize]
  | cons c cs =>
    rw [List.forall_mem_cons] at h
    rw [capitalize_cons h.1, List.forall_mem_cons]
    exact ⟨(toUpper_of_isAlphanum h.1).1, isAlphanum_map_toLower h.2⟩

section capitalized

variable {ws : List (List Char)} (h : ∀ c ∈ ws.flatten, c.isAlphanum = true)
include h

lemma isAlphanum_flatMap_capitalize : ∀ c ∈ ws.flatMap capitalize, c.isAlphanum = true := by
  intro c hc
  obtain ⟨w, hw, hc⟩ := List.mem_flatMap.1 hc
  exact isAlphanum_capitalize (fun d hd => h d (List.mem_flatten_of_mem hw hd)) c hc

/-- Capitalized words start with the capital of their first character. -/
lemma head?_flatMap_capitalize :
    (ws.flatMap capitalize).head? = ws.flatten.head?.map Char.toUpper := by
  induction ws with
  | nil => rfl
  | cons w ws ih =>
    rw [List.flatten_cons, List.forall_mem_append] at h
    cases w with
    | nil => exact ih h.2
    | cons c cs =>
      rw [List.flatMap_cons, capitalize_cons (h.1 c List.mem_cons_self)]
      rfl

end capitalized

/-- A text that starts with no small letter is in Pascal case. -/
lemma pascalPart_eq_self (h : ∀ c ∈ part, c.isAlphanum = true)
    (hhead : ∀ c ∈ part.head?, c.isLower = false) : pascalPart {} part = part := by
  obtain ⟨run, ws, hrun, rfl⟩ := exists_words h
  rw [pascalPart_eq, words_append hrun]
  cases run with
  | nil => rw [if_pos rfl, flatMap_capitalize_text, List.nil_append]
  | cons c run =>
    rw [List.forall_mem_cons] at hrun
    have hc : c.isLower = false := hhead c rfl
    have hfirst : capitalize (c :: run) = c :: run := by
      rw [capitalize_cons (isAlphanum_of_run hrun.1), map_toLower_of_run hrun.2,
        (toUpper_of_isAlphanum (isAlphanum_of_run hrun.1)).2.2.2 hc]
    rw [if_neg (List.cons_ne_nil _ _), List.flatMap_cons, hfirst, flatMap_capitalize_text]

lemma isAlphanum_pascalPart (h : IsPlain part) :
    ∀ c ∈ pascalPart {} part, c.isAlphanum = true := by
  rw [pascalPart_eq]
  exact isAlphanum_flatMap_capitalize (isAlphanum_flatten_words h)

lemma IsPlain.pascalPart (h : IsPlain part) : IsPlain (pascalPart {} part) :=
  fun c hc => .inl (isAlphanum_pascalPart h c hc)

lemma pascalPart_again (h : IsPlain part) :
    pascalPart {} (pascalPart {} part) = pascalPart {} part := by
  refine pascalPart_eq_self (isAlphanum_pascalPart h) fun c hc => ?_
  have hwords := isAlphanum_flatten_words h
  rw [pascalPart_eq, head?_flatMap_capitalize hwords] at hc
  obtain ⟨d, hd, rfl⟩ := Option.map_eq_some_iff.1 hc
  exact (toUpper_of_isAlphanum (hwords d (List.mem_of_mem_head? hd))).2.1

/-- Without capital letters a part is in snake case. -/
lemma snakePart_eq_self (h : IsPlain part) (hsmall : ∀ c ∈ part, c.isUpper = false) :
    snakePart part = part := by
  have hstays : ∀ c ∈ part, c.toLower = c := by
    intro c hc
    rcases h c hc with hplain | rfl
    · exact (toLower_of_isAlphanum hplain).2.2 (hsmall c hc)
    · rfl
  cases part with
  | nil => rfl
  | cons c cs =>
    rw [List.forall_mem_cons] at hsmall hstays
    have hrest : ∀ d ∈ cs, underscored d = [d] := by
      intro d hd
      rw [underscored, hsmall.2 d hd, hstays.2 d hd]
      rfl
    rw [snakePart_cons, hstays.1, flatMap_eq_self hrest]

/-- What snake case writes is an underscore or the small form of a character. -/
lemma mem_snakePart (h : c ∈ snakePart part) : c = '_' ∨ ∃ d ∈ part, c = d.toLower := by
  cases part with
  | nil => cases h
  | cons d cs =>
    rw [snakePart_cons, List.mem_cons, List.mem_flatMap] at h
    rcases h with rfl | ⟨e, he, h⟩
    · exact .inr ⟨d, List.mem_cons_self, rfl⟩
    · have hcase : c = '_' ∨ c = e.toLower := by
        rw [underscored] at h
        split at h <;> simp at h <;> tauto
      exact hcase.imp_right fun hc => ⟨e, List.mem_cons_of_mem _ he, hc⟩

lemma plain_of_mem_snakePart (h : IsPlain part) (hc : c ∈ snakePart part) :
    (c.isAlphanum = true ∨ c = '_') ∧ c.isUpper = false := by
  rcases mem_snakePart hc with rfl | ⟨d, hd, rfl⟩
  · exact ⟨.inr rfl, rfl⟩
  · rcases h d hd with hd | rfl
    · exact ⟨.inl (toLower_of_isAlphanum hd).1, (toLower_of_isAlphanum hd).2.1⟩
    · exact ⟨.inr rfl, rfl⟩

lemma IsPlain.snakePart (h : IsPlain part) : IsPlain (snakePart part) :=
  fun _ hc => (plain_of_mem_snakePart h hc).1

lemma snakePart_again (h : IsPlain part) : snakePart (snakePart part) = snakePart part :=
  snakePart_eq_self h.snakePart fun _ hc => (plain_of_mem_snakePart h hc).2

/-- A text without underscores that starts with no capital letter is in camel case. -/
lemma camelPart_eq_self (hu : '_' ∉ part) (hhead : ¬Capitalized part) : camelPart part = part := by
  rw [Capitalized] at hhead
  rw [camelPart, if_neg (mt List.contains_iff_mem.1 hu), if_neg hhead]

lemma exists_pascal (h : ∀ d ∈ c :: cs, d.isAlphanum = true) (hc : c.isUpper = true) :
    ∃ p : Part, c :: cs = p.written .pascal := by
  obtain ⟨run, ws, hrun, hcs⟩ := exists_words h
  match run, ws with
  | d :: run, ws =>
    obtain ⟨rfl, -⟩ := List.cons.inj hcs
    have hd := isUpper_of_run (hrun c List.mem_cons_self)
    rw [hc] at hd
    cases hd
  | [], [] => cases hcs
  | [], w :: ws => exact ⟨⟨w, ws⟩, hcs⟩

/-- In camel case a part starts small, unless it opens with underscores. -/
lemma camelPart_cons (h : IsPlain (c :: cs)) (hc : c ≠ '_') :
    ∃ rest, camelPart (c :: cs) = c.toLower :: rest ∧ ∀ d ∈ rest, d.isAlphanum = true := by
  by_cases hu : '_' ∈ c :: cs
  · obtain ⟨first, rest, hs⟩ := List.exists_cons_of_ne_nil (List.splitOn_ne_nil '_' cs)
    have hsplit : (c :: cs).splitOn '_' = (c :: first) :: rest := by
      rw [List.splitOn_cons_eq_if_modifyHead, hs]
      simp [hc]
    have hplain : ∀ d ∈ ((c :: first) :: rest).flatten, d.isAlphanum = true := by
      rw [← hsplit, flatten_splitOn_underscore]
      exact fun d => h.isAlphanum
    rw [List.flatten_cons, List.forall_mem_append] at hplain
    refine ⟨first.map Char.toLower ++ rest.flatMap capitalize, ?_, ?_⟩
    · rw [camelPart, if_pos (List.contains_iff_mem.2 hu), hsplit]
      dsimp only
      rw [lower_of_isAlphanum hplain.1]
      rfl
    · have hfirst := isAlphanum_map_toLower fun d hd => hplain.1 d (List.mem_cons_of_mem _ hd)
      exact List.forall_mem_append.2 ⟨hfirst, isAlphanum_flatMap_capitalize hplain.2⟩
  · have hplain := h.isAlphanum_of_not_mem hu
    cases hcapital : c.isUpper with
    | false =>
      have hstays : camelPart (c :: cs) = c :: cs :=
        camelPart_eq_self hu (by simpa [Capitalized] using hcapital)
      have hsmall : c.toLower = c :=
        (toLower_of_isAlphanum (hplain c List.mem_cons_self)).2.2 hcapital
      exact ⟨cs, by rw [hstays, hsmall], (List.forall_mem_cons.1 hplain).2⟩
    | true =>
      obtain ⟨p, hp⟩ := exists_pascal hplain hcapital
      have hcamel := p.isAlphanum_camel
      rw [Part.written_pascal, Word.text, List.cons_append] at hp
      obtain ⟨rfl, rfl⟩ := List.cons.inj hp
      exact ⟨_, p.camelPart_written .pascal, (List.forall_mem_cons.1 hcamel).2⟩

lemma camelPart_underscore (cs : List Char) :
    camelPart ('_' :: cs) = (cs.splitOn '_').flatMap capitalize := by
  have hsplit : ('_' :: cs).splitOn '_' = [] :: cs.splitOn '_' := by
    rw [List.splitOn_cons_eq_if_modifyHead, if_pos (by simp)]
  rw [camelPart, if_pos (by simp), hsplit]
  rfl

lemma isAlphanum_camelPart (h : IsPlain part) : ∀ c ∈ camelPart part, c.isAlphanum = true := by
  match part with
  | [] => simp [camelPart]
  | c :: cs =>
    by_cases hc : c = '_'
    · rw [hc, camelPart_underscore]
      refine isAlphanum_flatMap_capitalize ?_
      rw [flatten_splitOn_underscore]
      exact fun d => IsPlain.isAlphanum fun e he => h e (List.mem_cons_of_mem _ he)
    · obtain ⟨rest, hcamel, hrest⟩ := camelPart_cons h hc
      have hfirst := (h c List.mem_cons_self).resolve_right hc
      rw [hcamel, List.forall_mem_cons]
      exact ⟨(toLower_of_isAlphanum hfirst).1, hrest⟩

/-- Camel case puts a capital first exactly if underscores hide that a letter comes first. -/
theorem capitalized_camelPart (h : IsPlain part) : Capitalized (camelPart part) ↔ Veiled part := by
  match part with
  | [] => simp [camelPart, Capitalized, Veiled]
  | c :: cs =>
    by_cases hc : c = '_'
    · subst hc
      have hcs : IsPlain cs := fun d hd => h d (List.mem_cons_of_mem _ hd)
      have hplain : ∀ d ∈ (cs.splitOn '_').flatten, d.isAlphanum = true := by
        rw [flatten_splitOn_underscore]
        exact fun d => hcs.isAlphanum
      have hhead : (camelPart ('_' :: cs)).head? = (cs.find? (· != '_')).map Char.toUpper := by
        rw [camelPart_underscore, head?_flatMap_capitalize hplain, flatten_splitOn_underscore,
          List.head?_filter]
      rw [Capitalized, hhead, Veiled, List.head?_cons, List.find?_cons_of_neg (by simp)]
      cases hfind : cs.find? (· != '_') with
      | none => simp
      | some d =>
        have hmem : d ∈ cs.filter (· != '_') := by
          rw [← List.head?_filter] at hfind
          exact List.mem_of_mem_head? hfind
        simp [(toUpper_of_isAlphanum (hcs.isAlphanum hmem)).2.2.1]
    · obtain ⟨rest, hcamel, -⟩ := camelPart_cons h hc
      have hfirst := (h c List.mem_cons_self).resolve_right hc
      simp [hcamel, Capitalized, Veiled, hc, (toLower_of_isAlphanum hfirst).2.1]

lemma IsPlain.camelPart (h : IsPlain part) : IsPlain (camelPart part) :=
  fun c hc => .inl (isAlphanum_camelPart h c hc)

lemma underscore_not_mem_camelPart (h : IsPlain part) : '_' ∉ camelPart part :=
  fun hm => (ne_separator (isAlphanum_camelPart h _ hm)).1 rfl

lemma not_veiled_camelPart (h : IsPlain part) : ¬Veiled (camelPart part) :=
  fun hv => underscore_not_mem_camelPart h (List.mem_of_mem_head? hv.1)

lemma camelPart_again (h : IsPlain part) :
    camelPart (camelPart part) = camelPart part ↔ ¬Veiled part := by
  rw [← capitalized_camelPart h]
  constructor
  · intro hagain hcapital
    rw [← hagain] at hcapital
    exact not_veiled_camelPart h ((capitalized_camelPart h.camelPart).1 hcapital)
  · exact camelPart_eq_self (underscore_not_mem_camelPart h)

lemma joined_dottedParts (x : String) : joined ['.'] (dottedParts x) = x.toList :=
  List.intercalate_splitOn '.'

lemma eq_of_dottedParts_eq {x y : String} (h : dottedParts x = dottedParts y) : x = y := by
  rw [← String.toList_inj, ← joined_dottedParts, h, joined_dottedParts]

lemma IsPlain.not_mem (h : IsPlain part) : '.' ∉ part ∧ ':' ∉ part := by
  have hne : ∀ c ∈ part, c ≠ '.' ∧ c ≠ ':' := by
    intro c hc
    rcases h c hc with hc | rfl
    · exact (ne_separator hc).2
    · decide
  exact ⟨fun hm => (hne _ hm).1 rfl, fun hm => (hne _ hm).2 rfl⟩

section perPart

variable {convert : List Char → List Char}

lemma perPart_of_plain (hx : PlainName x) :
    perPart convert x = String.ofList (joined ['.'] ((dottedParts x).map convert)) := by
  have hcolon : ':' ∉ x.toList := by
    rw [← joined_dottedParts]
    intro hm
    rcases Text.mem_intercalate hm with hm | ⟨part, hpart, hm⟩
    · exact absurd hm (by decide)
    · exact (hx part hpart).not_mem.2 hm
  rw [perPart, splitColons_of_not_mem hcolon]
  rfl

variable (hconvert : ∀ part, IsPlain part → IsPlain (convert part))
include hconvert

/-- A conversion acts on each part of a name. -/
lemma dottedParts_perPart (hx : PlainName x) :
    dottedParts (perPart convert x) = (dottedParts x).map convert := by
  rw [perPart_of_plain hx, dottedParts, String.toList_ofList]
  refine splitOn_joined ?_ ?_
  · rw [List.forall_mem_map]
    exact fun part hpart => (hconvert part (hx part hpart)).not_mem.1
  · exact mt List.map_eq_nil_iff.1 (List.splitOn_ne_nil '.' x.toList)

lemma PlainName.perPart (hx : PlainName x) : PlainName (perPart convert x) := by
  rw [PlainName, dottedParts_perPart hconvert hx, List.forall_mem_map]
  exact fun part hpart => hconvert part (hx part hpart)

/-- Converting a name again changes it exactly if it changes one of its parts. -/
lemma perPart_again (hx : PlainName x) :
    perPart convert (perPart convert x) = perPart convert x ↔
      ∀ part ∈ dottedParts x, convert (convert part) = convert part := by
  have hparts : dottedParts (perPart convert (perPart convert x)) =
      (dottedParts x).map fun part => convert (convert part) := by
    rw [dottedParts_perPart hconvert (hx.perPart hconvert), dottedParts_perPart hconvert hx,
      List.map_map]
    rfl
  rw [← List.map_inj_left, ← hparts, ← dottedParts_perPart hconvert hx]
  exact ⟨congrArg dottedParts, eq_of_dottedParts_eq⟩

end perPart

/-- Pascal and snake case are idempotent, and camel case is after the first time. A second
conversion to camel case changes a name exactly if one of its parts opens with underscores and a
letter, and these are the parts that get a capital at their start. -/
theorem conversions_again (x : String) (hx : PlainName x) :
    pascal {} (pascal {} x) = pascal {} x ∧ snake (snake x) = snake x ∧
      (camel (camel x) = camel x ↔ ∀ part ∈ dottedParts x, ¬Veiled part) ∧
      camel (camel (camel x)) = camel (camel x) ∧
      List.Forall₂ (fun part converted => Capitalized converted ↔ Veiled part)
        (dottedParts x) (dottedParts (camel x)) := by
  have hpascal : ∀ part, IsPlain part → IsPlain (pascalPart {} part) := fun _ => IsPlain.pascalPart
  have hsnake : ∀ part, IsPlain part → IsPlain (snakePart part) := fun _ => IsPlain.snakePart
  have hcamel : ∀ part, IsPlain part → IsPlain (camelPart part) := fun _ => IsPlain.camelPart
  have hparts : dottedParts (camel x) = (dottedParts x).map camelPart :=
    dottedParts_perPart hcamel hx
  refine ⟨?_, ?_, ?_, ?_, ?_⟩
  · exact (perPart_again hpascal hx).2 fun part hpart => pascalPart_again (hx part hpart)
  · exact (perPart_again hsnake hx).2 fun part hpart => snakePart_again (hx part hpart)
  · exact (perPart_again hcamel hx).trans
      (forall₂_congr fun part hpart => camelPart_again (hx part hpart))
  · refine (perPart_again hcamel (hx.perPart hcamel)).2 ?_
    change ∀ part ∈ dottedParts (camel x), _
    rw [hparts, List.forall_mem_map]
    exact fun part hpart => (camelPart_again (hx part hpart).camelPart).2
      (not_veiled_camelPart (hx part hpart))
  · rw [hparts, List.forall₂_map_right_iff, List.forall₂_same]
    exact fun part hpart => capitalized_camelPart (hx part hpart)

theorem conversions_again_veiled :
    PlainName "_order.a1_B__c.__Id" ∧
      snake (snake "_order.a1_B__c.__Id") = snake "_order.a1_B__c.__Id" ∧
      camel "_order.a1_B__c.__Id" = "Order.a1BC.Id" ∧
      camel (camel "_order.a1_B__c.__Id") = "order.a1BC.id" ∧
      camel (camel (camel "_order.a1_B__c.__Id")) = camel (camel "_order.a1_B__c.__Id") := by
  have hx : PlainName "_order.a1_B__c.__Id" := by decide +kernel
  have hagain := conversions_again _ hx
  exact ⟨hx, hagain.2.1, by decide +kernel, by decide +kernel, hagain.2.2.2.1⟩

/-- An underscore at the start puts a capital there, and the second conversion takes it back. -/
theorem camel_behind_underscore :
    PlainName "_order" ∧ camel (camel "_order") ≠ camel "_order" ∧
      ∃ part ∈ dottedParts (camel "_order"), Capitalized part := by
  decide +kernel

end Registry.Naming
