import Registry.Naming
import Registry.Proofs.TextPieces

/-!
# Cases of Pascal names

A name that is put together from words can be written in three cases, and none of them loses where
a word starts: each conversion takes each of the three spellings to its own. So a name can be
written in snake or camel case and read back, and two names keep apart in either.
-/

namespace Registry.Naming

/-- A capital letter with small letters and digits after it. -/
structure Word where
  capital : Char
  rest : List Char
  isUpper : capital.isUpper = true
  isRun : ∀ c ∈ rest, (c.isLower || c.isDigit) = true

/-- The words of a name between two dots; there is at least one. -/
structure Part where
  first : Word
  others : List Word

inductive Case where
  | pascal
  | camel
  | snake

namespace Word

def text (w : Word) : List Char := w.capital :: w.rest

def small (w : Word) : List Char := w.capital.toLower :: w.rest

end Word

def Part.written (p : Part) : Case → List Char
  | .pascal => p.first.text ++ p.others.flatMap Word.text
  | .camel => p.first.small ++ p.others.flatMap Word.text
  | .snake => joined ['_'] (p.first.small :: p.others.map Word.small)

def dotted (form : Case) (parts : List Part) : List Char :=
  joined ['.'] (parts.map fun p => p.written form)

/-- A path in a case: the head of several names is in Pascal case whatever the case of the rest. -/
def pathText (form : Case) : List (List Part) → List Char
  | [] => []
  | [name] => dotted form name
  | head :: rest => joined [':', ':'] (dotted .pascal head :: rest.map (dotted form))

def path (form : Case) (names : List (List Part)) : String := String.ofList (pathText form names)

/-- Whether a text consists of names between double colons, each of parts between dots, each of
words. A single name is one without double colons. -/
def PascalPath (x : String) : Prop :=
  ∃ names : List (List Part), names ≠ [] ∧ (∀ parts ∈ names, parts ≠ []) ∧
    x = path .pascal names

/-- What holds of every ASCII letter and digit, checked for each. -/
lemma of_isAlphanum {P : Char → Prop}
    (hcodes : ∀ n < 128, (Char.ofNat n).isAlphanum = true → P (Char.ofNat n)) {c : Char}
    (h : c.isAlphanum = true) : P c :=
  Text.of_toNat_lt (P := fun c => c.isAlphanum = true → P c) hcodes (Text.toNat_lt_of_isAlphanum h) h

lemma isAlphanum_of_isUpper {c : Char} (h : c.isUpper = true) : c.isAlphanum = true := by
  change (c.isUpper || c.isLower || c.isDigit) = true
  simp [h]

lemma isAlphanum_of_run {c : Char} (h : (c.isLower || c.isDigit) = true) :
    c.isAlphanum = true := by
  change (c.isUpper || c.isLower || c.isDigit) = true
  rcases Bool.or_eq_true_iff.1 h with h | h <;> simp [h]

lemma ne_separator {c : Char} (h : c.isAlphanum = true) : c ≠ '_' ∧ c ≠ '.' ∧ c ≠ ':' :=
  of_isAlphanum (P := fun c => c ≠ '_' ∧ c ≠ '.' ∧ c ≠ ':') (by decide +kernel) h

lemma run_toLower {c : Char} (h : c.isUpper = true) :
    (c.toLower.isLower || c.toLower.isDigit) = true :=
  of_isAlphanum (P := fun c => c.isUpper = true → (c.toLower.isLower || c.toLower.isDigit) = true)
    (by decide +kernel) (isAlphanum_of_isUpper h) h

lemma not_run_of_isUpper {c : Char} (h : c.isUpper = true) : (c.isLower || c.isDigit) = false :=
  of_isAlphanum (P := fun c => c.isUpper = true → (c.isLower || c.isDigit) = false)
    (by decide +kernel) (isAlphanum_of_isUpper h) h

lemma upperChar_of_isUpper {c : Char} (h : c.isUpper = true) :
    Text.upperChar c = [c] ∧ Text.upperChar c.toLower = [c] :=
  of_isAlphanum
    (P := fun c => c.isUpper = true → Text.upperChar c = [c] ∧ Text.upperChar c.toLower = [c])
    (by decide +kernel) (isAlphanum_of_isUpper h) h

lemma isUpper_of_run {c : Char} (h : (c.isLower || c.isDigit) = true) : c.isUpper = false :=
  of_isAlphanum (P := fun c => (c.isLower || c.isDigit) = true → c.isUpper = false)
    (by decide +kernel) (isAlphanum_of_run h) h

lemma toLower_of_run {c : Char} (h : (c.isLower || c.isDigit) = true) : c.toLower = c :=
  of_isAlphanum (P := fun c => (c.isLower || c.isDigit) = true → c.toLower = c)
    (by decide +kernel) (isAlphanum_of_run h) h

lemma map_toLower_of_run {cs : List Char} (h : ∀ c ∈ cs, (c.isLower || c.isDigit) = true) :
    cs.map Char.toLower = cs :=
  (List.map_congr_left fun c hc => toLower_of_run (h c hc)).trans (List.map_id cs)

lemma lower_of_isAlphanum {cs : List Char} (h : ∀ c ∈ cs, c.isAlphanum = true) :
    Text.lower cs = cs.map Char.toLower := by
  have hfrom : ∀ before, Text.lowerFrom before cs = cs.map Char.toLower := by
    induction cs with
    | nil => exact fun _ => rfl
    | cons c cs ih =>
      intro before
      rw [List.forall_mem_cons] at h
      have hlt := Text.toNat_lt_of_isAlphanum h.1
      have hsigma : c.toNat ≠ 0x3a3 := by omega
      rw [Text.lowerFrom, if_neg hsigma, Text.lowerChar, if_pos (by omega), ih h.2]
      rfl
  exact hfrom []

lemma flatMap_eq_self {f : Char → List Char} {cs : List Char} (h : ∀ c ∈ cs, f c = [c]) :
    cs.flatMap f = cs := by
  induction cs with
  | nil => rfl
  | cons c cs ih =>
    rw [List.forall_mem_cons] at h
    rw [List.flatMap_cons, h.1, ih h.2]
    rfl

namespace Word

variable (w : Word)

lemma isAlphanum_text : ∀ c ∈ w.text, c.isAlphanum = true :=
  List.forall_mem_cons.2
    ⟨isAlphanum_of_isUpper w.isUpper, fun c hc => isAlphanum_of_run (w.isRun c hc)⟩

lemma run_small : ∀ c ∈ w.small, (c.isLower || c.isDigit) = true :=
  List.forall_mem_cons.2 ⟨run_toLower w.isUpper, w.isRun⟩

lemma isAlphanum_small : ∀ c ∈ w.small, c.isAlphanum = true :=
  fun c hc => isAlphanum_of_run (w.run_small c hc)

lemma capitalize_text : capitalize w.text = w.text := by
  rw [text, capitalize, (upperChar_of_isUpper w.isUpper).1, map_toLower_of_run w.isRun]
  rfl

lemma capitalize_small : capitalize w.small = w.text := by
  rw [small, capitalize, (upperChar_of_isUpper w.isUpper).2, map_toLower_of_run w.isRun]
  rfl

lemma lower_text : Text.lower w.text = w.small := by
  rw [lower_of_isAlphanum w.isAlphanum_text, text, List.map_cons, map_toLower_of_run w.isRun]
  rfl

lemma lower_small : Text.lower w.small = w.small := by
  rw [lower_of_isAlphanum w.isAlphanum_small, map_toLower_of_run w.run_small]

end Word

lemma flatMap_capitalize_text (ws : List Word) :
    (ws.map Word.text).flatMap capitalize = ws.flatMap Word.text := by
  rw [List.flatMap_map]
  exact congrArg (ws.flatMap ·) (funext Word.capitalize_text)

lemma flatMap_capitalize_small (ws : List Word) :
    (ws.map Word.small).flatMap capitalize = ws.flatMap Word.text := by
  rw [List.flatMap_map]
  exact congrArg (ws.flatMap ·) (funext Word.capitalize_small)

lemma isAlphanum_flatMap_text (ws : List Word) :
    ∀ c ∈ ws.flatMap Word.text, c.isAlphanum = true := by
  intro c hc
  obtain ⟨w, -, hw⟩ := List.mem_flatMap.1 hc
  exact w.isAlphanum_text c hw

lemma joined_cons_cons (separator part next : List Char) (parts : List (List Char)) :
    joined separator (part :: next :: parts) =
      part ++ separator ++ joined separator (next :: parts) := by
  simp [joined]

lemma joined_singleton (separator part : List Char) : joined separator [part] = part := by
  simp [joined]

lemma splitOn_joined {separator : Char} {parts : List (List Char)}
    (hfree : ∀ part ∈ parts, separator ∉ part) (hne : parts ≠ []) :
    (joined [separator] parts).splitOn separator = parts :=
  List.splitOn_intercalate separator hfree hne

lemma splitColons_of_not_mem {part : List Char} (h : ':' ∉ part) : splitColons part = [part] := by
  induction part with
  | nil => rfl
  | cons c part ih =>
    rw [List.mem_cons, not_or] at h
    rw [splitColons, ih h.2]
    exact fun _ hc _ => h.1 hc.symm

lemma splitColons_append {part : List Char} (h : ':' ∉ part) (rest : List Char) :
    splitColons (part ++ ':' :: ':' :: rest) = part :: splitColons rest := by
  induction part with
  | nil => rfl
  | cons c part ih =>
    rw [List.mem_cons, not_or] at h
    rw [List.cons_append, splitColons, ih h.2]
    exact fun _ hc _ => h.1 hc.symm

lemma splitColons_joined {parts : List (List Char)} (hfree : ∀ part ∈ parts, ':' ∉ part)
    (hne : parts ≠ []) : splitColons (joined [':', ':'] parts) = parts := by
  induction parts with
  | nil => exact absurd rfl hne
  | cons part parts ih =>
    rw [List.forall_mem_cons] at hfree
    cases parts with
    | nil => rw [joined_singleton, splitColons_of_not_mem hfree.1]
    | cons next parts =>
      rw [joined_cons_cons, List.append_assoc, List.cons_append, List.cons_append, List.nil_append,
        splitColons_append hfree.1, ih hfree.2 (by simp)]

/-- A run of small letters and digits ends where the next word starts. -/
lemma runAndWords_append (mixed : Bool) {run : List Char}
    (hrun : ∀ c ∈ run, (c.isLower || c.isDigit) = true) (ws : List Word) :
    runAndWords mixed (run ++ ws.flatMap Word.text) = (run, ws.map Word.text) := by
  -- the words first: each one's rest is a run in front of the words behind it
  induction ws generalizing run with
  | nil =>
    induction run with
    | nil => rfl
    | cons c run ih =>
      rw [List.forall_mem_cons] at hrun
      rw [List.cons_append, runAndWords, ih hrun.2]
      simp [hrun.1]
  | cons w ws ihWords =>
    induction run with
    | nil =>
      rw [List.nil_append, List.flatMap_cons, Word.text, List.cons_append, runAndWords,
        ihWords w.isRun]
      simp [not_run_of_isUpper w.isUpper, w.isUpper, Word.text]
    | cons c run ih =>
      rw [List.forall_mem_cons] at hrun
      rw [List.cons_append, runAndWords, ih hrun.2]
      simp [hrun.1]

lemma cutBeforeCapitals_cons {d : Char} {cs part : List Char} {parts : List (List Char)}
    (h : cutBeforeCapitals (d :: cs) = part :: parts) (c : Char) :
    cutBeforeCapitals (c :: d :: cs) =
      if d.isUpper then [c] :: part :: parts else (c :: part) :: parts :=
  cutBeforeCapitals.eq_2 _ _ _ _ _ h

lemma cutBeforeCapitals_append {run : List Char}
    (hrun : ∀ c ∈ run, (c.isLower || c.isDigit) = true) (c : Char) (ws : List Word) :
    cutBeforeCapitals (c :: (run ++ ws.flatMap Word.text)) = (c :: run) :: ws.map Word.text := by
  induction ws generalizing run c with
  | nil =>
    induction run generalizing c with
    | nil => rfl
    | cons d run ih =>
      rw [List.forall_mem_cons] at hrun
      rw [List.cons_append, cutBeforeCapitals_cons (ih hrun.2 d)]
      simp [isUpper_of_run hrun.1]
  | cons w ws ihWords =>
    induction run generalizing c with
    | nil =>
      rw [List.nil_append, List.flatMap_cons, Word.text, List.cons_append,
        cutBeforeCapitals_cons (ihWords w.isRun w.capital)]
      simp [w.isUpper, Word.text]
    | cons d run ih =>
      rw [List.forall_mem_cons] at hrun
      rw [List.cons_append, cutBeforeCapitals_cons (ih hrun.2 d)]
      simp [isUpper_of_run hrun.1]

lemma not_contains_underscore {cs : List Char} (h : ∀ c ∈ cs, c.isAlphanum = true) :
    ¬cs.contains '_' = true := by
  rw [List.contains_iff_mem]
  exact fun hm => (ne_separator (h '_' hm)).1 rfl

namespace Part

variable (p : Part)

lemma written_pascal : p.written .pascal = p.first.text ++ p.others.flatMap Word.text := rfl

lemma written_camel : p.written .camel = p.first.small ++ p.others.flatMap Word.text := rfl

lemma isAlphanum_pascal : ∀ c ∈ p.written .pascal, c.isAlphanum = true :=
  List.forall_mem_append.2 ⟨p.first.isAlphanum_text, isAlphanum_flatMap_text p.others⟩

lemma isAlphanum_camel : ∀ c ∈ p.written .camel, c.isAlphanum = true :=
  List.forall_mem_append.2 ⟨p.first.isAlphanum_small, isAlphanum_flatMap_text p.others⟩

lemma mem_snake {c : Char} (h : c ∈ p.written .snake) :
    c = '_' ∨ (c.isLower || c.isDigit) = true := by
  rcases Text.mem_intercalate h with h | ⟨part, hp, h⟩
  · exact .inl (by simpa using h)
  · rw [← List.map_cons, List.mem_map] at hp
    obtain ⟨w, -, rfl⟩ := hp
    exact .inr (w.run_small c h)

lemma not_mem_written (form : Case) : '.' ∉ p.written form ∧ ':' ∉ p.written form := by
  cases form with
  | pascal =>
    exact ⟨fun h => (ne_separator (p.isAlphanum_pascal _ h)).2.1 rfl,
      fun h => (ne_separator (p.isAlphanum_pascal _ h)).2.2 rfl⟩
  | camel =>
    exact ⟨fun h => (ne_separator (p.isAlphanum_camel _ h)).2.1 rfl,
      fun h => (ne_separator (p.isAlphanum_camel _ h)).2.2 rfl⟩
  | snake =>
    refine ⟨fun h => ?_, fun h => ?_⟩ <;> rcases p.mem_snake h with h | h <;>
      exact absurd h (by decide)

/-- A part in snake case is one run, or its words are what stands between the underscores. -/
lemma snake_cases :
    (p.others = [] ∧ p.written .snake = p.first.small) ∨
      ((p.written .snake).contains '_' = true ∧
        (p.written .snake).splitOn '_' = p.first.small :: p.others.map Word.small) := by
  cases hothers : p.others with
  | nil => exact .inl ⟨rfl, by simp [written, hothers, joined_singleton]⟩
  | cons w ws =>
    refine .inr ⟨?_, ?_⟩
    · rw [written, hothers, List.map_cons, joined_cons_cons]
      simp
    · rw [written, hothers]
      refine splitOn_joined ?_ (by simp)
      rw [← List.map_cons]
      simp only [List.forall_mem_map]
      exact fun v _ h => (ne_separator (v.isAlphanum_small _ h)).1 rfl

lemma isUpper_head_small (w : Word) (rest : List Char) :
    (w.small ++ rest).head?.any Char.isUpper = false := by
  simp [Word.small, isUpper_of_run (run_toLower w.isUpper)]

lemma words_small (w : Word) (ws : List Word) :
    words (w.small ++ ws.flatMap Word.text) = w.small :: ws.map Word.text := by
  have hplain : ∀ c ∈ w.small ++ ws.flatMap Word.text, c.isAlphanum = true :=
    (Part.mk w ws).isAlphanum_camel
  rw [words, if_neg (not_contains_underscore hplain), caseWords,
    isUpper_head_small, runAndWords_append _ w.run_small]
  simp [Word.small]

lemma pascalPart_eq (part : List Char) : pascalPart {} part = (words part).flatMap capitalize := by
  refine congrArg ((words part).flatMap ·) (funext fun word => ?_)
  simp [caseWord]

lemma pascalPart_written (form : Case) :
    pascalPart {} (p.written form) = p.written .pascal := by
  rw [pascalPart_eq]
  cases form with
  | pascal =>
    have hwords : words (p.written .pascal) = (p.first :: p.others).map Word.text := by
      rw [words, if_neg (not_contains_underscore p.isAlphanum_pascal),
        caseWords, written, ← List.flatMap_cons,
        ← List.nil_append ((p.first :: p.others).flatMap Word.text),
        runAndWords_append _ (by simp)]
      simp
    rw [hwords, flatMap_capitalize_text]
    rfl
  | camel =>
    rw [written_camel, words_small, List.flatMap_cons, flatMap_capitalize_text,
      Word.capitalize_small]
    rfl
  | snake =>
    rcases p.snake_cases with ⟨hothers, htext⟩ | ⟨hunderscore, hsplit⟩
    · have hwords := words_small p.first []
      rw [List.flatMap_nil, List.append_nil] at hwords
      rw [htext, hwords, written_pascal, hothers]
      simp [Word.capitalize_small]
    · rw [words, if_pos hunderscore, hsplit, List.flatMap_cons, flatMap_capitalize_small,
        Word.capitalize_small]
      rfl

/-- Without underscores, a text that starts with no capital letter is in camel case. -/
lemma camelPart_small (w : Word) (ws : List Word) :
    camelPart (w.small ++ ws.flatMap Word.text) = w.small ++ ws.flatMap Word.text := by
  have hplain : ∀ c ∈ w.small ++ ws.flatMap Word.text, c.isAlphanum = true :=
    (Part.mk w ws).isAlphanum_camel
  rw [camelPart, if_neg (not_contains_underscore hplain),
    isUpper_head_small, if_neg (by simp)]

lemma camelPart_written (form : Case) : camelPart (p.written form) = p.written .camel := by
  cases form with
  | pascal =>
    have hcut : cutBeforeCapitals (p.written .pascal) = p.first.text :: p.others.map Word.text :=
      cutBeforeCapitals_append p.first.isRun _ _
    have hhead : (p.written .pascal).head?.any Char.isUpper = true := by
      simp [written, Word.text, p.first.isUpper]
    rw [camelPart, if_neg (not_contains_underscore p.isAlphanum_pascal),
      if_pos hhead, hcut]
    simp only [Word.lower_text, flatMap_capitalize_text]
    rfl
  | camel => exact camelPart_small _ _
  | snake =>
    rcases p.snake_cases with ⟨hothers, htext⟩ | ⟨hunderscore, hsplit⟩
    · have hstays := camelPart_small p.first []
      rw [List.flatMap_nil, List.append_nil] at hstays
      rw [htext, hstays, written, hothers]
      simp
    · rw [camelPart, if_pos hunderscore, hsplit]
      simp only [Word.lower_small, flatMap_capitalize_small]
      rfl

/-- The underscore that snake case puts before a capital letter. -/
def underscored (d : Char) : List Char := if d.isUpper then ['_', d.toLower] else [d.toLower]

lemma underscored_of_run {c : Char} (h : (c.isLower || c.isDigit) = true) :
    underscored c = [c] := by
  rw [underscored, isUpper_of_run h, toLower_of_run h]
  rfl

lemma flatMap_underscored_of_run {cs : List Char}
    (h : ∀ c ∈ cs, (c.isLower || c.isDigit) = true) : cs.flatMap underscored = cs :=
  flatMap_eq_self fun _ hc => underscored_of_run (h _ hc)

lemma underscored_text (w : Word) : w.text.flatMap underscored = '_' :: w.small := by
  rw [Word.text, List.flatMap_cons, flatMap_underscored_of_run w.isRun, underscored,
    if_pos w.isUpper]
  rfl

lemma joined_underscores (cs : List Char) (ws : List Word) :
    joined ['_'] (cs :: ws.map Word.small) = cs ++ (ws.flatMap Word.text).flatMap underscored := by
  induction ws generalizing cs with
  | nil => simp [joined_singleton]
  | cons w ws ih =>
    rw [List.map_cons, joined_cons_cons, ih, List.flatMap_cons, List.flatMap_append,
      underscored_text]
    simp

lemma snakePart_cons (c : Char) (cs : List Char) :
    snakePart (c :: cs) = c.toLower :: cs.flatMap underscored := rfl

lemma snakePart_written (form : Case) : snakePart (p.written form) = p.written .snake := by
  have htail : (p.first.rest ++ p.others.flatMap Word.text).flatMap underscored =
      p.first.rest ++ (p.others.flatMap Word.text).flatMap underscored := by
    rw [List.flatMap_append, flatMap_underscored_of_run p.first.isRun]
  have hlower : p.first.capital.toLower.toLower = p.first.capital.toLower :=
    toLower_of_run (run_toLower p.first.isUpper)
  cases form with
  | pascal =>
    rw [written, Word.text, List.cons_append, snakePart_cons, htail, written, joined_underscores]
    rfl
  | camel =>
    rw [written, Word.small, List.cons_append, snakePart_cons, htail, hlower, written,
      joined_underscores]
    rfl
  | snake =>
    have hstays : ∀ c ∈ p.written .snake, underscored c = [c] := by
      intro c hc
      rcases p.mem_snake hc with rfl | h
      · decide
      · exact underscored_of_run h
    rw [written, Word.small, joined_underscores, List.cons_append, snakePart_cons, hlower]
    refine congrArg (p.first.capital.toLower :: ·) (flatMap_eq_self fun c hc => hstays c ?_)
    rw [written, joined_underscores]
    exact List.mem_cons_of_mem _ hc

end Part

/-- What a conversion does to each part of a dotted name, it does to the name. -/
lemma perDotted_dotted (p : List Part) (hne : p ≠ []) {convert : List Char → List Char}
    {form target : Case} (hpart : ∀ q : Part, convert (q.written form) = q.written target) :
    perDotted convert (dotted form p) = dotted target p := by
  rw [perDotted, dotted, splitOn_joined (by simpa using fun q _ => (q.not_mem_written form).1)
    (by simpa using hne), List.map_map]
  exact congrArg (joined ['.']) (List.map_congr_left fun q _ => hpart q)

lemma not_mem_dotted (form : Case) (parts : List Part) : ':' ∉ dotted form parts := by
  intro h
  rcases Text.mem_intercalate h with h | ⟨part, hp, h⟩
  · exact absurd h (by decide)
  · obtain ⟨q, -, rfl⟩ := List.mem_map.1 hp
    exact (q.not_mem_written form).2 h

lemma pathText_cons_cons (form : Case) (head next : List Part) (rest : List (List Part)) :
    pathText form (head :: next :: rest) =
      joined [':', ':'] (dotted .pascal head :: (next :: rest).map (dotted form)) := rfl

lemma perPart_path {names : List (List Part)} (hnames : names ≠ [])
    (hne : ∀ parts ∈ names, parts ≠ []) {convert : List Char → List Char} {form target : Case}
    (hpart : ∀ q : Part, convert (q.written form) = q.written target) :
    perPart convert (path form names) = path target names := by
  rw [perPart, path, path, String.toList_ofList]
  refine congrArg String.ofList ?_
  match names with
  | [] => exact absurd rfl hnames
  | [name] =>
    rw [pathText, splitColons_of_not_mem (not_mem_dotted form name)]
    exact perDotted_dotted name (hne name (by simp)) hpart
  | head :: next :: rest =>
    have hfree : ∀ part ∈ dotted .pascal head :: (next :: rest).map (dotted form), ':' ∉ part := by
      rw [List.forall_mem_cons, List.forall_mem_map]
      exact ⟨not_mem_dotted .pascal head, fun name _ => not_mem_dotted form name⟩
    have hrest : ((next :: rest).map (dotted form)).map (perDotted convert) =
        (next :: rest).map (dotted target) := by
      rw [List.map_map]
      exact List.map_congr_left fun name hm =>
        perDotted_dotted name (hne name (List.mem_cons_of_mem _ hm)) hpart
    rw [pathText_cons_cons, splitColons_joined hfree (by simp)]
    exact congrArg (fun parts => joined [':', ':'] (dotted .pascal head :: parts)) hrest

variable {names : List (List Part)} (hnames : names ≠ []) (hne : ∀ parts ∈ names, parts ≠ [])
include hnames hne

lemma pascal_path (form : Case) : pascal {} (path form names) = path .pascal names :=
  perPart_path hnames hne fun q => q.pascalPart_written form

lemma camel_path (form : Case) : camel (path form names) = path .camel names :=
  perPart_path hnames hne fun q => q.camelPart_written form

lemma snake_path (form : Case) : snake (path form names) = path .snake names :=
  perPart_path hnames hne fun q => q.snakePart_written form

omit hnames hne

/-- The conversions are inverse to each other on Pascal names and on paths of them, so neither snake
nor camel case takes two of them to one. -/
theorem case_conversions (x : String) (hx : PascalPath x) :
    pascal {} x = x ∧ pascal {} (snake x) = x ∧ pascal {} (camel x) = x ∧
      camel (snake x) = camel x ∧ snake (camel x) = snake x ∧
      ∀ y, PascalPath y → x ≠ y → snake x ≠ snake y ∧ camel x ≠ camel y := by
  have hback : ∀ z, PascalPath z → pascal {} z = z ∧ pascal {} (snake z) = z ∧
      pascal {} (camel z) = z ∧ camel (snake z) = camel z ∧ snake (camel z) = snake z := by
    rintro z ⟨names, hnames, hne, rfl⟩
    simp only [pascal_path hnames hne, camel_path hnames hne, snake_path hnames hne, and_self]
  obtain ⟨hpascal, hsnake, hcamel, hcamelSnake, hsnakeCamel⟩ := hback x hx
  refine ⟨hpascal, hsnake, hcamel, hcamelSnake, hsnakeCamel, fun y hy hxy => ⟨?_, ?_⟩⟩
  · intro h
    exact hxy (hsnake.symm.trans ((congrArg (pascal {}) h).trans (hback y hy).2.1))
  · intro h
    exact hxy (hcamel.symm.trans ((congrArg (pascal {}) h).trans (hback y hy).2.2.1))

theorem case_conversions_of_runs :
    PascalPath "Contoso::V2.OrderABC1" ∧
      snake "Contoso::V2.OrderABC1" = "Contoso::v2.order_a_b_c1" ∧
      camel "Contoso::V2.OrderABC1" = "Contoso::v2.orderABC1" ∧
      pascal {} (snake "Contoso::V2.OrderABC1") = "Contoso::V2.OrderABC1" := by
  have hpath : PascalPath "Contoso::V2.OrderABC1" :=
    ⟨[[⟨⟨'C', "ontoso".toList, rfl, List.all_eq_true.1 rfl⟩, []⟩],
      [⟨⟨'V', ['2'], rfl, List.all_eq_true.1 rfl⟩, []⟩,
        ⟨⟨'O', "rder".toList, rfl, List.all_eq_true.1 rfl⟩,
          [⟨'A', [], rfl, List.all_eq_true.1 rfl⟩, ⟨'B', [], rfl, List.all_eq_true.1 rfl⟩,
            ⟨'C', ['1'], rfl, List.all_eq_true.1 rfl⟩]⟩]],
      by simp, by simp, by decide⟩
  exact ⟨hpath, by decide, by decide, (case_conversions _ hpath).2.1⟩

end Registry.Naming
