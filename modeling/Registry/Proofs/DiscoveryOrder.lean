import Registry.Discovery
import Registry.Proofs.Merging
import Registry.Proofs.ShownLists

/-!
# References in the order of a document

Discovery finds exactly the texts of a document that refer to a group collection and stand where a
reference may stand, at any depth, each one once. A place in a document is given by the positions of
the entries and items that lead there, so that a depth first walk comes to places in the
lexicographic order; the references are in the order of the first places at which they stand.
-/

namespace Registry.Discovery

/-- A text refers to a group collection of another document: it is no fragment, and the name of a
collection stands between slashes in it. -/
def RefersToGroup (m : Model) (s : String) : Prop :=
  ¬"#".toList <+: s.toList ∧ ∃ g ∈ m.groups, ("/" ++ g.plural ++ "/").toList <:+: s.toList

variable {m : Model} {v w : Value} {named : Bool} {s : String} {i : Nat}

lemma isCandidate_iff : isCandidate m s = true ↔ RefersToGroup m s := by
  rw [isCandidate, RefersToGroup, Bool.and_eq_true, Bool.not_eq_true', ← Bool.not_eq_true,
    Text.startsWith, List.isPrefixOf_iff_prefix, List.any_eq_true]
  simp only [Text.contains, Text.occursIn_iff]

/-- The values that a value contains, each with whether a text there may be a reference: a text in a
mapping may be one under the key of a reference, a text in a sequence may always be one. -/
def contents : Value → List (Bool × Value)
  | .mapping fields => fields.map fun e => (isReferenceKey e.1, e.2)
  | .sequence items => items.map fun v => (true, v)
  | _ => []

/-- A text in a value, with the positions of the entries and items that lead there. -/
structure Site where
  place : List Nat
  text : String

/-- A site, seen from the value that contains the one it is in. -/
def Site.behind (i : Nat) (o : Site) : Site := { o with place := i :: o.place }

/-- A walk comes to one site before it comes to the other one. -/
def Site.Before (o o' : Site) : Prop := o.place < o'.place

lemma Site.Before.behind {o o' : Site} (h : o.Before o') (i : Nat) :
    (o.behind i).Before (o'.behind i) :=
  List.cons_lt_cons_iff.2 (.inr ⟨rfl, h⟩)

/-- A text stands in a value where a reference may stand, at any depth. -/
inductive StandsIn : Value → Site → Prop where
  | here {v : Value} {i : Nat} {s : String} (hget : (contents v)[i]? = some (true, .string s)) :
      StandsIn v ⟨[i], s⟩
  | inside {v w : Value} {i : Nat} {named : Bool} {o : Site}
      (hget : (contents v)[i]? = some (named, w)) (h : StandsIn w o) : StandsIn v (o.behind i)

/-- A site in a value is at one of its contents, or inside it. -/
def StandsAt (i : Nat) (named : Bool) (w : Value) (o : Site) : Prop :=
  (named = true ∧ ∃ s, w = .string s ∧ o = ⟨[i], s⟩) ∨ ∃ inner, StandsIn w inner ∧ inner.behind i = o

lemma standsIn_iff {o : Site} :
    StandsIn v o ↔ ∃ i named w, (contents v)[i]? = some (named, w) ∧ StandsAt i named w o := by
  constructor
  · rintro (⟨hget⟩ | ⟨hget, h⟩)
    · exact ⟨_, _, _, hget, .inl ⟨rfl, _, rfl, rfl⟩⟩
    · exact ⟨_, _, _, hget, .inr ⟨_, h, rfl⟩⟩
  · rintro ⟨i, named, w, hget, ⟨rfl, s, rfl, rfl⟩ | ⟨inner, h, rfl⟩⟩
    · exact .here hget
    · exact .inside hget h

lemma not_standsIn_string (o : Site) : ¬StandsIn (.string s) o := by
  rw [standsIn_iff]
  rintro ⟨i, named, w, hget, -⟩
  simp [contents] at hget

lemma StandsAt.place {o : Site} (h : StandsAt i named w o) : ∃ rest, o.place = i :: rest := by
  rcases h with ⟨-, s, -, rfl⟩ | ⟨inner, -, rfl⟩
  · exact ⟨[], rfl⟩
  · exact ⟨inner.place, rfl⟩

/-- What stands at an earlier one of the contents comes first. -/
lemma StandsAt.before {j : Nat} {named' : Bool} {w' : Value} {o o' : Site} (h : StandsAt i named w o)
    (h' : StandsAt j named' w' o') (hij : i < j) : o.Before o' := by
  obtain ⟨rest, hplace⟩ := h.place
  obtain ⟨rest', hplace'⟩ := h'.place
  rw [Site.Before, hplace, hplace']
  exact List.cons_lt_cons_iff.2 (.inl hij)

/-- Induction on values: a value comes after its contents. -/
theorem induction_on_parts {P : Value → Prop}
    (h : ∀ v, (∀ part ∈ contents v, P part.2) → P v) (v : Value) : P v := by
  induction v using Value.induction_on_contents with
  | ofMapping fields ih =>
    refine h _ fun part hpart => ?_
    obtain ⟨e, he, rfl⟩ := List.mem_map.1 hpart
    exact ih e he
  | ofSequence items ih =>
    refine h _ fun part hpart => ?_
    obtain ⟨w, hw, rfl⟩ := List.mem_map.1 hpart
    exact ih w hw
  | ofScalar v hmapping hsequence =>
    refine h v fun part hpart => ?_
    cases v with
    | mapping fields => simp [Value.isMapping, Value.fields?] at hmapping
    | sequence items => exact absurd rfl (hsequence items)
    | _ => cases hpart

/-- The references at one of the contents of a value and inside it. -/
def occurrencesAt (m : Model) (named : Bool) : Value → List String
  | .string s => if named && isCandidate m s then [s] else []
  | w => occurrences m w

lemma occurrencesInFields_eq (fields : Fields) : occurrencesInFields m fields =
    fields.flatMap fun e => occurrencesAt m (isReferenceKey e.1) e.2 := by
  induction fields with
  | nil => rw [occurrencesInFields, List.flatMap_nil]
  | cons e fields ih =>
    obtain ⟨key, v⟩ := e
    rw [List.flatMap_cons, ← ih]
    cases v <;> simp only [occurrencesInFields, occurrencesAt]

lemma occurrencesInItems_eq (items : List Value) :
    occurrencesInItems m items = items.flatMap (occurrencesAt m true) := by
  induction items with
  | nil => rw [occurrencesInItems, List.flatMap_nil]
  | cons v items ih =>
    rw [List.flatMap_cons, ← ih]
    cases v <;> simp only [occurrencesInItems, occurrencesAt, Bool.true_and]

lemma occurrences_eq (v : Value) :
    occurrences m v = (contents v).flatMap fun part => occurrencesAt m part.1 part.2 := by
  cases v with
  | mapping fields => rw [occurrences, occurrencesInFields_eq, contents, List.flatMap_map]
  | sequence items => rw [occurrences, occurrencesInItems_eq, contents, List.flatMap_map]
  | _ => rfl

/-- A walk over a value shows the references in it, one for each site, in the order of the sites. -/
def ShowsReferences (m : Model) (P : Site → Prop) (texts : List String) : Prop :=
  Shows Site.text Site.Before (fun o => P o ∧ RefersToGroup m o.text) texts

lemma showsReferences_string (i : Nat) (named : Bool) (s : String) :
    ShowsReferences m (StandsAt i named (.string s)) (occurrencesAt m named (.string s)) := by
  have hat : ∀ o, StandsAt i named (.string s) o ↔ named = true ∧ o = ⟨[i], s⟩ := by
    intro o
    simp [StandsAt, not_standsIn_string]
  rw [occurrencesAt]
  split
  · next h =>
    rw [Bool.and_eq_true] at h
    refine shows_singleton (g := (⟨[i], s⟩ : Site)) fun o => ?_
    rw [hat]
    constructor
    · exact fun ho => ho.1.2
    · rintro rfl
      exact ⟨⟨h.1, rfl⟩, isCandidate_iff.1 h.2⟩
  · next h =>
    apply shows_nil
    rintro o ⟨ho, hrefers⟩
    obtain ⟨hnamed, rfl⟩ := (hat o).1 ho
    exact h (by rw [hnamed, isCandidate_iff.2 hrefers]; rfl)

lemma showsReferences_behind {texts : List String} (h : ShowsReferences m (StandsIn w) texts) (i : Nat) :
    Shows Site.text Site.Before
      (fun o => ∃ inner, (StandsIn w inner ∧ RefersToGroup m inner.text) ∧ inner.behind i = o) texts :=
  h.rename (fun _ => rfl) fun _ _ hbefore => hbefore.behind i

lemma showsReferences_at (h : ShowsReferences m (StandsIn w) (occurrences m w)) (i : Nat)
    (named : Bool) : ShowsReferences m (StandsAt i named w) (occurrencesAt m named w) := by
  by_cases hw : ∃ s, w = .string s
  · obtain ⟨s, rfl⟩ := hw
    exact showsReferences_string i named s
  · have hinside : occurrencesAt m named w = occurrences m w := by
      unfold occurrencesAt
      split
      · next s => exact absurd ⟨s, rfl⟩ hw
      · rfl
    rw [hinside]
    refine (showsReferences_behind h i).congr fun o => ?_
    constructor
    · rintro ⟨inner, ⟨hin, hrefers⟩, rfl⟩
      exact ⟨.inr ⟨inner, hin, rfl⟩, hrefers⟩
    · rintro ⟨⟨-, s, rfl, -⟩ | ⟨inner, hin, rfl⟩, hrefers⟩
      · exact absurd ⟨s, rfl⟩ hw
      · exact ⟨inner, ⟨hin, hrefers⟩, rfl⟩

/-- The references that a walk over a value finds. -/
theorem shows_occurrences (m : Model) (v : Value) :
    ShowsReferences m (StandsIn v) (occurrences m v) := by
  induction v using induction_on_parts with
  | h v ih =>
    have hparts : occurrences m v =
        (contents v).zipIdx.flatMap fun e => occurrencesAt m e.1.1 e.1.2 := by
      rw [occurrences_eq]
      nth_rewrite 1 [← List.zipIdx_map_fst 0 (contents v)]
      rw [List.flatMap_map]
    rw [hparts]
    refine (shows_zipIdx (P := fun i part o =>
      StandsAt i part.1 part.2 o ∧ RefersToGroup m o.text) ?_ ?_).congr ?_
    · intro i part hget
      exact showsReferences_at (ih part (List.mem_of_getElem? hget)) i part.1
    · rintro i j part part' o o' hlt ⟨ho, -⟩ ⟨ho', -⟩
      exact ho.before ho' hlt
    · intro o
      rw [standsIn_iff]
      constructor
      · rintro ⟨i, ⟨named, w⟩, hget, ho, hrefers⟩
        exact ⟨⟨i, named, w, hget, ho⟩, hrefers⟩
      · rintro ⟨⟨i, named, w, hget, ho⟩, hrefers⟩
        exact ⟨i, (named, w), hget, ho, hrefers⟩

/-- A text is a reference of a document just if it refers to a group collection and stands somewhere
where a reference may stand. -/
lemma mem_references_iff {document : Value} :
    s ∈ references m document ↔ RefersToGroup m s ∧ ∃ place, StandsIn document ⟨place, s⟩ := by
  rw [references, List.mem_eraseDups, (shows_occurrences m document).mem_iff]
  constructor
  · rintro ⟨o, ⟨ho, hrefers⟩, rfl⟩
    exact ⟨hrefers, o.place, ho⟩
  · rintro ⟨hrefers, place, ho⟩
    exact ⟨⟨place, s⟩, ⟨ho, hrefers⟩, rfl⟩

/-- A text stands in a document at a place before all places of another text. -/
def FirstBefore (document : Value) (s t : String) : Prop :=
  ∃ place, StandsIn document ⟨place, s⟩ ∧ ∀ place', StandsIn document ⟨place', t⟩ → place < place'

/-- The references of a document are listed in the order in which they first stand in it. -/
lemma pairwise_references (m : Model) (document : Value) :
    (references m document).Pairwise (FirstBefore document) := by
  refine (shows_occurrences m document).pairwise_eraseDups.imp_of_mem ?_
  rintro s t - ht ⟨o, ⟨ho, -⟩, rfl, hbefore⟩
  obtain ⟨hrefers, -⟩ := mem_references_iff.1 ht
  exact ⟨o.place, ho, fun place' hplace' => hbefore ⟨place', t⟩ ⟨hplace', hrefers⟩ rfl⟩

/-- **The references of a document.** They are exactly the texts that stand in the document, at any
depth, under the key of a reference or in a sequence, that are no fragments and have the name of a
group collection between slashes. Each is listed once, and they are in the order of their first
places in a depth first walk along the document. -/
theorem references_exactly (m : Model) (document : Value) :
    (∀ s, s ∈ references m document ↔
      RefersToGroup m s ∧ ∃ place, StandsIn document ⟨place, s⟩) ∧
    (references m document).Nodup ∧
    (references m document).Pairwise (FirstBefore document) := by
  refine ⟨fun s => mem_references_iff, ?_, pairwise_references m document⟩
  refine (pairwise_references m document).imp ?_
  rintro s t ⟨place, hplace, hbefore⟩ rfl
  exact List.lt_irrefl place (hbefore place hplace)

/-- The fragment and the text under another key are passed over, and a repetition is left out. -/
example : references Model.standard (.mapping [("note", .string "a/schemagroups/b"),
    ("endpoints", .sequence [.mapping [("messageUri", .string "c/messagegroups/d"),
      ("ref", .string "#/schemagroups/b")], .string "a/schemagroups/b"]),
    ("url", .string "c/messagegroups/d")]) = ["c/messagegroups/d", "a/schemagroups/b"] := by
  decide +kernel

end Registry.Discovery
