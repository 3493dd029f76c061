import Registry.Proofs.PayloadRest

/-!
# Entries that lead nowhere

An entry whose references are all skipped or cannot be read is composed of itself alone. The reads that
are tried make no difference to what follows, so it is loaded with its dependencies as it is loaded
without them.
-/

namespace Registry

variable {m : Model} {s : Source} {policy : ParsePolicy} {headers : Headers} {root : Fields}

namespace Composition

variable {next : String → Option (List String)} {stack reached : List String} {a : Address}
  {d : Dependencies} {f : Fetcher} {location : String}

/-- Every reference of a document leads to the document itself, to a resource that it has, to nothing
that can be read, or nowhere at all. -/
def LeadsNowhere (m : Model) (load : String → CachedRead) (location : String) (root : Fields) :
    Prop :=
  ∀ reference ∈ Discovery.references m (.mapping root),
    ∀ v ∈ (Address.inModel m location).locate? reference,
      v = Location.stripFragment location ∨ isPresent m root v = true ∨ (load v).document = none

instance (m : Model) (load : String → CachedRead) (location : String) (root : Fields) :
    Decidable (LeadsNowhere m load location root) :=
  inferInstanceAs (Decidable (∀ reference ∈ _, ∀ v ∈ _, _))

/-- A document is the registry itself: it has some group collection, or its location is a registry's
root. -/
def IsRegistry (m : Model) (location : String) (root : Fields) : Prop :=
  (∃ key ∈ root.keys, m.isGroupCollection key = true) ∨
    (Address.inModel m location).level = .registry

instance (m : Model) (location : String) (root : Fields) : Decidable (IsRegistry m location root) :=
  inferInstanceAs (Decidable (_ ∨ _))

lemma groupType?_of_level (h : a.level = .registry) : a.groupType? = none := by
  rw [Address.groupType?, List.getElem?_eq_none_iff]
  rw [Address.level] at h
  match hn : a.inner.length with
  | 0 => exact Nat.le_refl 0
  | 1 | 2 | 3 | 4 | 5 | 6 | _ + 7 => rw [hn] at h; cases h

/-- A registry stays as it is when it is put where its location places it. -/
lemma seed_of_isRegistry (h : IsRegistry m location root) :
    seed m (Address.inModel m location) (.mapping root) = root := by
  unfold seed
  split
  · rfl
  · next hother =>
    rcases h with ⟨key, hkey, hgroup⟩ | hlevel
    · exact absurd (List.any_eq_true.2 ⟨key, hkey, hgroup⟩) hother
    · rw [groupType?_of_level hlevel]
      rfl

lemma Tour.of_forall_none (h : ∀ v ∈ stack, next v = none) : Tour next stack reached reached := by
  induction stack with
  | nil => exact .done
  | cons v stack ih =>
    obtain ⟨hv, hstack⟩ := List.forall_mem_cons.1 h
    exact .skip (.inr hv) (ih hstack)

/-- A registry that leads nowhere is composed of itself alone. -/
theorem Learnt.compose_of_leadsNowhere (hs : s.Stable) (hl : Learnt s policy d f)
    (headers : Headers) (hregistry : IsRegistry m location root)
    (h : LeadsNowhere m (s.load policy) location root) :
    (Composition.compose m headers location (.mapping root) d f).1 = root := by
  have hseed := seed_of_isRegistry hregistry
  have hroots : ∀ v ∈ roots m location root, (s.load policy v).document = none := by
    intro v hv
    obtain ⟨reference, hreference, hlocate, hself, habsent⟩ := mem_roots.1 hv
    rcases h reference hreference v hlocate with hsame | hpresent | hnone
    · exact absurd hsame hself
    · rw [habsent] at hpresent
      cases hpresent
    · exact hnone
  have htour : Tour (successors m (s.load policy) d.resolved.keys)
      (roots m location (seed m (Address.inModel m location) (.mapping root))) [] [] := by
    rw [hseed]
    exact .of_forall_none fun v hv => successors_eq_none.2 (hroots v hv)
  rw [(hl.compose_along_tour hs headers htour (Nat.zero_le _)).2, hseed]
  rfl

end Composition

namespace Loader

open Registry.Composition (Reading IsRegistry LeadsNowhere)

/-- Over a stable source what follows the composition does not depend on what was read before. -/
lemma settle_of_reading (hs : s.Stable) {f g : Fetcher} (hf : Reading s policy f)
    (hg : Reading s policy g) (m : Model) (headers headers' : Headers) (root : Fields) :
    (settle m headers root f).1 = (settle m headers' root g).1 := by
  have hpopulated := (Payload.computes_populateAll hs m headers root f hf).1
  rw [← (Payload.computes_populateAll hs m headers' root g hg).1] at hpopulated
  unfold settle
  dsimp only
  rw [hpopulated]
  split <;> rfl

/-- Whether a load composes makes no difference where it makes none for the document that it reads. -/
lemma loadOne_congr {l : Loader} {location : String} {options : LoadOptions}
    {composing composing' : Bool}
    (h : ∀ found document, (l.fetcher.fetch location headers .once).1 = (found, some document) →
      let l := { l with fetcher := (l.fetcher.fetch location headers .once).2 }
      (l.process found document headers options composing).1 =
        (l.process found document headers options composing').1) :
    (l.loadOne location headers options composing).1 =
      (l.loadOne location headers options composing').1 := by
  unfold loadOne
  generalize l.fetcher.fetch location headers .once = fetched at h ⊢
  obtain ⟨⟨found, document⟩, f⟩ := fetched
  cases document with
  | none => rfl
  | some document =>
    dsimp only
    split
    · rfl
    · exact congrArg (·.map fun document => (found, some document)) (h found document rfl)

/-- A registry that leads nowhere is processed alike whether it is composed or not. -/
lemma process_of_leadsNowhere (hs : s.Stable) {l : Loader} (h : HasLearnt m s policy l)
    {found : String} (options : LoadOptions)
    (hregistry : IsRegistry m found (Entry.normalize m headers root l.fetcher).1)
    (hnowhere : LeadsNowhere m (s.load policy) found (Entry.normalize m headers root l.fetcher).1) :
    (l.process found (.mapping root) headers options true).1 =
      (l.process found (.mapping root) headers options false).1 := by
  have hentry : Composition.Learnt s policy l.dependencies
      (Entry.normalize m headers root l.fetcher).2 :=
    h.learnt.goesOn (Entry.goesOn_normalize (.refl _) root)
  have hcomposed := hentry.compose hs m headers found
    (.mapping (Entry.normalize m headers root l.fetcher).1)
  have halone := hentry.compose_of_leadsNowhere hs headers hregistry hnowhere
  -- the fetchers differ in what was read in vain, which is all that composing has done
  have hsettled := settle_of_reading hs hcomposed.reading hentry.reading m headers headers
    (Entry.normalize m headers root l.fetcher).1
  unfold process
  dsimp only
  rw [h.model, if_pos rfl, if_neg (by decide), halone, hsettled]

/-- **Composing what leads nowhere changes nothing.** If every reference of an entry is skipped or
cannot be read, and the entry is the registry itself, it is loaded with its dependencies as it is
loaded without them, also where there is a fault. -/
theorem loadWithDependencies_eq_load (m : Model) {s : Source} (hs : s.Stable) (policy : ParsePolicy)
    (uses : List Use) (location : String) (headers : Headers) (options : LoadOptions) :
    let l := (start m s policy).run uses
    let fetched := l.fetcher.fetch location headers .once
    (∀ root, fetched.1.2 = some (.mapping root) →
      let entry := (Entry.normalize m headers root fetched.2).1
      IsRegistry m fetched.1.1 entry ∧ LeadsNowhere m (s.load policy) fetched.1.1 entry) →
    (l.loadWithDependencies location headers options).1 = (l.load location headers options).1 := by
  intro l fetched h
  have hlearnt : HasLearnt m s policy l := (HasLearnt.start m s policy).run hs uses
  have hfetched := hlearnt.fetch location headers .once
  refine loadOne_congr fun found document hread => ?_
  cases document with
  | mapping root =>
    have hentry := h root (congrArg Prod.snd hread)
    rw [show fetched.1.1 = found from congrArg Prod.fst hread] at hentry
    exact process_of_leadsNowhere hs hfetched options hentry.1 hentry.2
  | _ => rfl

/-- A group that is given alone, with a message whose base is nowhere. -/
def stranded : Source := .ofDocuments [("http://h/messagegroups/g", ⟨"http://h/messagegroups/g",
  "\x7b\"messagegroupid\": \"g\", \"messages\": \x7b\"a\": \x7b
    \"basemessageurl\": \"http://h/messagegroups/g/messages/gone\"\x7d\x7d\x7d", []⟩)]

theorem loadWithDependencies_eq_load_stranded :
    let m := Model.standard
    let location := "http://h/messagegroups/g"
    let base := "http://h/messagegroups/g/messages/gone"
    let l := start m stranded .strict
    let root : Fields := [("messagegroupid", .string "g"),
      ("messages", .mapping [("a", .mapping [("basemessageurl", .string base)])])]
    stranded.Stable ∧
      (l.fetcher.fetch location [] .once).1 = (location, some (.mapping root)) ∧
      Discovery.references m (.mapping root) = [base] ∧
      (l.loadWithDependencies location [] {}).1 = (l.load location [] {}).1 := by
  intro m location base l root
  have hs : stranded.Stable := Source.stable_ofDocuments _
  have hread : (l.fetcher.fetch location [] .once).1 = (location, some (.mapping root)) := by
    decide +kernel
  refine ⟨hs, hread, by decide +kernel, ?_⟩
  refine loadWithDependencies_eq_load m hs .strict [] location [] {} fun root' hroot => ?_
  obtain rfl : root = root' :=
    Value.mapping.inj (Option.some.inj ((congrArg Prod.snd hread).symm.trans hroot))
  exact ⟨by decide +kernel, by decide +kernel⟩

end Loader

end Registry
