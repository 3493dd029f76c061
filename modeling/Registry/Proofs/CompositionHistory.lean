import Mathlib.Data.Finset.Card
import Registry.Proofs.CompositionFold
import Registry.Proofs.CompositionReach

/-!
# One composition after another

A resolver keeps the documents that earlier compositions found. Which locations a composition reaches,
and in which order, is given by a tour through what these load as. The references of a document that
was kept are read at the location that was asked for, those of one that is found now at the location
where it is found, so the tour is that of a fresh resolver where the two read the same.
-/

namespace Registry

/-- The location that a visit enters. -/
def Visit.entered? : Visit → Option String
  | .enter location => some location
  | .leave _ => none

namespace Composition

/-- Entering the locations on a stack depth first, those reached already left out, reaches `final`
in the end. What a location leads to is given by `next`, if the location loads. -/
inductive Tour (next : String → Option (List String)) :
    (stack reached final : List String) → Prop where
  | done {reached : List String} : Tour next [] reached reached
  | skip {v : String} {stack reached final : List String} (hv : v ∈ reached ∨ next v = none)
      (ht : Tour next stack reached final) : Tour next (v :: stack) reached final
  | enter {v : String} {more stack reached final : List String} (hn : v ∉ reached)
      (hv : next v = some more) (ht : Tour next (more ++ stack) (reached ++ [v]) final) :
      Tour next (v :: stack) reached final

section Tour

variable {next : String → Option (List String)} {stack reached final served : List String}
  {candidate : String → Prop}

lemma Tour.reached_prefix (h : Tour next stack reached final) : reached <+: final := by
  induction h with
  | done => exact List.prefix_rfl
  | skip _ _ ih => exact ih
  | enter _ _ _ ih => exact (List.prefix_append _ _).trans ih

lemma Tour.nodup (h : Tour next stack reached final) (hr : reached.Nodup) : final.Nodup := by
  induction h with
  | done => exact hr
  | skip _ _ ih => exact ih hr
  | enter hn _ _ ih =>
    rw [← List.concat_eq_append] at ih
    exact ih (hr.concat hn)

/-- What loads among the locations on the stack is reached. -/
lemma Tour.mem_of_mem_stack (h : Tour next stack reached final) {v : String} (hv : v ∈ stack)
    (hnext : next v ≠ none) : v ∈ final := by
  induction h with
  | done => cases hv
  | skip hskip ht ih =>
    rcases List.mem_cons.1 hv with rfl | hv
    · exact ht.reached_prefix.subset (hskip.resolve_right hnext)
    · exact ih hv
  | enter _ _ ht ih =>
    rcases List.mem_cons.1 hv with rfl | hv
    · exact ht.reached_prefix.subset (List.mem_append_right _ List.mem_cons_self)
    · exact ih (List.mem_append_right _ hv)

/-- What holds of every candidate that loads holds of all that a tour reaches. -/
lemma Tour.forall_mem {P : String → Prop} (h : Tour next stack reached final)
    (hstack : ∀ v ∈ stack, candidate v) (hreached : ∀ v ∈ reached, P v)
    (hstep : ∀ v more, candidate v → next v = some more → P v ∧ ∀ w ∈ more, candidate w) :
    ∀ v ∈ final, P v := by
  induction h with
  | done => exact hreached
  | skip _ _ ih =>
    rw [List.forall_mem_cons] at hstack
    exact ih hstack.2 hreached
  | enter _ hv _ ih =>
    rw [List.forall_mem_cons] at hstack
    obtain ⟨hP, hmore⟩ := hstep _ _ hstack.1 hv
    refine ih ?_ ?_
    · exact List.forall_mem_append.2 ⟨hmore, hstack.2⟩
    · exact List.forall_mem_append.2 ⟨hreached, List.forall_mem_singleton.2 hP⟩

lemma Tour.congr {other : String → Option (List String)} (h : Tour next stack reached final)
    (hnone : ∀ v, next v = none → other v = none) (hsome : ∀ v ∈ final, next v = other v) :
    Tour other stack reached final := by
  induction h with
  | done => exact .done
  | skip hv _ ih => exact .skip (hv.imp_right (hnone _)) (ih hsome)
  | enter hn hv ht ih =>
    have hfinal := ht.reached_prefix.subset (List.mem_append_right _ List.mem_cons_self)
    exact .enter hn (hsome _ hfinal ▸ hv) (ih hsome)

/-- There is a tour as long as only finitely many candidates load. -/
lemma exists_tour (hstack : ∀ v ∈ stack, candidate v)
    (hstep : ∀ v more, candidate v → next v = some more → v ∈ served ∧ ∀ w ∈ more, candidate w) :
    ∃ final, Tour next stack reached final := by
  -- Every entry takes one of the served locations out of those that are still to be reached.
  induction hc : (served.toFinset \ reached.toFinset).card using Nat.strong_induction_on
    generalizing stack reached with
  | _ count ihcount =>
    induction stack with
    | nil => exact ⟨reached, .done⟩
    | cons v stack ihstack =>
      rw [List.forall_mem_cons] at hstack
      by_cases hv : v ∈ reached ∨ next v = none
      · obtain ⟨final, ht⟩ := ihstack hstack.2
        exact ⟨final, .skip hv ht⟩
      · obtain ⟨hn, hnext⟩ := not_or.1 hv
        obtain ⟨more, hmore⟩ := Option.ne_none_iff_exists'.1 hnext
        obtain ⟨hserved, hcandidates⟩ := hstep v more hstack.1 hmore
        have hless : (served.toFinset \ (reached ++ [v]).toFinset).card < count := by
          rw [← hc]
          refine Finset.card_lt_card (Finset.ssubset_iff_of_subset ?_ |>.2 ⟨v, ?_, ?_⟩)
          · intro w hw
            simp only [List.toFinset_append, Finset.mem_sdiff, Finset.mem_union, not_or] at hw ⊢
            exact ⟨hw.1, hw.2.1⟩
          · simp [hserved, hn]
          · simp
        obtain ⟨final, ht⟩ := ihcount _ hless
          (List.forall_mem_append.2 ⟨hcandidates, hstack.2⟩) rfl
        exact ⟨final, .enter hn hmore ht⟩

end Tour

variable {m : Model} {s : Source} {policy : ParsePolicy} {headers : Headers} {d : Dependencies}
  {f : Fetcher} {location v : String} {load : String → CachedRead}

/-- Where the references of a location are read: a kept document is taken to be where it was asked
for, any other is where it is found. -/
def viewpoint (load : String → CachedRead) (kept : List String) (v : String) : String :=
  if v ∈ kept then v else (load v).location

/-- The locations that a location leads to. -/
def successors (m : Model) (load : String → CachedRead) (kept : List String) (v : String) :
    Option (List String) :=
  (load v).document.map fun document =>
    (nested m v (viewpoint load kept v) document).filterMap Visit.entered?

/-- Merges what some locations load as in turn. -/
def mergeLoaded (m : Model) (load : String → CachedRead) (composed : Fields)
    (locations : List String) : Fields :=
  locations.foldl (fun composed v =>
    match (load v).document with
    | some document => mergeAtLocation m composed v document
    | none => composed) composed

lemma mergeAll_eq_mergeLoaded {resolved : Table Value} {locations : List String}
    (h : ∀ v ∈ locations, resolved.get? v = (load v).document) (composed : Fields) :
    mergeAll m resolved composed locations = mergeLoaded m load composed locations := by
  refine List.foldl_ext _ _ _ fun composed v hv => ?_
  have hv := h v hv
  cases hd : (load v).document <;> simp only [hv, hd]

/-- What a location loads as leads to the same locations seen from itself as seen from where it is
found. -/
def SeesAlike (m : Model) (load : String → CachedRead) (v : String) : Prop :=
  ∀ document, (load v).document = some document →
    nested m v v document = nested m v (load v).location document

section successors

variable {kept : List String}

lemma seesAlike_of_location_eq (h : (load v).location = v) : SeesAlike m load v := by
  intro document _
  rw [h]

lemma successors_eq {document : Value} (hd : (load v).document = some document) :
    successors m load kept v =
      some ((nested m v (viewpoint load kept v) document).filterMap Visit.entered?) := by
  rw [successors, hd, Option.map_some]

lemma successors_eq_none : successors m load kept v = none ↔ (load v).document = none := by
  rw [successors, Option.map_eq_none_iff]

lemma successors_of_seesAlike (h : v ∈ kept → SeesAlike m load v) :
    successors m load [] v = successors m load kept v := by
  cases hd : (load v).document with
  | none => rw [successors_eq_none.2 hd, successors_eq_none.2 hd]
  | some document =>
    rw [successors_eq hd, successors_eq hd, viewpoint, viewpoint, if_neg List.not_mem_nil]
    split
    · next hv => rw [h hv document hd]
    · rfl

end successors

/-- A resolver that knows of each location what the location loads as, and that follows nothing it
does not know. -/
structure Learnt (s : Source) (policy : ParsePolicy) (d : Dependencies) (f : Fetcher) : Prop where
  reading : Reading s policy f
  documents : ∀ e ∈ d.resolved, (s.load policy e.1).document = some e.2
  pending : d.pending ⊆ d.resolved.keys
  reached : d.reached ⊆ d.resolved.keys

namespace Learnt

lemma get?_eq_load (h : Learnt s policy d f) (hk : location ∈ d.resolved.keys) :
    d.resolved.get? location = (s.load policy location).document := by
  obtain ⟨document, hd⟩ := Option.ne_none_iff_exists'.1 fun hn => Table.get?_eq_none_iff.1 hn hk
  rw [hd]
  exact (h.documents _ (Table.mem_of_get? hd)).symm

lemma withReading (h : Learnt s policy d f) {g : Fetcher} (hg : Reading s policy g) :
    Learnt s policy d g :=
  ⟨hg, h.documents, h.pending, h.reached⟩

lemma leave (h : Learnt s policy d f) (location : String) :
    Learnt s policy (d.leave location) f :=
  ⟨h.reading, h.documents, fun _ hp => h.pending (List.mem_of_mem_filter hp), h.reached⟩

lemma addReached (h : Learnt s policy d f) (hk : location ∈ d.resolved.keys) :
    Learnt s policy (d.addReached location) f := by
  unfold Dependencies.addReached
  split
  · exact h
  · refine ⟨h.reading, h.documents, h.pending, ?_⟩
    exact List.append_subset.2 ⟨h.reached, List.cons_subset.2 ⟨hk, List.nil_subset _⟩⟩

lemma found {document : Value} (h : Learnt s policy d f) (hn : location ∉ d.reached)
    (hd : (s.load policy location).document = some document) :
    Learnt s policy (Composition.found d location document) f := by
  have hold : d.resolved.keys ⊆ (Composition.found d location document).resolved.keys := by
    rw [resolved_found, Table.keys_append]
    exact List.subset_append_left _ _
  have hnew : [location] ⊆ (Composition.found d location document).resolved.keys := by
    rw [resolved_found, Table.keys_append]
    exact List.subset_append_right _ _
  constructor
  case reading => exact h.reading
  case documents =>
    intro e he
    rw [resolved_found] at he
    rcases List.mem_append.1 he with he | he
    · exact h.documents e he
    · rw [List.mem_singleton.1 he]
      exact hd
  case pending =>
    refine List.Subset.trans pending_found_subset ?_
    exact List.append_subset.2 ⟨List.Subset.trans h.pending hold, hnew⟩
  case reached =>
    rw [reached_found hn]
    exact List.append_subset.2 ⟨List.Subset.trans h.reached hold, hnew⟩

lemma enter_of_mem (h : Learnt s policy d f) (hm : location ∈ d.reached) :
    enter m headers location d f = (d, f, none) := by
  obtain ⟨document, hd⟩ := Option.ne_none_iff_exists'.1 fun hn =>
    Table.get?_eq_none_iff.1 hn (h.reached hm)
  exact enter_of_reached hd hm

lemma enter_of_known {document : Value} (h : Learnt s policy d f) (hn : location ∉ d.reached)
    (hk : location ∈ d.resolved.keys) (hd : (s.load policy location).document = some document) :
    enter m headers location d f =
      (d.addReached location, f, some (nested m location location document)) :=
  enter_of_kept ((h.get?_eq_load hk).trans hd) hn

lemma enter_of_new (hs : s.Stable) (h : Learnt s policy d f) (hk : location ∉ d.resolved.keys) :
    enter m headers location d f =
      match (s.load policy location).document with
      | none => (d, (f.fetch location headers .reuse).2, none)
      | some document => (Composition.found d location document,
          (f.fetch location headers .reuse).2,
          some (nested m location (s.load policy location).location document ++
            [.leave location])) := by
  have hnone := Table.get?_eq_none_iff.2 hk
  have hp : location ∉ d.pending := fun hp => hk (h.pending hp)
  have hfetch := h.reading.fetch_eq hs location headers
  cases hd : (s.load policy location).document with
  | none =>
    rw [hd] at hfetch
    exact enter_of_missing hnone hp hfetch
  | some document =>
    rw [hd] at hfetch
    exact enter_of_found hnone hp hfetch

end Learnt

/-- All that entering a location can do to a resolver that has learnt from a stable source. -/
inductive Entering (m : Model) (s : Source) (policy : ParsePolicy) (location : String)
    (d : Dependencies) (f : Fetcher) : Dependencies × Fetcher × Option (List Visit) → Prop where
  | again (hm : location ∈ d.reached) : Entering m s policy location d f (d, f, none)
  | failed (g : Fetcher) (hg : Reading s policy g)
      (hd : (s.load policy location).document = none) : Entering m s policy location d f (d, g, none)
  | known (document : Value) (hn : location ∉ d.reached) (hk : location ∈ d.resolved.keys)
      (hd : (s.load policy location).document = some document) :
      Entering m s policy location d f
        (d.addReached location, f, some (nested m location location document))
  | found (g : Fetcher) (document : Value) (hg : Reading s policy g) (hn : location ∉ d.reached)
      (hk : location ∉ d.resolved.keys)
      (hd : (s.load policy location).document = some document) :
      Entering m s policy location d f
        (found d location document, g,
          some (nested m location (s.load policy location).location document ++
            [.leave location]))

lemma Learnt.entering (hs : s.Stable) (h : Learnt s policy d f) (m : Model) (headers : Headers)
    (location : String) :
    Entering m s policy location d f (enter m headers location d f) := by
  by_cases hm : location ∈ d.reached
  · rw [h.enter_of_mem hm]
    exact .again hm
  · by_cases hk : location ∈ d.resolved.keys
    · obtain ⟨document, hd⟩ := Option.ne_none_iff_exists'.1 fun hn =>
        Table.get?_eq_none_iff.1 hn hk
      rw [h.get?_eq_load hk] at hd
      rw [h.enter_of_known hm hk hd]
      exact .known document hm hk hd
    · have hg := h.reading.fetch location headers
      rw [h.enter_of_new hs hk]
      cases hd : (s.load policy location).document with
      | none => exact .failed _ hg hd
      | some document => exact .found _ document hg hm hk hd

namespace Learnt

lemma enter (hs : s.Stable) (h : Learnt s policy d f) (m : Model) (headers : Headers)
    (location : String) :
    Learnt s policy (Composition.enter m headers location d f).1
      (Composition.enter m headers location d f).2.1 := by
  have hentering := h.entering hs m headers location
  generalize Composition.enter m headers location d f = result at hentering ⊢
  cases hentering with
  | again hm => exact h
  | failed g hg hd => exact h.withReading hg
  | known document hn hk hd => exact h.addReached hk
  | found g document hg hn hk hd => exact (h.found hn hd).withReading hg

lemma walk (hs : s.Stable) (h : Learnt s policy d f) (m : Model) (headers : Headers) (bound : Nat)
    (visits : List Visit) :
    Learnt s policy (Composition.walk m headers bound visits d f).1
      (Composition.walk m headers bound visits d f).2 :=
  walk_preserves (fun _ _ location hd => hd.leave location)
    (fun _ _ location hd => hd.enter hs m headers location) bound visits h

lemma clearReached (h : Learnt s policy d f) : Learnt s policy { d with reached := [] } f :=
  ⟨h.reading, h.documents, h.pending, List.nil_subset _⟩

lemma compose (hs : s.Stable) (h : Learnt s policy d f) (m : Model) (headers : Headers)
    (location : String) (entry : Value) :
    Learnt s policy (Composition.compose m headers location entry d f).2.1
      (Composition.compose m headers location entry d f).2.2 :=
  h.clearReached.walk hs m headers _ _

lemma start (h : Reading s policy f) : Learnt s policy .start f :=
  ⟨h, by simp [Dependencies.start], List.nil_subset _, List.nil_subset _⟩

lemma after (hs : s.Stable) {known : Dependencies × Fetcher}
    (h : Learnt s policy known.1 known.2) {use : Use} (hu : ∀ v, use ≠ .markPending v) :
    Learnt s policy (Composition.after known use).1 (Composition.after known use).2 := by
  cases use with
  | compose m headers location entry => exact h.compose hs m headers location entry
  | resolve m headers location => exact h.walk hs m headers _ _
  | markPending location => exact absurd rfl (hu location)
  | forget => exact .start h.reading
  | fetcher use =>
    have hreading : Reading s policy (known.2.after use) :=
      ⟨(Fetcher.source_after use).trans h.reading.source,
        (Fetcher.policy_after use).trans h.reading.policy, h.reading.faithful.after use⟩
    exact h.withReading hreading

lemma run (hs : s.Stable) {known : Dependencies × Fetcher} (h : Learnt s policy known.1 known.2)
    {uses : List Use} (hu : ∀ v, .markPending v ∉ uses) :
    Learnt s policy (Composition.run known uses).1 (Composition.run known uses).2 := by
  induction uses generalizing known with
  | nil => exact h
  | cons use uses ih =>
    have huse : ∀ v, use ≠ .markPending v := fun v he => hu v (he ▸ List.mem_cons_self)
    exact ih (h.after hs huse) fun v hm => hu v (List.mem_cons_of_mem _ hm)

/-- A walk that may enter enough locations reaches what the tour reaches. -/
theorem reached_walk (hs : s.Stable) {kept final : List String} {visits : List Visit} {bound : Nat}
    (h : Learnt s policy d f) (hold : ∀ v ∈ kept, v ∈ d.resolved.keys)
    (hnew : ∀ v ∈ d.resolved.keys, v ∈ d.reached ∨ v ∈ kept)
    (ht : Tour (successors m (s.load policy) kept) (visits.filterMap Visit.entered?) d.reached
      final)
    (hb : final.length < bound + d.reached.length) :
    (Composition.walk m headers bound visits d f).1.reached = final := by
  fun_induction Composition.walk m headers bound visits d f with
  | case1 d f bound =>
    cases ht with
    | done => rfl
  | case2 d f bound location rest ih => exact ih (h.leave location) hold hnew ht hb
  | case3 d f location rest =>
    have hle := ht.reached_prefix.length_le
    omega
  | case4 d f bound location rest d' f' heq ih =>
    have hentering := h.entering hs m headers location
    rw [heq] at hentering
    rw [List.filterMap_cons] at ht
    cases hentering with
    | again hm =>
      cases ht with
      | skip _ ht => exact ih h hold hnew ht hb
      | enter hn _ _ => exact absurd hm hn
    | failed g hg hd =>
      cases ht with
      | skip _ ht => exact ih (h.withReading hg) hold hnew ht hb
      | enter _ hv _ => simp [successors_eq_none.2 hd] at hv
  | case5 d f bound location rest d' f' more heq ih =>
    have hentering := h.entering hs m headers location
    rw [heq] at hentering
    rw [List.filterMap_cons] at ht
    cases hentering with
    | known document hn hk hd =>
      cases ht with
      | skip hv _ => simp [hn, successors_eq hd] at hv
      | enter _ hv ht =>
        have hkept : location ∈ kept := (hnew location hk).resolve_left hn
        have hreached := reached_addReached hn
        rw [successors_eq hd, Option.some.injEq, viewpoint, if_pos hkept] at hv
        refine ih (h.addReached hk) ?_ ?_ ?_ ?_
        · rw [Dependencies.resolved_addReached]
          exact hold
        · intro v hv
          rw [Dependencies.resolved_addReached] at hv
          rw [hreached]
          exact (hnew v hv).imp_left (List.mem_append_left _)
        · rw [List.filterMap_append, hv, hreached]
          exact ht
        · rw [hreached, List.length_append, List.length_singleton]
          omega
    | found g document hg hn hk hd =>
      cases ht with
      | skip hv _ => simp [hn, successors_eq hd] at hv
      | enter _ hv ht =>
        have hkept : location ∉ kept := fun hv => hk (hold location hv)
        have hreached : (Composition.found d location document).reached = d.reached ++ [location] :=
          reached_found hn
        have hleave : [Visit.leave location].filterMap Visit.entered? = [] := rfl
        rw [successors_eq hd, Option.some.injEq, viewpoint, if_neg hkept] at hv
        refine ih ((h.found hn hd).withReading hg) ?_ ?_ ?_ ?_
        · intro v hv
          rw [resolved_found, Table.keys_append]
          exact List.mem_append_left _ (hold v hv)
        · intro v hv
          rw [resolved_found, Table.keys_append] at hv
          rw [hreached]
          rcases List.mem_append.1 hv with hv | hv
          · exact (hnew v hv).imp_left (List.mem_append_left _)
          · exact .inl (List.mem_append_right _ hv)
        · rw [List.filterMap_append, List.filterMap_append, hv, hleave, List.append_nil, hreached]
          exact ht
        · rw [hreached, List.length_append, List.length_singleton]
          omega

/-- A composition reaches what the tour from its roots reaches, and merges what these locations load
as. -/
theorem compose_along_tour (hs : s.Stable) (h : Learnt s policy d f) (headers : Headers)
    {location : String} {entry : Value} {final : List String}
    (ht : Tour (successors m (s.load policy) d.resolved.keys)
      (roots m location (seed m (Address.inModel m location) entry)) [] final)
    (hfinal : final.length ≤ s.extent) :
    (Composition.compose m headers location entry d f).2.1.reached = final ∧
      (Composition.compose m headers location entry d f).1 =
        mergeLoaded m (s.load policy) (seed m (Address.inModel m location) entry) final := by
  have hcomposed := h.compose hs m headers location entry
  have hreached : (Composition.compose m headers location entry d f).2.1.reached = final := by
    refine h.clearReached.reached_walk hs (fun v hv => hv) (fun v hv => .inr hv) ?_ ?_
    · rw [List.filterMap_map]
      simpa [Function.comp_def, Visit.entered?] using ht
    · rw [bound, h.reading.source]
      dsimp only
      omega
  have hmerged : (Composition.compose m headers location entry d f).1 =
      mergeAll m (Composition.compose m headers location entry d f).2.1.resolved
        (seed m (Address.inModel m location) entry)
        (Composition.compose m headers location entry d f).2.1.reached := rfl
  refine ⟨hreached, ?_⟩
  rw [hmerged, hreached]
  refine mergeAll_eq_mergeLoaded (fun v hv => hcomposed.get?_eq_load (hcomposed.reached ?_)) _
  rw [hreached]
  exact hv

end Learnt

lemma Reaches.hash_not_mem {start : String → Prop} (h : Reaches m load start v)
    (hstart : ∀ v, start v → '#' ∉ v.toList) : '#' ∉ v.toList := by
  cases h with
  | root hv _ => exact hstart v hv
  | step _ he _ => exact he.hash_not_mem

/-- What a bounded source serves holds all that can be reached. -/
lemma exists_served (hb : s.Bounded) (m : Model)
    (policy : ParsePolicy) {start : String → Prop} (hstart : ∀ v, start v → '#' ∉ v.toList) :
    ∃ served : List String, served.length ≤ s.extent ∧
      ∀ v, Reaches m (s.load policy) start v → v ∈ served := by
  obtain ⟨served, hlength, hanswers⟩ := hb
  refine ⟨served, hlength, fun v hv => ?_⟩
  have hl : (s.load policy v).document.isSome := by cases hv <;> assumption
  exact hanswers [] ⟨v, []⟩ (isSome_read_of_load (hv.hash_not_mem hstart) hl)

lemma Candidate.successors {start : String → Prop} {more : List String}
    (hv : Candidate m load start v) (hmore : successors m load [] v = some more) :
    Reaches m load start v ∧ ∀ w ∈ more, Candidate m load start w := by
  obtain ⟨document, hd, hmore⟩ := Option.map_eq_some_iff.1 hmore
  have hreach : Reaches m load start v := hv.reaches (by simp [hd])
  refine ⟨hreach, fun w hw => .inr ⟨v, hreach, document, hd, ?_⟩⟩
  rw [← hmore] at hw
  obtain ⟨visit, hvisit, hentered⟩ := List.mem_filterMap.1 hw
  cases visit with
  | leave => simp [Visit.entered?] at hentered
  | enter u =>
    rw [Visit.entered?, Option.some.injEq] at hentered
    rw [hentered] at hvisit
    exact enter_mem_nested.1 hvisit

/-- If an entry leads to finitely many locations, a tour from its roots reaches each of them once. -/
lemma exists_tour_roots (m : Model) (load : String → CachedRead) (roots : List String)
    {served : List String} (hserved : ∀ v, Reaches m load (· ∈ roots) v → v ∈ served) :
    ∃ final, Tour (successors m load []) roots [] final ∧ final.length ≤ served.length ∧
      ∀ v ∈ final, Reaches m load (· ∈ roots) v := by
  have hroots : ∀ v ∈ roots, Candidate m load (· ∈ roots) v := fun v hv => .inl hv
  have htour : ∃ final, Tour (successors m load []) roots [] final :=
    exists_tour hroots fun v more hv hmore => (hv.successors hmore).imp_left (hserved v)
  obtain ⟨final, ht⟩ := htour
  have hreaches := ht.forall_mem hroots (by simp) fun v more hv hmore => hv.successors hmore
  have hsub : final ⊆ served := fun v hv => hserved v (hreaches v hv)
  exact ⟨final, ht, ((ht.nodup List.nodup_nil).subperm hsub).length_le, hreaches⟩

/-- Whatever a resolver was used for before, short of marking locations as followed, it composes an
entry as a fresh one does, with the same locations reached in the same order. The documents found
before have to refer to the same locations, seen from where they were asked for, as seen from where
they were found, as far as the entry leads to them. -/
theorem compose_after_history (m : Model) (headers : Headers) {s : Source} (hs : s.Stable)
    (policy : ParsePolicy) {uses : List Use} (huses : ∀ v, .markPending v ∉ uses)
    (location : String) (entry : Value)
    (hfinite : ∃ served : List String, served.length ≤ s.extent ∧
      ∀ v, Reaches m (s.load policy)
        (IsRoot m location (seed m (Address.inModel m location) entry)) v → v ∈ served)
    (halike : ∀ v ∈ (run (.start, .start s policy) uses).1.resolved.keys,
      Reaches m (s.load policy) (IsRoot m location (seed m (Address.inModel m location) entry)) v →
        SeesAlike m (s.load policy) v) :
    let known := run (.start, .start s policy) uses
    let again := compose m headers location entry known.1 known.2
    let fresh := compose m headers location entry .start (.start s policy)
    again.1 = fresh.1 ∧ again.2.1.reached = fresh.2.1.reached := by
  intro known again fresh
  have hroots : (· ∈ roots m location (seed m (Address.inModel m location) entry)) =
      IsRoot m location (seed m (Address.inModel m location) entry) := by
    funext v
    exact propext mem_roots
  rw [← hroots] at hfinite halike
  obtain ⟨served, hextent, hserved⟩ := hfinite
  obtain ⟨final, ht, hlength, hreaches⟩ := exists_tour_roots m (s.load policy) _ hserved
  have htkept : Tour (successors m (s.load policy) known.1.resolved.keys)
      (roots m location (seed m (Address.inModel m location) entry)) [] final := by
    refine ht.congr ?_ ?_
    · intro v hv
      exact successors_eq_none.2 (successors_eq_none.1 hv)
    · intro v hv
      exact successors_of_seesAlike fun hk => halike v hk (hreaches v hv)
  have hstart : Learnt s policy .start (Fetcher.start s policy) :=
    .start ⟨rfl, rfl, Fetcher.faithful_start s policy⟩
  have hknown : Learnt s policy known.1 known.2 := Learnt.run hs hstart huses
  obtain ⟨hagain, hmerged⟩ := hknown.compose_along_tour hs headers htkept (by omega)
  obtain ⟨hfresh, hmerged'⟩ := hstart.compose_along_tour hs headers ht (by omega)
  exact ⟨hmerged.trans hmerged'.symm, hagain.trans hfresh.symm⟩

/-- An entry whose location redirects, composed again after the fetcher forgot all it had read. -/
theorem compose_circle_again :
    let m : Model := ⟨[⟨"groups", "group", []⟩], .null⟩
    let entry : Value := .mapping [("groups", .mapping []), ("url", .string "http://h/start")]
    let uses := [Use.compose m [] "http://h/" entry, .fetcher .reset]
    let known := run (.start, .start circle .strict) uses
    let again := compose m [] "http://h/" entry known.1 known.2
    let fresh := compose m [] "http://h/" entry .start (.start circle .strict)
    circle.Stable ∧ circle.Bounded ∧ again.1 = fresh.1 ∧
      again.2.1.reached = fresh.2.1.reached := by
  intro m entry uses known again fresh
  have hs : circle.Stable := Source.stable_ofDocuments _
  have hb : circle.Bounded := Source.bounded_ofDocuments _
  have halike : ∀ v, '#' ∉ v.toList → SeesAlike m (circle.load .strict) v := by
    intro v hv document hd
    obtain ⟨raw, hraw⟩ := Option.isSome_iff_exists.1
      (isSome_read_of_load hv (Option.isSome_iff_exists.2 ⟨document, hd⟩))
    have hk : v = "http://h/groups/a" ∨ v = "http://h/groups/b" ∨ v = "http://h/start" := by
      simpa [Table.keys] using Table.mem_keys_of_get? hraw
    rcases hk with rfl | rfl | rfl
    · exact seesAlike_of_location_eq (by decide +kernel) document hd
    · exact seesAlike_of_location_eq (by decide +kernel) document hd
    · have hload : (circle.load .strict "http://h/start").document =
          some (.mapping [("url", .string "http://h/groups/b")]) := by decide +kernel
      rw [hload, Option.some.injEq] at hd
      subst hd
      exact congrArg (List.map Visit.enter) (by decide +kernel)
  have huses : ∀ v, .markPending v ∉ uses := by simp [uses]
  exact ⟨hs, hb, compose_after_history m [] hs .strict huses "http://h/" entry
    (exists_served hb m .strict fun v hv => hv.hash_not_mem)
    fun v _ hv => halike v (hv.hash_not_mem fun v hv => hv.hash_not_mem)⟩

/-- A location that redirects to another registry, with a document that has a relative reference. -/
def moved : Source := .ofDocuments [
  ("http://h/old/groups/a", ⟨"http://k/groups/a", "\x7b\"url\": \"/groups/b\"\x7d", []⟩),
  ("http://k/groups/b", ⟨"http://k/groups/b", "\x7b\"id\": \"b\"\x7d", []⟩)]

theorem compose_moved_again :
    let m : Model := ⟨[⟨"groups", "group", []⟩], .null⟩
    let entry : Value :=
      .mapping [("groups", .mapping []), ("url", .string "http://h/old/groups/a")]
    let first := compose m [] "http://h/" entry .start (.start moved .strict)
    let second := compose m [] "http://h/" entry first.2.1 first.2.2
    moved.Stable ∧ moved.Bounded ∧
      first.2.1.reached = ["http://h/old/groups/a", "http://k/groups/b"] ∧
      second.2.1.reached = ["http://h/old/groups/a"] ∧ second.1 ≠ first.1 := by
  intro m entry first second
  let load := moved.load .strict
  have hs : moved.Stable := Source.stable_ofDocuments _
  have hb : moved.Bounded := Source.bounded_ofDocuments _
  have hroots : roots m "http://h/" (seed m (Address.inModel m "http://h/") entry) =
      ["http://h/old/groups/a"] := by
    decide +kernel
  have hstart : Learnt moved .strict .start (Fetcher.start moved .strict) :=
    .start ⟨rfl, rfl, Fetcher.faithful_start moved .strict⟩
  have hfirst : Tour (successors m load [])
      (roots m "http://h/" (seed m (Address.inModel m "http://h/") entry)) []
      ["http://h/old/groups/a", "http://k/groups/b"] := by
    have ha : successors m load [] "http://h/old/groups/a" = some ["http://k/groups/b"] := by
      decide +kernel
    have hb : successors m load [] "http://k/groups/b" = some [] := by decide +kernel
    rw [hroots]
    exact .enter List.not_mem_nil ha (.enter (by decide) hb .done)
  obtain ⟨hreached, hmerged⟩ := hstart.compose_along_tour hs [] hfirst (by decide)
  have hlearnt : Learnt moved .strict first.2.1 first.2.2 :=
    hstart.compose hs m [] "http://h/" entry
  have hkept : "http://h/old/groups/a" ∈ first.2.1.resolved.keys :=
    hlearnt.reached (hreached ▸ List.mem_cons_self)
  have hsecond : Tour (successors m load first.2.1.resolved.keys)
      (roots m "http://h/" (seed m (Address.inModel m "http://h/") entry)) []
      ["http://h/old/groups/a"] := by
    have ha : successors m load first.2.1.resolved.keys "http://h/old/groups/a" =
        some ["http://h/old/groups/b"] := by
      rw [successors, viewpoint, if_pos hkept]
      decide +kernel
    have hb : (load "http://h/old/groups/b").document = none := by decide +kernel
    rw [hroots]
    exact .enter List.not_mem_nil ha (.skip (.inr (successors_eq_none.2 hb)) .done)
  obtain ⟨hreached', hmerged'⟩ := hlearnt.compose_along_tour hs [] hsecond (by decide)
  refine ⟨hs, hb, hreached, hreached', ?_⟩
  have hdiffer : mergeLoaded m load (seed m (Address.inModel m "http://h/") entry)
        ["http://h/old/groups/a"] ≠
      mergeLoaded m load (seed m (Address.inModel m "http://h/") entry)
        ["http://h/old/groups/a", "http://k/groups/b"] := by
    decide +kernel
  intro hsame
  exact hdiffer (hmerged'.symm.trans (hsame.trans hmerged))

end Composition

end Registry
