import Mathlib.Data.List.Perm.Subperm
import Registry.Proofs.CompositionFold
import Registry.Proofs.CompositionReach

/-!
# Following references to the end

The recursion along references without a bound: a location whose document is kept is followed unless
it is reached already, any other one is marked, fetched, followed and left again. Over a source that
serves finitely many locations it comes to an end, and the bounded walk gives just this end. Every
location is followed once at most, the marks are what they were before, and no document that is kept
changes.
-/

namespace Registry.Composition

/-- The locations that a document at `context` leads to, other than the one it was asked for at. -/
def outgoing (m : Model) (location context : String) (document : Value) : List String :=
  ((Discovery.references m document).filterMap (Address.inModel m context).locate?).filter
    (· ≠ location)

/-- Following some locations in turn, each with all that it leads to. The locations whose references
are followed are listed in the order in which this begins. -/
inductive Follows (m : Model) (headers : Headers) :
    (locations : List String) → Dependencies → Fetcher →
      (walked : List String) → Dependencies → Fetcher → Prop where
  | done {d : Dependencies} {f : Fetcher} : Follows m headers [] d f [] d f
  | again {location : String} {rest walked : List String} {document : Value}
      {d e : Dependencies} {f g : Fetcher} (hk : d.resolved.get? location = some document)
      (hm : location ∈ d.reached) (hrest : Follows m headers rest d f walked e g) :
      Follows m headers (location :: rest) d f walked e g
  | kept {location : String} {rest inner walked : List String} {document : Value}
      {d d' e : Dependencies} {f f' g : Fetcher} (hk : d.resolved.get? location = some document)
      (hn : location ∉ d.reached)
      (hinner : Follows m headers (outgoing m location location document) (d.addReached location) f
        inner d' f')
      (hrest : Follows m headers rest d' f' walked e g) :
      Follows m headers (location :: rest) d f (location :: (inner ++ walked)) e g
  | circular {location : String} {rest walked : List String} {d e : Dependencies} {f g : Fetcher}
      (hk : d.resolved.get? location = none) (hp : location ∈ d.pending)
      (hrest : Follows m headers rest d f walked e g) :
      Follows m headers (location :: rest) d f walked e g
  | missing {location place : String} {rest walked : List String} {d e : Dependencies}
      {f f' g : Fetcher} (hk : d.resolved.get? location = none) (hp : location ∉ d.pending)
      (hf : f.fetch location headers .reuse = ((place, none), f'))
      (hrest : Follows m headers rest ((d.markPending location).leave location) f' walked e g) :
      Follows m headers (location :: rest) d f walked e g
  | found {location place : String} {rest inner walked : List String} {document : Value}
      {d d' e : Dependencies} {f f' f'' g : Fetcher} (hk : d.resolved.get? location = none)
      (hp : location ∉ d.pending)
      (hf : f.fetch location headers .reuse = ((place, some document), f'))
      (hinner : Follows m headers (outgoing m location place document)
        (found d location document) f' inner d' f'')
      (hrest : Follows m headers rest (d'.leave location) f'' walked e g) :
      Follows m headers (location :: rest) d f (location :: (inner ++ walked)) e g

variable {m : Model} {headers : Headers} {locations walked pool : List String} {s : Source}
  {d e : Dependencies} {f g : Fetcher} {location place v : String} {document : Value}

lemma nested_eq_map (m : Model) (location context : String) (document : Value) :
    nested m location context document = (outgoing m location context document).map .enter := rfl

lemma hash_not_mem_of_mem_outgoing {context : String}
    (h : v ∈ outgoing m location context document) : '#' ∉ v.toList := by
  obtain ⟨h, -⟩ := List.mem_filter.1 h
  obtain ⟨reference, -, hv⟩ := List.mem_filterMap.1 h
  exact Address.hash_not_mem_of_locate? hv

lemma pending_markPending (hp : location ∉ d.pending) :
    (d.markPending location).pending = d.pending ++ [location] := by
  unfold Dependencies.markPending
  rw [List.contains_eq_mem, if_neg (by simpa using hp)]

lemma pending_found (hp : location ∉ d.pending) :
    (found d location document).pending = d.pending ++ [location] := by
  rw [found, Dependencies.pending_addReached]
  exact pending_markPending hp

/-- Leaving a location takes back the mark that was set for it. -/
lemma pending_leave (hp : location ∉ d.pending) (he : e.pending = d.pending ++ [location]) :
    (e.leave location).pending = d.pending := by
  have hkept : d.pending.filter (· ≠ location) = d.pending := by
    refine List.filter_eq_self.2 fun v hv => decide_eq_true ?_
    exact fun h => hp (h ▸ hv)
  rw [Dependencies.leave, he, List.filter_append, hkept]
  simp

lemma leave_markPending (hp : location ∉ d.pending) :
    (d.markPending location).leave location = d := by
  have hpending : (d.markPending location).pending.filter (· ≠ location) = d.pending :=
    pending_leave hp (pending_markPending hp)
  rw [Dependencies.leave, hpending, Dependencies.resolved_markPending,
    Dependencies.reached_markPending]

namespace Follows

/-- The marks are afterwards what they were before. -/
lemma pending_eq (h : Follows m headers locations d f walked e g) : e.pending = d.pending := by
  induction h with
  | done => rfl
  | again _ _ _ ih => exact ih
  | kept _ _ _ _ ihinner ihrest =>
    rw [ihrest, ihinner, Dependencies.pending_addReached]
  | circular _ _ _ ih => exact ih
  | missing _ hp _ _ ih => rw [ih, leave_markPending hp]
  | found _ hp _ _ _ ihinner ihrest =>
    rw [ihrest, pending_leave hp (ihinner.trans (pending_found hp))]

/-- The documents kept before are kept afterwards, and new ones follow them. -/
lemma resolved_prefix (h : Follows m headers locations d f walked e g) :
    d.resolved <+: e.resolved := by
  induction h with
  | done => exact List.prefix_rfl
  | again _ _ _ ih => exact ih
  | kept _ _ _ _ ihinner ihrest =>
    rw [Dependencies.resolved_addReached] at ihinner
    exact ihinner.trans ihrest
  | circular _ _ _ ih => exact ih
  | missing _ hp _ _ ih => rwa [leave_markPending hp] at ih
  | found _ _ _ _ _ ihinner ihrest =>
    rw [resolved_found] at ihinner
    exact (List.prefix_append _ _).trans (ihinner.trans ihrest)

end Follows

lemma walk_enter_none {bound : Nat} {rest : List Visit}
    (he : enter m headers location d f = (e, g, none)) :
    walk m headers (bound + 1) (.enter location :: rest) d f =
      walk m headers (bound + 1) rest e g := by
  rw [walk, he]

lemma walk_enter_some {bound : Nat} {more rest : List Visit}
    (he : enter m headers location d f = (e, g, some more)) :
    walk m headers (bound + 1) (.enter location :: rest) d f =
      walk m headers bound (more ++ rest) e g := by
  rw [walk, he]

lemma walk_leave (bound : Nat) (rest : List Visit) :
    walk m headers bound (.leave location :: rest) d f =
      walk m headers bound rest (d.leave location) f := by
  rw [walk]

/-- A walk that may enter more locations than are followed goes on with what following leaves. -/
lemma Follows.walk_eq (h : Follows m headers locations d f walked e g) (left : Nat)
    (rest : List Visit) :
    walk m headers (walked.length + left + 1) (locations.map .enter ++ rest) d f =
      walk m headers (left + 1) rest e g := by
  have hlength : ∀ (v : String) (inner walked : List String) (left : Nat),
      (v :: (inner ++ walked)).length + left + 1 =
        inner.length + (walked.length + left) + 1 + 1 := by
    intro v inner walked left
    rw [List.length_cons, List.length_append]
    omega
  induction h generalizing left rest with
  | done => rw [List.length_nil, Nat.zero_add, List.map_nil, List.nil_append]
  | again hk hm _ ih =>
    rw [List.map_cons, List.cons_append, walk_enter_none (enter_of_reached hk hm), ih]
  | kept hk hn _ _ ihinner ihrest =>
    rw [hlength, List.map_cons, List.cons_append, walk_enter_some (enter_of_kept hk hn),
      nested_eq_map, ihinner, ihrest]
  | circular hk hp _ ih =>
    rw [List.map_cons, List.cons_append, walk_enter_none (enter_of_pending hk hp), ih]
  | missing hk hp hf _ ih =>
    rw [leave_markPending hp] at ih
    rw [List.map_cons, List.cons_append, walk_enter_none (enter_of_missing hk hp hf), ih]
  | found hk hp hf _ _ ihinner ihrest =>
    rw [hlength, List.map_cons, List.cons_append, walk_enter_some (enter_of_found hk hp hf),
      nested_eq_map, List.append_assoc, ihinner, List.singleton_append, walk_leave, ihrest]

/-- The locations that a source serves are in the pool. -/
def Serves (s : Source) (pool : List String) : Prop :=
  ∀ earlier request, (s.answer earlier request).isSome → request.location ∈ pool

/-- A resolver and its fetcher that know of no location outside the pool. -/
structure Within (s : Source) (pool : List String) (d : Dependencies) (f : Fetcher) : Prop where
  known : Known d f
  source : f.source = s
  keys : d.resolved.keys ⊆ pool

lemma Known.found (h : Known d f) (hd : document.WellKeyed) :
    Known (Composition.found d location document) f := by
  refine ((h.addResolved location hd).markPending location).addReached ?_
  rw [Dependencies.resolved_markPending, Table.keys_append]
  exact List.mem_append_right _ List.mem_cons_self

lemma Known.not_mem_reached (h : Known d f) (hk : d.resolved.get? location = none) :
    location ∉ d.reached :=
  fun hm => Table.get?_eq_none_iff.1 hk (h.reached hm)

namespace Within

lemma fetch (h : Within s pool d f) (location : String) (headers : Headers) :
    Within s pool d (f.fetch location headers .reuse).2 :=
  ⟨h.known.withFetcher (h.known.faithful.fetch location headers .reuse),
    Fetcher.source_fetch.trans h.source, h.keys⟩

lemma addReached (h : Within s pool d f) (hk : d.resolved.get? location = some document) :
    Within s pool (d.addReached location) f := by
  refine ⟨h.known.addReached (Table.mem_keys_of_get? hk), h.source, ?_⟩
  rw [Dependencies.resolved_addReached]
  exact h.keys

lemma leave (h : Within s pool d f) (location : String) : Within s pool (d.leave location) f :=
  ⟨h.known.leave location, h.source, h.keys⟩

/-- What a fetch finds is served, under its location without a fragment. -/
lemma mem_of_fetch (h : Within s pool d f) (hs : Serves s pool)
    (hl : '#' ∉ location.toList ∨ location ∈ pool)
    (hf : f.fetch location headers .reuse = ((place, some document), g)) : location ∈ pool := by
  rcases hl with hl | hl
  · obtain ⟨-, earlier, sent, hread⟩ := h.known.faithful.consult (Location.stripFragment location)
      headers
    have hdocument : (f.fetch location headers .reuse).1.2 = some document := by rw [hf]
    rw [Fetcher.fetch_reuse, hread, h.source, Location.stripFragment_of_not_mem hl] at hdocument
    cases hanswer : s.answer earlier ⟨location, sent⟩ with
    | none => simp [hanswer, Fetcher.readOf] at hdocument
    | some raw => exact hs earlier ⟨location, sent⟩ (by rw [hanswer]; rfl)
  · exact hl

lemma found (h : Within s pool d f) (hs : Serves s pool)
    (hl : '#' ∉ location.toList ∨ location ∈ pool)
    (hf : f.fetch location headers .reuse = ((place, some document), g)) :
    location ∈ pool ∧ Within s pool (Composition.found d location document) g := by
  have hmem := h.mem_of_fetch hs hl hf
  have hdocument : (f.fetch location headers .reuse).1.2 = some document := by rw [hf]
  have hfetch := h.fetch location headers
  rw [hf] at hfetch
  refine ⟨hmem, hfetch.known.found (Fetcher.wellKeyed_of_fetch h.known.faithful hdocument),
    hfetch.source, ?_⟩
  rw [resolved_found, Table.keys_append]
  exact List.append_subset.2 ⟨h.keys, List.cons_subset.2 ⟨hmem, List.nil_subset _⟩⟩

end Within

/-- Following stays within the pool, and reaches just what it follows. -/
lemma Follows.within (h : Follows m headers locations d f walked e g) (hs : Serves s pool)
    (hw : Within s pool d f) (hl : ∀ v ∈ locations, '#' ∉ v.toList ∨ v ∈ pool) :
    Within s pool e g ∧ walked ⊆ pool ∧ e.reached = d.reached ++ walked := by
  induction h with
  | done => exact ⟨hw, List.nil_subset _, (List.append_nil _).symm⟩
  | again _ _ _ ih => exact ih hw (List.forall_mem_cons.1 hl).2
  | @kept location rest inner walked document d d' e f f' g hk hn _ _ ihinner ihrest =>
    obtain ⟨hlocation, hrest⟩ := List.forall_mem_cons.1 hl
    have houtgoing : ∀ v ∈ outgoing m location location document, '#' ∉ v.toList ∨ v ∈ pool :=
      fun v hv => .inl (hash_not_mem_of_mem_outgoing hv)
    obtain ⟨hw', hinner, hreached'⟩ := ihinner (hw.addReached hk) houtgoing
    obtain ⟨hw'', hwalked, hreached⟩ := ihrest hw' hrest
    refine ⟨hw'', ?_, ?_⟩
    · exact List.cons_subset.2 ⟨hw.keys (Table.mem_keys_of_get? hk),
        List.append_subset.2 ⟨hinner, hwalked⟩⟩
    · rw [hreached, hreached', reached_addReached hn]
      simp
  | circular _ _ _ ih => exact ih hw (List.forall_mem_cons.1 hl).2
  | @missing location place rest walked d e f f' g hk hp hf _ ih =>
    have hfetch := hw.fetch location headers
    rw [hf] at hfetch
    rw [leave_markPending hp] at ih
    exact ih hfetch (List.forall_mem_cons.1 hl).2
  | @found location place rest inner walked document d d' e f f' f'' g hk hp hf _ _ ihinner ihrest =>
    obtain ⟨hlocation, hrest⟩ := List.forall_mem_cons.1 hl
    obtain ⟨hmem, hfound⟩ := hw.found hs hlocation hf
    have houtgoing : ∀ v ∈ outgoing m location place document, '#' ∉ v.toList ∨ v ∈ pool :=
      fun v hv => .inl (hash_not_mem_of_mem_outgoing hv)
    obtain ⟨hw', hinner, hreached'⟩ := ihinner hfound houtgoing
    obtain ⟨hw'', hwalked, hreached⟩ := ihrest (hw'.leave location) hrest
    refine ⟨hw'', List.cons_subset.2 ⟨hmem, List.append_subset.2 ⟨hinner, hwalked⟩⟩, ?_⟩
    have hleave : (d'.leave location).reached = d'.reached := rfl
    rw [hreached, hleave, hreached', reached_found (hw.known.not_mem_reached hk)]
    simp

/-- Following ends: each location that is followed is one of the pool that was not reached. -/
lemma exists_follows (m : Model) (headers : Headers) (hs : Serves s pool) (hw : Within s pool d f)
    (hl : ∀ v ∈ locations, '#' ∉ v.toList ∨ v ∈ pool) :
    ∃ walked e g, Follows m headers locations d f walked e g := by
  -- A location that is followed is no longer to be reached, neither for what it leads to nor for
  -- what comes after it.
  induction hc : unreached pool d using Nat.strong_induction_on generalizing locations d f with
  | _ count ihcount =>
    have hinto : ∀ {v context : String} {document : Value} {d₁ : Dependencies} {f₁ : Fetcher},
        v ∈ pool → v ∉ d.reached → d₁.reached = d.reached ++ [v] → Within s pool d₁ f₁ →
        ∃ inner d' f', Follows m headers (outgoing m v context document) d₁ f₁ inner d' f' ∧
          Within s pool d' f' ∧ ∀ e, e.reached = d'.reached → unreached pool e < count := by
      intro v context document d₁ f₁ hv hn hreached hw₁
      have hplain : ∀ w ∈ outgoing m v context document, '#' ∉ w.toList ∨ w ∈ pool :=
        fun w hw => .inl (hash_not_mem_of_mem_outgoing hw)
      have hless : unreached pool d₁ < count :=
        hc ▸ unreached_lt hv hn (hreached ▸ List.Subset.refl _)
      obtain ⟨inner, d', f', hinner⟩ := ihcount _ hless hw₁ hplain rfl
      obtain ⟨hw', -, hreached'⟩ := hinner.within hs hw₁ hplain
      refine ⟨inner, d', f', hinner, hw', fun e he => hc ▸ unreached_lt hv hn ?_⟩
      rw [he, hreached', hreached]
      exact List.subset_append_left _ _
    induction locations generalizing f with
    | nil => exact ⟨[], d, f, .done⟩
    | cons location rest ihrest =>
      obtain ⟨hlocation, hrest⟩ := List.forall_mem_cons.1 hl
      cases hk : d.resolved.get? location with
      | some document =>
        by_cases hm : location ∈ d.reached
        · obtain ⟨walked, e, g, h⟩ := ihrest hw hrest
          exact ⟨walked, e, g, .again hk hm h⟩
        · obtain ⟨inner, d', f', hinner, hw', hless⟩ := hinto
            (hw.keys (Table.mem_keys_of_get? hk)) hm (reached_addReached hm) (hw.addReached hk)
          obtain ⟨walked, e, g, h⟩ := ihcount _ (hless d' rfl) hw' hrest rfl
          exact ⟨_, e, g, .kept hk hm hinner h⟩
      | none =>
        by_cases hp : location ∈ d.pending
        · obtain ⟨walked, e, g, h⟩ := ihrest hw hrest
          exact ⟨walked, e, g, .circular hk hp h⟩
        · have hfetch := hw.fetch location headers
          obtain ⟨⟨place, document⟩, f', hf⟩ :
              ∃ read f', f.fetch location headers .reuse = (read, f') := ⟨_, _, rfl⟩
          rw [hf] at hfetch
          cases document with
          | none =>
            obtain ⟨walked, e, g, h⟩ := ihrest hfetch hrest
            rw [← leave_markPending hp] at h
            exact ⟨walked, e, g, .missing hk hp hf h⟩
          | some document =>
            obtain ⟨hmem, hfound⟩ := hw.found hs hlocation hf
            have hn := hw.known.not_mem_reached hk
            obtain ⟨inner, d', f'', hinner, hw', hless⟩ :=
              hinto hmem hn (reached_found hn) hfound
            obtain ⟨walked, e, g, h⟩ :=
              ihcount _ (hless (d'.leave location) rfl) (hw'.leave location) hrest rfl
            exact ⟨_, e, g, .found hk hp hf hinner h⟩

/-- What following locations has left of what was known before: each location that was followed is
reached for the first time, the marks are the same, and the documents kept before are kept. -/
structure Restores (before : Dependencies) (walked : List String) (after : Dependencies) :
    Prop where
  nodup : walked.Nodup
  reached : after.reached = before.reached ++ walked
  known : after.reached ⊆ after.resolved.keys
  pending : after.pending = before.pending
  resolved : before.resolved <+: after.resolved

/-- Following some locations comes to an end, whichever way it is gone about: to this one. -/
def EndsIn (m : Model) (headers : Headers) (locations : List String)
    (before : Dependencies × Fetcher) (walked : List String) (after : Dependencies × Fetcher) :
    Prop :=
  ∀ w e g, Follows m headers locations before.1 before.2 w e g ↔ w = walked ∧ (e, g) = after

/-- A walk that may enter more locations than there are in the pool is what following ends in. -/
lemma endsIn_walk (m : Model) (headers : Headers) (hs : Serves s pool) (hw : Within s pool d f)
    (hl : ∀ v ∈ locations, '#' ∉ v.toList ∨ v ∈ pool) {bound : Nat} (hb : pool.length < bound) :
    ∃ walked, EndsIn m headers locations (d, f) walked
        (walk m headers bound (locations.map .enter) d f) ∧
      Restores d walked (walk m headers bound (locations.map .enter) d f).1 := by
  have hend : ∀ {walked e g}, Follows m headers locations d f walked e g →
      walk m headers bound (locations.map .enter) d f = (e, g) := by
    intro walked e g h
    obtain ⟨hwithin, hwalked, hreached⟩ := h.within hs hw hl
    have hnodup : walked.Nodup := (List.nodup_append.1 (hreached ▸ hwithin.known.nodup)).2.1
    have hlength : walked.length ≤ pool.length := (hnodup.subperm hwalked).length_le
    obtain ⟨left, rfl⟩ : ∃ left, bound = walked.length + left + 1 :=
      ⟨bound - walked.length - 1, by omega⟩
    have hwalk := h.walk_eq left []
    rw [List.append_nil] at hwalk
    rw [hwalk, walk]
  obtain ⟨walked, e, g, h⟩ := exists_follows m headers hs hw hl
  obtain ⟨hwithin, -, hreached⟩ := h.within hs hw hl
  rw [hend h]
  refine ⟨walked, fun w e' g' => ⟨fun h' => ?_, ?_⟩, ?_⟩
  · have hsame := (hend h').symm.trans (hend h)
    obtain ⟨rfl, rfl⟩ := Prod.mk.inj hsame
    obtain ⟨-, -, hreached'⟩ := h'.within hs hw hl
    exact ⟨List.append_cancel_left (hreached'.symm.trans hreached), rfl⟩
  · rintro ⟨rfl, hsame⟩
    obtain ⟨rfl, rfl⟩ := Prod.mk.inj hsame
    exact h
  · exact ⟨(List.nodup_append.1 (hreached ▸ hwithin.known.nodup)).2.1, hreached,
      hwithin.known.reached, h.pending_eq, h.resolved_prefix⟩

lemma source_walk (bound : Nat) (visits : List Visit) :
    (walk m headers bound visits d f).2.source = f.source := by
  refine walk_preserves (P := fun _ g => g.source = f.source) (fun _ _ _ h => h) ?_ bound visits rfl
  intro d g location h
  unfold enter
  split
  · split <;> exact h
  · split
    · exact h
    · dsimp only
      split <;> exact Fetcher.source_fetch.trans h

lemma source_fetcher_run (known : Dependencies × Fetcher) (uses : List Use) :
    (run known uses).2.source = known.2.source := by
  induction uses generalizing known with
  | nil => rfl
  | cons use uses ih =>
    refine (ih (after known use)).trans ?_
    cases use with
    | compose => exact source_walk _ _
    | resolve => exact source_walk _ _
    | markPending => rfl
    | forget => rfl
    | fetcher use => exact Fetcher.source_after use

lemma resolved_prefix_walk (bound : Nat) (visits : List Visit) :
    d.resolved <+: (walk m headers bound visits d f).1.resolved := by
  refine walk_preserves (P := fun e _ => d.resolved <+: e.resolved) (fun _ _ _ h => h) ?_ bound
    visits List.prefix_rfl
  intro e g location h
  unfold enter
  split
  · split
    · exact h
    · rwa [Dependencies.resolved_addReached]
  · split
    · exact h
    · dsimp only
      split
      · exact h
      · rw [Dependencies.resolved_addReached, Dependencies.resolved_markPending]
        exact h.trans (List.prefix_append _ _)

/-- As long as nothing is forgotten, the documents kept stay as they are. -/
lemma resolved_prefix_run (known : Dependencies × Fetcher) {uses : List Use}
    (hu : .forget ∉ uses) : known.1.resolved <+: (run known uses).1.resolved := by
  induction uses generalizing known with
  | nil => exact List.prefix_rfl
  | cons use uses ih =>
    rw [List.mem_cons, not_or] at hu
    refine List.IsPrefix.trans ?_ (ih (after known use) hu.2)
    cases use with
    | compose => exact resolved_prefix_walk (d := { known.1 with reached := [] }) _ _
    | resolve => exact resolved_prefix_walk _ _
    | markPending => rw [after, Dependencies.resolved_markPending]
    | forget => exact absurd rfl hu.1
    | fetcher => exact List.prefix_rfl

/-- Whatever a resolver and its fetcher were used for before, composing an entry and following a
reference come to an end over a source that serves finitely many locations. Each location is
followed once at most, the marks are afterwards what they were before, each location reached has its
document kept, and no document that is kept changes or goes until all is forgotten. -/
theorem resolution_ends {s : Source} (hb : s.Bounded) (policy : ParsePolicy) (uses : List Use) :
    let known := run (.start, .start s policy) uses
    let cleared : Dependencies := { known.1 with reached := [] }
    (∀ (m : Model) (headers : Headers) (location : String) (entry : Value),
      let result := compose m headers location entry known.1 known.2
      ∃ walked,
        EndsIn m headers (roots m location (seed m (Address.inModel m location) entry))
          (cleared, known.2) walked result.2 ∧
        Restores cleared walked result.2.1) ∧
      (∀ (m : Model) (headers : Headers) (location : String),
        let result := resolve m headers location known.1 known.2
        ∃ walked, EndsIn m headers [location] known walked result.2 ∧
          Restores known.1 walked result.2.1) ∧
      known.1.reached ⊆ known.1.resolved.keys ∧
      ∀ more : List Use, .forget ∉ more → known.1.resolved <+: (run known more).1.resolved := by
  intro known cleared
  obtain ⟨served, hlength, hserved⟩ := hb
  have hknown : Known known.1 known.2 := Known.run (.start (Fetcher.faithful_start s policy)) uses
  have hsource : known.2.source = s := source_fetcher_run _ uses
  have hserves : ∀ other, Serves s (served ++ known.1.resolved.keys ++ other) := by
    intro other earlier request h
    exact List.mem_append_left _ (List.mem_append_left _ (hserved earlier request h))
  have hkeys : ∀ other, known.1.resolved.keys ⊆ served ++ known.1.resolved.keys ++ other := by
    intro other v hv
    exact List.mem_append_left _ (List.mem_append_right _ hv)
  have hbound : ∀ other : List String, other.length ≤ 1 →
      (served ++ known.1.resolved.keys ++ other).length < bound known.1 known.2 := by
    intro other ho
    rw [List.length_append, List.length_append, Table.keys, List.length_map, bound, hsource]
    omega
  refine ⟨?_, ?_, hknown.reached, fun more hm => resolved_prefix_run known hm⟩
  · intro m headers location entry
    exact endsIn_walk m headers (hserves []) ⟨hknown.clearReached, hsource, hkeys []⟩
      (fun v hv => .inl (mem_roots.1 hv).hash_not_mem) (hbound [] (by simp))
  · intro m headers location
    refine endsIn_walk m headers (hserves [location]) ⟨hknown, hsource, hkeys [location]⟩ ?_
      (hbound [location] (by simp))
    intro v hv
    exact .inr (List.mem_append_right _ hv)

/-- One of two documents that refer to each other is marked from outside, and a location that does
not load was fetched; the other document is asked for with a fragment. -/
theorem resolution_ends_marked :
    let m : Model := ⟨[⟨"groups", "group", []⟩], .null⟩
    let known := run (.start, .start circle .strict)
      [.markPending "http://h/groups/b", .fetcher (.fetch "http://h/none" [] .once)]
    let result := resolve m [] "http://h/groups/a#x" known.1 known.2
    circle.Bounded ∧ result.2.1.pending = ["http://h/groups/b"] ∧
      ∃ walked, EndsIn m [] ["http://h/groups/a#x"] known walked result.2 ∧
        Restores known.1 walked result.2.1 := by
  intro m known result
  have hb : circle.Bounded := Source.bounded_ofDocuments _
  obtain ⟨-, hresolve, -⟩ := resolution_ends hb .strict
    [.markPending "http://h/groups/b", .fetcher (.fetch "http://h/none" [] .once)]
  obtain ⟨walked, hends, hrestores⟩ := hresolve m [] "http://h/groups/a#x"
  exact ⟨hb, hrestores.pending, walked, hends, hrestores⟩

end Registry.Composition
