import Registry.Proofs.FetcherHistory
import Registry.Proofs.UrlFragment

/-!
# What a composition reaches

The references of an entry are followed depth first, with the documents found, the locations being
followed and the locations reached kept apart. Whatever cycles the references form, the locations
reached are those that load and to which the entry leads through locations that load.
-/

namespace Registry.Composition

/-- A location that the content of an entry leads to: it is not the entry's own, and the content does
not hold the resource there already. -/
def IsRoot (m : Model) (entryLocation : String) (composed : Fields) (v : String) : Prop :=
  ∃ reference ∈ Discovery.references m (.mapping composed),
    (Address.inModel m entryLocation).locate? reference = some v ∧
      v ≠ Location.stripFragment entryLocation ∧ isPresent m composed v = false

/-- The document that `u` loads as refers to another location `v`, seen from where it was found. -/
def Refers (m : Model) (load : String → CachedRead) (u v : String) : Prop :=
  ∃ document, (load u).document = some document ∧
    ∃ reference ∈ Discovery.references m document,
      (Address.inModel m (load u).location).locate? reference = some v ∧ v ≠ u

/-- A location loads and is led to by `start` through locations that load. -/
inductive Reaches (m : Model) (load : String → CachedRead) (start : String → Prop) :
    String → Prop where
  | root {v : String} (hv : start v) (hl : (load v).document.isSome) : Reaches m load start v
  | step {u v : String} (hu : Reaches m load start u) (he : Refers m load u v)
      (hl : (load v).document.isSome) : Reaches m load start v

variable {m : Model} {load : String → CachedRead} {start : String → Prop} {headers : Headers}
  {d : Dependencies} {f : Fetcher} {stack : List Visit} {location u v : String}

lemma mem_roots {entryLocation : String} {composed : Fields} :
    v ∈ roots m entryLocation composed ↔ IsRoot m entryLocation composed v := by
  simp only [roots, IsRoot, List.mem_filter, List.mem_filterMap, Bool.and_eq_true,
    decide_eq_true_eq, Bool.not_eq_true']
  constructor
  · rintro ⟨⟨reference, hr, hv⟩, hne, hp⟩
    exact ⟨reference, hr, hv, hne, hp⟩
  · rintro ⟨reference, hr, hv, hne, hp⟩
    exact ⟨⟨reference, hr, hv⟩, hne, hp⟩

lemma enter_mem_nested {context : String} {document : Value} :
    .enter v ∈ nested m location context document ↔
      ∃ reference ∈ Discovery.references m document,
        (Address.inModel m context).locate? reference = some v ∧ v ≠ location := by
  simp only [nested, List.mem_map, List.mem_filter, List.mem_filterMap, decide_eq_true_eq,
    Visit.enter.injEq, exists_eq_right]
  constructor
  · rintro ⟨⟨reference, hr, hv⟩, hne⟩
    exact ⟨reference, hr, hv, hne⟩
  · rintro ⟨reference, hr, hv, hne⟩
    exact ⟨⟨reference, hr, hv⟩, hne⟩

lemma IsRoot.hash_not_mem {entryLocation : String} {composed : Fields}
    (h : IsRoot m entryLocation composed v) : '#' ∉ v.toList := by
  obtain ⟨reference, -, hv, -⟩ := h
  exact Address.hash_not_mem_of_locate? hv

lemma Refers.hash_not_mem (h : Refers m load u v) : '#' ∉ v.toList := by
  obtain ⟨document, -, reference, -, hv, -⟩ := h
  exact Address.hash_not_mem_of_locate? hv

/-- A location that may be visited next: `start` or a reached location leads to it. -/
def Candidate (m : Model) (load : String → CachedRead) (start : String → Prop) (v : String) : Prop :=
  start v ∨ ∃ u, Reaches m load start u ∧ Refers m load u v

lemma Candidate.reaches (h : Candidate m load start v) (hl : (load v).document.isSome) :
    Reaches m load start v := by
  rcases h with hv | ⟨u, hu, he⟩
  · exact .root hv hl
  · exact .step hu he hl

/-- The locations on the stack that are still to be entered, and the state of a walk that began
with nothing known. -/
structure Walking (m : Model) (load : String → CachedRead) (start : String → Prop)
    (stack : List Visit) (d : Dependencies) : Prop where
  nodup : d.reached.Nodup
  keys : d.resolved.keys = d.reached
  documents : ∀ e ∈ d.resolved, (load e.1).document = some e.2
  pending : d.pending ⊆ d.reached
  sound : ∀ u ∈ d.reached, Reaches m load start u
  candidates : ∀ v, .enter v ∈ stack → Candidate m load start v
  roots : ∀ v, start v → (load v).document.isSome → v ∈ d.reached ∨ .enter v ∈ stack
  closed : ∀ u ∈ d.reached, ∀ v, Refers m load u v → (load v).document.isSome →
    v ∈ d.reached ∨ .enter v ∈ stack

namespace Walking

/-- A visit is over once its location is reached, cannot be loaded or is left. -/
lemma drop {visit : Visit} (h : Walking m load start (visit :: stack) d)
    (hv : ∀ v, visit = .enter v → (load v).document.isSome → v ∈ d.reached) :
    Walking m load start stack d := by
  have hstack : ∀ v, (load v).document.isSome → v ∈ d.reached ∨ .enter v ∈ visit :: stack →
      v ∈ d.reached ∨ .enter v ∈ stack := by
    intro v hl hm
    rcases hm with hm | hm
    · exact .inl hm
    · rcases List.mem_cons.1 hm with he | hm
      · exact .inl (hv v he.symm hl)
      · exact .inr hm
  exact ⟨h.nodup, h.keys, h.documents, h.pending, h.sound,
    fun v hm => h.candidates v (List.mem_cons_of_mem _ hm),
    fun v hs hl => hstack v hl (h.roots v hs hl),
    fun u hu v he hl => hstack v hl (h.closed u hu v he hl)⟩

lemma leave (h : Walking m load start (.leave location :: stack) d) :
    Walking m load start stack (d.leave location) := by
  have h := h.drop (by simp)
  exact ⟨h.nodup, h.keys, h.documents, fun _ hp => h.pending (List.mem_of_mem_filter hp), h.sound,
    h.candidates, h.roots, h.closed⟩

lemma mem_reached_of_get? (h : Walking m load start stack d) {document : Value}
    (hd : d.resolved.get? location = some document) : location ∈ d.reached :=
  h.keys ▸ Table.mem_keys_of_get? hd

lemma get?_eq_none (h : Walking m load start stack d) (hn : location ∉ d.reached) :
    d.resolved.get? location = none :=
  Table.get?_eq_none_iff.2 (h.keys ▸ hn)

end Walking

lemma reached_addReached (hn : location ∉ d.reached) :
    (d.addReached location).reached = d.reached ++ [location] := by
  unfold Dependencies.addReached
  rw [List.contains_eq_mem, if_neg (by simpa using hn)]

/-- What is known once a location is found to load as a document. -/
def found (d : Dependencies) (location : String) (document : Value) : Dependencies :=
  (Dependencies.markPending { d with resolved := d.resolved ++ [(location, document)] }
    location).addReached location

section found

variable {document : Value}

lemma resolved_found :
    (found d location document).resolved = d.resolved ++ [(location, document)] := by
  rw [found, Dependencies.resolved_addReached, Dependencies.resolved_markPending]

lemma reached_found (hn : location ∉ d.reached) :
    (found d location document).reached = d.reached ++ [location] := by
  have hmarked : location ∉ (Dependencies.markPending
      { d with resolved := d.resolved ++ [(location, document)] } location).reached := by
    rwa [Dependencies.reached_markPending]
  rw [found, reached_addReached hmarked, Dependencies.reached_markPending]

lemma pending_found_subset : (found d location document).pending ⊆ d.pending ++ [location] := by
  rw [found, Dependencies.pending_addReached]
  unfold Dependencies.markPending
  split
  · exact List.subset_append_left _ _
  · exact fun _ => id

end found

lemma Walking.found {document : Value} (h : Walking m load start (.enter location :: stack) d)
    (hn : location ∉ d.reached) (hd : (load location).document = some document) :
    Walking m load start
      (nested m location (load location).location document ++ .leave location :: stack)
      (found d location document) := by
  have hreach : Reaches m load start location :=
    (h.candidates location List.mem_cons_self).reaches (by simp [hd])
  have hnested : ∀ v, .enter v ∈ nested m location (load location).location document ↔
      Refers m load location v := by
    intro v
    rw [enter_mem_nested]
    constructor
    · exact fun hv => ⟨document, hd, hv⟩
    · rintro ⟨other, hother, hv⟩
      rw [hd, Option.some.injEq] at hother
      exact hother ▸ hv
  have hstack : ∀ v, v ∈ d.reached ∨ .enter v ∈ Visit.enter location :: stack →
      v ∈ (Composition.found d location document).reached ∨
        .enter v ∈ nested m location (load location).location document ++ .leave location :: stack := by
    intro v hv
    rw [reached_found hn]
    rcases hv with hv | hv
    · exact .inl (List.mem_append_left _ hv)
    · rcases List.mem_cons.1 hv with he | hv
      · rw [Visit.enter.inj he]
        exact .inl (List.mem_append_right _ List.mem_cons_self)
      · exact .inr (List.mem_append_right _ (List.mem_cons_of_mem _ hv))
  constructor
  case nodup =>
    rw [reached_found hn, ← List.concat_eq_append]
    exact h.nodup.concat hn
  case keys =>
    rw [resolved_found, reached_found hn, Table.keys_append, h.keys]
    rfl
  case documents =>
    intro e he
    rw [resolved_found] at he
    rcases List.mem_append.1 he with he | he
    · exact h.documents e he
    · rw [List.mem_singleton.1 he]
      exact hd
  case pending =>
    rw [reached_found hn]
    refine List.Subset.trans pending_found_subset ?_
    exact List.append_subset.2 ⟨List.Subset.trans h.pending (List.subset_append_left _ _),
      List.subset_append_right _ _⟩
  case sound =>
    intro u hu
    rw [reached_found hn] at hu
    rcases List.mem_append.1 hu with hu | hu
    · exact h.sound u hu
    · exact List.mem_singleton.1 hu ▸ hreach
  case candidates =>
    intro v hv
    rcases List.mem_append.1 hv with hv | hv
    · exact .inr ⟨location, hreach, (hnested v).1 hv⟩
    · rcases List.mem_cons.1 hv with he | hv
      · simp at he
      · exact h.candidates v (List.mem_cons_of_mem _ hv)
  case roots =>
    intro v hs hl
    exact hstack v (h.roots v hs hl)
  case closed =>
    intro u hu v he hl
    rw [reached_found hn] at hu
    rcases List.mem_append.1 hu with hu | hu
    · exact hstack v (h.closed u hu v he hl)
    · rw [List.mem_singleton.1 hu] at he
      exact .inr (List.mem_append_left _ ((hnested v).2 he))

section entering

variable {document : Value} {place : String} {f' : Fetcher}

lemma isPending_iff : d.isPending location = true ↔ location ∈ d.pending := by
  rw [Dependencies.isPending, List.contains_eq_mem, decide_eq_true_eq]

lemma enter_of_reached (hk : d.resolved.get? location = some document) (hm : location ∈ d.reached) :
    enter m headers location d f = (d, f, none) := by
  unfold enter
  rw [hk]
  dsimp only
  rw [List.contains_eq_mem, if_pos (by simpa using hm)]

lemma enter_of_kept (hk : d.resolved.get? location = some document) (hn : location ∉ d.reached) :
    enter m headers location d f =
      (d.addReached location, f, some (nested m location location document)) := by
  unfold enter
  rw [hk]
  dsimp only
  rw [List.contains_eq_mem, if_neg (by simpa using hn)]

lemma enter_of_pending (hk : d.resolved.get? location = none) (hp : location ∈ d.pending) :
    enter m headers location d f = (d, f, none) := by
  unfold enter
  rw [hk]
  dsimp only
  rw [if_pos (isPending_iff.2 hp)]

lemma enter_of_missing (hk : d.resolved.get? location = none) (hp : location ∉ d.pending)
    (hf : f.fetch location headers .reuse = ((place, none), f')) :
    enter m headers location d f = (d, f', none) := by
  unfold enter
  rw [hk]
  dsimp only
  rw [if_neg (mt isPending_iff.1 hp), hf]

lemma enter_of_found (hk : d.resolved.get? location = none) (hp : location ∉ d.pending)
    (hf : f.fetch location headers .reuse = ((place, some document), f')) :
    enter m headers location d f = (found d location document, f',
      some (nested m location place document ++ [.leave location])) := by
  unfold enter
  rw [hk]
  dsimp only
  rw [if_neg (mt isPending_iff.1 hp), hf]
  rfl

end entering

/-- A fetcher over a source that answers by the location alone, with nothing else kept. -/
structure Reading (s : Source) (policy : ParsePolicy) (f : Fetcher) : Prop where
  source : f.source = s
  policy : f.policy = policy
  faithful : f.Faithful

lemma reading_run (s : Source) (policy : ParsePolicy) (uses : List Fetcher.Use) :
    Reading s policy ((Fetcher.start s policy).run uses) :=
  ⟨Fetcher.source_run uses, Fetcher.policy_run uses, (Fetcher.faithful_start s policy).run uses⟩

section enter

variable {s : Source} {policy : ParsePolicy}

lemma Reading.fetch (h : Reading s policy f) (location : String) (headers : Headers) :
    Reading s policy (f.fetch location headers .reuse).2 :=
  ⟨Fetcher.source_fetch.trans h.source, Fetcher.policy_fetch.trans h.policy,
    h.faithful.fetch location headers .reuse⟩

/-- A fetch gives what the location loads as. -/
lemma Reading.fetch_eq (hs : s.Stable) (h : Reading s policy f) (location : String)
    (headers : Headers) :
    f.fetch location headers .reuse =
      (((s.load policy location).location, (s.load policy location).document),
        (f.fetch location headers .reuse).2) := by
  have hfetch := Fetcher.fetch_reuse_of_stable h.faithful (h.source ▸ hs) location headers
  rw [h.source, h.policy] at hfetch
  rw [← hfetch]

lemma enter_of_mem (hw : Walking m load start stack d) (hm : location ∈ d.reached) :
    enter m headers location d f = (d, f, none) := by
  have hkeys := hm
  rw [← hw.keys] at hkeys
  obtain ⟨document, hd⟩ := Option.ne_none_iff_exists'.1 fun hn => Table.get?_eq_none_iff.1 hn hkeys
  exact enter_of_reached hd hm

lemma enter_of_not_mem (hs : s.Stable) (hf : Reading s policy f)
    (hw : Walking m (s.load policy) start stack d) (hn : location ∉ d.reached) :
    enter m headers location d f =
      match (s.load policy location).document with
      | none => (d, (f.fetch location headers .reuse).2, none)
      | some document => (found d location document, (f.fetch location headers .reuse).2,
          some (nested m location (s.load policy location).location document ++
            [.leave location])) := by
  have hk := hw.get?_eq_none hn
  have hp : location ∉ d.pending := fun hp => hn (hw.pending hp)
  have hfetch := hf.fetch_eq hs location headers
  cases hd : (s.load policy location).document with
  | none =>
    rw [hd] at hfetch
    exact enter_of_missing hk hp hfetch
  | some document =>
    rw [hd] at hfetch
    exact enter_of_found hk hp hfetch

/-- How many of the served locations are still to be reached. -/
def unreached (served : List String) (d : Dependencies) : Nat :=
  (served.filter fun v => !d.reached.contains v).length

/-- Reaching a served location for the first time leaves fewer to be reached. -/
lemma unreached_lt {served : List String} {e : Dependencies} (hm : location ∈ served)
    (hn : location ∉ d.reached) (he : d.reached ++ [location] ⊆ e.reached) :
    unreached served e < unreached served d := by
  obtain ⟨hold, hnew⟩ := List.append_subset.1 he
  have hreached : location ∈ e.reached := hnew List.mem_cons_self
  have hle : ∀ served : List String, unreached served e ≤ unreached served d := by
    intro served
    refine (List.monotone_filter_right served fun v hv => ?_).length_le
    simp only [Bool.not_eq_true', List.contains_eq_mem, decide_eq_false_iff_not] at hv ⊢
    exact fun hd => hv (hold hd)
  obtain ⟨before, after, rfl⟩ := List.append_of_mem hm
  have hsplit : ∀ d, unreached (before ++ location :: after) d =
      unreached before d + unreached [location] d + unreached after d := by
    intro d
    simp only [unreached, ← List.length_append, ← List.filter_append]
    simp
  have hbefore := hle before
  have hafter := hle after
  have hfirst : unreached [location] d = 1 := by simp [unreached, hn]
  have hlast : unreached [location] e = 0 := by simp [unreached, hreached]
  rw [hsplit, hsplit]
  omega

/-- A walk that may enter as many locations as are served ends with nothing left to visit. -/
theorem walking_walk (hs : s.Stable) {served : List String}
    (hserved : ∀ v, '#' ∉ v.toList → (s.load policy v).document.isSome → v ∈ served)
    (hstart : ∀ v, start v → '#' ∉ v.toList) {bound : Nat} (hf : Reading s policy f)
    (hw : Walking m (s.load policy) start stack d) (hb : unreached served d < bound) :
    Walking m (s.load policy) start [] (walk m headers bound stack d f).1 ∧
      Reading s policy (walk m headers bound stack d f).2 := by
  have hcandidate : ∀ {v stack d}, Walking m (s.load policy) start (.enter v :: stack) d →
      '#' ∉ v.toList := by
    intro v stack d hw
    rcases hw.candidates v List.mem_cons_self with hv | ⟨u, -, he⟩
    · exact hstart v hv
    · exact he.hash_not_mem
  -- The number of locations that may still be entered exceeds that of the unreached ones, so it
  -- runs out only when nothing is left to enter.
  fun_induction walk m headers bound stack d f with
  | case1 => exact ⟨hw, hf⟩
  | case2 d f bound location rest ih => exact ih hf hw.leave hb
  | case3 => omega
  | case4 d f bound location rest d' f' heq ih =>
    by_cases hm : location ∈ d.reached
    · rw [enter_of_mem hw hm, Prod.mk.injEq, Prod.mk.injEq] at heq
      obtain ⟨rfl, rfl, -⟩ := heq
      refine ih hf (hw.drop fun v hv _ => ?_) hb
      exact Visit.enter.inj hv ▸ hm
    · rw [enter_of_not_mem hs hf hw hm] at heq
      cases hd : (s.load policy location).document with
      | some document => simp [hd] at heq
      | none =>
        rw [hd, Prod.mk.injEq, Prod.mk.injEq] at heq
        obtain ⟨rfl, rfl, -⟩ := heq
        refine ih (hf.fetch location headers) (hw.drop fun v hv hl => ?_) hb
        rw [← Visit.enter.inj hv, hd] at hl
        exact absurd hl (by decide)
  | case5 d f bound location rest d' f' more heq ih =>
    by_cases hm : location ∈ d.reached
    · rw [enter_of_mem hw hm] at heq
      simp at heq
    · rw [enter_of_not_mem hs hf hw hm] at heq
      cases hd : (s.load policy location).document with
      | none => simp [hd] at heq
      | some document =>
        rw [hd, Prod.mk.injEq, Prod.mk.injEq, Option.some.injEq] at heq
        obtain ⟨rfl, rfl, rfl⟩ := heq
        have hserves := hserved location (hcandidate hw) (by simp [hd])
        have hless : unreached served (found d location document) < unreached served d :=
          unreached_lt hserves hm (by rw [reached_found hm]; exact List.Subset.refl _)
        refine ih (hf.fetch location headers) ?_ (by omega)
        rw [List.append_assoc]
        exact hw.found hm hd

end enter

lemma walking_start (roots : List String) :
    Walking m load (· ∈ roots) (roots.map .enter) .start where
  nodup := List.nodup_nil
  keys := rfl
  documents := by simp [Dependencies.start]
  pending := List.nil_subset _
  sound := by simp [Dependencies.start]
  candidates v hv := by
    obtain ⟨u, hu, he⟩ := List.mem_map.1 hv
    exact .inl (Visit.enter.inj he ▸ hu)
  roots v hv _ := .inr (List.mem_map.2 ⟨v, hv, rfl⟩)
  closed := by simp [Dependencies.start]

/-- When nothing is left to visit, the locations reached are the reachable ones. -/
lemma Walking.mem_reached_iff (h : Walking m load start [] d) :
    v ∈ d.reached ↔ Reaches m load start v := by
  constructor
  · exact h.sound v
  · intro hv
    induction hv with
    | root hv hl => exact (h.roots _ hv hl).resolve_right (by simp)
    | step _ he hl ih => exact (h.closed _ ih _ he hl).resolve_right (by simp)

lemma Walking.get?_resolved_iff {document : Value} (h : Walking m load start [] d) :
    d.resolved.get? v = some document ↔
      v ∈ d.reached ∧ (load v).document = some document := by
  constructor
  · intro hd
    exact ⟨h.mem_reached_of_get? hd, h.documents _ (Table.mem_of_get? hd)⟩
  · rintro ⟨hv, hl⟩
    rw [← h.keys] at hv
    obtain ⟨other, hd⟩ := Option.ne_none_iff_exists'.1 fun hn => Table.get?_eq_none_iff.1 hn hv
    have hother := h.documents _ (Table.mem_of_get? hd)
    rw [hl] at hother
    rw [hd, hother]

lemma isSome_read_of_load {s : Source} {policy : ParsePolicy} (hv : '#' ∉ v.toList)
    (hl : (s.load policy v).document.isSome) : (s.read v).isSome := by
  have hkey := Location.stripFragment_of_not_mem hv
  unfold Source.load at hl
  rw [hkey] at hl
  cases hr : s.read v with
  | some raw => rfl
  | none => simp [hr, Fetcher.readOf] at hl

/-- A fresh resolver reaches exactly the locations that load and that the entry leads to through
locations that load, and keeps each with the document it loads as, whatever its fetcher was used for
before. -/
theorem compose_reaches_exactly (m : Model) (headers : Headers) {s : Source} (hs : s.Stable)
    (hb : s.Bounded) (policy : ParsePolicy) (uses : List Fetcher.Use) (entryLocation : String)
    (entry : Value) :
    let d := (compose m headers entryLocation entry .start
      ((Fetcher.start s policy).run uses)).2.1
    let start := IsRoot m entryLocation (seed m (Address.inModel m entryLocation) entry)
    d.reached.Nodup ∧
      (∀ v, v ∈ d.reached ↔ Reaches m (s.load policy) start v) ∧
      (∀ v, v ∈ d.resolved.keys ↔ Reaches m (s.load policy) start v) ∧
      ∀ v document, d.resolved.get? v = some document ↔
        Reaches m (s.load policy) start v ∧ (s.load policy v).document = some document := by
  intro d start
  obtain ⟨served, hlength, hanswers⟩ := hb
  let f := (Fetcher.start s policy).run uses
  have hf : Reading s policy f := reading_run s policy uses
  have hserved : ∀ v, '#' ∉ v.toList → (s.load policy v).document.isSome → v ∈ served :=
    fun v hv hl => hanswers [] ⟨v, []⟩ (isSome_read_of_load hv hl)
  have hroots : (· ∈ roots m entryLocation (seed m (Address.inModel m entryLocation) entry)) =
      start := by
    funext v
    exact propext mem_roots
  have hbound : unreached served .start < bound .start f := by
    have hle : unreached served .start ≤ served.length := List.length_filter_le _ _
    have hsource : f.source = s := hf.source
    unfold bound
    rw [hsource]
    omega
  have hw : Walking m (s.load policy)
      (· ∈ roots m entryLocation (seed m (Address.inModel m entryLocation) entry)) [] d :=
    (walking_walk hs hserved (fun v hv => (mem_roots.1 hv).hash_not_mem) hf (walking_start _)
      hbound).1
  rw [hroots] at hw
  refine ⟨hw.nodup, fun v => hw.mem_reached_iff, fun v => ?_, fun v document => ?_⟩
  · rw [hw.keys]
    exact hw.mem_reached_iff
  · rw [hw.get?_resolved_iff, hw.mem_reached_iff]

/-- Two documents that refer to each other, found by way of a location that redirects. -/
def circle : Source := .ofDocuments [
  ("http://h/groups/a", ⟨"http://h/groups/a", "\x7b\"url\": \"http://h/groups/b\"\x7d", []⟩),
  ("http://h/groups/b", ⟨"http://h/groups/b", "\x7b\"url\": \"http://h/groups/a\"\x7d", []⟩),
  ("http://h/start", ⟨"http://h/groups/a", "\x7b\"url\": \"http://h/groups/b\"\x7d", []⟩)]

theorem compose_reaches_circle :
    let m : Model := ⟨[⟨"groups", "group", []⟩], .null⟩
    let entry : Value := .mapping [("groups", .mapping []), ("url", .string "http://h/groups/a")]
    let uses := [Fetcher.Use.fetch "http://h/start" [] .once, .clearHandled]
    let d := (compose m [] "http://h/" entry .start
      ((Fetcher.start circle .strict).run uses)).2.1
    let start := IsRoot m "http://h/" (seed m (Address.inModel m "http://h/") entry)
    circle.Stable ∧ circle.Bounded ∧ d.reached.Nodup ∧
      (∀ v, v ∈ d.reached ↔ Reaches m (circle.load .strict) start v) ∧
      (∀ v, v ∈ d.resolved.keys ↔ Reaches m (circle.load .strict) start v) ∧
      ∀ v document, d.resolved.get? v = some document ↔
        Reaches m (circle.load .strict) start v ∧
          (circle.load .strict v).document = some document :=
  have hs := Source.stable_ofDocuments _
  have hb := Source.bounded_ofDocuments _
  ⟨hs, hb, compose_reaches_exactly _ [] hs hb .strict _ _ _⟩

end Registry.Composition
