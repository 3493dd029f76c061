import Registry.Proofs.WellKeyedReading

/-!
# What a fetcher keeps

Whatever a fetcher was used for before, each read that it keeps is one that its source answered. If
the source answers by the location alone, a fetch gives what the location loads as, kept or not.
-/

namespace Registry

namespace Source

/-- The answer for a location, if nothing was asked before. -/
def read (s : Source) (location : String) : Option RawDocument := s.answer [] ⟨location, []⟩

/-- What a location loads as. -/
def load (s : Source) (policy : ParsePolicy) (location : String) : CachedRead :=
  let key := Location.stripFragment location
  Fetcher.readOf policy key (s.read key)

/-- The source serves no more locations than its extent says. -/
def Bounded (s : Source) : Prop :=
  ∃ served : List String, served.length ≤ s.extent ∧
    ∀ earlier request, (s.answer earlier request).isSome → request.location ∈ served

lemma bounded_ofDocuments (documents : Table RawDocument) : (ofDocuments documents).Bounded := by
  refine ⟨documents.keys, ?_, ?_⟩
  · simp [ofDocuments, Table.keys]
  · intro _ request h
    obtain ⟨raw, hraw⟩ := Option.isSome_iff_exists.1 h
    exact Table.mem_keys_of_get? hraw

lemma Stable.answer_eq {s : Source} (hs : s.Stable) (earlier : List Request) (request : Request) :
    s.answer earlier request = s.read request.location := by
  obtain ⟨f, hf⟩ := hs
  rw [read, hf, hf]

end Source

namespace Fetcher

variable {f : Fetcher} {location : String} {headers : Headers} {mode : FetchMode}

/-- What a fetcher can be used for. -/
inductive Use where
  | fetch (location : String) (headers : Headers) (mode : FetchMode)
  | markHandled (location : String)
  | clearHandled
  | setCurrentUrl (location : Option String)
  | reset

/-- The fetcher after a use. -/
def after (f : Fetcher) : Use → Fetcher
  | .fetch location headers mode => (f.fetch location headers mode).2
  | .markHandled location => f.markHandled location
  | .clearHandled => f.clearHandled
  | .setCurrentUrl location => f.setCurrentUrl location
  | .reset => f.reset

/-- The fetcher after some uses in turn. -/
def run (f : Fetcher) (uses : List Use) : Fetcher := uses.foldl after f

@[simp] lemma source_addHandled : (f.addHandled location).source = f.source := by
  unfold addHandled; split <;> rfl

@[simp] lemma policy_addHandled : (f.addHandled location).policy = f.policy := by
  unfold addHandled; split <;> rfl

@[simp] lemma cache_addHandled : (f.addHandled location).cache = f.cache := by
  unfold addHandled; split <;> rfl

@[simp] lemma source_noteCurrent : (f.noteCurrent location).source = f.source := by
  unfold noteCurrent; split <;> rfl

@[simp] lemma policy_noteCurrent : (f.noteCurrent location).policy = f.policy := by
  unfold noteCurrent; split <;> rfl

@[simp] lemma cache_noteCurrent : (f.noteCurrent location).cache = f.cache := by
  unfold noteCurrent; split <;> rfl

@[simp] lemma source_consult : (f.consult location headers).2.source = f.source := by
  unfold consult; split <;> rfl

@[simp] lemma policy_consult : (f.consult location headers).2.policy = f.policy := by
  unfold consult; split <;> rfl

@[simp] lemma source_fetch : (f.fetch location headers mode).2.source = f.source := by
  unfold fetch
  dsimp only
  split
  · rfl
  · split <;> simp

@[simp] lemma policy_fetch : (f.fetch location headers mode).2.policy = f.policy := by
  unfold fetch
  dsimp only
  split
  · rfl
  · split <;> simp

lemma cache_fetch (f : Fetcher) (location : String) (headers : Headers) (mode : FetchMode) :
    (f.fetch location headers mode).2.cache = f.cache ∨
    (f.fetch location headers mode).2.cache =
      (f.consult (Location.stripFragment location) headers).2.cache := by
  unfold fetch
  dsimp only
  split
  · exact .inl rfl
  · split <;> exact .inr (by simp)

/-- A fetch that takes handled documents again gives what the fetcher reads at the location. -/
lemma fetch_reuse : (f.fetch location headers .reuse).1 =
    ((f.consult (Location.stripFragment location) headers).1.location,
      (f.consult (Location.stripFragment location) headers).1.document) := by
  simp [fetch]

/-- Every read that is kept is one that the source answered. -/
def Faithful (f : Fetcher) : Prop :=
  ∀ e ∈ f.cache, ∃ earlier headers,
    e.2 = readOf f.policy e.1 (f.source.answer earlier ⟨e.1, headers⟩)

lemma Faithful.consult (hf : f.Faithful) (key : String) (headers : Headers) :
    (f.consult key headers).2.Faithful ∧ ∃ earlier sent,
      (f.consult key headers).1 = readOf f.policy key (f.source.answer earlier ⟨key, sent⟩) := by
  unfold Fetcher.consult
  split
  · next read hread => exact ⟨hf, hf (key, read) (Table.mem_of_get? hread)⟩
  · refine ⟨?_, f.requests, headers, rfl⟩
    intro e he
    rcases List.mem_append.1 he with he | he
    · exact hf e he
    · rw [List.mem_singleton] at he
      exact ⟨f.requests, headers, by rw [he]⟩

lemma Faithful.fetch (hf : f.Faithful) (location : String) (headers : Headers) (mode : FetchMode) :
    (f.fetch location headers mode).2.Faithful := by
  have hconsult := (hf.consult (Location.stripFragment location) headers).1
  intro e he
  rw [source_fetch, policy_fetch]
  rcases cache_fetch f location headers mode with h | h
  · exact hf e (h ▸ he)
  · have he := hconsult e (h ▸ he)
    rwa [source_consult, policy_consult] at he

lemma faithful_start (s : Source) (policy : ParsePolicy) : (start s policy).Faithful := by
  simp [Faithful, start]

lemma Faithful.after (hf : f.Faithful) (use : Use) : (f.after use).Faithful := by
  cases use with
  | fetch location headers mode => exact hf.fetch location headers mode
  | markHandled location =>
    have hkept : f.after (.markHandled location) =
        f.addHandled (Location.stripFragment location) := rfl
    rw [hkept, Faithful, cache_addHandled, source_addHandled, policy_addHandled]
    exact hf
  | clearHandled => exact hf
  | setCurrentUrl => exact hf
  | reset => simp [Faithful, Fetcher.after, Fetcher.reset]

lemma source_after (use : Use) : (f.after use).source = f.source := by
  cases use <;> simp [after, markHandled, clearHandled, setCurrentUrl, Fetcher.reset]

lemma policy_after (use : Use) : (f.after use).policy = f.policy := by
  cases use <;> simp [after, markHandled, clearHandled, setCurrentUrl, Fetcher.reset]

lemma Faithful.run (hf : f.Faithful) (uses : List Use) : (f.run uses).Faithful := by
  induction uses generalizing f with
  | nil => exact hf
  | cons use uses ih => exact ih (hf.after use)

lemma source_run (uses : List Use) : (f.run uses).source = f.source := by
  induction uses generalizing f with
  | nil => rfl
  | cons use uses ih => exact ih.trans (source_after use)

lemma policy_run (uses : List Use) : (f.run uses).policy = f.policy := by
  induction uses generalizing f with
  | nil => rfl
  | cons use uses ih => exact ih.trans (policy_after use)

/-- From a source that answers by the location alone, a fetch gives what the location loads as. -/
theorem fetch_reuse_of_stable (hf : f.Faithful) (hs : f.source.Stable) (location : String)
    (headers : Headers) :
    (f.fetch location headers .reuse).1 =
      ((f.source.load f.policy location).location, (f.source.load f.policy location).document) := by
  obtain ⟨-, earlier, sent, hread⟩ := hf.consult (Location.stripFragment location) headers
  rw [fetch_reuse, hread, hs.answer_eq]
  rfl

/-- No document that a fetch gives repeats a key. -/
theorem wellKeyed_of_fetch (hf : f.Faithful) {document : Value}
    (h : (f.fetch location headers .reuse).1.2 = some document) : document.WellKeyed := by
  obtain ⟨-, earlier, sent, hread⟩ := hf.consult (Location.stripFragment location) headers
  rw [fetch_reuse, hread] at h
  exact wellKeyed_of_readOf h

end Fetcher

end Registry
