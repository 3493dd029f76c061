import Registry.Proofs.FetcherHistory

/-!
# What a fetcher asks for

An answer of the source is kept under the location that was asked for, and what is kept is not asked
for again. So as long as a fetcher is not reset, its requests and the answers it keeps have the same
locations, in the same order and without repetition, whatever the source answers.
-/

namespace Registry.Fetcher

variable {f g h : Fetcher} {before : List Request} {location : String} {headers : Headers}
  {mode : FetchMode}

/-- What a fetcher can turn into as long as it is not reset. -/
def GoesOn (f g : Fetcher) : Prop := ∃ uses : List Use, .reset ∉ uses ∧ f.run uses = g

namespace GoesOn

lemma refl (f : Fetcher) : f.GoesOn f := ⟨[], List.not_mem_nil, rfl⟩

lemma trans (hfg : f.GoesOn g) (hgh : g.GoesOn h) : f.GoesOn h := by
  obtain ⟨first, hfirst, rfl⟩ := hfg
  obtain ⟨second, hsecond, rfl⟩ := hgh
  refine ⟨first ++ second, ?_, List.foldl_append⟩
  rw [List.mem_append]
  exact fun hm => hm.elim hfirst hsecond

lemma after (hfg : f.GoesOn g) {use : Use} (hu : use ≠ .reset) : f.GoesOn (g.after use) :=
  hfg.trans ⟨[use], by simpa using hu.symm, rfl⟩

lemma fetch (hfg : f.GoesOn g) (location : String) (headers : Headers) (mode : FetchMode) :
    f.GoesOn (g.fetch location headers mode).2 := by
  have huse : Use.fetch location headers mode ≠ .reset := by simp
  exact hfg.after huse

lemma faithful (hfg : f.GoesOn g) (hf : f.Faithful) : g.Faithful := by
  obtain ⟨uses, -, rfl⟩ := hfg
  exact hf.run uses

end GoesOn

@[simp] lemma requests_addHandled : (f.addHandled location).requests = f.requests := by
  unfold addHandled; split <;> rfl

@[simp] lemma requests_noteCurrent : (f.noteCurrent location).requests = f.requests := by
  unfold noteCurrent; split <;> rfl

/-- A fetch asks for what it is given without its fragment, if it asks at all. -/
lemma log_fetch (f : Fetcher) (location : String) (headers : Headers) (mode : FetchMode) :
    let consulted := (f.consult (Location.stripFragment location) headers).2
    let fetched := (f.fetch location headers mode).2
    fetched.cache = f.cache ∧ fetched.requests = f.requests ∨
      fetched.cache = consulted.cache ∧ fetched.requests = consulted.requests := by
  unfold Fetcher.fetch
  dsimp only
  split
  · exact .inl ⟨rfl, rfl⟩
  · split <;> exact .inr (by simp)

/-- The requests that were made after those of `before` are the ones whose answers are kept. -/
structure Logs (before : List Request) (f : Fetcher) : Prop where
  made : ∃ made : List Request, f.requests = made ++ before ∧
    made.map (·.location) = f.cache.keys.reverse
  nodup : f.cache.keys.Nodup
  hash_not_mem : ∀ key ∈ f.cache.keys, '#' ∉ key.toList

namespace Logs

lemma start (s : Source) (policy : ParsePolicy) : Logs [] (start s policy) where
  made := ⟨[], rfl, rfl⟩
  nodup := List.nodup_nil
  hash_not_mem := by simp [Fetcher.start]

lemma reset (f : Fetcher) : Logs f.requests f.reset where
  made := ⟨[], rfl, rfl⟩
  nodup := List.nodup_nil
  hash_not_mem := by simp [Fetcher.reset]

/-- What is not kept yet is asked for and kept. -/
lemma consult (hf : Logs before f) {key : String} (hkey : '#' ∉ key.toList) (headers : Headers) :
    Logs before (f.consult key headers).2 := by
  unfold Fetcher.consult
  cases hread : f.cache.get? key with
  | some read => exact hf
  | none =>
    have hnew : key ∉ f.cache.keys := Table.get?_eq_none_iff.1 hread
    obtain ⟨made, hrequests, hmade⟩ := hf.made
    constructor
    case made =>
      refine ⟨⟨key, headers⟩ :: made, by simp [hrequests], ?_⟩
      simp [Table.keys_append, hmade]
    case nodup =>
      rw [Table.keys_append, Table.keys_cons, Table.keys_nil, ← List.concat_eq_append]
      exact hf.nodup.concat hnew
    case hash_not_mem =>
      intro other hm
      rw [Table.keys_append] at hm
      rcases List.mem_append.1 hm with hm | hm
      · exact hf.hash_not_mem other hm
      · rw [List.mem_singleton.1 hm]
        exact hkey

lemma fetch (hf : Logs before f) (location : String) (headers : Headers) (mode : FetchMode) :
    Logs before (f.fetch location headers mode).2 := by
  have hconsult := hf.consult (Location.hash_not_mem_stripFragment location) headers
  rcases log_fetch f location headers mode with ⟨hcache, hrequests⟩ | ⟨hcache, hrequests⟩
  · exact ⟨by rw [hcache, hrequests]; exact hf.made, by rw [hcache]; exact hf.nodup,
      by rw [hcache]; exact hf.hash_not_mem⟩
  · exact ⟨by rw [hcache, hrequests]; exact hconsult.made, by rw [hcache]; exact hconsult.nodup,
      by rw [hcache]; exact hconsult.hash_not_mem⟩

lemma after (hf : Logs before f) {use : Use} (hu : use ≠ .reset) : Logs before (f.after use) := by
  cases use with
  | fetch location headers mode => exact hf.fetch location headers mode
  | markHandled location =>
    have hmarked : f.after (.markHandled location) =
        f.addHandled (Location.stripFragment location) := rfl
    rw [hmarked]
    exact ⟨by simpa using hf.made, by simpa using hf.nodup, by simpa using hf.hash_not_mem⟩
  | clearHandled => exact ⟨hf.made, hf.nodup, hf.hash_not_mem⟩
  | setCurrentUrl => exact ⟨hf.made, hf.nodup, hf.hash_not_mem⟩
  | reset => exact absurd rfl hu

lemma run (hf : Logs before f) {uses : List Use} (hu : .reset ∉ uses) :
    Logs before (f.run uses) := by
  induction uses generalizing f with
  | nil => exact hf
  | cons use uses ih =>
    rw [List.mem_cons, not_or] at hu
    exact ih (hf.after (Ne.symm hu.1)) hu.2

lemma goesOn (hf : Logs before f) (hg : f.GoesOn g) : Logs before g := by
  obtain ⟨uses, hu, rfl⟩ := hg
  exact hf.run hu

end Logs

end Registry.Fetcher
