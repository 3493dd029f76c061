import Registry.Proofs.FetcherHistory

/-!
# What a fetcher delivers

A fetch that takes handled documents again gives what a fetcher gives that was never used. One that
leaves them out gives the same, unless the location asked for or the one where the document is found
was met since the handled ones were cleared. So each document is delivered once, however many
locations lead to it.
-/

namespace Registry

namespace Source

/-- No document is found at a location with a fragment. -/
def FindsPlain (s : Source) : Prop :=
  ∀ earlier request raw, s.answer earlier request = some raw → '#' ∉ raw.location.toList

lemma findsPlain_ofDocuments {documents : Table RawDocument}
    (h : ∀ e ∈ documents, '#' ∉ e.2.location.toList) : (ofDocuments documents).FindsPlain := by
  intro _ request raw hraw
  exact h _ (Table.mem_of_get? hraw)

end Source

namespace Fetcher

variable {f : Fetcher} {location found v : String} {headers : Headers} {document : Value}

lemma mem_addHandled : v ∈ (f.addHandled location).handled ↔ v ∈ f.handled ∨ v = location := by
  unfold addHandled
  split
  · next h =>
    rw [List.contains_eq_mem, decide_eq_true_eq] at h
    constructor
    · exact .inl
    · rintro (hv | rfl)
      · exact hv
      · exact h
  · simp

@[simp] lemma handled_noteCurrent : (f.noteCurrent location).handled = f.handled := by
  unfold noteCurrent; split <;> rfl

@[simp] lemma handled_consult : (f.consult location headers).2.handled = f.handled := by
  unfold consult; split <;> rfl

/-- What a fetch gives that leaves handled documents out. -/
lemma fetch_once (f : Fetcher) (location : String) (headers : Headers) :
    (f.fetch location headers .once).1 =
      if Location.stripFragment location ∈ f.handled then (Location.stripFragment location, none)
      else if (f.fetch location headers .reuse).1.1 ∈ f.handled then
        ((f.fetch location headers .reuse).1.1, none)
      else (f.fetch location headers .reuse).1 := by
  rw [fetch_reuse]
  unfold fetch
  dsimp only
  by_cases hkey : Location.stripFragment location ∈ f.handled
  · simp [hkey]
  · rw [if_neg (by simpa using hkey), if_neg hkey]
    by_cases hfound : (f.consult (Location.stripFragment location) headers).1.location ∈ f.handled
    · have hne : (f.consult (Location.stripFragment location) headers).1.location ≠
          Location.stripFragment location := fun h => hkey (h ▸ hfound)
      rw [if_pos (by simpa [hne] using hfound), if_pos hfound]
    · rw [if_neg (by simp [hfound]), if_neg hfound]

/-- Leaving handled documents out changes nothing as long as neither the location asked for nor the
one found is handled. -/
lemma fetch_once_eq_some_iff :
    (f.fetch location headers .once).1 = (found, some document) ↔
      (f.fetch location headers .reuse).1 = (found, some document) ∧
        Location.stripFragment location ∉ f.handled ∧ found ∉ f.handled := by
  rw [fetch_once]
  by_cases hkey : Location.stripFragment location ∈ f.handled
  · simp [hkey]
  · rw [if_neg hkey]
    by_cases hfound : (f.fetch location headers .reuse).1.1 ∈ f.handled
    · rw [if_pos hfound]
      constructor
      · simp
      · rintro ⟨hreuse, -, hnot⟩
        rw [hreuse] at hfound
        exact absurd hfound hnot
    · rw [if_neg hfound]
      constructor
      · intro hreuse
        rw [hreuse] at hfound
        exact ⟨hreuse, hkey, hfound⟩
      · exact And.left

/-- A fetch handles the location asked for and the one that it gives, and no other. -/
lemma mem_handled_fetch {mode : FetchMode} :
    v ∈ (f.fetch location headers mode).2.handled ↔
      v ∈ f.handled ∨ v = Location.stripFragment location ∨
        v = (f.fetch location headers mode).1.1 := by
  unfold fetch
  dsimp only
  split
  · next h =>
    have hkey : Location.stripFragment location ∈ f.handled := by simpa using h.2
    constructor
    · exact .inl
    · rintro (hv | rfl | rfl)
      · exact hv
      · exact hkey
      · exact hkey
  · split
    · next h =>
      have hfound : (f.consult (Location.stripFragment location) headers).1.location ∈ f.handled := by
        simpa using h.2.2
      simp only [mem_addHandled, handled_noteCurrent, handled_consult]
      constructor
      · rintro (hv | hv)
        · exact .inl hv
        · exact .inr (.inl hv)
      · rintro (hv | hv | rfl)
        · exact .inl hv
        · exact .inr hv
        · exact .inl hfound
    · simp [mem_addHandled, or_assoc]

/-- The locations that a use meets: the one it is given, with and without its fragment, and the one
that a fetch gives. -/
def met (f : Fetcher) : Use → List String
  | .fetch location headers mode =>
    [location, Location.stripFragment location, (f.fetch location headers mode).1.1]
  | .markHandled location => [location, Location.stripFragment location]
  | .clearHandled | .setCurrentUrl _ | .reset => []

/-- Where the document is found that a use delivers, leaving handled ones out. -/
def delivery? (f : Fetcher) : Use → Option String
  | .fetch location headers .once =>
    (f.fetch location headers .once).1.2.map fun _ => (f.fetch location headers .once).1.1
  | _ => none

/-- Where the documents are found that some uses deliver in turn, leaving handled ones out. -/
def delivered (f : Fetcher) : List Use → List String
  | [] => []
  | use :: uses => (f.delivery? use).toList ++ (f.after use).delivered uses

variable {use : Use} {uses : List Use}

lemma handled_subset_after (hc : use ≠ .clearHandled) (hr : use ≠ .reset) :
    f.handled ⊆ (f.after use).handled := by
  intro v hv
  cases use with
  | fetch location headers mode => exact mem_handled_fetch.2 (.inl hv)
  | markHandled location => exact mem_addHandled.2 (.inl hv)
  | clearHandled => exact absurd rfl hc
  | setCurrentUrl location => exact hv
  | reset => exact absurd rfl hr

lemma handled_subset_run (hc : .clearHandled ∉ uses) (hr : .reset ∉ uses) :
    f.handled ⊆ (f.run uses).handled := by
  induction uses generalizing f with
  | nil => exact fun _ => id
  | cons use uses ih =>
    rw [List.mem_cons, not_or] at hc hr
    have hafter := handled_subset_after (f := f) (Ne.symm hc.1) (Ne.symm hr.1)
    exact List.Subset.trans hafter (ih hc.2 hr.2)

/-- What a use meets is handled afterwards. -/
lemma mem_handled_after_of_met (hm : v ∈ f.met use) (hv : '#' ∉ v.toList) :
    v ∈ (f.after use).handled := by
  cases use with
  | fetch location headers mode =>
    refine mem_handled_fetch.2 (.inr ?_)
    simp only [met, List.mem_cons, List.not_mem_nil, or_false] at hm
    rcases hm with rfl | hm | hm
    · exact .inl (Location.stripFragment_of_not_mem hv).symm
    · exact .inl hm
    · exact .inr hm
  | markHandled location =>
    refine mem_addHandled.2 (.inr ?_)
    simp only [met, List.mem_cons, List.not_mem_nil, or_false] at hm
    rcases hm with rfl | hm
    · exact (Location.stripFragment_of_not_mem hv).symm
    · exact hm
  | clearHandled => simp [met] at hm
  | setCurrentUrl location => simp [met] at hm
  | reset => simp [met] at hm

lemma exists_of_delivery?_eq_some (h : f.delivery? use = some found) :
    ∃ location headers document, use = .fetch location headers .once ∧
      (f.fetch location headers .once).1 = (found, some document) := by
  unfold delivery? at h
  split at h
  · next location headers =>
    obtain ⟨document, hd, rfl⟩ := Option.map_eq_some_iff.1 h
    exact ⟨location, headers, document, rfl, by rw [← hd]⟩
  · simp at h

lemma mem_handled_after_of_delivery? (h : f.delivery? use = some found) :
    found ∉ f.handled ∧ found ∈ (f.after use).handled := by
  obtain ⟨location, headers, document, rfl, hd⟩ := exists_of_delivery?_eq_some h
  refine ⟨(fetch_once_eq_some_iff.1 hd).2.2, mem_handled_fetch.2 (.inr (.inr ?_))⟩
  rw [hd]

/-- Nothing is delivered that is handled. -/
lemma not_mem_handled_of_mem_delivered (hc : .clearHandled ∉ uses) (hr : .reset ∉ uses)
    (hv : v ∈ f.delivered uses) : v ∉ f.handled := by
  induction uses generalizing f with
  | nil => simp [delivered] at hv
  | cons use uses ih =>
    rw [List.mem_cons, not_or] at hc hr
    have hsubset := handled_subset_after (f := f) (Ne.symm hc.1) (Ne.symm hr.1)
    rw [delivered] at hv
    rcases List.mem_append.1 hv with hv | hv
    · exact (mem_handled_after_of_delivery? (Option.mem_toList.1 hv)).1
    · exact fun hm => ih hc.2 hr.2 hv (hsubset hm)

lemma nodup_delivered (f : Fetcher) (hc : .clearHandled ∉ uses) (hr : .reset ∉ uses) :
    (f.delivered uses).Nodup := by
  induction uses generalizing f with
  | nil => exact List.nodup_nil
  | cons use uses ih =>
    rw [List.mem_cons, not_or] at hc hr
    have hrest := ih (f.after use) hc.2 hr.2
    rw [delivered]
    cases hd : f.delivery? use with
    | none => exact hrest
    | some found =>
      rw [Option.toList_some, List.singleton_append, List.nodup_cons]
      refine ⟨fun hm => ?_, hrest⟩
      exact not_mem_handled_of_mem_delivered hc.2 hr.2 hm (mem_handled_after_of_delivery? hd).2

lemma Faithful.hash_not_mem_found (hf : f.Faithful) (hp : f.source.FindsPlain)
    (h : (f.fetch location headers .reuse).1 = (found, some document)) : '#' ∉ found.toList := by
  obtain ⟨-, earlier, sent, hread⟩ := hf.consult (Location.stripFragment location) headers
  rw [fetch_reuse, hread, Prod.mk.injEq] at h
  rw [← h.1]
  cases hanswer : f.source.answer earlier ⟨Location.stripFragment location, sent⟩ with
  | none => exact Location.hash_not_mem_stripFragment location
  | some raw => exact hp _ _ _ hanswer

/-- Over a source that answers by the location alone and finds no document at a location with a
fragment, whatever a fetcher was used for: a fetch that takes handled documents again gives what a
new fetcher gives; one that leaves them out gives the same document exactly if neither the location
asked for nor the one found is handled; and between two clearings no document is delivered from a
location where one was delivered, or that was fetched, found or marked, before. -/
theorem fetch_after_history {s : Source} (hs : s.Stable) (hp : s.FindsPlain) (policy : ParsePolicy)
    (uses : List Use) :
    let f := (start s policy).run uses
    (∀ location headers sent mode,
      (f.fetch location headers .reuse).1 = ((start s policy).fetch location sent mode).1) ∧
    (∀ location headers found document,
      (f.fetch location headers .once).1 = (found, some document) ↔
        (f.fetch location headers .reuse).1 = (found, some document) ∧
          Location.stripFragment location ∉ f.handled ∧ found ∉ f.handled) ∧
    ∀ part : List Use, .clearHandled ∉ part → .reset ∉ part →
      (f.delivered part).Nodup ∧
      ∀ front location headers back found document,
        part = front ++ .fetch location headers .once :: back →
        ((f.run front).fetch location headers .once).1 = (found, some document) →
          found ∉ f.handled ∧ ∀ earlier use later, front = earlier ++ use :: later →
            found ∉ (f.run earlier).met use := by
  intro f
  have hstart : (start s policy).Faithful := faithful_start s policy
  refine ⟨fun location headers sent mode => ?_, fun _ _ _ _ => fetch_once_eq_some_iff, ?_⟩
  · have hnew : ((start s policy).fetch location sent mode).1 =
        ((start s policy).fetch location sent .reuse).1 := by
      cases mode with
      | reuse => rfl
      | once =>
        rw [fetch_once, if_neg (by simp [start]), if_neg (by simp [start])]
    have hsource : f.source = s := source_run uses
    have hpolicy : f.policy = policy := policy_run uses
    have hstable : f.source.Stable := by
      rw [hsource]
      exact hs
    rw [hnew, fetch_reuse_of_stable (hstart.run uses) hstable,
      fetch_reuse_of_stable hstart hs, hsource, hpolicy]
    rfl
  · intro part hc hr
    refine ⟨nodup_delivered f hc hr, ?_⟩
    rintro front location headers back found document rfl hd
    rw [List.mem_append, not_or] at hc hr
    have hf : (f.run front).Faithful := (hstart.run uses).run front
    have hsource : (f.run front).source = s := (source_run front).trans (source_run uses)
    obtain ⟨hreuse, -, hfound⟩ := fetch_once_eq_some_iff.1 hd
    have hfinds : (f.run front).source.FindsPlain := by
      rw [hsource]
      exact hp
    have hplain := hf.hash_not_mem_found hfinds hreuse
    refine ⟨fun hm => hfound (handled_subset_run hc.1 hr.1 hm), ?_⟩
    rintro earlier use later rfl hm
    have hafter := mem_handled_after_of_met hm hplain
    have hrun : f.run (earlier ++ use :: later) = ((f.run earlier).after use).run later :=
      List.foldl_append
    simp only [List.mem_append, List.mem_cons, not_or] at hc hr
    rw [hrun] at hfound
    exact hfound (handled_subset_run hc.1.2.2 hr.1.2.2 hafter)

/-- Two locations that lead to one document, fetched in turn after it was fetched and the handled
locations were cleared. -/
theorem fetch_through_redirects :
    let raw : RawDocument := ⟨"http://h/b", "\x7b\x7d", []⟩
    let s := Source.ofDocuments [("http://h/b", raw), ("http://h/old", raw), ("http://h/older", raw)]
    let f := (start s .strict).run [.fetch "http://h/b" [] .once, .clearHandled]
    let part : List Use := [.fetch "http://h/old" [] .once, .fetch "http://h/older#x" [] .once,
      .fetch "http://h/b" [] .once]
    s.Stable ∧ s.FindsPlain ∧ .clearHandled ∉ part ∧ .reset ∉ part ∧
      (f.fetch "http://h/old" [] .reuse).1 = ((start s .strict).fetch "http://h/old" [] .once).1 ∧
      ((f.fetch "http://h/old" [] .once).1 = ("http://h/b", some (.mapping [])) ↔
        (f.fetch "http://h/old" [] .reuse).1 = ("http://h/b", some (.mapping [])) ∧
          Location.stripFragment "http://h/old" ∉ f.handled ∧ "http://h/b" ∉ f.handled) ∧
      (f.delivered part).Nodup := by
  intro raw s f part
  have hs : s.Stable := Source.stable_ofDocuments _
  have hp : s.FindsPlain := Source.findsPlain_ofDocuments (by simp [raw])
  have hc : .clearHandled ∉ part := by simp [part]
  have hr : .reset ∉ part := by simp [part]
  obtain ⟨hreuse, honce, hdelivered⟩ :=
    fetch_after_history hs hp .strict [.fetch "http://h/b" [] .once, .clearHandled]
  exact ⟨hs, hp, hc, hr, hreuse _ _ _ _, honce _ _ _ _, (hdelivered part hc hr).1⟩

end Fetcher

end Registry
