import Registry.Proofs.FetcherHistory
import Registry.Proofs.Placement

/-!
# Compositions as folds

A composition is the entry merged with each document reached in turn, each at its place. Nothing of
the entry is lost on the way but what stands where a mapping around some document has to be.
-/

namespace Registry.Composition

/-- A value keeps all that another one has: mappings with their entries in order, and what is no
mapping unless it is on one of the paths. On such a path there are mappings only. -/
structure Keeps (paths : List (List String)) (v w : Value) : Prop where
  mappings : ∀ path (ds : Fields), v.under path = some (.mapping ds) →
    ∃ ds' : Fields, w.under path = some (.mapping ds') ∧ ds.keys <+: ds'.keys
  others : ∀ path x, v.under path = some x → x.isMapping = false →
    (∀ p ∈ paths, ¬path <+: p) → w.under path = some x
  cleared : ∀ path x, v.under path = some x → (∃ p ∈ paths, path <+: p) →
    ∃ ds' : Fields, w.under path = some (.mapping ds')

namespace Keeps

lemma refl (v : Value) : Keeps [] v v where
  mappings _ ds h := ⟨ds, h, List.prefix_refl _⟩
  others _ _ h _ _ := h
  cleared := by simp

lemma trans {ps qs : List (List String)} {v w x : Value} (h : Keeps ps v w) (k : Keeps qs w x) :
    Keeps (ps ++ qs) v x where
  mappings path ds hv := by
    obtain ⟨ds', hw, hkeys⟩ := h.mappings path ds hv
    obtain ⟨ds'', hx, hkeys'⟩ := k.mappings path ds' hw
    exact ⟨ds'', hx, hkeys.trans hkeys'⟩
  others path y hv hy hp := by
    refine k.others path y (h.others path y hv hy fun p hm => ?_) hy fun p hm => ?_
    · exact hp p (List.mem_append_left _ hm)
    · exact hp p (List.mem_append_right _ hm)
  cleared path y hv hp := by
    have hmapping : ∀ ds : Fields, w.under path = some (.mapping ds) →
        ∃ ds' : Fields, x.under path = some (.mapping ds') := by
      intro ds hw
      obtain ⟨ds', hx, -⟩ := k.mappings path ds hw
      exact ⟨ds', hx⟩
    obtain ⟨p, hm, hprefix⟩ := hp
    rcases List.mem_append.1 hm with hm | hm
    · obtain ⟨ds, hw⟩ := h.cleared path y hv ⟨p, hm, hprefix⟩
      exact hmapping ds hw
    · cases hy : y.isMapping with
      | true =>
        obtain ⟨ds, rfl⟩ := Value.isMapping_iff.1 hy
        obtain ⟨ds', hw, -⟩ := h.mappings path ds hv
        exact hmapping ds' hw
      | false =>
        by_cases hq : ∃ p ∈ ps, path <+: p
        · obtain ⟨ds, hw⟩ := h.cleared path y hv hq
          exact hmapping ds hw
        · have hw := h.others path y hv hy fun p hp hpre => hq ⟨p, hp, hpre⟩
          exact k.cleared path y hw ⟨p, hm, hprefix⟩

/-- A merge keeps all of its first value. -/
lemma merge (v w : Value) : Keeps [] v (v.merge w) where
  mappings path ds h := by
    obtain ⟨b, hb⟩ := Value.under_merge_of_some w h
    cases hm : b.isMapping with
    | false =>
      rw [Value.merge_of_base_not_isMapping _ hm] at hb
      exact ⟨ds, hb, List.prefix_refl _⟩
    | true =>
      obtain ⟨bs, rfl⟩ := Value.isMapping_iff.1 hm
      rw [Value.merge_mapping] at hb
      exact ⟨_, hb, Fields.keys_prefix_merge ds bs⟩
  others path x h hx _ := by
    obtain ⟨b, hb⟩ := Value.under_merge_of_some w h
    rwa [Value.merge_of_not_isMapping hx] at hb
  cleared := by simp

end Keeps

/-- On a cleared path every value turns into a mapping; off it nothing changes. -/
lemma under_clearPath (path : List String) {q : List String} {fields : Fields} {x : Value}
    (h : (Value.mapping fields).under q = some x) :
    (Value.mapping (clearPath path fields)).under q =
      some (if q <+: path then .mapping (clearPath (path.drop q.length) x.entries) else x) := by
  induction q generalizing path fields with
  | nil =>
    rw [Value.under, Option.some.injEq] at h
    rw [← h, if_pos List.nil_prefix]
    rfl
  | cons key q ih =>
    obtain ⟨ds, hds, v, hv, hx⟩ := Value.under_cons_eq_some.1 h
    obtain rfl := Value.mapping.inj hds
    cases path with
    | nil =>
      rw [if_neg (by simp)]
      exact h
    | cons k path =>
      have hget := get?_clearPath_cons k path fields key
      rw [hv, Option.map_some] at hget
      by_cases hk : k = key
      · subst hk
        rw [if_pos rfl] at hget
        have hunder : (Value.mapping (clearPath path v.entries)).under q =
            some (if q <+: path then .mapping (clearPath (path.drop q.length) x.entries) else x) := by
          cases q with
          | nil =>
            rw [Value.under, Option.some.injEq] at hx
            rw [← hx, if_pos List.nil_prefix]
            rfl
          | cons key' q =>
            obtain ⟨es, rfl, -⟩ := Value.under_cons_eq_some.1 hx
            exact ih path hx
        simp only [List.cons_prefix_cons, true_and, List.length_cons, List.drop_succ_cons]
        exact Value.under_cons_eq_some.2 ⟨_, rfl, _, hget, hunder⟩
      · rw [if_neg hk] at hget
        rw [if_neg (by simp [List.cons_prefix_cons, Ne.symm hk])]
        exact Value.under_cons_eq_some.2 ⟨_, rfl, _, hget, hx⟩

lemma keeps_clearPath (path : List String) (fields : Fields) :
    Keeps [path] (.mapping fields) (.mapping (clearPath path fields)) where
  mappings q ds h := by
    have hu := under_clearPath path h
    split at hu
    · exact ⟨_, hu, (keys_clearPath _ _).symm ▸ List.prefix_refl _⟩
    · exact ⟨ds, hu, List.prefix_refl _⟩
  others q x h _ hq := by
    have hu := under_clearPath path h
    rwa [if_neg (hq path List.mem_cons_self)] at hu
  cleared q x h hq := by
    obtain ⟨p, hp, hprefix⟩ := hq
    rw [List.mem_singleton.1 hp] at hprefix
    have hu := under_clearPath path h
    rw [if_pos hprefix] at hu
    exact ⟨_, hu⟩

lemma keeps_clear (m : Model) (a : Address) (document : Value) (composed : Fields) :
    Keeps (containers m a document) (.mapping composed)
      (.mapping (clear m a document composed)) := by
  unfold clear
  generalize containers m a document = paths
  induction paths generalizing composed with
  | nil => exact .refl _
  | cons path paths ih => exact (keeps_clearPath path composed).trans (ih _)

/-- Makes room for a document where its location places it, and merges with the document alone. -/
def settle (m : Model) (composed : Fields) (location : String) (document : Value) : Fields :=
  let a := Address.inModel m location
  (clear m a document composed).merge (embed m a document)

lemma keeps_settle (m : Model) (composed : Fields) (location : String) (document : Value) :
    Keeps (containers m (Address.inModel m location) document) (.mapping composed)
      (.mapping (settle m composed location document)) := by
  have hclear := keeps_clear m (Address.inModel m location) document composed
  have hmerge := Keeps.merge (.mapping (clear m (Address.inModel m location) document composed))
    (.mapping (embed m (Address.inModel m location) document))
  have h := hclear.trans hmerge
  rw [Value.merge_mapping, List.append_nil] at h
  exact h

lemma wellKeyed_nest {content : Fields} (h : content.WellKeyed) (path : List String) :
    (nest path content).WellKeyed := by
  induction path with
  | nil => exact h
  | cons key path ih => exact Fields.wellKeyed_singleton ih

lemma wellKeyed_embed (m : Model) (a : Address) {document : Value} (hd : document.WellKeyed) :
    (embed m a document).WellKeyed := by
  have hsingle : ∀ key, Fields.WellKeyed [(key, document)] :=
    fun key => Fields.wellKeyed_singleton hd
  unfold embed
  split
  · have hknown := wellKeyed_filter hd.entries fun e => m.isGroupCollection e.1
    refine Fields.wellKeyed_iff.2 ⟨?_, ?_⟩
    · rw [Table.keys_mapValues]
      exact hknown.nodup
    · intro e he
      obtain ⟨v, hv, hev⟩ := Table.mem_mapValues.1 he
      rw [hev]
      exact (hknown.of_mem hv).entries
  · exact wellKeyed_nest hd.entries _
  · exact wellKeyed_nest (hsingle _) _
  · exact wellKeyed_nest hd.entries _
  · exact wellKeyed_nest (hsingle _) _
  · exact wellKeyed_nest hd.entries _
  · exact wellKeyed_nest (hsingle _) _
  · exact Fields.wellKeyed_nil

lemma wellKeyed_settle (m : Model) {composed : Fields} (location : String) {document : Value}
    (hc : composed.WellKeyed) (hd : document.WellKeyed) :
    (settle m composed location document).WellKeyed :=
  (wellKeyed_foldl_clearPath hc).merge (wellKeyed_embed m _ hd)

lemma wellKeyed_seed (m : Model) (a : Address) {entry : Value} (he : entry.WellKeyed) :
    (seed m a entry).WellKeyed := by
  have hfields : (entry.fields?.getD []).WellKeyed := he.entries
  unfold seed
  split
  · exact hfields
  · split
    · exact hfields
    · exact Fields.wellKeyed_singleton he
    · exact Fields.wellKeyed_singleton (Fields.wellKeyed_singleton he)

/-- What a resolver can be used for, together with its fetcher. -/
inductive Use where
  | compose (m : Model) (headers : Headers) (location : String) (entry : Value)
  | resolve (m : Model) (headers : Headers) (location : String)
  | markPending (location : String)
  | forget
  | fetcher (use : Fetcher.Use)

/-- The resolver and its fetcher after a use. -/
def after (known : Dependencies × Fetcher) : Use → Dependencies × Fetcher
  | .compose m headers location entry => (compose m headers location entry known.1 known.2).2
  | .resolve m headers location => (resolve m headers location known.1 known.2).2
  | .markPending location => (known.1.markPending location, known.2)
  | .forget => (.start, known.2)
  | .fetcher use => (known.1, known.2.after use)

/-- The resolver and its fetcher after some uses in turn. -/
def run (known : Dependencies × Fetcher) (uses : List Use) : Dependencies × Fetcher :=
  uses.foldl after known

/-- Every location reached is known with its document, and no document repeats a key. -/
structure Known (d : Dependencies) (f : Fetcher) : Prop where
  faithful : f.Faithful
  documents : ∀ e ∈ d.resolved, e.2.WellKeyed
  nodup : d.reached.Nodup
  reached : d.reached ⊆ d.resolved.keys

variable {headers : Headers} {d : Dependencies} {f : Fetcher} {location : String}

namespace Known

lemma addReached (h : Known d f) (hl : location ∈ d.resolved.keys) :
    Known (d.addReached location) f := by
  unfold Dependencies.addReached
  split
  · exact h
  · next hn =>
    have hn : location ∉ d.reached := by simpa using hn
    refine ⟨h.faithful, h.documents, ?_, ?_⟩
    · rw [← List.concat_eq_append]
      exact h.nodup.concat hn
    · exact List.append_subset.2 ⟨h.reached, List.cons_subset.2 ⟨hl, List.nil_subset _⟩⟩

lemma markPending (h : Known d f) (location : String) : Known (d.markPending location) f := by
  unfold Dependencies.markPending
  split
  · exact h
  · exact ⟨h.faithful, h.documents, h.nodup, h.reached⟩

lemma leave (h : Known d f) (location : String) : Known (d.leave location) f :=
  ⟨h.faithful, h.documents, h.nodup, h.reached⟩

lemma addResolved (h : Known d f) (location : String) {document : Value} (hd : document.WellKeyed) :
    Known { d with resolved := d.resolved ++ [(location, document)] } f where
  faithful := h.faithful
  documents e he := by
    rcases List.mem_append.1 he with he | he
    · exact h.documents e he
    · rw [List.mem_singleton.1 he]
      exact hd
  nodup := h.nodup
  reached := by
    rw [Table.keys_append]
    exact List.Subset.trans h.reached (List.subset_append_left _ _)

lemma withFetcher (h : Known d f) {g : Fetcher} (hg : g.Faithful) : Known d g :=
  ⟨hg, h.documents, h.nodup, h.reached⟩

lemma enter (h : Known d f) (m : Model) (headers : Headers) (location : String) :
    Known (Composition.enter m headers location d f).1
      (Composition.enter m headers location d f).2.1 := by
  have hfetched := h.withFetcher (h.faithful.fetch location headers .reuse)
  unfold Composition.enter
  split
  · next document hd =>
    split
    · exact h
    · exact h.addReached (Table.mem_keys_of_get? hd)
  · split
    · exact h
    · cases hd : (f.fetch location headers .reuse).1.2 with
      | none =>
        simp only [hd]
        exact hfetched
      | some document =>
        have hadded := hfetched.addResolved location
          (Fetcher.wellKeyed_of_fetch h.faithful hd)
        simp only [hd]
        refine (hadded.markPending location).addReached ?_
        rw [Dependencies.resolved_markPending, Table.keys_append]
        exact List.mem_append_right _ List.mem_cons_self

lemma walk (h : Known d f) (m : Model) (headers : Headers) (bound : Nat) (visits : List Visit) :
    Known (Composition.walk m headers bound visits d f).1
      (Composition.walk m headers bound visits d f).2 :=
  walk_preserves (fun _ _ location hd => hd.leave location)
    (fun _ _ location hd => hd.enter m headers location) bound visits h

lemma clearReached (h : Known d f) : Known { d with reached := [] } f :=
  ⟨h.faithful, h.documents, List.nodup_nil, List.nil_subset _⟩

lemma compose (h : Known d f) (m : Model) (headers : Headers) (location : String) (entry : Value) :
    Known (Composition.compose m headers location entry d f).2.1
      (Composition.compose m headers location entry d f).2.2 :=
  h.clearReached.walk m headers _ _

lemma start (h : f.Faithful) : Known .start f :=
  ⟨h, by simp [Dependencies.start], List.nodup_nil, List.nil_subset _⟩

lemma after {known : Dependencies × Fetcher} (h : Known known.1 known.2) (use : Use) :
    Known (Composition.after known use).1 (Composition.after known use).2 := by
  cases use with
  | compose m headers location entry => exact h.compose m headers location entry
  | resolve m headers location => exact h.walk m headers _ _
  | markPending location => exact h.markPending location
  | forget => exact .start h.faithful
  | fetcher use => exact h.withFetcher (h.faithful.after use)

lemma run {known : Dependencies × Fetcher} (h : Known known.1 known.2) (uses : List Use) :
    Known (Composition.run known uses).1 (Composition.run known uses).2 := by
  induction uses generalizing known with
  | nil => exact h
  | cons use uses ih => exact ih (h.after use)

end Known

lemma mergeAtLocation_eq_settle (m : Model) {composed : Fields} (location : String)
    {document : Value} (hd : document.WellKeyed) (hc : composed.WellKeyed) :
    mergeAtLocation m composed location document = settle m composed location document :=
  mergeAt_eq_merge m _ hd hc

/-- Merging the documents of known locations is the left fold of the steps that settle them. -/
lemma mergeAll_eq_foldl (m : Model) {resolved : Table Value}
    (hr : ∀ e ∈ resolved, e.2.WellKeyed) {composed : Fields} (hc : composed.WellKeyed)
    {locations : List String} (hl : locations ⊆ resolved.keys) :
    ∃ documents : Table Value, documents.keys = locations ∧
      (∀ e ∈ documents, resolved.get? e.1 = some e.2) ∧
      mergeAll m resolved composed locations =
        documents.foldl (fun composed e => settle m composed e.1 e.2) composed := by
  induction locations generalizing composed with
  | nil => exact ⟨[], rfl, by simp, rfl⟩
  | cons location locations ih =>
    obtain ⟨hin, hl⟩ := List.cons_subset.1 hl
    obtain ⟨document, hd⟩ := Option.ne_none_iff_exists'.1 fun hn => Table.get?_eq_none_iff.1 hn hin
    have hwell := hr _ (Table.mem_of_get? hd)
    obtain ⟨documents, hkeys, hknown, heq⟩ := ih (wellKeyed_settle m location hc hwell) hl
    refine ⟨(location, document) :: documents, by rw [Table.keys_cons, hkeys], ?_, ?_⟩
    · rw [List.forall_mem_cons]
      exact ⟨hd, hknown⟩
    · rw [List.foldl_cons, ← heq]
      unfold mergeAll
      rw [List.foldl_cons, hd]
      dsimp only
      rw [mergeAtLocation_eq_settle m location hwell hc]

lemma keeps_foldl_settle (m : Model) (documents : Table Value) (composed : Fields) :
    Keeps (documents.flatMap fun e => containers m (Address.inModel m e.1) e.2)
      (.mapping composed)
      (.mapping (documents.foldl (fun composed e => settle m composed e.1 e.2) composed)) := by
  induction documents generalizing composed with
  | nil => exact .refl _
  | cons e documents ih => exact (keeps_settle m composed e.1 e.2).trans (ih _)

/-- Merging a document where its location places it is clearing the places of the mappings around it
and merging with the document alone. So a composition is the left fold of these steps over the
locations reached, whatever its resolver was used for before, and keeps all of the entry but what
stands in the place of such a mapping. -/
theorem compose_eq_foldl_settle (s : Source) (policy : ParsePolicy) (uses : List Use) (m : Model)
    (headers : Headers) (location : String) {entry : Value} (he : entry.WellKeyed) :
    let known := run (.start, .start s policy) uses
    let result := compose m headers location entry known.1 known.2
    let d := result.2.1
    let seeded := seed m (Address.inModel m location) entry
    (∀ (u : String) (document : Value) (composed : Fields), document.WellKeyed →
        composed.WellKeyed → mergeAtLocation m composed u document =
          (clear m (Address.inModel m u) document composed).merge
            (embed m (Address.inModel m u) document)) ∧
      d.reached.Nodup ∧
      ∃ documents : Table Value, documents.keys = d.reached ∧
        (∀ e ∈ documents, d.resolved.get? e.1 = some e.2 ∧ e.2.WellKeyed) ∧
        result.1 = documents.foldl (fun composed e =>
          (clear m (Address.inModel m e.1) e.2 composed).merge
            (embed m (Address.inModel m e.1) e.2)) seeded ∧
        Keeps (documents.flatMap fun e => containers m (Address.inModel m e.1) e.2)
          (.mapping seeded) (.mapping result.1) := by
  intro known result d seeded
  have hknown : Known known.1 known.2 := Known.run (.start (Fetcher.faithful_start s policy)) uses
  have hd : Known d result.2.2 := hknown.compose m headers location entry
  obtain ⟨documents, hkeys, hdocuments, heq⟩ :=
    mergeAll_eq_foldl m hd.documents (wellKeyed_seed m (Address.inModel m location) he) hd.reached
  have heq : result.1 =
      documents.foldl (fun composed e => settle m composed e.1 e.2) seeded := heq
  refine ⟨fun u document composed hu hc => mergeAtLocation_eq_settle m u hu hc, hd.nodup,
    documents, hkeys, fun e hm => ?_, heq, heq ▸ keeps_foldl_settle m documents seeded⟩
  have hget := hdocuments e hm
  exact ⟨hget, hd.documents _ (Table.mem_of_get? hget)⟩

/-- An entry with a text where its group collection belongs. -/
theorem compose_settles_over_text :
    let s := Source.ofDocuments
      [("http://h/groups/a", ⟨"http://h/groups/a", "\x7b\"id\": \"a\"\x7d", []⟩)]
    let m : Model := ⟨[⟨"groups", "group", []⟩], .null⟩
    let entry : Value := .mapping [("groups", .string "none"), ("url", .string "/groups/a")]
    let known := run (.start, .start s .strict) [.resolve m [] "http://h/groups/a"]
    let result := compose m [] "http://h/" entry known.1 known.2
    let d := result.2.1
    let seeded := seed m (Address.inModel m "http://h/") entry
    entry.WellKeyed ∧
      (∀ (u : String) (document : Value) (composed : Fields), document.WellKeyed →
        composed.WellKeyed → mergeAtLocation m composed u document =
          (clear m (Address.inModel m u) document composed).merge
            (embed m (Address.inModel m u) document)) ∧
      d.reached.Nodup ∧
      ∃ documents : Table Value, documents.keys = d.reached ∧
        (∀ e ∈ documents, d.resolved.get? e.1 = some e.2 ∧ e.2.WellKeyed) ∧
        result.1 = documents.foldl (fun composed e =>
          (clear m (Address.inModel m e.1) e.2 composed).merge
            (embed m (Address.inModel m e.1) e.2)) seeded ∧
        Keeps (documents.flatMap fun e => containers m (Address.inModel m e.1) e.2)
          (.mapping seeded) (.mapping result.1) :=
  have he : Value.WellKeyed
      (.mapping [("groups", .string "none"), ("url", .string "/groups/a")]) := by
    simp [Value.WellKeyed, Value.WellKeyedFields, Table.keys]
  ⟨he, compose_eq_foldl_settle _ _ _ _ _ _ he⟩

end Registry.Composition
