import Registry.Proofs.CompositionHistory
import Registry.Proofs.DiscoveryOrder
import Registry.Proofs.MergePaths
import Registry.Proofs.MessageUrls

/-!
# Documents that are alone at their place

A document that puts nothing at a path leaves what a composition has there. So where one document
alone is put, the composition has it in the end as it was loaded.
-/

namespace Registry

lemma Value.under_eq_none_of_prefix {v : Value} {path longer : List String} (hp : path <+: longer)
    (h : v.under path = none) : v.under longer = none := by
  obtain ⟨rest, rfl⟩ := hp
  rw [under_append, h, Option.bind_none]

namespace Composition

variable {m : Model} {a : Address} {document base : Value} {composed : Fields}
  {path q : List String} {u : String} {documents : Table Value}

lemma under_clearPath_of_not_prefix (h : ¬q <+: path) :
    (Value.mapping (clearPath path composed)).under q = (Value.mapping composed).under q := by
  induction path generalizing composed q with
  | nil => rfl
  | cons key path ih =>
    obtain ⟨k, q, rfl⟩ := List.exists_cons_of_ne_nil fun hq : q = [] => h (hq ▸ List.nil_prefix)
    rw [Value.under_mapping_cons, Value.under_mapping_cons, get?_clearPath_cons]
    by_cases hk : key = k
    · subst hk
      rw [List.cons_prefix_cons, not_and] at h
      have hq : q ≠ [] := fun hq => h rfl (hq ▸ List.nil_prefix)
      cases composed.get? key with
      | none => rfl
      | some v =>
        rw [Option.map_some, if_pos rfl, Option.bind_some, Option.bind_some, ih (h rfl),
          Value.under_entries v hq]
    · cases composed.get? k with
      | none => rfl
      | some v => rw [Option.map_some, if_neg hk]

lemma under_clear_of_not_prefix (h : ∀ path ∈ containers m a document, ¬q <+: path) :
    (Value.mapping (clear m a document composed)).under q = (Value.mapping composed).under q := by
  unfold clear
  generalize containers m a document = paths at h
  induction paths generalizing composed with
  | nil => rfl
  | cons path paths ih =>
    rw [List.forall_mem_cons] at h
    rw [List.foldl_cons, ih h.2, under_clearPath_of_not_prefix h.1]

lemma under_nest (path : List String) (content : Fields) :
    (Value.mapping (nest path content)).under path = some (.mapping content) := by
  induction path with
  | nil => rfl
  | cons key path ih =>
    rw [nest, Value.under_mapping_cons, Table.get?_cons, if_pos rfl, Option.bind_some, ih]

/-- The mappings that a document needs around it are around it where it is alone. -/
lemma under_embed_ne_none (h : path ∈ containers m a document) :
    (Value.mapping (embed m a document)).under path ≠ none := by
  have hnest : ∀ {only : List String} (content : Fields), path ∈ [only] →
      (Value.mapping (nest only content)).under path ≠ none := by
    intro only content hp
    rw [List.mem_singleton.1 hp, under_nest]
    exact Option.some_ne_none _
  unfold containers at h
  unfold embed
  split at h
  · obtain ⟨key, hkey, rfl⟩ := List.mem_map.1 h
    obtain ⟨v, hv⟩ := Option.ne_none_iff_exists'.1 fun hnone => Table.get?_eq_none_iff.1 hnone hkey
    rw [Value.under_mapping_cons, Table.get?_mapValues, hv]
    exact Option.some_ne_none _
  · exact hnest _ h
  · exact hnest _ h
  · exact hnest _ h
  · exact hnest _ h
  · exact hnest _ h
  · exact hnest _ h
  · exact absurd h List.not_mem_nil

/-- A document that puts nothing at a path leaves what is there. -/
lemma under_settle_of_none {location : String}
    (h : (Value.mapping (embed m (Address.inModel m location) document)).under q = none) :
    (Value.mapping (settle m composed location document)).under q =
      (Value.mapping composed).under q := by
  have hclear : ∀ path ∈ containers m (Address.inModel m location) document, ¬q <+: path :=
    fun path hp hq => under_embed_ne_none hp (Value.under_eq_none_of_prefix hq h)
  rw [settle, ← Value.merge_mapping, Value.under_merge_of_base_none h,
    under_clear_of_not_prefix hclear]

lemma under_foldl_settle_of_none (composed : Fields) (h : ∀ e ∈ documents,
    (Value.mapping (embed m (Address.inModel m e.1) e.2)).under q = none) :
    (Value.mapping (documents.foldl (fun composed e => settle m composed e.1 e.2) composed)).under
      q = (Value.mapping composed).under q := by
  induction documents generalizing composed with
  | nil => rfl
  | cons e documents ih =>
    rw [List.forall_mem_cons] at h
    rw [List.foldl_cons, ih _ h.2, under_settle_of_none h.1]

lemma wellKeyed_foldl_settle (hd : ∀ e ∈ documents, e.2.WellKeyed) (hc : composed.WellKeyed) :
    (documents.foldl (fun composed e => settle m composed e.1 e.2) composed).WellKeyed := by
  induction documents generalizing composed with
  | nil => exact hc
  | cons e documents ih =>
    rw [List.forall_mem_cons] at hd
    exact ih hd.2 (wellKeyed_settle m e.1 hc hd.1)

/-- Where one document alone is put, the composition has it as it is. -/
theorem NamesResource.under_foldl_settle (hu : NamesResource m u) (hn : documents.keys.Nodup)
    (hd : ∀ e ∈ documents, e.2.WellKeyed) (hc : composed.WellKeyed) (hbase : (u, base) ∈ documents)
    (hfree : (Value.mapping composed).under (Address.inModel m u).inner = none)
    (halone : ∀ e ∈ documents, e.1 ≠ u → (Value.mapping (embed m (Address.inModel m e.1) e.2)).under
      (Address.inModel m u).inner = none) :
    (Value.mapping (documents.foldl (fun composed e => settle m composed e.1 e.2) composed)).under
      (Address.inModel m u).inner = some base := by
  obtain ⟨before, after, rfl⟩ := List.append_of_mem hbase
  rw [Table.keys_append, Table.keys_cons] at hn
  obtain ⟨-, hafter, hapart⟩ := List.nodup_append.1 hn
  have hbefore : ∀ e ∈ before, e.1 ≠ u := fun e he =>
    hapart e.1 (Table.mem_keys_of_mem he) u List.mem_cons_self
  have hbehind : ∀ e ∈ after, e.1 ≠ u := by
    rintro e he rfl
    exact (List.nodup_cons.1 hafter).1 (Table.mem_keys_of_mem he)
  rw [List.forall_mem_append, List.forall_mem_cons] at hd halone
  have hroom := under_foldl_settle_of_none composed fun e he => halone.1 e he (hbefore e he)
  rw [List.foldl_append, List.foldl_cons, under_foldl_settle_of_none _
    fun e he => halone.2.2 e he (hbehind e he),
    ← mergeAtLocation_eq_settle m u hd.2.1 (wellKeyed_foldl_settle hd.1 hc),
    (hu.under_mergeAtLocation _ base).1, hroom, hfree]
  rfl

lemma not_prefix_of_mem_containers {front : List String} {key : String} (hf : front.length = 4)
    (hk : key ≠ "versions") (h : path ∈ containers m a document) : ¬front ++ [key] <+: path := by
  have hshape : path.length ≤ 3 ∨ path.length = 5 ∧ path.getLast? = some "versions" := by
    unfold containers at h
    split at h
    · obtain ⟨name, -, rfl⟩ := List.mem_map.1 h
      exact .inl (by simp)
    all_goals simp only [List.mem_singleton, List.not_mem_nil] at h
    all_goals
      rw [h]
      simp
  intro hprefix
  have hle := hprefix.length_le
  rw [List.length_append, hf, List.length_singleton] at hle
  rcases hshape with hshort | ⟨hlength, hlast⟩
  · omega
  · have heq := hprefix.eq_of_length (by simp [hf, hlength])
    rw [← heq, List.getLast?_concat, Option.some.injEq] at hlast
    exact hk hlast

/-- A composition has all entries of a resource of its entry, those that are no mappings as they
were. -/
lemma exists_under_foldl_settle (m : Model) (documents : Table Value) {front : List String}
    (hf : front.length = 4) {own : Fields}
    (h : (Value.mapping composed).under front = some (.mapping own)) :
    ∃ own' : Fields, (Value.mapping (documents.foldl
        (fun composed e => settle m composed e.1 e.2) composed)).under front = some (.mapping own') ∧
      own.keys <+: own'.keys ∧
      ∀ key v, own.get? key = some v → v.isMapping = false → key ≠ "versions" →
        own'.get? key = some v := by
  have hkeeps := keeps_foldl_settle m documents composed
  obtain ⟨own', hown, hkeys⟩ := hkeeps.mappings front own h
  refine ⟨own', hown, hkeys, fun key v hv hm hk => ?_⟩
  have hentry : ∀ {root fields : Fields}, (Value.mapping root).under front = some (.mapping fields) →
      (Value.mapping root).under (front ++ [key]) = fields.get? key := by
    intro root fields hroot
    rw [Value.under_append, hroot, Option.bind_some, Value.under_mapping_cons]
    cases fields.get? key <;> rfl
  rw [← hentry hown]
  refine hkeeps.others _ v ((hentry h).trans hv) hm fun path hpath => ?_
  obtain ⟨e, -, he⟩ := List.mem_flatMap.1 hpath
  exact not_prefix_of_mem_containers hf hk he

end Composition

namespace Discovery

variable {m : Model} {fields : Fields} {key s : String} {v : Value}

/-- A reference in a mapping of a document is found, however deep the mapping stands. -/
lemma mem_references {path : List String} (h : v.under path = some (.mapping fields))
    (hs : fields.get? key = some (.string s)) (hk : isReferenceKey key = true)
    (hc : isCandidate m s = true) : s ∈ references m v := by
  refine mem_references_iff.2 ⟨isCandidate_iff.1 hc, ?_⟩
  induction path generalizing v with
  | nil =>
    obtain ⟨i, hi⟩ := List.getElem?_of_mem (Table.mem_of_get? hs)
    rw [Option.some.inj h]
    exact ⟨[i], .here (by simp [contents, hi, hk])⟩
  | cons first rest ih =>
    obtain ⟨outer, rfl, w, hw, hrest⟩ := Value.under_cons_eq_some.1 h
    obtain ⟨i, hi⟩ := List.getElem?_of_mem (Table.mem_of_get? hw)
    obtain ⟨place, hplace⟩ := ih hrest
    have hget : (contents (.mapping outer))[i]? = some (isReferenceKey first, w) := by
      simp [contents, hi]
    exact ⟨i :: place, .inside hget hplace⟩

end Discovery

namespace Composition

variable {m : Model} {u : String}

namespace NamesResource

lemma locate?_eq (hu : NamesResource m u) (context : Address) : context.locate? u = some u := by
  obtain ⟨url, parts, htext, hhttp, -, -⟩ := Address.exists_url_of_inner_ne_nil hu.inner_ne_nil
  have hscheme : Location.hasScheme u = true := by
    rw [Location.hasScheme, htext, Option.any_some, decide_eq_true_eq]
    rw [Url.isHttp, Bool.or_eq_true, beq_iff_eq, beq_iff_eq] at hhttp
    rcases hhttp with h | h <;> rw [h] <;> decide
  unfold Address.locate?
  dsimp only
  rw [Location.stripFragment_of_not_mem hu.plain, if_pos hscheme]

lemma isPresent_eq (hu : NamesResource m u) (composed : Fields) :
    isPresent m composed u =
      ((Value.mapping composed).under (Address.inModel m u).inner).isSome := by
  obtain ⟨groupType, groupId, segment, resourceId, hinner, hname⟩ := hu.inner_eq
  unfold isPresent
  dsimp only
  rw [hinner]
  dsimp only
  rw [hname, Value.under_mapping_cons]
  simp only [Value.under, Option.bind_assoc, Option.bind_fun_some]

end NamesResource

/-- A composition merges what the locations that it has reached load as. -/
lemma Learnt.exists_compose_eq_foldl {s : Source} (hs : s.Stable) {policy : ParsePolicy}
    {d : Dependencies} {f : Fetcher} (h : Learnt s policy d f) (m : Model) (headers : Headers)
    (location : String) {entry : Value} (he : entry.WellKeyed) :
    let result := Composition.compose m headers location entry d f
    ∃ documents : Table Value, documents.keys = result.2.1.reached ∧
      (∀ e ∈ documents, (s.load policy e.1).document = some e.2 ∧ e.2.WellKeyed) ∧
      result.1 = documents.foldl (fun composed e => settle m composed e.1 e.2)
        (seed m (Address.inModel m location) entry) := by
  intro result
  have hresult : Learnt s policy result.2.1 result.2.2 := h.compose hs m headers location entry
  have hwell : ∀ e ∈ result.2.1.resolved, e.2.WellKeyed :=
    fun e hm => Fetcher.wellKeyed_of_readOf (hresult.documents e hm)
  obtain ⟨documents, hkeys, hdocuments, heq⟩ :=
    mergeAll_eq_foldl m hwell (wellKeyed_seed m _ he) hresult.reached
  refine ⟨documents, hkeys, fun e hm => ?_, heq⟩
  have hresolved := Table.mem_of_get? (hdocuments e hm)
  exact ⟨hresult.documents e hresolved, hwell e hresolved⟩

lemma Learnt.wellKeyed_compose {s : Source} (hs : s.Stable) {policy : ParsePolicy}
    {d : Dependencies} {f : Fetcher} (h : Learnt s policy d f) (m : Model) (headers : Headers)
    (location : String) {entry : Value} (he : entry.WellKeyed) :
    (Composition.compose m headers location entry d f).1.WellKeyed := by
  obtain ⟨documents, -, hdocuments, heq⟩ := h.exists_compose_eq_foldl hs m headers location he
  rw [heq]
  exact wellKeyed_foldl_settle (fun e hm => (hdocuments e hm).2) (wellKeyed_seed m _ he)

/-- A composition reaches whatever its entry leads to and that loads, and merges each of the documents
reached once. -/
theorem Learnt.compose_merges {s : Source} (hs : s.Stable) (hb : s.Bounded) {policy : ParsePolicy}
    {d : Dependencies} {f : Fetcher} (h : Learnt s policy d f) (m : Model) (headers : Headers)
    (location : String) {entry : Value} (he : entry.WellKeyed) :
    let result := Composition.compose m headers location entry d f
    let seeded := seed m (Address.inModel m location) entry
    ∃ documents : Table Value, documents.keys = result.2.1.reached ∧ documents.keys.Nodup ∧
      (∀ e ∈ documents, (s.load policy e.1).document = some e.2 ∧ e.2.WellKeyed) ∧
      result.1 = documents.foldl (fun composed e => settle m composed e.1 e.2) seeded ∧
      ∀ v ∈ roots m location seeded, ∀ document, (s.load policy v).document = some document →
        (v, document) ∈ documents := by
  intro result seeded
  obtain ⟨served, hextent, hanswers⟩ := hb
  have hroots : ∀ v ∈ roots m location seeded, '#' ∉ v.toList :=
    fun v hv => (mem_roots.1 hv).hash_not_mem
  have hstep : ∀ v more, '#' ∉ v.toList →
      successors m (s.load policy) d.resolved.keys v = some more →
        v ∈ served ∧ ∀ w ∈ more, '#' ∉ w.toList := by
    intro v more hv hmore
    obtain ⟨document, hd, rfl⟩ := Option.map_eq_some_iff.1 hmore
    have hread := isSome_read_of_load hv (Option.isSome_iff_exists.2 ⟨document, hd⟩)
    refine ⟨hanswers [] ⟨v, []⟩ hread, fun w hw => ?_⟩
    obtain ⟨visit, hvisit, hentered⟩ := List.mem_filterMap.1 hw
    cases visit with
    | leave => cases hentered
    | enter w' =>
      obtain rfl := Option.some.inj hentered
      obtain ⟨reference, -, hlocate, -⟩ := enter_mem_nested.1 hvisit
      exact Address.hash_not_mem_of_locate? hlocate
  have htour : ∃ final, Tour (successors m (s.load policy) d.resolved.keys)
      (roots m location seeded) [] final := exists_tour hroots hstep
  obtain ⟨final, ht⟩ := htour
  have hserved : final ⊆ served := ht.forall_mem hroots (by simp) hstep
  have hnodup : final.Nodup := ht.nodup List.nodup_nil
  have hlength : final.length ≤ s.extent := (hnodup.subperm hserved).length_le.trans hextent
  have hreached : result.2.1.reached = final :=
    (h.compose_along_tour hs headers ht hlength).1
  obtain ⟨documents, hkeys, hdocuments, heq⟩ := h.exists_compose_eq_foldl hs m headers location he
  refine ⟨documents, hkeys, hkeys ▸ hreached ▸ hnodup, hdocuments, heq, ?_⟩
  intro v hv document hd
  have hmem : v ∈ documents.keys := by
    rw [hkeys, hreached]
    exact ht.mem_of_mem_stack hv (by simp [successors_eq_none, hd])
  obtain ⟨⟨v', document'⟩, he, rfl⟩ := List.mem_map.1 hmem
  have hsame := (hdocuments _ he).1.symm.trans hd
  obtain rfl := Option.some.inj hsame
  exact he

end Composition

end Registry
