import Registry.Composition
import Registry.Proofs.Merging

/-!
# Where a merged document goes

A document that is merged at an address is first put alone into the mappings around its place; the
composition is then merged with that. All that the composition loses is what stands in the way of
these mappings without being one itself.
-/

namespace Registry.Composition

/-- Some content inside mappings, outermost key first. -/
def nest : List String → Fields → Fields
  | [], content => content
  | key :: rest, content => [(key, .mapping (nest rest content))]

/-- Replaces what is no mapping on a path of keys by an empty mapping; what is absent stays absent. -/
def clearPath : List String → Fields → Fields
  | [], fields => fields
  | key :: rest, fields =>
    match fields.get? key with
    | none => fields
    | some v => fields.insert key (.mapping (clearPath rest v.entries))

/-- Changes the mapping at the end of a path of keys, as `Fields.within` does for one key. -/
def withinPath : List String → (Fields → Fields) → Fields → Fields
  | [], change, fields => change fields
  | key :: rest, change, fields => fields.within key (withinPath rest change)

/-- The collections that a registry document gives, by name. -/
def knownCollections (m : Model) (document : Value) : Fields :=
  document.entries.filter fun e => m.isGroupCollection e.1

/-- The document that holds another one alone, at the place of an address. -/
def embed (m : Model) (a : Address) (document : Value) : Fields :=
  match a.inner with
  | [] => (knownCollections m document).mapValues fun _ v => .mapping v.entries
  | [groupType] => nest [groupType] document.entries
  | [groupType, groupId] => nest [groupType] [(groupId, document)]
  | [groupType, groupId, _] => nest [groupType, groupId, collectionName m a] document.entries
  | [groupType, groupId, _, resourceId] =>
    nest [groupType, groupId, collectionName m a] [(resourceId, document)]
  | [groupType, groupId, _, resourceId, _] =>
    nest [groupType, groupId, collectionName m a, resourceId, "versions"] document.entries
  | [groupType, groupId, _, resourceId, _, versionId] =>
    nest [groupType, groupId, collectionName m a, resourceId, "versions"] [(versionId, document)]
  | _ => []

/-- The paths of the mappings that a document needs around it at an address. -/
def containers (m : Model) (a : Address) (document : Value) : List (List String) :=
  match a.inner with
  | [] => (knownCollections m document).keys.map fun key => [key]
  | [groupType] | [groupType, _] => [[groupType]]
  | [groupType, groupId, _] | [groupType, groupId, _, _] =>
    [[groupType, groupId, collectionName m a]]
  | [groupType, groupId, _, resourceId, _] | [groupType, groupId, _, resourceId, _, _] =>
    [[groupType, groupId, collectionName m a, resourceId, "versions"]]
  | _ => []

/-- Makes room in a composition for a document at an address. -/
def clear (m : Model) (a : Address) (document : Value) (composed : Fields) : Fields :=
  (containers m a document).foldl (fun composed path => clearPath path composed) composed

lemma merge_singleton_of_none {fields : Fields} {key : String} (h : fields.get? key = none)
    (v : Value) : fields.merge [(key, v)] = fields ++ [(key, v)] := by
  have hshared : mergeShared fields [(key, v)] = fields := by
    induction fields with
    | nil => rfl
    | cons e fields ih =>
      obtain ⟨k, w⟩ := e
      rw [Table.get?_cons] at h
      by_cases hk : k = key
      · simp [hk] at h
      · rw [if_neg hk] at h
        have hn : Table.get? [(key, v)] k = none := by simp [Table.get?_cons, Ne.symm hk]
        simp only [mergeShared, hn, ih h]
  rw [Fields.merge, hshared]
  simp [Table.has, h]

lemma merge_singleton_of_some {fields : Fields} (hn : fields.keys.Nodup) {key : String} {w : Value}
    (h : fields.get? key = some w) (v : Value) :
    fields.merge [(key, v)] = fields.insert key (w.merge v) := by
  have hs : (Table.keys [(key, v)]).Nodup := List.nodup_singleton key
  apply Table.eq_of_keys_of_get? (Fields.nodup_keys_merge hn hs)
  · have hk := Table.mem_keys_of_get? h
    rw [Fields.keys_merge, Table.keys_insert_of_mem hk]
    simp [Table.has_iff_mem_keys, hk]
  · intro other
    rw [Fields.get?_merge, Table.get?_insert, Table.get?_cons, Table.get?_nil]
    by_cases ho : key = other
    · subst ho
      simp [h]
    · cases hg : fields.get? other <;> simp [ho]

/-- Putting a document under a key is a merge with that entry alone. -/
lemma fill_eq_merge {fields : Fields} (hn : fields.keys.Nodup) (key : String) (document : Value) :
    fill fields key document = fields.merge [(key, document)] := by
  unfold fill
  cases h : fields.get? key with
  | none => rw [merge_singleton_of_none h]
  | some w => rw [merge_singleton_of_some hn h]

/-- Entries with different keys may be merged one after the other. -/
lemma merge_cons {fields : Fields} (hn : fields.keys.Nodup) {key : String} {v : Value} {rest : Fields}
    (hr : (Table.keys ((key, v) :: rest)).Nodup) :
    fields.merge ((key, v) :: rest) = (fields.merge [(key, v)]).merge rest := by
  have hkey : Table.get? rest key = none :=
    Table.get?_eq_none_iff.2 (List.nodup_cons.1 hr).1
  have hone : (fields.merge [(key, v)]).keys.Nodup :=
    Fields.nodup_keys_merge hn (List.nodup_singleton key)
  apply Table.eq_of_keys_of_get? (Fields.nodup_keys_merge hn hr)
  · rw [Fields.keys_merge, Fields.keys_merge]
    cases h : fields.get? key with
    | none =>
      have hnot : key ∉ Table.keys rest := (List.nodup_cons.1 hr).1
      rw [merge_singleton_of_none h, Table.keys_append, Table.keys_cons, Table.keys_cons,
        Table.keys_nil, List.append_assoc, List.filter_cons_of_pos (by simp [Table.has, h])]
      congr 2
      apply List.filter_congr
      intro k hk
      have hne : key ≠ k := fun he => hnot (he ▸ hk)
      simp [Table.has, Table.get?_append, Table.get?_cons, hne]
    | some w =>
      have hk := Table.mem_keys_of_get? h
      rw [merge_singleton_of_some hn h, Table.keys_insert_of_mem hk, Table.keys_cons,
        List.filter_cons_of_neg (by simp [Table.has, h])]
      congr 1
      apply List.filter_congr
      intro k _
      rw [Table.has, Table.has, Table.get?_insert]
      by_cases hne : key = k
      · subst hne; simp [h]
      · simp [hne]
  · intro other
    simp only [Fields.get?_merge, Table.get?_cons, Table.get?_nil]
    by_cases ho : key = other
    · subst ho
      cases fields.get? key <;> simp [hkey]
    · cases fields.get? other <;> simp [ho]

/-- Filling in the entries of a document in turn is one merge with all of them. -/
lemma fillEach_eq_merge {fields : Fields} (hn : fields.keys.Nodup) {document : Value}
    (hd : document.entries.keys.Nodup) :
    fillEach fields document = fields.merge document.entries := by
  have hfold : ∀ (entries : Fields) (fields : Fields), fields.keys.Nodup → entries.keys.Nodup →
      entries.foldl (fun fields e => fill fields e.1 e.2) fields = fields.merge entries := by
    intro entries
    induction entries with
    | nil => exact fun fields _ _ => (Fields.merge_nil fields).symm
    | cons e entries ih =>
      intro fields hf he
      obtain ⟨k, v⟩ := e
      rw [List.foldl_cons, fill_eq_merge hf, merge_cons hf he]
      exact ih _ (Fields.nodup_keys_merge hf (List.nodup_singleton k)) (List.nodup_cons.1 he).2
  unfold fillEach
  cases hf : document.fields? with
  | none => rw [Value.entries, hf, Option.getD_none, Fields.merge_nil]
  | some entries =>
    rw [Value.entries, hf, Option.getD_some] at hd ⊢
    exact hfold entries fields hn hd

lemma get?_clearPath_cons (key : String) (rest : List String) (fields : Fields) (other : String) :
    Table.get? (clearPath (key :: rest) fields) other = (fields.get? other).map fun v =>
      if key = other then .mapping (clearPath rest v.entries) else v := by
  rw [clearPath]
  cases h : fields.get? key with
  | none =>
    by_cases ho : key = other
    · subst ho; simp [h]
    · simp [ho]
  | some v =>
    simp only [Table.get?_insert]
    by_cases ho : key = other
    · subst ho; simp [h]
    · simp [ho]

lemma keys_clearPath (path : List String) (fields : Fields) :
    Table.keys (clearPath path fields) = fields.keys := by
  cases path with
  | nil => rfl
  | cons key rest =>
    rw [clearPath]
    cases h : fields.get? key with
    | none => rfl
    | some v => exact Table.keys_insert_of_mem (Table.mem_keys_of_get? h) _

lemma wellKeyed_clearPath {path : List String} {fields : Fields} (h : fields.WellKeyed) :
    (clearPath path fields).WellKeyed := by
  induction path generalizing fields with
  | nil => exact h
  | cons key rest ih =>
    rw [clearPath]
    cases hg : fields.get? key with
    | none => exact h
    | some v => exact h.insert (ih (h.of_get? hg).entries)

lemma wellKeyed_foldl_clearPath {paths : List (List String)} {fields : Fields}
    (h : fields.WellKeyed) :
    (paths.foldl (fun c path => clearPath path c) fields).WellKeyed := by
  induction paths generalizing fields with
  | nil => exact h
  | cons path paths ih => exact ih (wellKeyed_clearPath h)

lemma clearPath_nil (path : List String) : clearPath path [] = [] := by
  cases path <;> rfl

/-- Merging inside mappings that are made where they are missing is clearing their path and merging
with the content nested in them. -/
lemma withinPath_merge (path : List String) (content : Fields) {fields : Fields} (h : fields.WellKeyed) :
    withinPath path (·.merge content) fields = (clearPath path fields).merge (nest path content) := by
  induction path generalizing fields with
  | nil => rfl
  | cons key rest ih =>
    rw [withinPath, Fields.within, ih (h.mappingAt key), nest, clearPath, Fields.mappingAt_eq]
    cases hg : fields.get? key with
    | none =>
      rw [Option.map_none, Option.getD_none, clearPath_nil, Fields.nil_merge,
        Table.insert_of_get?_eq_none hg, merge_singleton_of_none hg]
    | some v =>
      rw [Option.map_some, Option.getD_some]
      rw [merge_singleton_of_some (Table.nodup_keys_insert h.nodup key _)
        (Table.get?_insert_self fields key _), Value.merge_mapping]
      apply Table.eq_of_keys_of_get? (Table.nodup_keys_insert h.nodup key _)
      · have hk := Table.mem_keys_of_get? hg
        rw [Table.keys_insert_of_mem hk, Table.keys_insert_of_mem, Table.keys_insert_of_mem hk]
        rwa [Table.keys_insert_of_mem hk]
      · intro other
        simp only [Table.get?_insert]
        by_cases ho : key = other <;> simp [ho]

/-- Clearing one collection and merging another one do not meet. -/
lemma clearPath_merge_singleton {fields : Fields} (hn : fields.keys.Nodup) {key other : String}
    (hne : key ≠ other) (v : Value) :
    clearPath [key] (fields.merge [(other, v)]) = (clearPath [key] fields).merge [(other, v)] := by
  have hs : (Table.keys [(other, v)]).Nodup := List.nodup_singleton other
  apply Table.eq_of_keys_of_get?
  · rw [keys_clearPath]
    exact Fields.nodup_keys_merge hn hs
  · rw [keys_clearPath, Fields.keys_merge, Fields.keys_merge, keys_clearPath]
    congr 1
    apply List.filter_congr
    intro k _
    rw [Table.has, Table.has, get?_clearPath_cons, Option.isSome_map]
  · intro k
    rw [get?_clearPath_cons, Fields.get?_merge, Fields.get?_merge, get?_clearPath_cons,
      Table.get?_cons, Table.get?_nil]
    by_cases hk : key = k
    · subst hk
      cases fields.get? key <;> simp [Ne.symm hne]
    · cases fields.get? k <;> by_cases ho : other = k <;> simp [hk, ho]

/-- Makes room for some collections. -/
def clearNames (names : List String) (fields : Fields) : Fields :=
  (names.map fun key => [key]).foldl (fun c path => clearPath path c) fields

lemma clearNames_cons (key : String) (names : List String) (fields : Fields) :
    clearNames (key :: names) fields = clearNames names (clearPath [key] fields) := rfl

lemma clearNames_merge_singleton {names : List String} {fields : Fields} (hf : fields.WellKeyed)
    {other : String} (hne : other ∉ names) (v : Value) :
    clearNames names (fields.merge [(other, v)]) = (clearNames names fields).merge [(other, v)] := by
  induction names generalizing fields with
  | nil => rfl
  | cons key names ih =>
    rw [List.mem_cons, not_or] at hne
    rw [clearNames_cons, clearNames_cons, clearPath_merge_singleton hf.nodup (Ne.symm hne.1),
      ih (wellKeyed_clearPath hf) hne.2]

/-- Filling in several collections in turn is making room for all of them and one merge. -/
lemma foldl_within_fillEach {groups fields : Fields} (hg : groups.WellKeyed)
    (hf : fields.WellKeyed) :
    groups.foldl (fun root e => root.within e.1 (fillEach · e.2)) fields =
      (clearNames groups.keys fields).merge (groups.mapValues fun _ v => .mapping v.entries) := by
  induction groups generalizing fields with
  | nil => exact (Fields.merge_nil fields).symm
  | cons e groups ih =>
    obtain ⟨key, v⟩ := e
    obtain ⟨hn, hw⟩ := Fields.wellKeyed_iff.1 hg
    have hv : v.entries.WellKeyed := (hw _ List.mem_cons_self).entries
    have hnot : key ∉ Table.keys groups := (List.nodup_cons.1 hn).1
    have hrest : Fields.WellKeyed groups :=
      Fields.wellKeyed_iff.2 ⟨(List.nodup_cons.1 hn).2, fun e he => hw e (List.mem_cons_of_mem _ he)⟩
    have hone : fields.within key (fillEach · v) =
        (clearPath [key] fields).merge [(key, .mapping v.entries)] := by
      have h := withinPath_merge [key] v.entries hf
      rw [withinPath, Fields.within, withinPath] at h
      rw [Fields.within, fillEach_eq_merge (hf.mappingAt key).nodup hv.nodup, h]
      rfl
    have hclear : (clearPath [key] fields).WellKeyed := wellKeyed_clearPath hf
    have hroom : (clearNames (Table.keys groups) (clearPath [key] fields)).WellKeyed :=
      wellKeyed_foldl_clearPath hclear
    have hkeys : (Table.keys ((key, Value.mapping v.entries) ::
        Table.mapValues (fun _ v => Value.mapping v.entries) groups)).Nodup := by
      rw [Table.keys_cons, Table.keys_mapValues]
      exact hn
    rw [List.foldl_cons, hone, ih hrest (hclear.merge (Fields.wellKeyed_singleton hv)),
      clearNames_merge_singleton hclear hnot, Table.keys_cons, clearNames_cons]
    exact (merge_cons hroom.nodup hkeys).symm

/-- The collections of a registry document that the model does not know are passed over. -/
lemma foldl_within_known (m : Model) (groups fields : Fields) :
    groups.foldl (fun root e =>
        if m.isGroupCollection e.1 then root.within e.1 (fillEach · e.2) else root) fields =
      (groups.filter fun e => m.isGroupCollection e.1).foldl
        (fun root e => root.within e.1 (fillEach · e.2)) fields := by
  rw [List.foldl_filter]

lemma wellKeyed_filter {fields : Fields} (h : fields.WellKeyed) (p : String × Value → Bool) :
    Fields.WellKeyed (fields.filter p) :=
  Fields.wellKeyed_iff.2 ⟨h.nodup.sublist (List.filter_sublist.map Prod.fst),
    fun _ he => h.of_mem (List.mem_filter.1 he).1⟩

/-- Merging a document at an address is making room for it and merging with the document that holds
it alone at its place. -/
theorem mergeAt_eq_merge (m : Model) (a : Address) {document : Value} {composed : Fields}
    (hd : document.WellKeyed) (hc : composed.WellKeyed) :
    mergeAt m a document composed = (clear m a document composed).merge (embed m a document) := by
  have hentries := hd.entries.nodup
  have hwithin : ∀ (path : List String) (content : Fields) (change : Fields → Fields),
      (∀ fields : Fields, fields.WellKeyed → change fields = fields.merge content) →
      withinPath path change composed =
        (clearPath path composed).merge (nest path content) := by
    intro path content change hchange
    rw [← withinPath_merge path content hc]
    induction path generalizing composed with
    | nil => exact hchange composed hc
    | cons key rest ih =>
      rw [withinPath, withinPath, Fields.within, Fields.within, ih (hc.mappingAt key)]
  have heach : ∀ path : List String, withinPath path (fillEach · document) composed =
      (clearPath path composed).merge (nest path document.entries) :=
    fun path => hwithin path _ _ fun _ hf => fillEach_eq_merge hf.nodup hentries
  have hfill : ∀ (path : List String) (key : String),
      withinPath path (fill · key document) composed =
        (clearPath path composed).merge (nest path [(key, document)]) :=
    fun path key => hwithin path _ _ fun _ hf => fill_eq_merge hf.nodup key document
  rcases hi : a.inner with _ | ⟨groupType, _ | ⟨groupId, _ | ⟨segment, _ | ⟨resourceId,
    _ | ⟨versions, _ | ⟨versionId, _ | ⟨segment, rest⟩⟩⟩⟩⟩⟩⟩ <;>
    simp only [mergeAt, clear, containers, embed, hi, List.foldl_cons, List.foldl_nil]
  · have h := foldl_within_fillEach (wellKeyed_filter hd.entries fun e => m.isGroupCollection e.1) hc
    rw [← foldl_within_known] at h
    change _ = (clearNames (Table.keys (knownCollections m document)) composed).merge _
    rw [knownCollections, ← h]
    cases hf : document.fields? <;> simp [Value.entries, hf]
  · exact heach [_]
  · exact hfill [_] _
  · exact heach [_, _, _]
  · exact hfill [_, _, _] _
  · exact heach [_, _, _, _, _]
  · exact hfill [_, _, _, _, _] _
  · exact (Fields.merge_nil composed).symm

end Registry.Composition
