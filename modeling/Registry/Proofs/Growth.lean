import Registry.Proofs.Completion
import Registry.Proofs.LoaderRequests

/-!
# What loading adds to a document

Finding payloads and completing defaults only adds entries to the mappings of a document. Payloads are
added under the names of resource types. Every value that stood there before is there afterwards, a
mapping perhaps with more entries.
-/

namespace Registry

namespace Value

/-- A value has all that another one has; its mappings may have more entries, whose keys may be
added. -/
structure Grows (added : String → Prop) (v w : Value) : Prop where
  mappings : ∀ path (ds : Fields), v.under path = some (.mapping ds) →
    ∃ ds' : Fields, w.under path = some (.mapping ds') ∧ ∀ k ∈ ds'.keys, k ∈ ds.keys ∨ added k
  others : ∀ path x, v.under path = some x → x.isMapping = false → w.under path = some x

variable {added : String → Prop} {v w x : Value}

namespace Grows

lemma refl (added : String → Prop) (v : Value) : Grows added v v where
  mappings _ ds h := ⟨ds, h, fun _ hk => .inl hk⟩
  others _ _ h _ := h

lemma trans (h : Grows added v w) (k : Grows added w x) : Grows added v x where
  mappings path ds hv := by
    obtain ⟨ds', hw, hkeys⟩ := h.mappings path ds hv
    obtain ⟨ds'', hx, hkeys'⟩ := k.mappings path ds' hw
    refine ⟨ds'', hx, fun key hkey => ?_⟩
    rcases hkeys' key hkey with hold | hnew
    · exact hkeys key hold
    · exact .inr hnew
  others path y hv hy := k.others path y (h.others path y hv hy) hy

lemma mono {more : String → Prop} (h : Grows added v w) (hmore : ∀ k, added k → more k) :
    Grows more v w where
  mappings path ds hv := by
    obtain ⟨ds', hw, hkeys⟩ := h.mappings path ds hv
    exact ⟨ds', hw, fun k hk => (hkeys k hk).imp_right (hmore k)⟩
  others := h.others

/-- What stands at a path grows along with the whole. -/
lemma under (h : Grows added v w) {path : List String} (hx : v.under path = some x) :
    ∃ y, w.under path = some y ∧ Grows added x y := by
  cases hm : x.isMapping with
  | false => exact ⟨x, h.others path x hx hm, refl added x⟩
  | true =>
    obtain ⟨ds, rfl⟩ := isMapping_iff.1 hm
    obtain ⟨ds', hw, -⟩ := h.mappings path ds hx
    have hv : ∀ q, v.under (path ++ q) = (mapping ds).under q := fun q => by
      rw [under_append, hx, Option.bind_some]
    have hw' : ∀ q, w.under (path ++ q) = (mapping ds').under q := fun q => by
      rw [under_append, hw, Option.bind_some]
    refine ⟨.mapping ds', hw, ⟨fun q es hq => ?_, fun q y hq hy => ?_⟩⟩
    · rw [← hw']
      exact h.mappings _ es ((hv q).trans hq)
    · rw [← hw']
      exact h.others _ y ((hv q).trans hq) hy

/-- A mapping grows if each of its entries does and the keys that come in may be added. -/
lemma mapping {fs gs : Fields}
    (hget : ∀ key v, fs.get? key = some v → ∃ w, gs.get? key = some w ∧ Grows added v w)
    (hnew : ∀ k ∈ gs.keys, k ∈ fs.keys ∨ added k) : Grows added (.mapping fs) (.mapping gs) where
  mappings path ds h := by
    cases path with
    | nil =>
      obtain rfl := Value.mapping.inj (Option.some.inj h)
      exact ⟨gs, rfl, hnew⟩
    | cons key path =>
      obtain ⟨v, hv, hds⟩ := Option.bind_eq_some_iff.1 h
      obtain ⟨w, hw, hgrows⟩ := hget key v hv
      obtain ⟨ds', hds', hkeys⟩ := hgrows.mappings path ds hds
      exact ⟨ds', Option.bind_eq_some_iff.2 ⟨w, hw, hds'⟩, hkeys⟩
  others path x h hx := by
    cases path with
    | nil =>
      rw [← Option.some.inj h] at hx
      simp [isMapping, fields?] at hx
    | cons key path =>
      obtain ⟨v, hv, hx'⟩ := Option.bind_eq_some_iff.1 h
      obtain ⟨w, hw, hgrows⟩ := hget key v hv
      exact Option.bind_eq_some_iff.2 ⟨w, hw, hgrows.others path x hx' hx⟩

lemma get? {fs gs : Fields} (h : Grows added (.mapping fs) (.mapping gs)) {key : String}
    (hv : fs.get? key = some v) : ∃ w, gs.get? key = some w ∧ Grows added v w := by
  have hunder : (Value.mapping fs).under [key] = some v := by
    rw [under_mapping_cons, hv]
    rfl
  obtain ⟨w, hw, hgrows⟩ := h.under hunder
  obtain ⟨w', hw', hend⟩ := Option.bind_eq_some_iff.1 hw
  exact ⟨w, hw'.trans hend, hgrows⟩

/-- A mapping stays one, and grows. -/
lemma under_mapping (h : Grows added v w) {path : List String} {fs : Fields}
    (hx : v.under path = some (.mapping fs)) :
    ∃ gs : Fields, w.under path = some (.mapping gs) ∧ Grows added (.mapping fs) (.mapping gs) := by
  obtain ⟨y, hy, hgrows⟩ := h.under hx
  obtain ⟨gs, hgs, -⟩ := hgrows.mappings [] fs rfl
  obtain rfl := Option.some.inj hgs
  exact ⟨gs, hy, hgrows⟩

/-- An entry that may not be added is absent where it was. -/
lemma get?_eq_none {fs gs : Fields} (h : Grows added (.mapping fs) (.mapping gs)) {key : String}
    (hkey : ¬added key) (hf : fs.get? key = none) : gs.get? key = none := by
  obtain ⟨entries, hentries, hkeys⟩ := h.mappings [] fs rfl
  obtain rfl := Value.mapping.inj (Option.some.inj hentries)
  refine Table.get?_eq_none_iff.2 fun hk => ?_
  exact (hkeys key hk).elim (Table.get?_eq_none_iff.1 hf) hkey

end Grows

end Value

namespace Value

/-- A value that repeats no key grows into one that repeats none. -/
def GrowsTo (added : String → Prop) (v w : Value) : Prop :=
  v.WellKeyed → w.WellKeyed ∧ Grows added v w

namespace GrowsTo

variable {added : String → Prop} {u v w : Value} {fs gs : Fields} {key : String}

lemma refl (added : String → Prop) (v : Value) : GrowsTo added v v :=
  fun h => ⟨h, .refl added v⟩

lemma trans (h : GrowsTo added u v) (k : GrowsTo added v w) : GrowsTo added u w := by
  intro hu
  obtain ⟨hv, hgrows⟩ := h hu
  obtain ⟨hw, hgrows'⟩ := k hv
  exact ⟨hw, hgrows.trans hgrows'⟩

/-- The value of a key may grow. -/
lemma insert (hget : fs.get? key = some v) (h : GrowsTo added v w) :
    GrowsTo added (.mapping fs) (.mapping (fs.insert key w)) := by
  intro (hf : fs.WellKeyed)
  obtain ⟨hw, hgrows⟩ := h (hf.of_get? hget)
  refine ⟨hf.insert hw, .mapping (fun k x hx => ?_) fun k hk => .inl ?_⟩
  · rw [Table.get?_insert]
    by_cases he : key = k
    · subst he
      rw [hget, Option.some.injEq] at hx
      exact ⟨w, if_pos rfl, hx ▸ hgrows⟩
    · exact ⟨x, by rw [if_neg he, hx], .refl added x⟩
  · rwa [Table.keys_insert_of_mem (Table.mem_keys_of_get? hget)] at hk

/-- An entry may come in. -/
lemma insertNew (hadded : added key) (hv : fs.WellKeyed → v.WellKeyed) :
    GrowsTo added (.mapping fs) (.mapping (fs.insertNew key v)) := by
  intro (hf : fs.WellKeyed)
  unfold Table.insertNew
  split
  · exact ⟨hf, .refl added _⟩
  · next hhas =>
    have hnone : fs.get? key = none := by
      rwa [Table.has, Option.not_isSome_iff_eq_none] at hhas
    rw [← Table.insert_of_get?_eq_none hnone]
    refine ⟨hf.insert (hv hf), .mapping (fun k x hx => ⟨x, ?_, .refl added x⟩) fun k hk => ?_⟩
    · have hne : key ≠ k := by
        rintro rfl
        rw [hnone] at hx
        cases hx
      rw [Table.get?_insert, if_neg hne, hx]
    · rw [Table.insert_of_get?_eq_none hnone, Table.keys_append, List.mem_append] at hk
      rcases hk with hk | hk
      · exact .inl hk
      · rw [List.mem_singleton.1 hk]
        exact .inr hadded

/-- A mapping grows if the value of each entry does. -/
lemma of_forall₂ (h : List.Forall₂ (fun e e' => e.1 = e'.1 ∧ GrowsTo added e.2 e'.2) fs gs) :
    GrowsTo added (.mapping fs) (.mapping gs) := by
  have hkeys : Table.keys gs = Table.keys fs := by
    induction h with
    | nil => rfl
    | cons he _ ih => rw [Table.keys, List.map_cons, ← Table.keys, ih, ← he.1]; rfl
  intro (hf : fs.WellKeyed)
  have hwell : ∀ e ∈ fs, e.2.WellKeyed := fun e he => hf.of_mem he
  refine ⟨Fields.wellKeyed_iff.2 ⟨hkeys ▸ hf.nodup, ?_⟩, .mapping ?_ fun k hk => .inl (hkeys ▸ hk)⟩
  · clear hf hkeys
    induction h with
    | nil => simp
    | cons he _ ih =>
      rw [List.forall_mem_cons] at hwell ⊢
      exact ⟨(he.2 hwell.1).1, ih hwell.2⟩
  · clear hf hkeys
    induction h with
    | nil => simp
    | @cons e e' fs gs he _ ih =>
      rw [List.forall_mem_cons] at hwell
      obtain ⟨k, v⟩ := e
      obtain ⟨k', w⟩ := e'
      obtain ⟨rfl, hvalue⟩ := he
      intro key x hx
      rw [Table.get?_cons] at hx ⊢
      by_cases hk : k = key
      · rw [if_pos hk, Option.some.injEq] at hx
        rw [if_pos hk]
        exact ⟨w, rfl, hx ▸ (hvalue hwell.1).2⟩
      · rw [if_neg hk] at hx ⊢
        exact ih hwell.2 key x hx

end GrowsTo

end Value

open Value (Grows GrowsTo)

/-- A change of mappings only adds to them, and what is carried along stays as it should be. -/
def Fields.Adds {σ : Type} (added : String → Prop) (P : σ → Prop)
    (change : Fields → σ → Fields × σ) : Prop :=
  ∀ fields s, P s → GrowsTo added (.mapping fields) (.mapping (change fields s).1) ∧
    P (change fields s).2

namespace Fields.Adds

variable {σ α : Type} {added : String → Prop} {P : σ → Prop} {change : Fields → σ → Fields × σ}

lemma changeMapping (h : Adds added P change) (v : Value) {s : σ} (hs : P s) :
    GrowsTo added v (v.changeMapping change s).1 ∧ P (v.changeMapping change s).2 := by
  cases v with
  | mapping fields => exact h fields s hs
  | _ => exact ⟨.refl added _, hs⟩

lemma changeAt (h : Adds added P change) (key : String) :
    Adds added P (Fields.changeAt key change) := by
  intro fields s hs
  unfold Fields.changeAt
  split
  · next inner hinner =>
    obtain ⟨hgrows, hp⟩ := h inner s hs
    exact ⟨.insert hinner hgrows, hp⟩
  · exact ⟨.refl added _, hs⟩

lemma mapState (h : Adds added P change) :
    Adds added P fun (fields : Fields) s =>
      fields.mapState (fun _ v s => v.changeMapping change s) s := by
  intro (fields : Fields) s hs
  have hpairs : List.Forall₂ (fun e e' => e.1 = e'.1 ∧ GrowsTo added e.2 e'.2) fields
      (fields.mapState (fun _ v s => v.changeMapping change s) s).1 ∧
      P (fields.mapState (fun _ v s => v.changeMapping change s) s).2 := by
    induction fields generalizing s with
    | nil => exact ⟨.nil, hs⟩
    | cons e fields ih =>
      obtain ⟨key, v⟩ := e
      obtain ⟨hgrows, hp⟩ := changeMapping h v hs
      obtain ⟨hrest, hp⟩ := ih _ hp
      exact ⟨.cons ⟨rfl, hgrows⟩ hrest, hp⟩
  exact ⟨.of_forall₂ hpairs.1, hpairs.2⟩

/-- Changes made in turn for each member of a list. -/
lemma foldl {change : Fields × σ → α → Fields × σ} {as : List α}
    (h : ∀ a ∈ as, Adds added P fun fields s => change (fields, s) a) :
    Adds added P fun fields s => as.foldl change (fields, s) := by
  induction as with
  | nil => exact fun fields s hs => ⟨.refl added _, hs⟩
  | cons a as ih =>
    rw [List.forall_mem_cons] at h
    intro fields s hs
    obtain ⟨hgrows, hp⟩ := h.1 fields s hs
    obtain ⟨hgrows', hp'⟩ := ih h.2 _ _ hp
    exact ⟨hgrows.trans hgrows', hp'⟩

end Fields.Adds

namespace Payload

variable {added : String → Prop} {headers : Headers} {singular : String}

lemma wellKeyed_of_decode {encoded : String} {payload : Value} (h : decode encoded = some payload) :
    payload.WellKeyed := by
  unfold decode at h
  simp only [Option.bind_eq_bind, Option.bind_eq_some_iff] at h
  obtain ⟨bytes, -, text, -, hread⟩ := h
  exact Document.wellKeyed_of_read? hread

lemma wellKeyed_of_load {form : Form} {v payload : Value} {f : Fetcher} (hf : f.Faithful)
    (hv : v.WellKeyed) (h : (load headers form v f).1 = some payload) : payload.WellKeyed := by
  unfold load at h
  split at h
  · exact Option.some.inj h ▸ hv
  · exact Fetcher.wellKeyed_of_fetch hf h
  · exact wellKeyed_of_decode h
  · cases h

lemma faithful_load {f : Fetcher} (hf : f.Faithful) (form : Form) (v : Value) :
    (load headers form v f).2.Faithful :=
  (goesOn_load (.refl f) form v).faithful hf

lemma adds_populate (hadded : added singular) :
    Fields.Adds added Fetcher.Faithful (populate headers singular) := by
  intro entity f hf
  unfold populate
  split
  · exact ⟨.refl added _, hf⟩
  · next hhas =>
    split
    · exact ⟨.refl added _, hf⟩
    · next form v hsource =>
      have hnew : ∀ payload, entity ++ [(singular, payload)] = Table.insertNew entity singular payload := by
        intro payload
        rw [Table.insertNew, if_neg hhas]
      have hload : (load headers form v f).2.Faithful := faithful_load hf form v
      split
      · next payload g heq =>
        rw [heq] at hload
        rw [hnew]
        refine ⟨.insertNew hadded fun he => ?_, hload⟩
        obtain ⟨⟨field, form'⟩, -, hfield⟩ := List.exists_of_findSome?_eq_some hsource
        obtain ⟨x, hx, hpair⟩ := Option.map_eq_some_iff.1 hfield
        rw [Prod.mk.injEq] at hpair
        obtain ⟨rfl, rfl⟩ := hpair
        exact wellKeyed_of_load hf (he.of_get? hx) (by rw [heq])
      · next g heq =>
        rw [heq] at hload
        exact ⟨.refl added _, hload⟩

lemma adds_populateResource (hadded : added singular) :
    Fields.Adds added Fetcher.Faithful (populateResource headers singular) := by
  intro resource f hf
  unfold populateResource
  split
  · exact ((adds_populate hadded).mapState.changeAt "versions") resource f hf
  · exact adds_populate hadded resource f hf

lemma adds_populateGroup {types : List ResourceType} (hadded : ∀ type ∈ types, added type.singular) :
    Fields.Adds added Fetcher.Faithful (populateGroup headers types) := by
  refine Fields.Adds.foldl fun type ht => ?_
  exact (adds_populateResource (hadded type ht)).mapState.changeAt type.plural

/-- Whether a name is that of a single resource of some type. -/
def NamesSingle (m : Model) (key : String) : Prop :=
  ∃ g ∈ m.groups, ∃ type ∈ g.resources, key = type.singular

/-- Finding payloads only adds entries, under the names of resource types. -/
theorem adds_populateAll (m : Model) (headers : Headers) :
    Fields.Adds (NamesSingle m) Fetcher.Faithful (populateAll m headers) := by
  refine Fields.Adds.foldl fun g hg => ?_
  have hgroup : Fields.Adds (NamesSingle m) Fetcher.Faithful (populateGroup headers g.resources) :=
    adds_populateGroup fun type ht => ⟨g, hg, type, ht, rfl⟩
  exact hgroup.mapState.changeAt g.plural

end Payload

/-- A change of mappings only adds to them, also where it fails. -/
def Fields.AddsUpTo {ε : Type} (added : String → Prop) (change : Fields → Fields × Option ε) : Prop :=
  ∀ fields, GrowsTo added (.mapping fields) (.mapping (change fields).1)

namespace Fields.AddsUpTo

variable {ε α : Type} {added : String → Prop} {change : Fields → Fields × Option ε}

lemma attemptMapping (h : AddsUpTo added change) (v : Value) :
    GrowsTo added v (v.attemptMapping change).1 := by
  cases v with
  | mapping fields => exact h fields
  | _ => exact .refl added _

lemma attemptAt (h : AddsUpTo added change) (key : String) :
    AddsUpTo added (Fields.attemptAt key change) := by
  intro fields
  unfold Fields.attemptAt
  split
  · next inner hinner => exact .insert hinner (h inner)
  · exact .refl added _

lemma mapUntil {change : String → Fields → Fields × Option ε}
    (h : ∀ key, AddsUpTo added (change key)) :
    AddsUpTo added (Table.mapUntil fun key v => v.attemptMapping (change key)) := by
  intro fields
  refine .of_forall₂ ?_
  have hsame : ∀ rest : Fields,
      List.Forall₂ (fun e e' => e.1 = e'.1 ∧ GrowsTo added e.2 e'.2) rest rest :=
    fun rest => List.forall₂_same.2 fun e _ => ⟨rfl, .refl added _⟩
  induction fields with
  | nil => exact .nil
  | cons e fields ih =>
    obtain ⟨key, v⟩ := e
    have hgrows := attemptMapping (h key) v
    unfold Table.mapUntil
    split
    · next w fault heq =>
      rw [heq] at hgrows
      exact .cons ⟨rfl, hgrows⟩ (hsame fields)
    · next w heq =>
      rw [heq] at hgrows
      exact .cons ⟨rfl, hgrows⟩ ih

lemma attemptAll {change : α → Fields → Fields × Option ε} (h : ∀ a, AddsUpTo added (change a))
    (as : List α) : AddsUpTo added (Fields.attemptAll change as) := by
  induction as with
  | nil => exact fun fields => .refl added _
  | cons a as ih =>
    intro fields
    have hgrows := h a fields
    unfold Fields.attemptAll
    split
    · next heq =>
      rw [heq] at hgrows
      exact hgrows
    · next fields' heq =>
      rw [heq] at hgrows
      exact hgrows.trans (ih fields')

end Fields.AddsUpTo

namespace Defaults

/-- Every entry may come in. -/
def Anything (_ : String) : Prop := True

/-- The keys that defaults are put under: ids, and the metadata of a message with its parts. -/
def Supplied (key : String) : Prop :=
  "id".toList <:+ key.toList ∨ key ∈ metadataKeys ∨ key ∈ metadataDefaults.keys

lemma supplied_id (singular : String) : Supplied (singular ++ "id") := by
  left
  rw [String.toList_append]
  exact List.suffix_append _ _

lemma growsTo_addMissing {defaults : Fields} (hd : ∀ e ∈ defaults, Supplied e.1 ∧ e.2.WellKeyed)
    (fields : Fields) : GrowsTo Supplied (.mapping fields) (.mapping (addMissing defaults fields)) := by
  unfold addMissing
  induction defaults generalizing fields with
  | nil => exact .refl _ _
  | cons e defaults ih =>
    rw [List.forall_mem_cons] at hd
    have hnew : GrowsTo Supplied (.mapping fields) (.mapping (fields.insertNew e.1 e.2)) :=
      .insertNew hd.1.1 fun _ => hd.1.2
    exact hnew.trans (ih hd.2 _)

lemma of_mem_metadataDefaults : ∀ e ∈ metadataDefaults, Supplied e.1 ∧ e.2.WellKeyed := by
  refine fun e he => ⟨.inr (.inr (Table.mem_keys_of_mem he)), ?_⟩
  revert e
  simp [metadataDefaults, Value.WellKeyed, Value.WellKeyedFields, Table.keys]

lemma addsUpTo_completeMetadata (id : String) {key : String} (hkey : Supplied key) :
    Fields.AddsUpTo Supplied (completeMetadata id key) := by
  intro message
  have hnew : GrowsTo Supplied (.mapping message)
      (.mapping (Table.insertNew message key (.mapping []))) :=
    .insertNew hkey fun _ => Fields.wellKeyed_nil
  unfold completeMetadata
  dsimp only
  split
  · next metadata hmetadata =>
    split
    · exact hnew.trans (.insert hmetadata (growsTo_addMissing of_mem_metadataDefaults metadata))
    · exact hnew
  · exact hnew

lemma addsUpTo_completeResource (type : ResourceType) (id : String) :
    Fields.AddsUpTo Supplied (completeResource type id) := by
  intro resource
  have hnew : GrowsTo Supplied (.mapping resource)
      (.mapping (Table.insertNew resource type.idAttribute (.string id))) :=
    .insertNew (supplied_id _) fun _ => trivial
  unfold completeResource
  dsimp only
  split
  · refine hnew.trans ?_
    unfold completeMessage
    split
    · exact .refl _ _
    · next key hkey => exact addsUpTo_completeMetadata id (.inr (.inl (mem_metadataKeys hkey))) _
  · exact hnew

lemma addsUpTo_completeGroup (type : GroupType) (id : String) :
    Fields.AddsUpTo Supplied (completeGroup type id) := by
  intro group
  have hnew : GrowsTo Supplied (.mapping group)
      (.mapping (Table.insertNew group type.idAttribute (.string id))) :=
    .insertNew (supplied_id _) fun _ => trivial
  have hall : Fields.AddsUpTo Supplied (Fields.attemptAll (fun (r : ResourceType) =>
      Fields.attemptAt r.plural
        (Table.mapUntil fun id resource => resource.attemptMapping (completeResource r id)))
      type.resources) :=
    .attemptAll (fun r => .attemptAt (.mapUntil fun id => addsUpTo_completeResource r id) r.plural) _
  exact hnew.trans (hall _)

/-- Completing a document only adds entries under the keys of defaults, also where it ends with a
fault. -/
theorem addsUpTo_complete_supplied (m : Model) : Fields.AddsUpTo Supplied (complete m) :=
  .attemptAll (fun g => .attemptAt (.mapUntil fun id => addsUpTo_completeGroup g id) g.plural) _

/-- Completing a document only adds entries, also where it ends with a fault. -/
theorem addsUpTo_complete (m : Model) : Fields.AddsUpTo Anything (complete m) := by
  intro root hroot
  obtain ⟨hwhole, hgrows⟩ := addsUpTo_complete_supplied m root hroot
  exact ⟨hwhole, hgrows.mono fun _ _ => trivial⟩

end Defaults

end Registry
