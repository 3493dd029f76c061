import Registry.Proofs.CollectionChanges
import Registry.Proofs.LoaderRequests

/-!
# Looking for payloads again

Where the payloads of a document were looked for, looking for them again with the same fetcher finds
nothing to do: an entity has its payload, or what was tried is tried again and fails again, from what
the fetcher keeps. This needs no assumption on the source.
-/

namespace Registry

namespace Fetcher

variable {f g h : Fetcher}

/-- Nothing is kept or asked for that was not before. -/
structure Quiet (f g : Fetcher) : Prop where
  cache : g.cache = f.cache
  requests : g.requests = f.requests

lemma Quiet.refl (f : Fetcher) : Quiet f f := ⟨rfl, rfl⟩

lemma Quiet.trans (hfg : Quiet f g) (hgh : Quiet g h) : Quiet f h :=
  ⟨hgh.cache.trans hfg.cache, hgh.requests.trans hfg.requests⟩

lemma Quiet.prefix_cache (hfg : Quiet f g) (hh : h.cache <+: f.cache) : h.cache <+: g.cache := by
  rwa [hfg.cache]

lemma cache_prefix_consult (f : Fetcher) (location : String) (headers : Headers) :
    f.cache <+: (f.consult location headers).2.cache := by
  unfold consult
  split
  · exact List.prefix_rfl
  · exact List.prefix_append _ _

lemma cache_prefix_fetch (f : Fetcher) (location : String) (headers : Headers) (mode : FetchMode) :
    f.cache <+: (f.fetch location headers mode).2.cache := by
  rcases cache_fetch f location headers mode with h | h
  · exact h ▸ List.prefix_rfl
  · exact h ▸ cache_prefix_consult f _ headers

/-- What a location reads as is kept. -/
lemma get?_cache_consult (f : Fetcher) (location : String) (headers : Headers) :
    (f.consult location headers).2.cache.get? location = some (f.consult location headers).1 := by
  unfold consult
  split
  · next read hread => exact hread
  · next hnone =>
    rw [Table.get?_append, hnone]
    exact if_pos rfl

lemma get?_of_prefix {t u : Table CachedRead} {key : String} {read : CachedRead} (h : t <+: u)
    (hread : t.get? key = some read) : u.get? key = some read := by
  obtain ⟨rest, rfl⟩ := h
  rw [Table.get?_append, hread]
  rfl

/-- A location that was fetched is fetched again from what is kept. -/
lemma fetch_again (location : String) (headers : Headers)
    (h : (f.fetch location headers .reuse).2.cache <+: g.cache) :
    (g.fetch location headers .reuse).1 = (f.fetch location headers .reuse).1 ∧
      Quiet g (g.fetch location headers .reuse).2 := by
  have hcache : (f.fetch location headers .reuse).2.cache =
      (f.consult (Location.stripFragment location) headers).2.cache := by simp [fetch]
  rw [hcache] at h
  have hread := get?_of_prefix h (get?_cache_consult f (Location.stripFragment location) headers)
  have hconsult : g.consult (Location.stripFragment location) headers =
      ((f.consult (Location.stripFragment location) headers).1, g) := by
    rw [consult, hread]
  refine ⟨by rw [fetch_reuse, fetch_reuse, hconsult], ?_⟩
  rcases log_fetch g location headers .reuse with ⟨hc, hr⟩ | ⟨hc, hr⟩
  · exact ⟨hc, hr⟩
  · rw [hconsult] at hc hr
    exact ⟨hc, hr⟩

end Fetcher

namespace Fields

open Fetcher (Quiet)

variable {τ : Type} {change : Fields → Fetcher → Fields × Fetcher} {fields : Fields} {f : Fetcher}
  {key : String}

/-- A change has nothing to do, now or with a fetcher that keeps more. -/
def Idle (change : Fields → Fetcher → Fields × Fetcher) (fields : Fields) (f : Fetcher) : Prop :=
  ∀ g, f.cache <+: g.cache → (change fields g).1 = fields ∧ Quiet g (change fields g).2

/-- Once it was made a change has nothing to do. -/
structure Settles (change : Fields → Fetcher → Fields × Fetcher) : Prop where
  keeps : ∀ fields f, f.cache <+: (change fields f).2.cache
  idle : ∀ fields f, Idle change (change fields f).1 (change fields f).2

/-- A change at a key has nothing to do if the mapping there leaves nothing to do. -/
lemma idle_changeAt : Idle (changeAt key change) fields f ↔
    ∀ inner : Fields, fields.get? key = some (.mapping inner) → Idle change inner f := by
  constructor
  · intro h inner hinner g hg
    obtain ⟨hsame, hquiet⟩ := h g hg
    simp only [changeAt, hinner] at hsame hquiet
    have hget := Table.get?_insert_self fields key (.mapping (change inner g).1)
    rw [hsame, hinner, Option.some.injEq, Value.mapping.injEq] at hget
    exact ⟨hget.symm, hquiet⟩
  · intro h g hg
    unfold changeAt
    split
    · next inner hinner =>
      obtain ⟨hsame, hquiet⟩ := h inner hinner g hg
      refine ⟨?_, hquiet⟩
      dsimp only
      rw [hsame, Table.insert_of_get? hinner]
    · exact ⟨rfl, .refl g⟩

lemma get?_changeAt_of_ne {σ : Type} {change : Fields → σ → Fields × σ} {s : σ} {other : String}
    (h : key ≠ other) : (fields.changeAt key change s).1.get? other = fields.get? other := by
  unfold changeAt
  split
  · exact Table.get?_insert_of_ne _ _ h
  · rfl

lemma Settles.changeAt (h : Settles change) (key : String) : Settles (Fields.changeAt key change) where
  keeps fields f := Fields.changeAt_carries (P := fun g => f.cache <+: g.cache)
    (fun inner g hg => hg.trans (h.keeps inner g)) key fields List.prefix_rfl
  idle fields f := by
    rw [idle_changeAt]
    intro inner hinner
    unfold Fields.changeAt at hinner ⊢
    split at hinner
    · next before hbefore =>
      rw [Table.get?_insert_self, Option.some.injEq, Value.mapping.injEq] at hinner
      exact hinner ▸ h.idle before f
    · next hother => exact absurd hinner (hother inner)

lemma Settles.keeps_mapState (h : Settles change) (fields : Fields) (f : Fetcher) : f.cache <+:
    (fields.mapState (fun _ v f => v.changeMapping change f) f).2.cache :=
  Table.mapState_carries (P := fun g : Fetcher => f.cache <+: g.cache)
    (fun _ v _ hg => Value.changeMapping_carries (P := fun g : Fetcher => f.cache <+: g.cache)
      (fun inner g hg => hg.trans (h.keeps inner g)) v hg) fields List.prefix_rfl

lemma Settles.mapState (h : Settles change) : Settles fun (fields : Fields) f =>
    fields.mapState (fun _ v f => v.changeMapping change f) f where
  keeps := h.keeps_mapState
  idle (fields : Fields) f := by
    induction fields generalizing f with
    | nil => exact fun g _ => ⟨rfl, .refl g⟩
    | cons e fields ih =>
      obtain ⟨key, v⟩ := e
      intro g hg
      -- the first entry is idle from where its own change ended
      have hfirst : ((v.changeMapping change f).1.changeMapping change g).1 =
          (v.changeMapping change f).1 ∧
            Quiet g ((v.changeMapping change f).1.changeMapping change g).2 := by
        cases v with
        | mapping inner =>
          obtain ⟨hsame, hquiet⟩ := h.idle inner f g ((h.keeps_mapState fields _).trans hg)
          exact ⟨congrArg Value.mapping hsame, hquiet⟩
        | _ => exact ⟨rfl, .refl g⟩
      obtain ⟨hrest, hquiet⟩ := ih (v.changeMapping change f).2 _ (hfirst.2.prefix_cache hg)
      refine ⟨?_, hfirst.2.trans hquiet⟩
      exact congrArg₂ List.cons (congrArg (Prod.mk key) hfirst.1) hrest

section collections

variable {plural : τ → String} {types : List τ} {change : τ → Fields → Fetcher → Fields × Fetcher}

/-- Changes the collections of some types in turn. -/
def changeEach (plural : τ → String) (change : τ → Fields → Fetcher → Fields × Fetcher)
    (types : List τ) (fields : Fields) (f : Fetcher) : Fields × Fetcher :=
  types.foldl (fun (fields, f) t => fields.changeAt (plural t) (change t) f) (fields, f)

lemma changeEach_cons (a : τ) (types : List τ) (fields : Fields) (f : Fetcher) :
    fields.changeEach plural change (a :: types) f =
      (fields.changeAt (plural a) (change a) f).1.changeEach plural change types
        (fields.changeAt (plural a) (change a) f).2 := rfl

lemma get?_changeEach_of_ne (h : ∀ t ∈ types, plural t ≠ key) :
    (fields.changeEach plural change types f).1.get? key = fields.get? key := by
  induction types generalizing fields f with
  | nil => rfl
  | cons a types ih =>
    obtain ⟨ha, htypes⟩ := List.forall_mem_cons.1 h
    exact (ih htypes).trans (get?_changeAt_of_ne ha)

lemma cache_prefix_changeEach (h : ∀ t ∈ types, Settles (change t)) (fields : Fields) (f : Fetcher) :
    f.cache <+: (fields.changeEach plural change types f).2.cache := by
  induction types generalizing fields f with
  | nil => exact List.prefix_rfl
  | cons a types ih =>
    obtain ⟨ha, htypes⟩ := List.forall_mem_cons.1 h
    exact ((ha.changeAt (plural a)).keeps fields f).trans (ih htypes _ _)

/-- Where no two types have a collection in common, the changes settle what all of them change. -/
lemma settles_changeEach (hn : (types.map plural).Nodup) (h : ∀ t ∈ types, Settles (change t)) :
    Settles (changeEach plural change types) where
  keeps := cache_prefix_changeEach h
  idle fields f := by
    induction types generalizing fields f with
    | nil => exact fun g _ => ⟨rfl, .refl g⟩
    | cons a types ih =>
      obtain ⟨ha, htypes⟩ := List.forall_mem_cons.1 h
      obtain ⟨hapart, hn⟩ := List.nodup_cons.1 hn
      -- the types after this one leave its collection as its own change left it
      have hkept : ((fields.changeEach plural change (a :: types) f).1).get? (plural a) =
          (fields.changeAt (plural a) (change a) f).1.get? (plural a) :=
        get?_changeEach_of_ne fun t ht he => hapart (List.mem_map.2 ⟨t, ht, he⟩)
      have hfirst : Idle (Fields.changeAt (plural a) (change a))
          (fields.changeEach plural change (a :: types) f).1
          (fields.changeAt (plural a) (change a) f).2 := by
        rw [idle_changeAt, hkept, ← idle_changeAt]
        exact (ha.changeAt (plural a)).idle fields f
      intro g hg
      obtain ⟨hsame, hquiet⟩ := hfirst g ((cache_prefix_changeEach htypes _ _).trans hg)
      obtain ⟨hrest, hquiet'⟩ := ih hn htypes (fields.changeAt (plural a) (change a) f).1 _ _
        (hquiet.prefix_cache hg)
      rw [changeEach_cons, hsame]
      exact ⟨hrest, hquiet.trans hquiet'⟩

end collections

end Fields

namespace Payload

open Fetcher (Quiet)
open Fields (Idle Settles)

variable {singular : String} {entity resource : Fields} {f g : Fetcher} {form : Form} {v : Value}

lemma cache_prefix_load (headers : Headers) (form : Form) (v : Value) (f : Fetcher) :
    f.cache <+: (load headers form v f).2.cache := by
  cases form with
  | url =>
    cases v with
    | string url => exact Fetcher.cache_prefix_fetch f url headers .reuse
    | _ => exact List.prefix_rfl
  | inline => exact List.prefix_rfl
  | base64 => cases v <;> exact List.prefix_rfl

lemma load_remembered (headers : Headers) (h : (load headers form v f).2.cache <+: g.cache) :
    (load headers form v g).1 = (load headers form v f).1 ∧ Quiet g (load headers form v g).2 := by
  cases form with
  | url =>
    cases v with
    | string url => exact (Fetcher.fetch_again url headers h).imp_left (congrArg Prod.snd)
    | _ => exact ⟨rfl, .refl g⟩
  | inline => exact ⟨rfl, .refl g⟩
  | base64 => cases v <;> exact ⟨rfl, .refl g⟩

lemma populate_of_has (headers : Headers) (h : entity.has singular = true) (f : Fetcher) :
    populate headers singular entity f = (entity, f) := if_pos h

lemma populate_of_source? (headers : Headers) (h : entity.has singular = false)
    (hs : source? singular entity = some (form, v)) (f : Fetcher) :
    populate headers singular entity f =
      ((load headers form v f).1.elim entity fun payload => entity ++ [(singular, payload)],
        (load headers form v f).2) := by
  rw [populate, if_neg (by rw [h]; decide), hs]
  dsimp only
  generalize load headers form v f = loaded
  obtain ⟨payload, g⟩ := loaded
  cases payload <;> rfl

lemma populate_of_source?_eq_none (headers : Headers) (h : source? singular entity = none)
    (f : Fetcher) : populate headers singular entity f = (entity, f) := by
  rw [populate, h, ite_self]

lemma idle_of_populate_eq {headers : Headers}
    (h : ∀ g, populate headers singular entity g = (entity, g)) :
    Idle (populate headers singular) entity f := by
  intro g _
  rw [h g]
  exact ⟨rfl, .refl g⟩

/-- An entity gets its payload at the first attempt or never. -/
lemma settles_populate (headers : Headers) (singular : String) :
    Settles (populate headers singular) := by
  suffices hboth : ∀ entity f, f.cache <+: (populate headers singular entity f).2.cache ∧
      Idle (populate headers singular) (populate headers singular entity f).1
        (populate headers singular entity f).2 from
    ⟨fun entity f => (hboth entity f).1, fun entity f => (hboth entity f).2⟩
  intro entity f
  cases hhas : entity.has singular with
  | true =>
    rw [populate_of_has headers hhas]
    exact ⟨List.prefix_rfl, idle_of_populate_eq (populate_of_has headers hhas)⟩
  | false =>
    cases hs : source? singular entity with
    | none =>
      rw [populate_of_source?_eq_none headers hs]
      exact ⟨List.prefix_rfl, idle_of_populate_eq (populate_of_source?_eq_none headers hs)⟩
    | some source =>
      obtain ⟨form, v⟩ := source
      rw [populate_of_source? headers hhas hs]
      refine ⟨cache_prefix_load headers form v f, ?_⟩
      cases hload : (load headers form v f).1 with
      | some payload =>
        refine idle_of_populate_eq (populate_of_has headers ?_)
        rw [Option.elim_some, Table.has_iff_mem_keys, Table.keys_append]
        exact List.mem_append_right _ List.mem_cons_self
      | none =>
        intro g hg
        obtain ⟨hsame, hquiet⟩ := load_remembered headers hg
        rw [Option.elim_none, populate_of_source? headers hhas hs, hsame, hload]
        exact ⟨rfl, hquiet⟩

lemma populateResource_of_versions (headers : Headers) {versions : Fields}
    (h : resource.get? "versions" = some (.mapping versions)) (f : Fetcher) :
    populateResource headers singular resource f = resource.changeAt "versions"
      (fun versions f => versions.mapState
        (fun _ version f => version.changeMapping (populate headers singular) f) f) f := by
  rw [populateResource, h]

lemma populateResource_of_versionless (headers : Headers)
    (h : ∀ versions, resource.get? "versions" ≠ some (.mapping versions)) (f : Fetcher) :
    populateResource headers singular resource f = populate headers singular resource f := by
  unfold populateResource
  split
  · next versions hversions => exact absurd hversions (h versions)
  · rfl

lemma get?_populate_of_ne (headers : Headers) {key : String} (h : singular ≠ key) (entity : Fields)
    (f : Fetcher) : (populate headers singular entity f).1.get? key = entity.get? key := by
  cases hhas : entity.has singular with
  | true => rw [populate_of_has headers hhas]
  | false =>
    cases hs : source? singular entity with
    | none => rw [populate_of_source?_eq_none headers hs]
    | some source =>
      rw [populate_of_source? headers hhas hs]
      cases (load headers source.1 source.2 f).1 with
      | none => rfl
      | some payload =>
        rw [Option.elim_some, Table.get?_append]
        cases entity.get? key with
        | some v => rfl
        | none => exact if_neg h

/-- A payload is not taken for versions, so a second pass finds the same entities. -/
lemma settles_populateResource (headers : Headers) (hv : singular ≠ "versions") :
    Settles (populateResource headers singular) := by
  have hentity := settles_populate headers singular
  have hversions := hentity.mapState.changeAt "versions"
  suffices hboth : ∀ resource f, f.cache <+: (populateResource headers singular resource f).2.cache ∧
      Idle (populateResource headers singular) (populateResource headers singular resource f).1
        (populateResource headers singular resource f).2 from
    ⟨fun resource f => (hboth resource f).1, fun resource f => (hboth resource f).2⟩
  intro resource f
  by_cases h : ∃ versions, resource.get? "versions" = some (.mapping versions)
  · obtain ⟨versions, h⟩ := h
    rw [populateResource_of_versions headers h]
    refine ⟨hversions.keeps resource f, fun g hg => ?_⟩
    obtain ⟨after, hafter⟩ : ∃ after, (resource.changeAt "versions" (fun versions f =>
        versions.mapState (fun _ version f => version.changeMapping (populate headers singular) f) f)
          f).1.get? "versions" = some (.mapping after) := by
      unfold Fields.changeAt
      rw [h]
      exact ⟨_, Table.get?_insert_self _ _ _⟩
    rw [populateResource_of_versions headers hafter]
    exact hversions.idle resource f g hg
  · have h' : ∀ versions, resource.get? "versions" ≠ some (.mapping versions) :=
      fun versions hversions => h ⟨versions, hversions⟩
    rw [populateResource_of_versionless headers h']
    refine ⟨hentity.keeps resource f, fun g hg => ?_⟩
    rw [populateResource_of_versionless headers fun versions => by
      rw [get?_populate_of_ne headers hv]
      exact h' versions]
    exact hentity.idle resource f g hg

lemma settles_populateGroup (headers : Headers) {types : List ResourceType}
    (hn : (types.map (·.plural)).Nodup) (hv : ∀ r ∈ types, r.singular ≠ "versions") :
    Settles (populateGroup headers types) :=
  Fields.settles_changeEach hn fun r hr => (settles_populateResource headers (hv r hr)).mapState

/-- Payloads that were looked for are not looked for again, whatever the source would answer. -/
theorem settles_populateAll (m : Model) (headers : Headers)
    (hgroups : (m.groups.map (·.plural)).Nodup)
    (hresources : ∀ g ∈ m.groups, (g.resources.map (·.plural)).Nodup)
    (hversions : ∀ g ∈ m.groups, ∀ r ∈ g.resources, r.singular ≠ "versions") :
    Settles (populateAll m headers) :=
  Fields.settles_changeEach hgroups fun g hg =>
    (settles_populateGroup headers (hresources g hg) (hversions g hg)).mapState

end Payload

end Registry
