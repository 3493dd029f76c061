import Registry.Proofs.CollectionChanges
import Registry.Proofs.LoaderHistory

/-!
# Payloads at rest

Over a stable source, finding payloads comes down to what locations load as, whatever was read before.
An entity whose payload has been looked for is at rest: it has one, or the field that counts holds
none. It stays so when it takes over the fields of another one at rest.
-/

namespace Registry.Payload

variable {reads : String → CachedRead} {singular key : String} {entity entity' base : Fields}

/-- The payload that a field holds, given what locations load as. -/
def payload? (reads : String → CachedRead) : Form → Value → Option Value
  | .inline, v => some v
  | .url, .string url => (reads url).document
  | .base64, .string encoded => decode encoded
  | _, _ => none

/-- An entity with its payload under the name of its resource type. -/
def populated (reads : String → CachedRead) (singular : String) (entity : Fields) : Fields :=
  if entity.has singular then entity
  else match (source? singular entity).bind fun source => payload? reads source.1 source.2 with
    | some payload => entity ++ [(singular, payload)]
    | none => entity

/-- A resource with the payloads of its versions, or with its own if it has none. -/
def populatedResource (reads : String → CachedRead) (singular : String) (resource : Fields) : Fields :=
  match resource.get? "versions" with
  | some (.mapping _) =>
    resource.alterAt "versions" fun versions =>
      versions.mapValues fun _ version => version.onMapping (populated reads singular)
  | _ => populated reads singular resource

/-- A group with the payloads of the resources that it declares. -/
def populatedGroup (reads : String → CachedRead) (types : List ResourceType) (group : Fields) : Fields :=
  group.alterEach (·.plural) types fun type _ => populatedResource reads type.singular

/-- A document with the payloads of its resources. -/
def populatedAll (m : Model) (reads : String → CachedRead) (root : Fields) : Fields :=
  root.alterEach (·.plural) m.groups fun type _ => populatedGroup reads type.resources

section computes

open Registry.Composition (Reading)

variable {s : Source} {policy : ParsePolicy}

lemma load_eq (hs : s.Stable) {f : Fetcher} (hf : Reading s policy f) (headers : Headers)
    (form : Form) (v : Value) :
    (load headers form v f).1 = payload? (s.load policy) form v ∧
      Reading s policy (load headers form v f).2 := by
  refine ⟨?_, hf.goesOn (goesOn_load (.refl f) form v)⟩
  cases form with
  | inline => rfl
  | url =>
    cases v with
    | string url =>
      have hfetch := Fetcher.fetch_reuse_of_stable hf.faithful (hf.source ▸ hs) url headers
      rw [hf.source, hf.policy] at hfetch
      exact congrArg Prod.snd hfetch
    | _ => rfl
  | base64 => cases v <;> rfl

lemma computes_populate (hs : s.Stable) (headers : Headers) (singular : String) :
    Fields.Computes (Reading s policy) (populate headers singular)
      (populated (s.load policy) singular) := by
  intro entity f hf
  unfold populate populated
  by_cases hhas : entity.has singular = true
  · rw [if_pos hhas, if_pos hhas]
    exact ⟨rfl, hf⟩
  rw [if_neg hhas, if_neg hhas]
  cases source? singular entity with
  | none => exact ⟨rfl, hf⟩
  | some source =>
    obtain ⟨form, v⟩ := source
    obtain ⟨hload, hread⟩ := load_eq hs hf headers form v
    rw [Option.bind_some, ← hload]
    dsimp only
    generalize load headers form v f = loaded at hread ⊢
    obtain ⟨payload, g⟩ := loaded
    cases payload <;> exact ⟨rfl, hread⟩

lemma computes_populateResource (hs : s.Stable) (headers : Headers) (singular : String) :
    Fields.Computes (Reading s policy) (populateResource headers singular)
      (populatedResource (s.load policy) singular) := by
  have hentity : Fields.Computes (Reading s policy) (populate headers singular)
      (populated (s.load policy) singular) := computes_populate hs headers singular
  intro resource f hf
  unfold populateResource populatedResource
  cases resource.get? "versions" with
  | none => exact hentity resource f hf
  | some v =>
    cases v with
    | mapping => exact hentity.mapState.changeAt "versions" resource f hf
    | _ => exact hentity resource f hf

lemma computes_populateGroup (hs : s.Stable) (headers : Headers) (types : List ResourceType) :
    Fields.Computes (Reading s policy) (populateGroup headers types)
      (populatedGroup (s.load policy) types) :=
  Fields.Computes.foldl fun type _ =>
    (computes_populateResource hs headers type.singular).mapState.changeAt type.plural

/-- Over a stable source the payloads that are found do not depend on what was read before. -/
theorem computes_populateAll (hs : s.Stable) (m : Model) (headers : Headers) :
    Fields.Computes (Reading s policy) (populateAll m headers) (populatedAll m (s.load policy)) :=
  Fields.Computes.foldl fun type _ =>
    (computes_populateGroup hs headers type.resources).mapState.changeAt type.plural

end computes

/-- The first of some fields that an entity has holds no payload. -/
def Stuck (reads : String → CachedRead) : List (String × Form) → Fields → Prop
  | [], _ => True
  | (field, form) :: rest, entity =>
    match entity.get? field with
    | some v => payload? reads form v = none
    | none => Stuck reads rest entity

/-- The payload of an entity has been looked for: it is there, or there is none to be found. -/
def Rests (reads : String → CachedRead) (singular : String) (entity : Fields) : Prop :=
  entity.has singular = true ∨ Stuck reads (candidates singular) entity

lemma stuck_iff {cs : List (String × Form)} : Stuck reads cs entity ↔
    ((cs.findSome? fun (field, form) => (entity.get? field).map (form, ·)).bind
      fun source => payload? reads source.1 source.2) = none := by
  induction cs with
  | nil => simp [Stuck]
  | cons c cs ih =>
    obtain ⟨field, form⟩ := c
    rw [Stuck, List.findSome?_cons]
    dsimp only
    cases entity.get? field with
    | none => exact ih
    | some v => exact Iff.rfl

lemma Rests.populated_eq (h : Rests reads singular entity) : populated reads singular entity = entity := by
  unfold populated
  rcases h with hhas | hstuck
  · rw [if_pos hhas]
  · rw [source?, stuck_iff.1 hstuck, ite_self]

lemma rests_populated (reads : String → CachedRead) (singular : String) (entity : Fields) :
    Rests reads singular (populated reads singular entity) := by
  unfold populated
  split
  · next hhas => exact .inl hhas
  · split
    · next payload _ =>
      left
      rw [Table.has_iff_mem_keys, Table.keys_append]
      exact List.mem_append_right _ List.mem_cons_self
    · next hnone => exact .inr (stuck_iff.2 hnone)

lemma Stuck.congr {cs : List (String × Form)} (h : Stuck reads cs entity)
    (hsame : ∀ c ∈ cs, entity'.get? c.1 = entity.get? c.1) : Stuck reads cs entity' := by
  induction cs with
  | nil => trivial
  | cons c cs ih =>
    obtain ⟨hc, hcs⟩ := List.forall_mem_cons.1 hsame
    rw [Stuck] at h ⊢
    rw [hc]
    split
    · next v hv =>
      rw [hv] at h
      exact h
    · next hv =>
      rw [hv] at h
      exact ih h hcs

/-- What holds no payload holds none when it is merged with something else. -/
lemma payload?_merge {form : Form} {v : Value} (h : payload? reads form v = none) (w : Value) :
    payload? reads form (v.merge w) = none := by
  cases hv : v.isMapping with
  | false => rwa [Value.merge_of_not_isMapping hv]
  | true =>
    obtain ⟨ds, rfl⟩ := Value.isMapping_iff.1 hv
    cases form with
    | inline => cases h
    | _ => cases w <;> simp only [Value.merge, payload?]

lemma Stuck.merge {cs : List (String × Form)} (h : Stuck reads cs entity)
    (hbase : Stuck reads cs base) : Stuck reads cs (entity.merge base) := by
  induction cs with
  | nil => trivial
  | cons c cs ih =>
    rw [Stuck] at h hbase ⊢
    cases hv : entity.get? c.1 with
    | some v =>
      rw [hv] at h
      obtain ⟨b, hb⟩ := Fields.get?_merge_of_some base hv
      rw [hb]
      exact payload?_merge h b
    | none =>
      rw [hv] at h
      rw [Fields.get?_merge_of_none hv]
      cases hw : base.get? c.1 with
      | some w =>
        rw [hw] at hbase
        exact hbase
      | none =>
        rw [hw] at hbase
        exact ih h hbase

/-- An entity at rest is at rest with all that it takes over from another one at rest. -/
theorem Rests.merge (h : Rests reads singular entity) (hbase : Rests reads singular base) :
    Rests reads singular (entity.merge base) := by
  unfold Rests at h hbase ⊢
  rw [Fields.has_merge, Bool.or_eq_true]
  rcases h with hhas | hstuck
  · exact .inl (.inl hhas)
  rcases hbase with hhas | hstuck'
  · exact .inl (.inr hhas)
  · exact .inr (hstuck.merge hstuck')

/-- Whether a field takes part in finding a payload. -/
def Watches (singular key : String) : Prop := key ∈ "versions" :: (candidates singular).map (·.1)

instance (singular key : String) : Decidable (Watches singular key) :=
  inferInstanceAs (Decidable (key ∈ _))

lemma Rests.congr (h : Rests reads singular entity)
    (hsame : ∀ key, Watches singular key → entity'.get? key = entity.get? key) :
    Rests reads singular entity' := by
  have hfields : ∀ c ∈ candidates singular, entity'.get? c.1 = entity.get? c.1 := fun c hc =>
    hsame c.1 (List.mem_cons_of_mem _ (List.mem_map_of_mem hc))
  refine h.imp (fun hhas => ?_) fun hstuck => hstuck.congr hfields
  rw [Table.has, hfields (singular, .inline) List.mem_cons_self]
  exact hhas

/-- The payloads of a resource have been looked for, version by version if it has versions. -/
structure AtRest (reads : String → CachedRead) (singular : String) (resource : Fields) : Prop where
  versions : ∀ versions : Fields, resource.get? "versions" = some (.mapping versions) →
    (versions.mapValues fun _ v => v.onMapping (populated reads singular)) = versions
  own : (∀ versions, resource.get? "versions" ≠ some (.mapping versions)) →
    Rests reads singular resource

variable {resource resource' : Fields}

lemma AtRest.populatedResource_eq (h : AtRest reads singular resource) :
    populatedResource reads singular resource = resource := by
  unfold populatedResource
  split
  · exact Fields.alterAt_eq_self fun versions hversions => h.versions versions hversions
  · next hother => exact (h.own hother).populated_eq

lemma Rests.atRest (h : Rests reads singular resource) (hv : resource.get? "versions" = none) :
    AtRest reads singular resource where
  versions versions hversions := by
    rw [hv] at hversions
    cases hversions
  own _ := h

lemma AtRest.rests (h : AtRest reads singular resource) (hv : resource.get? "versions" = none) :
    Rests reads singular resource := by
  refine h.own fun versions hversions => ?_
  rw [hv] at hversions
  cases hversions

lemma AtRest.congr (h : AtRest reads singular resource)
    (hsame : ∀ key, Watches singular key → resource'.get? key = resource.get? key) :
    AtRest reads singular resource' := by
  have hversions := hsame "versions" List.mem_cons_self
  refine ⟨fun versions hv => h.versions versions (hversions ▸ hv), fun hother => ?_⟩
  exact (h.own fun versions hv => hother versions (hversions.trans hv)).congr hsame

lemma get?_populated_of_ne (h : singular ≠ key) :
    (populated reads singular entity).get? key = entity.get? key := by
  unfold populated
  split
  · rfl
  · split
    · rw [Table.get?_append]
      cases entity.get? key with
      | some v => rfl
      | none => exact if_neg h
    · rfl

lemma atRest_populatedResource (hv : singular ≠ "versions") (resource : Fields) :
    AtRest reads singular (populatedResource reads singular resource) := by
  unfold populatedResource
  split
  · next inner hinner =>
    have hget : (resource.alterAt "versions" fun versions => versions.mapValues
        fun _ v => v.onMapping (populated reads singular)).get? "versions" =
        some (.mapping (Table.mapValues (fun _ v => v.onMapping (populated reads singular)) inner)) := by
      rw [Fields.get?_alterAt, if_pos rfl, hinner]
      rfl
    refine ⟨fun versions hversions => ?_, fun hother => absurd hget (hother _)⟩
    rw [hget, Option.some.injEq, Value.mapping.injEq] at hversions
    refine Table.mapValues_eq_self fun e he => ?_
    obtain ⟨v, -, hvalue⟩ := Table.mem_mapValues.1 (hversions ▸ he)
    rw [hvalue]
    cases v with
    | mapping version =>
      exact congrArg Value.mapping (rests_populated reads singular version).populated_eq
    | _ => rfl
  · next hother =>
    refine ⟨fun versions hversions => ?_, fun _ => rests_populated reads singular resource⟩
    rw [get?_populated_of_ne hv] at hversions
    exact absurd hversions (hother versions)

variable {m : Model} {root : Fields}

lemma populatedAll_eq_self (hr : root.WellKeyed)
    (h : ∀ g ∈ m.groups, ∀ r ∈ g.resources, ∀ groupId id resource,
      (Value.mapping root).under [g.plural, groupId, r.plural, id] = some (.mapping resource) →
        AtRest reads r.singular resource) : populatedAll m reads root = root := by
  refine Fields.alterEach_eq_self hr fun g hg groupId group hgroup => ?_
  have hk : Fields.WellKeyed group := Value.wellKeyed_at? hr (Value.at?_of_under hgroup)
  refine Fields.alterEach_eq_self hk fun r hresource id resource hx => ?_
  refine (h g hg r hresource groupId id resource ?_).populatedResource_eq
  rw [Value.under_cons_cons, hgroup]
  exact hx

/-- Where collections are not shared, every resource is populated once, by itself. -/
lemma under_populatedAll (hgroups : (m.groups.map (·.plural)).Nodup) {g : GroupType}
    (hg : g ∈ m.groups) (hresources : (g.resources.map (·.plural)).Nodup) {r : ResourceType}
    (hr : r ∈ g.resources) (groupId id : String) :
    (Value.mapping (populatedAll m reads root)).under [g.plural, groupId, r.plural, id] =
      ((Value.mapping root).under [g.plural, groupId, r.plural, id]).map
        (·.onMapping (populatedResource reads r.singular)) := by
  rw [Value.under_cons_cons, Value.under_cons_cons (.mapping root), populatedAll,
    Fields.under_alterEach hgroups hg]
  cases (Value.mapping root).under [g.plural, groupId] with
  | none => rfl
  | some v =>
    cases v with
    | mapping group =>
      rw [Option.map_some, Option.bind_some, Option.bind_some, Value.onMapping, populatedGroup,
        Fields.under_alterEach hresources hr]
    | _ => rfl

/-- Where collections are not shared, all resources of a populated document are at rest. -/
theorem atRest_of_populatedAll (hgroups : (m.groups.map (·.plural)).Nodup) {g : GroupType}
    (hg : g ∈ m.groups) (hresources : (g.resources.map (·.plural)).Nodup) {r : ResourceType}
    (hr : r ∈ g.resources) (hv : r.singular ≠ "versions") {groupId id : String}
    (h : (Value.mapping (populatedAll m reads root)).under [g.plural, groupId, r.plural, id] =
      some (.mapping resource)) : AtRest reads r.singular resource := by
  rw [under_populatedAll hgroups hg hresources hr] at h
  obtain ⟨w, -, hw⟩ := Option.map_eq_some_iff.1 h
  cases w with
  | mapping before =>
    rw [← Value.mapping.inj hw]
    exact atRest_populatedResource hv before
  | _ => cases hw

end Registry.Payload
