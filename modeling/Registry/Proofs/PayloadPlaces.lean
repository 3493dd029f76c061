import Registry.Proofs.PayloadAgain
import Registry.Proofs.PayloadRest

/-!
# Where payloads are put

Finding the payloads of a document reaches the versions of the resources that the model declares, and
the resources that have none. Each of them gets what the first of its fields holds that is there, if
that is a payload, and all else stays.
-/

namespace Registry

namespace Value.SameBut

variable {touched touched' : List String → Prop} {v w : Value}

lemma refl (v : Value) : SameBut (fun _ => False) v v where
  apart _ _ := rfl
  around _ _ hq := hq.elim

/-- Anything is the same as anything but for the whole. -/
lemma whole (v w : Value) : SameBut (· = []) v w where
  apart _ h := absurd List.nil_prefix (h [] rfl).1
  around path q hq hp hne := by
    subst hq
    exact absurd (List.prefix_nil.1 hp) hne

lemma congr (h : SameBut touched v w) (hsame : ∀ q, touched' q ↔ touched q) : SameBut touched' v w :=
  (funext fun q => propext (hsame q) : touched' = touched) ▸ h

/-- A mapping is another one but for what stands at some paths if its entries are so. -/
lemma mapping {fields fields' : Fields} (hn : fields.keys.Nodup) (hkeys : fields'.keys = fields.keys)
    (hentry : ∀ key v w, fields.get? key = some v → fields'.get? key = some w →
      SameBut (fun q => touched (key :: q)) v w)
    (hreal : ∀ q, touched q → ∃ key rest, q = key :: rest ∧ key ∈ fields.keys) :
    SameBut touched (.mapping fields) (.mapping fields') := by
  have hpair := Table.get?_of_keys_eq hkeys
  constructor
  case apart =>
    intro path h
    cases path with
    | nil =>
      -- nothing is touched at all, so the entries are the same one by one
      have hnone : ∀ q, ¬touched q := fun q hq => (h q hq).2 List.nil_prefix
      have hfields : fields = fields' := by
        refine Table.eq_of_keys_of_get? hn hkeys.symm fun key => ?_
        rcases hpair key with ⟨hv, hw⟩ | ⟨v, w, hv, hw⟩
        · rw [hv, hw]
        · rw [hv, hw]
          exact ((hentry key v w hv hw).apart [] fun q hq => absurd hq (hnone _)).symm
      rw [hfields]
    | cons key path =>
      rw [at?_mapping_cons, at?_mapping_cons]
      rcases hpair key with ⟨hv, hw⟩ | ⟨v, w, hv, hw⟩
      · rw [hv, hw]
      · rw [hv, hw]
        refine (hentry key v w hv hw).apart path fun q hq => ?_
        simpa [List.cons_prefix_cons] using h (key :: q) hq
  case around =>
    intro path q hq hp hne
    cases path with
    | nil => exact ⟨fields, fields', rfl, rfl, hkeys⟩
    | cons key path =>
      obtain ⟨key', rest, rfl, hkey⟩ := hreal q hq
      obtain ⟨rfl, hbelow⟩ := List.cons_prefix_cons.1 hp
      rcases hpair key with ⟨hv, -⟩ | ⟨v, w, hv, hw⟩
      · exact absurd hkey (Table.get?_eq_none_iff.1 hv)
      · rw [at?_mapping_cons, at?_mapping_cons, hv, hw]
        exact (hentry key v w hv hw).around path rest hq hbelow fun he => hne (he ▸ rfl)

lemma onMapping {touched : Fields → List String → Prop} {alter : Fields → Fields}
    (h : ∀ fields, v = .mapping fields →
      SameBut (touched fields) (.mapping fields) (.mapping (alter fields))) :
    SameBut (fun q => ∃ fields, v = .mapping fields ∧ touched fields q) v (v.onMapping alter) := by
  cases v with
  | mapping fields =>
    refine (h fields rfl).congr fun q => ⟨?_, fun hq => ⟨fields, rfl, hq⟩⟩
    rintro ⟨_, hsame, hq⟩
    rwa [Value.mapping.inj hsame]
  | _ =>
    refine (refl _).congr fun q => ⟨?_, False.elim⟩
    rintro ⟨_, hsame, -⟩
    cases hsame

lemma mapValues {fields : Fields} {touched : Value → List String → Prop}
    {alter : String → Value → Value} (hn : fields.keys.Nodup)
    (h : ∀ key v, fields.get? key = some v → SameBut (touched v) v (alter key v)) :
    SameBut (fun q => ∃ key v rest, fields.get? key = some v ∧ touched v rest ∧ q = key :: rest)
      (.mapping fields) (.mapping (fields.mapValues alter)) := by
  refine mapping hn (Table.keys_mapValues _ _) (fun key v w hv hw => ?_) ?_
  · rw [Table.get?_mapValues, hv] at hw
    obtain rfl := Option.some.inj hw
    refine (h key v hv).congr fun q => ⟨?_, fun hq => ⟨key, v, q, hv, hq, rfl⟩⟩
    rintro ⟨key', v', rest, hv', hrest, hsame⟩
    obtain ⟨rfl, rfl⟩ := List.cons.inj hsame
    rwa [Option.some.inj (hv.symm.trans hv')]
  · rintro _ ⟨key, v, rest, hv, -, rfl⟩
    exact ⟨key, rest, rfl, Table.mem_keys_of_get? hv⟩

end Value.SameBut

namespace Fields

variable {τ : Type} {plural : τ → String} {types : List τ} {fields : Fields}
  {touched : τ → Fields → List String → Prop} {alter : τ → String → Fields → Fields}

/-- The paths that lead through the collections of some types to what is touched there. -/
def AlongEach (plural : τ → String) (types : List τ) (touched : τ → Fields → List String → Prop)
    (fields : Fields) (path : List String) : Prop :=
  ∃ t ∈ types, ∃ id x rest, (Value.mapping fields).under [plural t, id] = some (.mapping x) ∧
    touched t x rest ∧ path = plural t :: id :: rest

lemma keys_alterAt (key : String) (alter : Fields → Fields) (fields : Fields) :
    (fields.alterAt key alter).keys = fields.keys := by
  unfold alterAt
  split
  · next hinner => exact Table.keys_insert_of_mem (Table.mem_keys_of_get? hinner) _
  · rfl

lemma keys_alterEach (plural : τ → String) (types : List τ) (alter : τ → String → Fields → Fields)
    (fields : Fields) : (fields.alterEach plural types alter).keys = fields.keys := by
  induction types generalizing fields with
  | nil => rfl
  | cons a types ih => exact (ih _).trans (keys_alterAt _ _ _)

/-- Where each collection belongs to one type, nothing changes apart from what is touched in the
mappings in these collections. -/
theorem sameBut_alterEach (hf : fields.WellKeyed) (hn : (types.map plural).Nodup)
    (h : ∀ t ∈ types, ∀ id x, (Value.mapping fields).under [plural t, id] = some (.mapping x) →
      Value.SameBut (touched t x) (.mapping x) (.mapping (alter t id x))) :
    Value.SameBut (AlongEach plural types touched fields) (.mapping fields)
      (.mapping (fields.alterEach plural types alter)) := by
  refine .mapping hf.nodup (keys_alterEach _ _ _ _) (fun key v w hv hw => ?_) ?_
  · by_cases hkey : ∃ t ∈ types, plural t = key
    · obtain ⟨t, ht, rfl⟩ := hkey
      rw [get?_alterEach hn ht, hv] at hw
      obtain rfl := Option.some.inj hw
      have hinner : ∀ inner : Fields, v = .mapping inner → ∀ id x, inner.get? id = some x →
          (Value.mapping fields).under [plural t, id] = some x := by
        rintro inner rfl id x hx
        exact Value.under_pair_eq_some.2 ⟨inner, hv, hx⟩
      have hchange : ∀ inner : Fields, v = .mapping inner → ∀ id x, inner.get? id = some x →
          Value.SameBut (fun q => ∃ y, x = .mapping y ∧ touched t y q) x (x.onMapping (alter t id)) :=
        fun inner hv id x hx => .onMapping fun y hy => h t ht id y (hy ▸ hinner inner hv id x hx)
      refine (Value.SameBut.onMapping fun inner hv' => .mapValues ?_ (hchange inner hv')).congr
        fun q => ?_
      · exact Fields.WellKeyed.nodup (hf.of_get? (hv' ▸ hv))
      · constructor
        · rintro ⟨t', ht', id, x, rest, hunder, hrest, hpath⟩
          obtain ⟨hplural, rfl⟩ := List.cons.inj hpath
          obtain rfl := List.inj_on_of_nodup_map hn ht ht' hplural
          obtain ⟨inner, hinner', hx⟩ := Value.under_pair_eq_some.1 hunder
          obtain rfl := Option.some.inj (hv.symm.trans hinner')
          exact ⟨inner, rfl, id, _, rest, hx, ⟨x, rfl, hrest⟩, rfl⟩
        · rintro ⟨inner, hv', id, _, rest, hx, ⟨x, rfl, hrest⟩, rfl⟩
          exact ⟨t, ht, id, x, rest, hinner inner hv' id _ hx, hrest, rfl⟩
    · -- the collection of no type stays as it is
      have hkey' : ∀ t ∈ types, plural t ≠ key := fun t ht he => hkey ⟨t, ht, he⟩
      rw [get?_alterEach_of_ne hkey', hv] at hw
      obtain rfl := Option.some.inj hw
      refine (Value.SameBut.refl v).congr fun q => ⟨?_, False.elim⟩
      rintro ⟨t, ht, id, x, rest, -, -, hpath⟩
      exact hkey' t ht (List.cons.inj hpath).1.symm
  · rintro _ ⟨t, ht, id, x, rest, hunder, -, rfl⟩
    obtain ⟨inner, hinner, -⟩ := Option.bind_eq_some_iff.1 hunder
    exact ⟨plural t, id :: rest, rfl, Table.mem_keys_of_get? hinner⟩

end Fields

namespace Payload

open Registry.Composition (Reading)

variable {reads : String → CachedRead} {singular : String} {entity resource version : Fields}
  {payload : Value} {path : List String} {m : Model} {root : Fields}

/-- The mappings of a resource that carry payloads: its versions, or the resource itself if it has no
mapping of versions. -/
inductive Carries (resource : Fields) : List String → Fields → Prop
  | version {versions version : Fields} {id : String}
      (hversions : resource.get? "versions" = some (.mapping versions))
      (hversion : versions.get? id = some (.mapping version)) :
      Carries resource ["versions", id] version
  | itself (h : ∀ versions, resource.get? "versions" ≠ some (.mapping versions)) :
      Carries resource [] resource

/-- The mappings of a document that carry payloads, each with the name of its resource type. -/
inductive EntityAt (m : Model) (document : Value) : String → List String → Fields → Prop
  | intro {g : GroupType} {r : ResourceType} {groupId id : String} {resource entity : Fields}
      {path : List String} (hg : g ∈ m.groups) (hr : r ∈ g.resources)
      (hresource : document.under [g.plural, groupId, r.plural, id] = some (.mapping resource))
      (hentity : Carries resource path entity) :
      EntityAt m document r.singular (g.plural :: groupId :: r.plural :: id :: path) entity

/-- How a field holds a payload: as it is, at a location where a document can be loaded, or as the
base64 of a text in UTF-8. -/
inductive Yields (reads : String → CachedRead) : Form → Value → Value → Prop
  | inline (v : Value) : Yields reads .inline v v
  | url {url : String} {payload : Value} (hload : (reads url).document = some payload) :
      Yields reads .url (.string url) payload
  | base64 {encoded : String} {bytes : List UInt8} {text : List Char} {payload : Value}
      (hbytes : Text.Base64.decode? (Text.trim encoded).toList = some bytes)
      (htext : Text.Utf8.decode? bytes = some text)
      (hpayload : Document.read? .permissive (String.ofList text) = some payload) :
      Yields reads .base64 (.string encoded) payload

/-- The fields that may hold a payload that is not under the name of its resource type, in the order
in which they count. -/
def otherFields (singular : String) : List (String × Form) :=
  [("resource", .inline), (singular ++ "url", .url), ("resourceurl", .url),
    (singular ++ "base64", .base64), ("resourcebase64", .base64)]

/-- The payload that an entity without one gets: what the first of its fields yields that may hold
one and is there. -/
inductive Gets (reads : String → CachedRead) (singular : String) (entity : Fields)
    (payload : Value) : Prop
  | intro {front back : List (String × Form)} {field : String} {form : Form} {v : Value}
      (hhas : entity.has singular = false)
      (hfields : otherFields singular = front ++ (field, form) :: back)
      (hfront : ∀ c ∈ front, entity.has c.1 = false) (hfield : entity.get? field = some v)
      (hyields : Yields reads form v payload)

lemma payload?_eq_some {form : Form} {v : Value} :
    payload? reads form v = some payload ↔ Yields reads form v payload := by
  constructor
  · intro h
    cases form with
    | inline =>
      obtain rfl := Option.some.inj h
      exact .inline _
    | url =>
      cases v with
      | string url => exact .url h
      | _ => cases h
    | base64 =>
      cases v with
      | string encoded =>
        simp only [payload?, decode, Option.bind_eq_bind, Option.bind_eq_some_iff] at h
        obtain ⟨bytes, hbytes, text, htext, hpayload⟩ := h
        exact .base64 hbytes htext hpayload
      | _ => cases h
  · intro h
    cases h with
    | inline => rfl
    | url hload => exact hload
    | base64 hbytes htext hpayload =>
      simp only [payload?, decode, hbytes, htext, hpayload, Option.bind_eq_bind, Option.bind_some]

lemma findSome?_field_eq_some {cs : List (String × Form)} {form : Form} {v : Value} :
    (cs.findSome? fun (field, form) => (entity.get? field).map (form, ·)) = some (form, v) ↔
      ∃ front field back, cs = front ++ (field, form) :: back ∧
        (∀ c ∈ front, entity.has c.1 = false) ∧ entity.get? field = some v := by
  rw [List.findSome?_eq_some_iff]
  constructor
  · rintro ⟨front, ⟨field, form'⟩, back, hcs, hv, hfront⟩
    obtain ⟨x, hx, hsame⟩ := Option.map_eq_some_iff.1 hv
    obtain ⟨rfl, rfl⟩ := Prod.mk.inj hsame
    refine ⟨front, field, back, hcs, fun c hc => ?_, hx⟩
    have hnone := Option.map_eq_none_iff.1 (hfront c hc)
    rw [Table.has, hnone]
    rfl
  · rintro ⟨front, field, back, hcs, hfront, hv⟩
    refine ⟨front, (field, form), back, hcs, Option.map_eq_some_iff.2 ⟨v, hv, rfl⟩, fun c hc => ?_⟩
    exact Option.map_eq_none_iff.2 (by simpa [Table.has] using hfront c hc)

lemma source?_of_has_eq_false (h : entity.has singular = false) : source? singular entity =
    (otherFields singular).findSome? fun (field, form) => (entity.get? field).map (form, ·) := by
  have hnone : entity.get? singular = none := by simpa [Table.has] using h
  have hcandidates : candidates singular = (singular, .inline) :: otherFields singular := rfl
  rw [source?, hcandidates, List.findSome?_cons]
  dsimp only
  rw [hnone]
  rfl

lemma gets_iff : Gets reads singular entity payload ↔ entity.has singular = false ∧
    ((source? singular entity).bind fun source => payload? reads source.1 source.2) = some payload := by
  constructor
  · rintro ⟨hhas, hfields, hfront, hfield, hyields⟩
    have hsource := findSome?_field_eq_some.2 ⟨_, _, _, hfields, hfront, hfield⟩
    rw [← source?_of_has_eq_false hhas] at hsource
    exact ⟨hhas, Option.bind_eq_some_iff.2 ⟨_, hsource, payload?_eq_some.2 hyields⟩⟩
  · rintro ⟨hhas, h⟩
    obtain ⟨⟨form, v⟩, hsource, hpayload⟩ := Option.bind_eq_some_iff.1 h
    rw [source?_of_has_eq_false hhas] at hsource
    obtain ⟨front, field, back, hfields, hfront, hfield⟩ := findSome?_field_eq_some.1 hsource
    exact ⟨hhas, hfields, hfront, hfield, payload?_eq_some.1 hpayload⟩

/-- An entity gets its payload behind its other fields. -/
lemma Gets.populated_eq (h : Gets reads singular entity payload) :
    populated reads singular entity = entity ++ [(singular, payload)] := by
  obtain ⟨hhas, hpayload⟩ := gets_iff.1 h
  rw [populated, if_neg (by rw [hhas]; decide), hpayload]

/-- An entity that gets no payload stays as it is. -/
lemma populated_eq_self (h : ∀ payload, ¬Gets reads singular entity payload) :
    populated reads singular entity = entity := by
  unfold populated
  split
  · rfl
  · next hhas =>
    split
    · next payload hpayload => exact absurd (gets_iff.2 ⟨by simpa using hhas, hpayload⟩) (h payload)
    · rfl

lemma populated_eq_append_iff : populated reads singular entity = entity ++ [(singular, payload)] ↔
    Gets reads singular entity payload := by
  refine ⟨fun h => ?_, Gets.populated_eq⟩
  by_cases hgets : ∃ other, Gets reads singular entity other
  · obtain ⟨other, hother⟩ := hgets
    rw [hother.populated_eq, List.append_cancel_left_eq] at h
    cases h
    exact hother
  · rw [populated_eq_self (not_exists.1 hgets)] at h
    simp at h

lemma sameBut_populatedResource (hr : resource.WellKeyed) :
    Value.SameBut (fun path => ∃ entity, Carries resource path entity) (.mapping resource)
      (.mapping (populatedResource reads singular resource)) := by
  unfold populatedResource
  split
  · next versions hversions =>
    -- the versions are the only collection that is gone through
    have halter : Value.SameBut (Fields.AlongEach (fun _ : Unit => "versions") [()]
        (fun _ _ rest => rest = []) resource) (.mapping resource)
        (.mapping (resource.alterEach (fun _ => "versions") [()]
          fun _ _ => populated reads singular)) :=
      Fields.sameBut_alterEach hr (List.nodup_singleton _) fun _ _ _ _ _ => .whole _ _
    refine halter.congr fun path => ⟨?_, ?_⟩
    · rintro ⟨entity, hentity⟩
      cases hentity with
      | version hsome hversion =>
        have hunder := Value.under_pair_eq_some.2 ⟨_, hsome, hversion⟩
        exact ⟨(), List.mem_cons_self, _, entity, [], hunder, rfl, rfl⟩
      | itself hnone => exact absurd hversions (hnone versions)
    · rintro ⟨⟨⟩, -, id, x, rest, hunder, rfl, rfl⟩
      obtain ⟨inner, hinner, hx⟩ := Value.under_pair_eq_some.1 hunder
      exact ⟨x, .version hinner hx⟩
  · next hother =>
    refine (Value.SameBut.whole _ _).congr fun path => ⟨?_, ?_⟩
    · rintro ⟨entity, hentity⟩
      cases hentity with
      | version hsome _ => exact absurd hsome (hother _)
      | itself _ => rfl
    · rintro rfl
      exact ⟨resource, .itself hother⟩

lemma sameBut_populatedAll (hr : root.WellKeyed) (hgroups : (m.groups.map (·.plural)).Nodup)
    (hresources : ∀ g ∈ m.groups, (g.resources.map (·.plural)).Nodup) :
    Value.SameBut (fun path => ∃ singular entity, EntityAt m (.mapping root) singular path entity)
      (.mapping root) (.mapping (populatedAll m reads root)) := by
  have hgroup : ∀ g ∈ m.groups, ∀ groupId group,
      (Value.mapping root).under [g.plural, groupId] = some (.mapping group) →
      Value.SameBut (Fields.AlongEach (·.plural) g.resources
        (fun _ resource path => ∃ entity, Carries resource path entity) group) (.mapping group)
        (.mapping (populatedGroup reads g.resources group)) := by
    intro g hg groupId group hunder
    have hk : Fields.WellKeyed group := Value.wellKeyed_at? hr (Value.at?_of_under hunder)
    refine Fields.sameBut_alterEach hk (hresources g hg) fun r _ id resource hx => ?_
    exact sameBut_populatedResource (Value.wellKeyed_at? hk (Value.at?_of_under hx))
  refine (Fields.sameBut_alterEach hr hgroups hgroup).congr fun path => ⟨?_, ?_⟩
  · rintro ⟨singular, entity, hentity⟩
    obtain ⟨hg, hr, hresource, hentity⟩ := hentity
    obtain ⟨group, hgroup, hx⟩ := Value.exists_under_pair hresource
    exact ⟨_, hg, _, group, _, hgroup, ⟨_, hr, _, _, _, hx, ⟨entity, hentity⟩, rfl⟩, rfl⟩
  · rintro ⟨g, hg, groupId, group, rest, hgroup, ⟨r, hr, id, resource, rest, hx, ⟨entity, hentity⟩,
      rfl⟩, rfl⟩
    refine ⟨r.singular, entity, .intro hg hr ?_ hentity⟩
    rw [Value.under_cons_cons, hgroup]
    exact hx

lemma under_populatedResource (h : Carries resource path entity) :
    (Value.mapping (populatedResource reads singular resource)).under path =
      some (.mapping (populated reads singular entity)) := by
  cases h with
  | version hversions hversion =>
    rw [populatedResource, hversions, Value.under_mapping_cons, Fields.get?_alterAt, if_pos rfl,
      hversions]
    dsimp only [Option.map_some, Value.onMapping]
    rw [Option.bind_some, Value.under_mapping_cons, Table.get?_mapValues, hversion]
    rfl
  | itself hnone =>
    unfold populatedResource
    split
    · next versions hversions => exact absurd hversions (hnone versions)
    · rfl

lemma under_populatedAll_of_entityAt (hgroups : (m.groups.map (·.plural)).Nodup)
    (hresources : ∀ g ∈ m.groups, (g.resources.map (·.plural)).Nodup)
    (h : EntityAt m (.mapping root) singular path entity) :
    (Value.mapping (populatedAll m reads root)).under path =
      some (.mapping (populated reads singular entity)) := by
  obtain ⟨hg, hr, hresource, hentity⟩ := h
  refine (Value.under_append _ [_, _, _, _] _).trans ?_
  rw [under_populatedAll hgroups hg (hresources _ hg) hr, hresource]
  exact under_populatedResource hentity

/-- Over a source that answers by the location alone, and whatever the fetcher was used for: finding
the payloads of a document changes the versions of its resources, and those of its resources that have
no versions, and nothing else. Each of them gets a payload behind its other fields exactly if it has
none and the first of its fields that is there and may hold one yields it. Finding them again changes
nothing and asks the source for nothing. -/
theorem populateAll_fills (m : Model) (hgroups : (m.groups.map (·.plural)).Nodup)
    (hresources : ∀ g ∈ m.groups, (g.resources.map (·.plural)).Nodup)
    (hversions : ∀ g ∈ m.groups, ∀ r ∈ g.resources, r.singular ≠ "versions")
    {s : Source} (hs : s.Stable) (policy : ParsePolicy) (uses : List Fetcher.Use) (headers : Headers)
    {document : Value} (hd : document.WellKeyed) :
    let f := (Fetcher.start s policy).run uses
    let reads := s.load policy
    let first := document.changeMapping (populateAll m headers) f
    let again := first.1.changeMapping (populateAll m headers) first.2
    Value.SameBut (fun path => ∃ singular entity, EntityAt m document singular path entity)
      document first.1 ∧
    (∀ singular path entity, EntityAt m document singular path entity → ∃ after : Fields,
      first.1.under path = some (.mapping after) ∧
      (∀ payload, after = entity ++ [(singular, payload)] ↔ Gets reads singular entity payload) ∧
      ((∀ payload, ¬Gets reads singular entity payload) → after = entity)) ∧
    again.1 = first.1 ∧ again.2.requests = first.2.requests := by
  intro f reads first again
  cases document with
  | mapping root =>
    have hfirst : first.1 = .mapping (populatedAll m reads root) := congrArg Value.mapping
      (computes_populateAll hs m headers root f (Composition.reading_run s policy uses)).1
    obtain ⟨hsame, hquiet⟩ :=
      (settles_populateAll m headers hgroups hresources hversions).idle root f _ List.prefix_rfl
    refine ⟨?_, fun singular path entity hentity => ⟨populated reads singular entity, ?_, ?_, ?_⟩,
      congrArg Value.mapping hsame, hquiet.requests⟩
    · rw [hfirst]
      exact sameBut_populatedAll hd hgroups hresources
    · rw [hfirst]
      exact under_populatedAll_of_entityAt hgroups hresources hentity
    · exact fun payload => populated_eq_append_iff
    · exact populated_eq_self
  | _ =>
    refine ⟨(Value.SameBut.refl _).congr fun path => ⟨?_, False.elim⟩, ?_, rfl, rfl⟩
    · rintro ⟨singular, entity, ⟨-, -, hresource, -⟩⟩
      cases hresource
    · rintro singular path entity ⟨-, -, hresource, -⟩
      cases hresource

/-- A schema with a version at a location where nothing is found, and one without versions that holds
null under a legacy name. -/
theorem populateAll_fills_legacy :
    let s := Source.ofDocuments []
    let missing : Fields := [("schemaurl", .string "http://h/missing"), ("schemabase64", .string "")]
    let legacy : Fields := [("resource", .null), ("schemaurl", .string "http://h/unread")]
    let document : Value := .mapping [("schemagroups", .mapping [("g", .mapping [("schemas", .mapping [
      ("a", .mapping [("versions", .mapping [("1", .mapping missing)])]), ("b", .mapping legacy)])])])]
    let f := (Fetcher.start s .strict).run []
    let first := document.changeMapping (populateAll Model.standard []) f
    let again := first.1.changeMapping (populateAll Model.standard []) first.2
    s.Stable ∧ document.WellKeyed ∧
      first.1.under ["schemagroups", "g", "schemas", "a", "versions", "1"] = some (.mapping missing) ∧
      first.1.under ["schemagroups", "g", "schemas", "b"] =
        some (.mapping (legacy ++ [("schema", .null)])) ∧
      again.1 = first.1 ∧ again.2.requests = first.2.requests := by
  intro s missing legacy document f first again
  have hs : s.Stable := Source.stable_ofDocuments []
  have hd : document.WellKeyed := by
    simp [document, missing, legacy, Value.WellKeyed, Value.WellKeyedFields, Table.keys]
  have hschemas : (⟨"schemagroups", "schemagroup", [⟨"schemas", "schema"⟩]⟩ : GroupType) ∈
      Model.standard.groups := by decide
  obtain ⟨-, hentities, hagain⟩ := populateAll_fills Model.standard (by decide) (by decide) (by decide)
    hs .strict [] [] hd
  obtain ⟨after, hafter, -, hnone⟩ := hentities "schema"
    ["schemagroups", "g", "schemas", "a", "versions", "1"] missing
    (.intro hschemas List.mem_cons_self rfl (.version rfl rfl))
  obtain ⟨after', hafter', hsome, -⟩ := hentities "schema" ["schemagroups", "g", "schemas", "b"] legacy
    (.intro hschemas List.mem_cons_self rfl (.itself fun versions h => by cases h))
  -- the URL comes first, and what is behind it does not count
  have hmissing : ∀ payload, ¬Gets (s.load .strict) "schema" missing payload := by
    intro payload hgets
    have hsource : source? "schema" missing = some (.url, .string "http://h/missing") := by decide
    have hload : (s.load .strict "http://h/missing").document = none := rfl
    obtain ⟨-, hpayload⟩ := gets_iff.1 hgets
    rw [hsource, Option.bind_some, payload?, hload] at hpayload
    cases hpayload
  have hlegacy : Gets (s.load .strict) "schema" legacy .null :=
    ⟨rfl, (List.nil_append _).symm, by simp, rfl, .inline _⟩
  rw [hnone hmissing] at hafter
  rw [(hsome .null).2 hlegacy] at hafter'
  exact ⟨hs, hd, hafter, hafter', hagain.1, by simpa only [again, first, f] using hagain.2⟩

end Payload

end Registry
