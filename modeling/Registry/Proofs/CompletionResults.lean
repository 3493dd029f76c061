import Registry.Proofs.CompletionFaults
import Registry.Proofs.Growth

/-!
# What a completion does

Completing the defaults of a document fails exactly if one of its CloudEvents messages is broken, and
names the first one. If it does not fail, every group and resource has its id, and every CloudEvents
message its metadata. In either case nothing is lost and nothing but defaults comes in.
-/

namespace Registry

open Value (Grows GrowsTo)

namespace Value

variable {added : String → Prop} {fs gs : Fields} {key : String}

lemma Grows.has (h : Grows added (.mapping fs) (.mapping gs)) (hkey : fs.has key = true) :
    gs.has key = true := by
  obtain ⟨v, hv⟩ := Option.isSome_iff_exists.1 hkey
  obtain ⟨w, hw, -⟩ := h.get? hv
  rw [Table.has, hw]
  rfl

end Value

namespace Table

variable {α ε : Type} {f : String → α → α × Option ε} {t t' : Table α}

/-- Without a failure every value becomes what the change gave. -/
lemma get?_mapUntil (h : t.mapUntil f = (t', none)) {key : String} {v : α}
    (hv : t.get? key = some v) : ∃ w, f key v = (w, none) ∧ t'.get? key = some w := by
  induction t generalizing t' with
  | nil => cases hv
  | cons e t ih =>
    obtain ⟨k, u⟩ := e
    rw [mapUntil] at h
    split at h
    · cases (Prod.mk.inj h).2
    · next w hchange =>
      obtain ⟨rfl, hnone⟩ := Prod.mk.inj h
      rw [get?_cons] at hv ⊢
      by_cases hk : k = key
      · subst hk
        rw [if_pos rfl, Option.some.injEq] at hv
        exact ⟨w, hv ▸ hchange, if_pos rfl⟩
      · rw [if_neg hk] at hv ⊢
        exact ih (Prod.ext rfl hnone) hv

end Table

namespace Fields

variable {α ε τ : Type} {fields fields' x : Fields} {key id : String} {added : String → Prop}
  {R : Fields → Fields → Prop}

lemma mem_observedAt (hf : fields.WellKeyed) {o : String → Fields → List α} {a : α} :
    a ∈ fields.observedAt o key ↔ ∃ id x,
      (Value.mapping fields).under [key, id] = some (.mapping x) ∧ a ∈ o id x := by
  have hk := (hf.mappingAt key).nodup
  rw [observedAt, observed, List.mem_flatMap]
  constructor
  · rintro ⟨⟨id, v⟩, he, ha⟩
    cases v with
    | mapping x =>
      obtain ⟨inner, hinner, hx⟩ := get?_mappingAt_eq_some.1 (Table.get?_of_mem hk he)
      exact ⟨id, x, Value.under_pair_eq_some.2 ⟨inner, hinner, hx⟩, ha⟩
    | _ => cases ha
  · rintro ⟨id, x, hx, ha⟩
    have hx' := get?_mappingAt_eq_some.2 (Value.under_pair_eq_some.1 hx)
    exact ⟨(id, .mapping x), Table.mem_of_get? hx', ha⟩

lemma observedAt_flatMap {β : Type} (o : String → Fields → List α) (f : α → List β) (key : String)
    (fields : Fields) : (fields.observedAt o key).flatMap f =
      fields.observedAt (fun id x => (o id x).flatMap f) key := by
  rw [observedAt, observed, List.flatMap_assoc]
  refine List.flatMap_congr fun e _ => ?_
  cases e.2 <;> rfl

lemma under_attemptAt {change : String → Fields → Fields × Option ε}
    (h : (fields.attemptAt key (Table.mapUntil fun id v => v.attemptMapping (change id))).2 = none)
    (hx : (Value.mapping fields).under [key, id] = some (.mapping x)) :
    ∃ y, change id x = (y, none) ∧
      (Value.mapping (fields.attemptAt key
        (Table.mapUntil fun id v => v.attemptMapping (change id))).1).under [key, id] =
          some (.mapping y) := by
  obtain ⟨inner, hinner, hx⟩ := Value.under_pair_eq_some.1 hx
  simp only [attemptAt, hinner] at h ⊢
  obtain ⟨w, hchange, hw⟩ := Table.get?_mapUntil (Prod.ext rfl h) hx
  obtain ⟨rfl, hnone⟩ := Prod.mk.inj hchange
  exact ⟨_, Prod.ext rfl hnone, Value.under_pair_eq_some.2 ⟨_, Table.get?_insert_self _ _ _, hw⟩⟩

section attemptEach

variable {plural : τ → String} {types : List τ} {t : τ}
  {change : τ → String → Fields → Fields × Option ε}

lemma addsUpTo_attemptEach (h : ∀ t id, AddsUpTo added (change t id)) (plural : τ → String)
    (types : List τ) :
    AddsUpTo added (attemptEach plural types change) :=
  .attemptAll (fun t => .attemptAt (.mapUntil fun id => h t id) (plural t)) types

/-- Without a failure the change of each type is made to every mapping in its collection. What the
other types do before and after it only adds to the mapping. -/
theorem change_of_attemptEach (hadds : ∀ t id, AddsUpTo added (change t id)) (hf : fields.WellKeyed)
    (ht : t ∈ types) (h : fields.attemptEach plural types change = (fields', none))
    (hx : (Value.mapping fields).under [plural t, id] = some (.mapping x)) :
    ∃ y z w : Fields, y.WellKeyed ∧ Grows added (.mapping x) (.mapping y) ∧
      change t id y = (z, none) ∧ Grows added (.mapping z) (.mapping w) ∧
      (Value.mapping fields').under [plural t, id] = some (.mapping w) := by
  induction types generalizing fields x with
  | nil => cases ht
  | cons a types ih =>
    obtain ⟨hfirst, hrest⟩ := attemptEach_cons h
    obtain ⟨hwell, hgrows⟩ :=
      AddsUpTo.attemptAt (.mapUntil fun id => hadds a id) (plural a) fields hf
    rcases List.mem_cons.1 ht with rfl | ht
    · obtain ⟨z, hchange, hz⟩ := under_attemptAt hfirst hx
      have hlater := (addsUpTo_attemptEach hadds plural types _ hwell).2
      rw [hrest] at hlater
      obtain ⟨w, hw, hgrows'⟩ := hlater.under_mapping hz
      have hxwell : Fields.WellKeyed x := Value.wellKeyed_at? hf (Value.at?_of_under hx)
      exact ⟨x, z, w, hxwell, .refl added _, hchange, hgrows', hw⟩
    · obtain ⟨x', hx', hgrows'⟩ := hgrows.under_mapping hx
      obtain ⟨y, z, w, hy, hbefore, hchange, hafter, hw⟩ := ih hwell ht hrest hx'
      exact ⟨y, z, w, hy, hgrows'.trans hbefore, hchange, hafter, hw⟩

end attemptEach

/-- What looks alike has mappings in the same places. -/
lemma Alike.exists_under (h : Alike R fields fields') (hf : fields.WellKeyed) (hf' : fields'.WellKeyed)
    {y : Fields} (hy : (Value.mapping fields').under [key, id] = some (.mapping y)) :
    ∃ x : Fields, (Value.mapping fields).under [key, id] = some (.mapping x) := by
  have hmem : id ∈ fields'.observedAt (fun id _ => [id]) key :=
    (mem_observedAt hf').2 ⟨id, y, hy, List.mem_cons_self⟩
  rw [h String (fun id _ => [id]) (fun _ _ _ _ => rfl) key] at hmem
  obtain ⟨id', x, hx, hid⟩ := (mem_observedAt hf).1 hmem
  obtain rfl := List.mem_singleton.1 hid
  exact ⟨x, hx⟩

end Fields

namespace Defaults

open Fields (Alike)

variable {m : Model} {g : GroupType} {r : ResourceType} {root whole message x y : Fields}
  {groupId id key : String} {fault : Fault}

/-- The messages of a group with their ids, in the order of its type and then of the group. -/
def groupMessages (g : GroupType) (_ : String) (group : Fields) : List (String × Fields) :=
  g.resources.flatMap fun r =>
    if r.singular = "message" then group.observedAt (fun id x => [(id, x)]) r.plural else []

/-- The messages of a document with their ids, in the order of the model and then of the document. -/
def messagesIn (m : Model) (root : Fields) : List (String × Fields) :=
  m.groups.flatMap fun g => root.observedAt (groupMessages g) g.plural

lemma mem_messagesIn (hroot : root.WellKeyed) : (id, message) ∈ messagesIn m root ↔
    ∃ g ∈ m.groups, ∃ r ∈ g.resources, r.singular = "message" ∧ ∃ groupId,
      (Value.mapping root).under [g.plural, groupId, r.plural, id] = some (.mapping message) := by
  simp only [messagesIn, List.mem_flatMap, Fields.mem_observedAt hroot, groupMessages]
  constructor
  · rintro ⟨g, hg, groupId, group, hgroup, r, hr, hmem⟩
    have hk : Fields.WellKeyed group := Value.wellKeyed_at? hroot (Value.at?_of_under hgroup)
    split at hmem
    · next hmessage =>
      obtain ⟨id', x, hx, hpair⟩ := (Fields.mem_observedAt hk).1 hmem
      obtain ⟨rfl, rfl⟩ := Prod.mk.inj (List.mem_singleton.1 hpair)
      refine ⟨g, hg, r, hr, hmessage, groupId, ?_⟩
      rw [Value.under_cons_cons, hgroup]
      exact hx
    · cases hmem
  · rintro ⟨g, hg, r, hr, hmessage, groupId, hunder⟩
    obtain ⟨group, hgroup, hx⟩ := Value.exists_under_pair hunder
    have hk : Fields.WellKeyed group := Value.wellKeyed_at? hroot (Value.at?_of_under hgroup)
    refine ⟨g, hg, groupId, group, hgroup, r, hr, ?_⟩
    rw [if_pos hmessage]
    exact (Fields.mem_observedAt hk).2 ⟨id, message, hx, List.mem_cons_self⟩

lemma groupFaults_eq (g : GroupType) (groupId : String) (group : Fields) :
    groupFaults g groupId group =
      (groupMessages g groupId group).flatMap fun e => (fault? e.1 e.2).toList := by
  rw [groupFaults, groupMessages, List.flatMap_assoc]
  refine List.flatMap_congr fun r _ => ?_
  unfold messageFaults
  split
  · rw [Fields.observedAt_flatMap]
    simp only [List.flatMap_singleton]
  · rw [Fields.observedAt, Fields.observed, List.flatMap_nil, List.flatMap_eq_nil_iff]
    intro e _
    cases e.2 <;> rfl

/-- A completion fails with the fault of the first message that has one. -/
theorem fault_complete (m : Model) (root : Fields) :
    (complete m root).2 = (messagesIn m root).findSome? fun e => fault? e.1 e.2 := by
  have hfaults : (m.groups.flatMap fun g => root.observedAt (groupFaults g) g.plural) =
      (messagesIn m root).flatMap fun e => (fault? e.1 e.2).toList := by
    rw [messagesIn, List.flatMap_assoc]
    refine List.flatMap_congr fun g _ => ?_
    rw [Fields.observedAt_flatMap]
    simp only [← groupFaults_eq]
  rw [(tells_complete m).fault, hfaults, List.head?_flatMap]
  congr 1
  funext e
  cases fault? e.1 e.2 <;> rfl

/-- A message is the first broken one of a list, and has some fault. -/
def FirstBroken (messages : List (String × Fields)) (fault : Fault) : Prop :=
  ∃ front id message back, messages = front ++ (id, message) :: back ∧
    (∀ e ∈ front, ∀ other, ¬Broken e.1 e.2 other) ∧ Broken id message fault

lemma fault?_eq_none_iff_broken : fault? id message = none ↔ ∀ fault, ¬Broken id message fault := by
  simp only [← fault?_eq_some, Option.eq_none_iff_forall_ne_some, ne_eq]

lemma fault_complete_eq_none :
    (complete m root).2 = none ↔ ∀ e ∈ messagesIn m root, ∀ fault, ¬Broken e.1 e.2 fault := by
  simp only [fault_complete, List.findSome?_eq_none_iff, fault?_eq_none_iff_broken]

lemma fault_complete_eq_some :
    (complete m root).2 = some fault ↔ FirstBroken (messagesIn m root) fault := by
  rw [fault_complete, List.findSome?_eq_some_iff, FirstBroken]
  simp only [fault?_eq_none_iff_broken, fault?_eq_some]
  constructor
  · rintro ⟨front, ⟨id, message⟩, back, hsplit, hbroken, hfront⟩
    exact ⟨front, id, message, back, hsplit, hfront, hbroken⟩
  · rintro ⟨front, id, message, back, hsplit, hfront, hbroken⟩
    exact ⟨front, (id, message), back, hsplit, hbroken, hfront⟩

lemma group_of_complete (hroot : root.WellKeyed) (h : complete m root = (whole, none))
    (hg : g ∈ m.groups) (hx : (Value.mapping root).under [g.plural, groupId] = some (.mapping x)) :
    ∃ y z w : Fields, y.WellKeyed ∧ Grows Supplied (.mapping x) (.mapping y) ∧
      completeGroup g groupId y = (z, none) ∧ Grows Supplied (.mapping z) (.mapping w) ∧
      (Value.mapping whole).under [g.plural, groupId] = some (.mapping w) :=
  Fields.change_of_attemptEach addsUpTo_completeGroup hroot hg (complete_eq m root ▸ h) hx

lemma resource_of_complete (hroot : root.WellKeyed) (h : complete m root = (whole, none))
    (hg : g ∈ m.groups) (hr : r ∈ g.resources)
    (hx : (Value.mapping root).under [g.plural, groupId, r.plural, id] = some (.mapping x)) :
    ∃ y z w : Fields, Grows Supplied (.mapping x) (.mapping y) ∧
      completeResource r id y = (z, none) ∧ Grows Supplied (.mapping z) (.mapping w) ∧
      (Value.mapping whole).under [g.plural, groupId, r.plural, id] = some (.mapping w) := by
  obtain ⟨group, hgroup, hx⟩ := Value.exists_under_pair hx
  obtain ⟨before, after, last, hwell, hbefore, hchange, hafter, hlast⟩ :=
    group_of_complete hroot h hg hgroup
  -- the resource grows with its group, both before the group is changed and after
  have hnew : GrowsTo Supplied (.mapping before)
      (.mapping (Table.insertNew before g.idAttribute (.string groupId))) :=
    .insertNew (supplied_id _) fun _ => trivial
  obtain ⟨hwell', hgrows⟩ := hnew hwell
  obtain ⟨x', hx', hgrows'⟩ := (hbefore.trans hgrows).under_mapping hx
  obtain ⟨y, z, w, -, hy, hresource, hz, hw⟩ := Fields.change_of_attemptEach addsUpTo_completeResource
    hwell' hr (completeGroup_eq g groupId before ▸ hchange) hx'
  obtain ⟨w', hw', hgrows''⟩ := hafter.under_mapping hw
  refine ⟨y, z, w', hgrows'.trans hy, hresource, hz.trans hgrows'', ?_⟩
  rw [Value.under_cons_cons, hlast]
  exact hw'

lemma namesCloudEvents_iff (h : Grows Supplied (.mapping x) (.mapping y)) (hkey : ¬Supplied key) :
    NamesCloudEvents y key ↔ NamesCloudEvents x key := by
  constructor
  · rintro ⟨text, hy, hsame⟩
    cases hx : x.get? key with
    | none =>
      rw [h.get?_eq_none hkey hx] at hy
      cases hy
    | some v =>
      obtain ⟨w, hw, hgrows⟩ := h.get? hx
      obtain rfl := Option.some.inj (hw.symm.trans hy)
      refine ⟨text, ?_, hsame⟩
      cases v with
      | mapping fields =>
        obtain ⟨ds, hds, -⟩ := hgrows.mappings [] fields rfl
        cases hds
      | _ => exact hx.trans (hgrows.others [] _ rfl rfl).symm
  · rintro ⟨text, hx, hsame⟩
    obtain ⟨w, hw, hgrows⟩ := h.get? hx
    obtain rfl := Option.some.inj (hgrows.others [] _ rfl rfl)
    exact ⟨text, hw, hsame⟩

lemma not_supplied_of_mem (key : String) (hkey : key ∈ ["envelope", "format"]) : ¬Supplied key := by
  revert hkey key
  simp only [Supplied]
  decide

lemma CloudEventsMessage.grows (hmessage : CloudEventsMessage x key)
    (h : Grows Supplied (.mapping x) (.mapping y)) : CloudEventsMessage y key := by
  have henvelope := namesCloudEvents_iff h (not_supplied_of_mem "envelope" (by decide))
  have hformat := namesCloudEvents_iff h (not_supplied_of_mem "format" (by decide))
  cases hmessage with
  | byEnvelope hx => exact .byEnvelope (henvelope.2 hx)
  | byFormat hx hx' => exact .byFormat (fun hy => hx (henvelope.1 hy)) (hformat.2 hx')

/-- The metadata that a CloudEvents message has to have. -/
def requiredMetadata : List String := ["type", "id", "time", "source"]

/-- A completed CloudEvents message has all the metadata that it has to have. -/
lemma metadata_of_completeResource (hr : r.singular = "message") (hx : CloudEventsMessage x key)
    (h : completeResource r id x = (y, none)) : ∃ metadata : Fields,
      y.get? key = some (.mapping metadata) ∧ ∀ name ∈ requiredMetadata, metadata.has name = true := by
  have hkey : metadataKey? (x.insertNew r.idAttribute (.string id)) = some key := by
    rw [ResourceType.idAttribute, metadataKey?_of_get? (get?_insertNew_id x r.singular (.string id))]
    exact metadataKey?_eq_some.2 hx
  unfold completeResource at h
  dsimp only at h
  rw [if_pos hr, completeMessage, hkey] at h
  dsimp only at h
  rcases completeMetadata_cases id key (x.insertNew r.idAttribute (.string id)) with
    ⟨⟨fault, hfault⟩, -⟩ | ⟨metadata, htype, hcomplete⟩
  · rw [h] at hfault
    cases hfault
  · obtain ⟨rfl, -⟩ := Prod.mk.inj (hcomplete.symm.trans h)
    refine ⟨_, Table.get?_insert_self _ _ _, fun name hname => (has_addMissing _ _ _).2 ?_⟩
    rcases List.mem_cons.1 hname with rfl | hname
    · exact .inl htype
    · exact .inr hname

/-- What a completed document has. -/
structure Completed (m : Model) (before after : Value) : Prop where
  groups : ∀ g ∈ m.groups, ∀ (groupId : String) (group : Fields),
    after.under [g.plural, groupId] = some (.mapping group) → group.has g.idAttribute = true
  resources : ∀ g ∈ m.groups, ∀ r ∈ g.resources, ∀ (groupId id : String) (resource : Fields),
    after.under [g.plural, groupId, r.plural, id] = some (.mapping resource) →
      resource.has r.idAttribute = true
  messages : ∀ g ∈ m.groups, ∀ r ∈ g.resources, r.singular = "message" →
    ∀ groupId id message key,
      before.under [g.plural, groupId, r.plural, id] = some (.mapping message) →
      CloudEventsMessage message key → ∃ (message' metadata : Fields),
        after.under [g.plural, groupId, r.plural, id] = some (.mapping message') ∧
        message'.get? key = some (.mapping metadata) ∧
        ∀ name ∈ requiredMetadata, metadata.has name = true

/-- Where no fault stops it, a completion finds every resource where it was. -/
lemma exists_resource_of_alike (h : Alike (Alike SameFault) root whole) (hroot : root.WellKeyed)
    (hwhole : whole.WellKeyed)
    (hy : (Value.mapping whole).under [g.plural, groupId, r.plural, id] = some (.mapping y)) :
    ∃ x : Fields,
      (Value.mapping root).under [g.plural, groupId, r.plural, id] = some (.mapping x) := by
  obtain ⟨group', hgroup', hy⟩ := Value.exists_under_pair hy
  -- what is observed of each group is where its resources are
  let places : String → Fields → List (String × String) := fun groupId group =>
    group.observedAt (fun id _ => [(groupId, id)]) r.plural
  have hplaces : Fields.Respects (Alike SameFault) places := fun groupId _ _ halike =>
    halike _ (fun id _ => [(groupId, id)]) (fun _ _ _ _ => rfl) r.plural
  have hk' : Fields.WellKeyed group' := Value.wellKeyed_at? hwhole (Value.at?_of_under hgroup')
  have hmem : (groupId, id) ∈ whole.observedAt places g.plural := (Fields.mem_observedAt hwhole).2
    ⟨groupId, group', hgroup', (Fields.mem_observedAt hk').2 ⟨id, y, hy, List.mem_cons_self⟩⟩
  rw [h _ places hplaces] at hmem
  obtain ⟨other, group, hgroup, hmem⟩ := (Fields.mem_observedAt hroot).1 hmem
  have hk : Fields.WellKeyed group := Value.wellKeyed_at? hroot (Value.at?_of_under hgroup)
  obtain ⟨id', x, hx, hpair⟩ := (Fields.mem_observedAt hk).1 hmem
  obtain ⟨rfl, rfl⟩ := Prod.mk.inj (List.mem_singleton.1 hpair)
  refine ⟨x, ?_⟩
  rw [Value.under_cons_cons, hgroup]
  exact hx

lemma completed_of_complete (hroot : root.WellKeyed) (h : complete m root = (whole, none)) :
    Completed m (.mapping root) (.mapping whole) := by
  have hgrows := addsUpTo_complete_supplied m root hroot
  rw [h] at hgrows
  obtain ⟨hwhole, -⟩ := hgrows
  have halike := (tells_complete m).related root whole h
  constructor
  case groups =>
    intro g hg groupId group hgroup
    obtain ⟨x, hx⟩ := halike.exists_under hroot hwhole hgroup
    obtain ⟨y, z, w, -, -, hchange, hafter, hw⟩ := group_of_complete hroot h hg hx
    obtain rfl := Value.mapping.inj (Option.some.inj (hw.symm.trans hgroup))
    exact hafter.has (has_of_completeGroup hchange)
  case resources =>
    intro g hg r hr groupId id resource hresource
    obtain ⟨x, hx⟩ := exists_resource_of_alike halike hroot hwhole hresource
    obtain ⟨y, z, w, -, hchange, hafter, hw⟩ := resource_of_complete hroot h hg hr hx
    obtain rfl := Value.mapping.inj (Option.some.inj (hw.symm.trans hresource))
    have hid := has_completeResource r id y
    rw [hchange] at hid
    exact hafter.has hid
  case messages =>
    intro g hg r hr hmessage groupId id message key hx hcloud
    obtain ⟨y, z, w, hbefore, hchange, hafter, hw⟩ := resource_of_complete hroot h hg hr hx
    obtain ⟨metadata, hmetadata, hnames⟩ :=
      metadata_of_completeResource hmessage (hcloud.grows hbefore) hchange
    obtain ⟨v, hv, hgrows⟩ := hafter.get? hmetadata
    obtain ⟨metadata', hsame, -⟩ := hgrows.mappings [] metadata rfl
    obtain rfl := Option.some.inj hsame
    exact ⟨w, metadata', hw, hv, fun name hname => hgrows.has (hnames name hname)⟩

/-- Completing a document fails exactly if one of its messages is broken, with the fault of the first
one in the order of the model and of the document. If it does not fail, every group and every resource
has its id, and every CloudEvents message typed metadata with the defaults. Whether it fails or not,
all that was there stays, and only the keys of defaults come in. -/
theorem complete_exactly (m : Model) {document : Value} (hd : document.WellKeyed) :
    let completed := document.attemptMapping (complete m)
    let messages := messagesIn m document.entries
    (∀ id message, (id, message) ∈ messages ↔ ∃ g ∈ m.groups, ∃ r ∈ g.resources,
      r.singular = "message" ∧ ∃ groupId,
        document.under [g.plural, groupId, r.plural, id] = some (.mapping message)) ∧
    (completed.2 = none ↔ ∀ e ∈ messages, ∀ fault, ¬Broken e.1 e.2 fault) ∧
    (∀ fault, completed.2 = some fault ↔ FirstBroken messages fault) ∧
    (completed.2 = none → Completed m document completed.1) ∧
    Grows Supplied document completed.1 := by
  intro completed messages
  have hfault : completed.2 = (complete m document.entries).2 := by
    cases document with
    | mapping root => rfl
    | _ =>
      rw [fault_complete]
      refine (List.findSome?_eq_none_iff.2 fun e he => ?_).symm
      obtain ⟨g, -, hmem⟩ := List.mem_flatMap.1 he
      cases hmem
  refine ⟨fun id message => ?_, ?_, fun fault => ?_, fun hnone => ?_, ?_⟩
  · rw [mem_messagesIn hd.entries]
    simp only [Value.under_entries document (List.cons_ne_nil _ _)]
  · rw [hfault]
    exact fault_complete_eq_none
  · rw [hfault]
    exact fault_complete_eq_some
  · cases document with
    | mapping root => exact completed_of_complete hd (Prod.ext rfl hnone)
    | _ =>
      constructor
      case groups => exact fun _ _ _ _ hx => by cases hx
      case resources => exact fun _ _ _ _ _ _ _ hx => by cases hx
      case messages => exact fun _ _ _ _ _ _ _ _ _ hx => by cases hx
  · exact ((addsUpTo_complete_supplied m).attemptMapping document hd).2

/-- A message with typed metadata, which gets the defaults beside its own ones, alone and in front of one
whose metadata have no type. -/
theorem complete_exactly_untyped :
    let typed : Fields := [("format", .string "cloudevents/1.0"),
      ("metadata", .mapping [("type", .null)])]
    let untyped : Fields := [("envelope", .string "CloudEvents/1.0"),
      ("envelopemetadata", .mapping [("id", .null)]), ("format", .string "CloudEvents/1.0")]
    let document (others : Fields) : Value := .mapping [("endpoints", .mapping [("e", .mapping [
      ("messages", .mapping (("a", .mapping typed) :: others))])])]
    let broken := document [("b", .mapping untyped), ("c", .mapping untyped)]
    let completed (before : Value) := before.attemptMapping (complete Model.standard)
    broken.WellKeyed ∧ (completed broken).2 = some (.missingMessageType "b") ∧
      Grows Supplied broken (completed broken).1 ∧
      (document []).WellKeyed ∧ (completed (document [])).2 = none ∧
      ∃ message metadata : Fields,
        (completed (document [])).1.under ["endpoints", "e", "messages", "a"] =
          some (.mapping message) ∧
        message.get? "metadata" = some (.mapping metadata) ∧
        ∀ name ∈ ["type", "id", "time", "source"], metadata.has name = true := by
  intro typed untyped document broken completed
  have hwell : ∀ others, (document others).WellKeyed ↔
      Fields.WellKeyed (("a", .mapping typed) :: others) := by
    simp [document, Fields.WellKeyed, Value.WellKeyed, Value.WellKeyedFields, Table.keys]
  have hbroken : broken.WellKeyed := (hwell _).2 <| by
    simp [typed, untyped, Fields.WellKeyed, Value.WellKeyed, Value.WellKeyedFields, Table.keys]
  have hsound : (document []).WellKeyed := (hwell _).2 <| by
    simp [typed, Fields.WellKeyed, Value.WellKeyed, Value.WellKeyedFields, Table.keys]
  have htyped : ∀ fault, ¬Broken "a" typed fault := fault?_eq_none_iff_broken.1 (by decide)
  obtain ⟨-, -, hfault, -, hgrows⟩ := complete_exactly Model.standard hbroken
  obtain ⟨-, hnone, -, hcompleted, -⟩ := complete_exactly Model.standard hsound
  have hfirst : (completed broken).2 = some (.missingMessageType "b") := by
    have hmessages : messagesIn Model.standard broken.entries =
        [("a", typed)] ++ ("b", untyped) :: [("c", untyped)] := by decide
    refine (hfault _).2 ⟨_, _, _, _, hmessages, ?_, fault?_eq_some.1 (by decide)⟩
    simpa using htyped
  have hfree : (completed (document [])).2 = none := by
    have hmessages : messagesIn Model.standard (document []).entries = [("a", typed)] := by decide
    refine hnone.2 ?_
    rw [hmessages]
    simpa using htyped
  refine ⟨hbroken, hfirst, hgrows, hsound, hfree, ?_⟩
  exact (hcompleted hfree).messages _ List.mem_cons_self _ List.mem_cons_self rfl "e" "a" typed
    "metadata" rfl (metadataKey?_eq_some.1 (by decide))

end Defaults

end Registry
