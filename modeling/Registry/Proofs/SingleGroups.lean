import Registry.Proofs.CompletionResults
import Registry.Proofs.EntryForm
import Registry.Proofs.UrlInheritance

/-!
# Documents of a single group

A document that is one group is put under its id, and stays the only group of the whole: finding
payloads, inheriting and completing leave it where it is with all its attributes. A document in which
the name of a group collection stands for something else is not put under its id, and nothing at all
is done to it.
-/

namespace Registry

open Fields

/-- A document is a single group of a type: the first one whose id attribute it has as a text. It gives
no collection by URL, and no name of a group collection holds a mapping. -/
structure SingleGroup (m : Model) (root : Fields) (type : GroupType) (id : String) : Prop where
  first : ∃ before after, m.groups = before ++ type :: after ∧
    ∀ other ∈ before, root.textAt? other.idAttribute = none
  named : root.textAt? type.idAttribute = some id
  urls : ∀ other ∈ m.groups, other.plural ++ "url" ∉ root.keys
  collections : ∀ other ∈ m.groups, ∀ groups, root.get? other.plural ≠ some (.mapping groups)

/-- The document that has a group as its only one. -/
def alone (plural id : String) (group : Fields) : Fields := [(plural, .mapping [(id, .mapping group)])]

/-- A resource collection of some group type with a given collection has the name. -/
def IsResourceCollection (m : Model) (plural key : String) : Prop :=
  ∃ g ∈ m.groups, g.plural = plural ∧ ∃ r ∈ g.resources, r.plural = key

/-- A group has all its attributes, and they are as they were but for mappings under some names. -/
structure Kept (changing : String → Prop) (group group' : Fields) : Prop where
  keys : group.keys ⊆ group'.keys
  values : ∀ key v, group.get? key = some v → (changing key → v.isMapping = false) →
    group'.get? key = some v

namespace Kept

variable {changing : String → Prop} {x y z : Fields} {key : String}

lemma refl (changing : String → Prop) (x : Fields) : Kept changing x x :=
  ⟨List.Subset.refl _, fun _ _ hv _ => hv⟩

lemma trans (h : Kept changing x y) (k : Kept changing y z) : Kept changing x z :=
  ⟨List.Subset.trans h.keys k.keys, fun key v hv hc => k.values key v (h.values key v hv hc) hc⟩

lemma insertNew (changing : String → Prop) (x : Fields) (key : String) (v : Value) :
    Kept changing x (x.insertNew key v) where
  keys other ho := by
    rw [← Table.has_iff_mem_keys, Table.has_insertNew, (Table.has_iff_mem_keys _ _).2 ho]
    rfl
  values other w hw _ := by
    rw [Table.get?_insertNew, hw]
    rfl

lemma insert_mapping (hkey : changing key) {inner : Fields} (h : x.get? key = some (.mapping inner))
    (inner' : Fields) : Kept changing x (x.insert key (.mapping inner')) where
  keys := by rw [Table.keys_insert_of_mem (Table.mem_keys_of_get? h)]; exact List.Subset.refl _
  values other v hv hc := by
    rw [Table.get?_insert]
    split
    · next he =>
      subst he
      obtain rfl := Option.some.inj (hv.symm.trans h)
      cases hc hkey
    · exact hv

lemma changeAt {σ : Type} (hkey : changing key) (change : Fields → σ → Fields × σ) (x : Fields)
    (s : σ) : Kept changing x (x.changeAt key change s).1 := by
  unfold Fields.changeAt
  split
  · next hinner => exact insert_mapping hkey hinner _
  · exact refl changing x

lemma attemptAt {ε : Type} (hkey : changing key) (change : Fields → Fields × Option ε) (x : Fields) :
    Kept changing x (x.attemptAt key change).1 := by
  unfold Fields.attemptAt
  split
  · next hinner => exact insert_mapping hkey hinner _
  · exact refl changing x

end Kept

section alone

variable {σ ε : Type} {m : Model} {plural id key : String} {x : Fields}

lemma get?_alone (plural id : String) (x : Fields) (key : String) :
    (alone plural id x).get? key =
      if plural = key then some (.mapping [(id, .mapping x)]) else none := by
  rw [alone, Table.get?_cons]
  rfl

lemma insert_alone (groups : Fields) :
    (alone plural id x).insert plural (.mapping groups) = [(plural, .mapping groups)] := by
  rw [alone, Table.insert, if_pos rfl]

lemma changeAt_of_no_mapping {fields : Fields} {change : Fields → σ → Fields × σ}
    (h : ∀ inner, fields.get? key ≠ some (.mapping inner)) (s : σ) :
    fields.changeAt key change s = (fields, s) := by
  unfold Fields.changeAt
  split
  · next inner hinner => exact absurd hinner (h inner)
  · rfl

lemma attemptAt_of_no_mapping {fields : Fields} {change : Fields → Fields × Option ε}
    (h : ∀ inner, fields.get? key ≠ some (.mapping inner)) :
    fields.attemptAt key change = (fields, none) := by
  unfold Fields.attemptAt
  split
  · next inner hinner => exact absurd hinner (h inner)
  · rfl

lemma changeAt_alone (change : Fields → σ → Fields × σ) (s : σ) :
    ((alone plural id x).changeAt key change s).1 =
      if plural = key then [(plural, .mapping (change [(id, .mapping x)] s).1)]
      else alone plural id x := by
  by_cases hk : plural = key
  · subst hk
    rw [if_pos rfl, Fields.changeAt, get?_alone, if_pos rfl]
    exact insert_alone _
  · rw [if_neg hk, changeAt_of_no_mapping]
    intro inner
    rw [get?_alone, if_neg hk]
    exact fun h => by cases h

lemma attemptAt_alone (change : Fields → Fields × Option ε) :
    (alone plural id x).attemptAt key change =
      if plural = key then
        ([(plural, .mapping (change [(id, .mapping x)]).1)], (change [(id, .mapping x)]).2)
      else (alone plural id x, none) := by
  by_cases hk : plural = key
  · subst hk
    rw [if_pos rfl, Fields.attemptAt, get?_alone, if_pos rfl]
    exact congrArg (·, (change [(id, .mapping x)]).2) (insert_alone _)
  · rw [if_neg hk, attemptAt_of_no_mapping]
    intro inner
    rw [get?_alone, if_neg hk]
    exact fun h => by cases h

/-- A document has a group as its only one, which has kept its attributes. -/
def StaysAlone (m : Model) (plural id : String) (group whole : Fields) : Prop :=
  ∃ group', whole = alone plural id group' ∧ Kept (IsResourceCollection m plural) group group'

lemma StaysAlone.refl (m : Model) (plural id : String) (x : Fields) :
    StaysAlone m plural id x (alone plural id x) := ⟨x, rfl, .refl _ x⟩

lemma StaysAlone.trans {y : Fields} {whole : Fields}
    (h : Kept (IsResourceCollection m plural) x y) (k : StaysAlone m plural id y whole) :
    StaysAlone m plural id x whole := by
  obtain ⟨z, hz, hkept⟩ := k
  exact ⟨z, hz, h.trans hkept⟩

lemma kept_populateGroup {changing : String → Prop} {types : List ResourceType}
    (h : ∀ r ∈ types, changing r.plural) (headers : Headers) (x : Fields) (f : Fetcher) :
    Kept changing x (Payload.populateGroup headers types x f).1 := by
  unfold Payload.populateGroup
  induction types generalizing x f with
  | nil => exact .refl changing x
  | cons r types ih =>
    rw [List.forall_mem_cons] at h
    exact (Kept.changeAt h.1 _ x f).trans (ih h.2 _ _)

/-- What each step of a pass keeps, the whole pass keeps. -/
lemma StaysAlone.foldl {α β : Type} (view : α → Fields) {step : α → β → α} {bs : List β}
    (h : ∀ b ∈ bs, ∀ a y, view a = alone plural id y → StaysAlone m plural id y (view (step a b)))
    {a : α} (ha : view a = alone plural id x) :
    StaysAlone m plural id x (view (bs.foldl step a)) := by
  induction bs generalizing a x with
  | nil => exact ha ▸ .refl m plural id x
  | cons b bs ih =>
    rw [List.forall_mem_cons] at h
    obtain ⟨y, hy, hkept⟩ := h.1 a x ha
    exact .trans hkept (ih h.2 hy)

lemma staysAlone_populateAll (m : Model) (headers : Headers) (x : Fields) (f : Fetcher) :
    StaysAlone m plural id x (Payload.populateAll m headers (alone plural id x) f).1 := by
  refine StaysAlone.foldl Prod.fst (fun g hg p y hp => ?_) rfl
  dsimp only
  rw [hp, changeAt_alone]
  split
  · next hplural =>
    exact ⟨_, rfl, kept_populateGroup (fun r hr => ⟨g, hg, hplural.symm, r, hr, rfl⟩) headers y p.2⟩
  · exact .refl m plural id y

lemma staysAlone_inherit (m : Model) (x : Fields) :
    StaysAlone m plural id x (Inheritance.inherit m (alone plural id x)) := by
  unfold Inheritance.inherit Inheritance.mapMessages
  refine StaysAlone.foldl (fun fields => fields) (fun name hname fields y hy => ?_) rfl
  dsimp only at hy ⊢
  rw [hy, changeAt_alone]
  split
  · next hplural =>
    obtain ⟨g, hg, r, hr, hcollection, hresource⟩ :=
      Inheritance.mem_groupCollections.1 (List.mem_eraseDups.1 hname)
    have hchanging : IsResourceCollection m plural Inheritance.collection :=
      ⟨g, hg, hcollection.trans hplural.symm, r, hr, hresource⟩
    exact ⟨_, rfl, .changeAt hchanging _ y ()⟩
  · exact .refl m plural id y

lemma kept_attemptEach {changing : String → Prop} {types : List ResourceType} {y : Fields}
    {change : ResourceType → String → Fields → Fields × Option ε}
    (hchanging : ∀ r ∈ types, changing r.plural)
    (h : x.attemptEach (·.plural) types change = (y, none)) : Kept changing x y := by
  induction types generalizing x with
  | nil => exact (Prod.mk.inj h).1 ▸ .refl changing x
  | cons r types ih =>
    rw [List.forall_mem_cons] at hchanging
    exact (Kept.attemptAt hchanging.1 _ x).trans (ih hchanging.2 (attemptEach_cons h).2)

/-- The only mapping of a collection is changed without a failure. -/
lemma mapUntil_singleton {change : String → Fields → Fields × Option ε}
    (h : (Table.mapUntil (fun id (v : Value) => v.attemptMapping (change id))
      [(id, .mapping x)]).2 = none) :
    ∃ y, change id x = (y, none) ∧
      (Table.mapUntil (fun id (v : Value) => v.attemptMapping (change id))
        [(id, .mapping x)]).1 = [(id, .mapping y)] := by
  simp only [Table.mapUntil, Value.attemptMapping] at h ⊢
  generalize change id x = changed at h ⊢
  obtain ⟨y, failure⟩ := changed
  cases failure with
  | none => exact ⟨y, rfl, rfl⟩
  | some e => cases h

lemma staysAlone_complete {whole : Fields}
    (h : Defaults.complete m (alone plural id x) = (whole, none)) :
    StaysAlone m plural id x whole := by
  have hpass : ∀ (types : List GroupType) (x : Fields), (∀ g ∈ types, g ∈ m.groups) →
      (alone plural id x).attemptEach (·.plural) types Defaults.completeGroup = (whole, none) →
      StaysAlone m plural id x whole := by
    intro types x htypes h
    induction types generalizing x with
    | nil => exact (Prod.mk.inj h).1 ▸ .refl m plural id x
    | cons g types ih =>
      rw [List.forall_mem_cons] at htypes
      obtain ⟨hfirst, hrest⟩ := attemptEach_cons h
      rw [attemptAt_alone] at hfirst hrest
      split at hrest
      · next hplural =>
        rw [if_pos hplural] at hfirst
        obtain ⟨y, hgroup, hy⟩ := mapUntil_singleton hfirst
        have hkept : Kept (IsResourceCollection m plural) x y :=
          (Kept.insertNew _ x _ _).trans (kept_attemptEach
            (fun r hr => ⟨g, htypes.1, hplural.symm, r, hr, rfl⟩)
            (Defaults.completeGroup_eq g id x ▸ hgroup))
        rw [hy] at hrest
        exact .trans hkept (ih y htypes.2 hrest)
      · exact ih x htypes.2 hrest
  exact hpass m.groups x (fun _ hg => hg) (Defaults.complete_eq m _ ▸ h)

end alone

namespace SingleGroup

variable {m : Model} {root : Fields} {type : GroupType} {id : String}

lemma groupOf? (h : SingleGroup m root type id) : Entry.groupOf? m root = some (type, id) := by
  obtain ⟨before, after, hgroups, hbefore⟩ := h.first
  have hnone : before.findSome? (fun other => (root.textAt? other.idAttribute).map (other, ·)) =
      none := by
    rw [List.findSome?_eq_none_iff]
    intro other ho
    rw [hbefore other ho]
    rfl
  rw [Entry.groupOf?, hgroups, List.findSome?_append, hnone, Option.none_or, List.findSome?_cons,
    h.named]
  rfl

/-- The first group type of a model, where no value under the name of a collection is a mapping. -/
lemma of_head {rest : List GroupType} (hgroups : m.groups = type :: rest)
    (hnamed : root.textAt? type.idAttribute = some id)
    (hurls : ∀ other ∈ m.groups, other.plural ++ "url" ∉ root.keys)
    (hcollections : ∀ other ∈ m.groups, (root.get? other.plural).any Value.isMapping = false) :
    SingleGroup m root type id where
  first := ⟨[], rest, hgroups, by simp⟩
  named := hnamed
  urls := hurls
  collections other ho groups hget := by
    have hnone := hcollections other ho
    rw [hget] at hnone
    cases hnone

lemma inlined (h : SingleGroup m root type id) : ∀ other ∈ m.groups, Entry.Inlined root other := by
  intro other ho
  right
  rw [textAt?, Table.get?_eq_none_iff.2 (h.urls other ho)]
  rfl

lemma wrap_eq (h : SingleGroup m root type id)
    (hfree : ∀ other ∈ m.groups, other.plural ∉ root.keys) :
    Entry.wrap m root = alone type.plural id root := by
  have hnone : ¬root.keys.any m.isGroupCollection = true := by
    rw [Entry.any_isGroupCollection_iff]
    rintro ⟨other, ho, hkey⟩
    exact hfree other ho hkey
  rw [Entry.wrap, if_neg hnone, h.groupOf?]
  rfl

/-- Where no name of a group collection is used, the document is put under its id, and nothing is left
to be done to it there. -/
lemma normalize (h : SingleGroup m root type id)
    (hfree : ∀ other ∈ m.groups, other.plural ∉ root.keys) (headers : Headers) (f : Fetcher) :
    Entry.normalize m headers root f = (alone type.plural id root, f) ∧
      Entry.normalize m headers (alone type.plural id root) f = (alone type.plural id root, f) := by
  have hnormal := Entry.normal_wrap h.inlined
  rw [h.wrap_eq hfree] at hnormal
  refine ⟨?_, hnormal.normalize headers f⟩
  rw [Entry.normalize, Entry.inlineCollections_eq_self h.inlined]
  exact congrArg (·, f) (h.wrap_eq hfree)

/-- Where the name of a group collection is used, the document stays as it is. -/
lemma normalize_of_key (h : SingleGroup m root type id)
    (hkey : ∃ other ∈ m.groups, other.plural ∈ root.keys) (headers : Headers) (f : Fetcher) :
    Entry.normalize m headers root f = (root, f) :=
  Entry.Normal.normalize ⟨h.inlined, .inl hkey⟩ headers f

end SingleGroup

/-- Where no message names a base, none does after the defaults were added. -/
lemma Defaults.get?_base_of_complete {m : Model} {root whole : Fields} (hroot : root.WellKeyed)
    (h : complete m root = (whole, none))
    (hbase : ∀ p message, Inheritance.MessageAt m (.mapping root) p message →
      message.get? Inheritance.baseAttribute = none) {p : Inheritance.Place} {message : Fields}
    (hp : Inheritance.MessageAt m (.mapping whole) p message) :
    message.get? Inheritance.baseAttribute = none := by
  obtain ⟨g, hg, r, hr, hplural, hname⟩ := Inheritance.mem_groupCollections.1 hp.1
  obtain ⟨hwhole, hgrows⟩ := addsUpTo_complete_supplied m root hroot
  rw [h] at hwhole hgrows
  have hat : (Value.mapping whole).under [g.plural, p.groupId, r.plural, p.messageId] =
      some (.mapping message) := by
    rw [hplural, hname]
    exact hp.2
  obtain ⟨own, hown⟩ :=
    exists_resource_of_alike ((tells_complete m).related root whole h) hroot hwhole hat
  have hbefore := hbase p own ⟨hp.1, by rw [← hown, hplural, hname]; rfl⟩
  obtain ⟨after, hafter, hsame⟩ := hgrows.under_mapping hown
  obtain rfl := Value.mapping.inj (Option.some.inj (hafter.symm.trans hat))
  refine hsame.get?_eq_none ?_ hbefore
  simp only [Supplied]
  decide

namespace Loader

variable {m : Model} {root : Fields} {headers : Headers} {plural id : String}

section

variable (h : ∀ g ∈ m.groups, ∀ groups, root.get? g.plural ≠ some (.mapping groups))
include h

lemma populateAll_of_no_groups (headers : Headers) (f : Fetcher) :
    Payload.populateAll m headers root f = (root, f) := by
  unfold Payload.populateAll
  generalize m.groups = types at h
  induction types with
  | nil => rfl
  | cons g types ih =>
    rw [List.forall_mem_cons] at h
    rw [List.foldl_cons]
    dsimp only
    rw [changeAt_of_no_mapping h.1, ih h.2]

lemma inherit_of_no_groups : Inheritance.inherit m root = root := by
  have hnames : ∀ name ∈ (Inheritance.groupCollections m).eraseDups, ∀ groups,
      root.get? name ≠ some (.mapping groups) := by
    intro name hname
    obtain ⟨g, hg, -, -, rfl, -⟩ := Inheritance.mem_groupCollections.1 (List.mem_eraseDups.1 hname)
    exact h g hg
  unfold Inheritance.inherit Inheritance.mapMessages
  generalize (Inheritance.groupCollections m).eraseDups = names at hnames
  dsimp only
  induction names with
  | nil => rfl
  | cons name names ih =>
    rw [List.forall_mem_cons] at hnames
    rw [List.foldl_cons, changeAt_of_no_mapping hnames.1]
    exact ih hnames.2

lemma complete_of_no_groups : Defaults.complete m root = (root, none) := by
  rw [Defaults.complete_eq, attemptEach]
  generalize m.groups = types at h
  induction types with
  | nil => rfl
  | cons g types ih =>
    rw [List.forall_mem_cons] at h
    rw [attemptAll, attemptAt_of_no_mapping h.1]
    exact ih h.2

/-- Nothing is done to a document in which no name of a group collection holds a mapping. -/
lemma settle_of_no_groups (headers : Headers) (f : Fetcher) :
    settle m headers root f = (.ok root, f) := by
  unfold settle
  rw [populateAll_of_no_groups h]
  dsimp only
  rw [inherit_of_no_groups h, complete_of_no_groups h]

end

lemma load_eq {l : Loader} {location found : String} {options : LoadOptions}
    (hfetched : (l.fetcher.fetch location headers .once).1 = (found, some (.mapping root)))
    (hoptions : options.schemaStyle = false) :
    let entry := Entry.normalize l.model headers root (l.fetcher.fetch location headers .once).2
    (l.load location headers options).1 = (settle l.model headers entry.1 entry.2).1.map fun whole =>
      (found, some (.mapping (applyFilters options whole))) := by
  unfold load loadOne
  generalize l.fetcher.fetch location headers .once = fetched at hfetched ⊢
  obtain ⟨⟨found', document⟩, f⟩ := fetched
  obtain ⟨rfl, rfl⟩ := Prod.mk.inj hfetched
  intro entry
  dsimp only
  rw [if_neg (by simp [hoptions])]
  unfold process
  dsimp only
  rw [if_neg (by decide)]
  cases (settle l.model headers entry.1 entry.2).1 <;> rfl

/-- What is done to a document with one group: either a broken message ends it, or the group stays
alone, has kept its attributes and is complete. -/
lemma settle_alone (m : Model) (headers : Headers) (plural id : String) (hf : f.Faithful)
    (hroot : root.WellKeyed) :
    let ready := Inheritance.inherit m (Payload.populateAll m headers (alone plural id root) f).1
    (∃ fault, (settle m headers (alone plural id root) f).1 = .error fault ∧
      Defaults.FirstBroken (Defaults.messagesIn m ready) fault) ∨
    ∃ group, (settle m headers (alone plural id root) f).1 = .ok (alone plural id group) ∧
      Kept (IsResourceCollection m plural) root group ∧
      Defaults.Completed m (.mapping ready) (.mapping (alone plural id group)) ∧
      ∀ p message, Inheritance.MessageAt m (.mapping (alone plural id group)) p message →
        message.get? Inheritance.baseAttribute = none := by
  intro ready
  have halone : Fields.WellKeyed (alone plural id root) :=
    Fields.wellKeyed_singleton (Fields.wellKeyed_singleton hroot)
  have hpopulated : Fields.WellKeyed (Payload.populateAll m headers (alone plural id root) f).1 :=
    ((Payload.adds_populateAll m headers _ f hf).1 halone).1
  have hready : Fields.WellKeyed ready := Inheritance.wellKeyed_inherit hpopulated m
  obtain ⟨populated, hpopulate, hkept⟩ :
      StaysAlone m plural id root (Payload.populateAll m headers (alone plural id root) f).1 :=
    staysAlone_populateAll m headers root f
  obtain ⟨inherited, hinherit, hkept'⟩ :
      StaysAlone m plural id populated (Inheritance.inherit m (alone plural id populated)) :=
    staysAlone_inherit m populated
  have hready' : ready = alone plural id inherited := by rw [← hinherit, ← hpopulate]
  unfold settle
  dsimp only
  cases hcomplete : Defaults.complete m ready with
  | mk whole fault =>
    cases fault with
    | some fault =>
      refine .inl ⟨fault, rfl, Defaults.fault_complete_eq_some.1 ?_⟩
      rw [hcomplete]
    | none =>
      obtain ⟨group, rfl, hkept''⟩ := staysAlone_complete (hready' ▸ hcomplete)
      refine .inr ⟨group, rfl, hkept.trans (hkept'.trans hkept''),
        Defaults.completed_of_complete hready hcomplete,
        fun p message hp => Defaults.get?_base_of_complete hready hcomplete (fun q own hq => ?_) hp⟩
      exact Inheritance.get?_base_of_messageAt_inherit hpopulated hq

/-- **Single groups.** A document that is a single group is loaded in one of two ways. If it uses no
name of a group collection, it is treated as the registry with nothing but the group: unless a broken
message ends it, the group comes back under its id as the only one of its collection, and that as the
only key; it has all its attributes, they are as they were but for collections of resources, no message
names a base any more, and ids and metadata are complete. But if it uses such a name, for whatever is
no mapping, it comes back as it is. -/
theorem load_single_group {l : Loader} (hl : l.fetcher.Faithful) {location found : String}
    {headers : Headers} {options : LoadOptions} (hoptions : options.schemaStyle = false)
    {root : Fields} {type : GroupType} {id : String}
    (hread : (l.fetcher.fetch location headers .once).1 = (found, some (.mapping root)))
    (h : SingleGroup l.model root type id) :
    let result := (l.load location headers options).1
    let read := { l with fetcher := (l.fetcher.fetch location headers .once).2 }
    let registry := alone type.plural id root
    let ready := Inheritance.inherit l.model
      (Payload.populateAll l.model headers registry read.fetcher).1
    ((∀ g ∈ l.model.groups, g.plural ∉ root.keys) →
      result = (read.process found (.mapping registry) headers options false).1.map
        (fun document => (found, some document)) ∧
      ((∃ fault, result = .error fault ∧
          Defaults.FirstBroken (Defaults.messagesIn l.model ready) fault) ∨
        ∃ group, let whole := alone type.plural id group
          result = .ok (found, some (.mapping (applyFilters options whole))) ∧
          Kept (IsResourceCollection l.model type.plural) root group ∧
          group.get? type.idAttribute = some (.string id) ∧
          Defaults.Completed l.model (.mapping ready) (.mapping whole) ∧
          ∀ p message, Inheritance.MessageAt l.model (.mapping whole) p message →
            message.get? Inheritance.baseAttribute = none)) ∧
    ((∃ g ∈ l.model.groups, g.plural ∈ root.keys) →
      result = .ok (found, some (.mapping (applyFilters options root)))) := by
  intro result read registry ready
  have hload : result = _ := load_eq hread hoptions
  refine ⟨fun hfree => ?_, fun hkey => ?_⟩
  · obtain ⟨hentry, hregistry⟩ := h.normalize hfree headers read.fetcher
    rw [hentry] at hload
    refine ⟨?_, ?_⟩
    · rw [hload]
      unfold process
      dsimp only
      rw [if_neg (by decide), hregistry]
      cases (settle l.model headers registry read.fetcher).1 <;> rfl
    · have hfetcher : read.fetcher.Faithful :=
        ((Fetcher.GoesOn.refl l.fetcher).fetch location headers .once).faithful hl
      have hroot := wellKeyed_of_fetch_once hl location headers found root hread
      rcases settle_alone l.model headers type.plural id hfetcher hroot with
        ⟨fault, hfault, hbroken⟩ | ⟨group, hgroup, hkept, hcompleted, hbases⟩
      · exact .inl ⟨fault, by rw [hload, hfault]; rfl, hbroken⟩
      · have hnamed := hkept.values _ _ (textAt?_eq_some.1 h.named) fun _ => rfl
        exact .inr ⟨group, by rw [hload, hgroup]; rfl, hkept, hnamed, hcompleted, hbases⟩
  · rw [h.normalize_of_key hkey] at hload
    rw [hload, settle_of_no_groups h.collections]
    rfl

/-- An endpoint that is given alone, and one that lists the message groups that it refers to. -/
def lone : Source := .ofDocuments [
  ("http://h/endpoints/e", ⟨"http://h/endpoints/e", "\x7b\"endpointid\": \"e\", \"messages\":
    \x7b\"a\": \x7b\"basemessageurl\": \"#/endpoints/e/messages/b\"\x7d,
    \"b\": \x7b\"protocol\": \"AMQP\"\x7d\x7d\x7d", []⟩),
  ("http://h/endpoints/f", ⟨"http://h/endpoints/f", "\x7b\"endpointid\": \"f\",
    \"messagegroups\": [\"#/messagegroups/g\"], \"messages\": \x7b\"a\": \x7b\x7d\x7d\x7d", []⟩)]

/-- The type of endpoints. -/
def endpoints : GroupType := ⟨"endpoints", "endpoint", [⟨"messages", "message"⟩]⟩

theorem load_single_group_of_endpoint :
    let l := start Model.standard lone .strict
    let location := "http://h/endpoints/e"
    let root : Fields := [("endpointid", .string "e"), ("messages", .mapping [
      ("a", .mapping [("basemessageurl", .string "#/endpoints/e/messages/b")]),
      ("b", .mapping [("protocol", .string "AMQP")])])]
    (l.fetcher.fetch location [] .once).1 = (location, some (.mapping root)) ∧
    SingleGroup Model.standard root endpoints "e" ∧
    (∀ g ∈ Model.standard.groups, g.plural ∉ root.keys) ∧
    ∃ group, (l.load location [] {}).1 =
        .ok (location, some (.mapping (alone "endpoints" "e" group))) ∧
      Kept (IsResourceCollection Model.standard "endpoints") root group ∧
      group.get? "endpointid" = some (.string "e") := by
  intro l location root
  have hread : (l.fetcher.fetch location [] .once).1 = (location, some (.mapping root)) := by
    decide +kernel
  have hgroups : Model.standard.groups = endpoints :: Model.standard.groups.drop 1 := by decide
  have hsingle : SingleGroup Model.standard root endpoints "e" :=
    .of_head hgroups (by decide) (by decide) (by decide)
  have hfree : ∀ g ∈ Model.standard.groups, g.plural ∉ root.keys := by decide
  have hok : (l.load location [] {}).1.toOption.isSome = true := by decide +kernel
  have hoptions : ({} : LoadOptions).schemaStyle = false := rfl
  obtain ⟨-, hresult⟩ :=
    (load_single_group (Fetcher.faithful_start lone .strict) hoptions hread hsingle).1 hfree
  rcases hresult with ⟨fault, hfault, -⟩ | ⟨group, hgroup, hkept, hid, -, -⟩
  · rw [hfault] at hok
    cases hok
  · exact ⟨hread, hsingle, hfree, group, hgroup, hkept, hid⟩

/-- An endpoint that lists message groups comes back as it is, under no id and without defaults. -/
theorem load_single_group_with_list :
    let l := start Model.standard lone .strict
    let location := "http://h/endpoints/f"
    let root : Fields := [("endpointid", .string "f"),
      ("messagegroups", .sequence [.string "#/messagegroups/g"]),
      ("messages", .mapping [("a", .mapping [])])]
    (l.fetcher.fetch location [] .once).1 = (location, some (.mapping root)) ∧
    SingleGroup Model.standard root endpoints "f" ∧
    (l.load location [] {}).1 = .ok (location, some (.mapping root)) ∧
    ∀ group, (l.load location [] {}).1 ≠
      .ok (location, some (.mapping (alone "endpoints" "f" group))) := by
  intro l location root
  have hread : (l.fetcher.fetch location [] .once).1 = (location, some (.mapping root)) := by
    decide +kernel
  have hload : (l.load location [] {}).1 = .ok (location, some (.mapping root)) := by decide +kernel
  have hgroups : Model.standard.groups = endpoints :: Model.standard.groups.drop 1 := by decide
  refine ⟨hread, .of_head hgroups (by decide) (by decide) (by decide), hload, fun group h => ?_⟩
  have hkeys : root = alone "endpoints" "f" group :=
    Value.mapping.inj (Option.some.inj (Prod.mk.inj (Except.ok.inj (hload.symm.trans h))).2)
  exact absurd (congrArg Table.keys hkeys) (by simp [root, alone, Table.keys])

end Loader

end Registry
