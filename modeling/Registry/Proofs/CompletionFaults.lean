import Registry.Proofs.Completion

/-!
# The fault of a completion

Completing a document ends at the first CloudEvents message, in the order of the model and then of the
document, whose metadata are no mapping or have no type. Whether there is one can be told from the
document as it was: what is put in on the way makes no message faulty and mends none.
-/

namespace Registry

namespace Fields

variable {α ε τ : Type} {R : Fields → Fields → Prop} {fields fields' : Fields} {key : String}

/-- What is observed of the mappings in a collection, one after the other. -/
def observed (o : String → Fields → List α) (collection : Fields) : List α :=
  collection.flatMap fun e => match e.2 with
    | .mapping x => o e.1 x
    | _ => []

/-- What is observed of the mappings in the collection under a key. -/
def observedAt (o : String → Fields → List α) (key : String) (fields : Fields) : List α :=
  (fields.mappingAt key).observed o

/-- An observation cannot tell related mappings apart. -/
def Respects (R : Fields → Fields → Prop) (o : String → Fields → List α) : Prop :=
  ∀ id x x', R x x' → o id x' = o id x

/-- All that is observed in collections is the same, unless related mappings can be told apart. -/
def Alike (R : Fields → Fields → Prop) (fields fields' : Fields) : Prop :=
  ∀ (α : Type) (o : String → Fields → List α), Respects R o →
    ∀ key, fields'.observedAt o key = fields.observedAt o key

lemma Alike.refl (R : Fields → Fields → Prop) (fields : Fields) : Alike R fields fields :=
  fun _ _ _ _ => rfl

lemma Alike.trans {fields'' : Fields} (h : Alike R fields fields') (k : Alike R fields' fields'') :
    Alike R fields fields'' := fun α o ho key => (k α o ho key).trans (h α o ho key)

lemma respects_observedAt {o : String → Fields → List α} (ho : Respects R o) (key : String) :
    Respects (Alike R) fun _ fields => fields.observedAt o key :=
  fun _ _ _ h => h α o ho key

lemma observedAt_of_get? {inner : Fields} (o : String → Fields → List α)
    (h : fields.get? key = some (.mapping inner)) : fields.observedAt o key = inner.observed o := by
  rw [observedAt, mappingAt, h]
  rfl

lemma observedAt_congr {other : Fields} (o : String → Fields → List α)
    (h : fields.get? key = other.get? key) : fields.observedAt o key = other.observedAt o key := by
  rw [observedAt, observedAt, mappingAt, mappingAt, h]

/-- A new entry that is no mapping is no collection. -/
lemma alike_insertNew {v : Value} (R : Fields → Fields → Prop) (fields : Fields) (key : String)
    (hv : v.isMapping = false) : Alike R fields (fields.insertNew key v) := by
  intro α o _ other
  rw [observedAt, observedAt, mappingAt, mappingAt, Table.get?_insertNew]
  cases fields.get? other with
  | some w => rfl
  | none =>
    rw [Option.none_or]
    split
    · cases v with
      | mapping => cases hv
      | _ => rfl
    · rfl

/-- A change fails with the first of the faults that its subject has, and leaves a related one if
there is none. -/
structure Tells (R : Fields → Fields → Prop) (faults : Fields → List ε)
    (change : Fields → Fields × Option ε) : Prop where
  fault : ∀ fields, (change fields).2 = (faults fields).head?
  related : ∀ fields fields', change fields = (fields', none) → R fields fields'

variable {faults : String → Fields → List ε} {change : String → Fields → Fields × Option ε}

lemma fault_mapUntil (h : ∀ id, Tells R (faults id) (change id)) (collection : Fields) :
    (collection.mapUntil fun id v => v.attemptMapping (change id)).2 =
      (collection.observed faults).head? := by
  induction collection with
  | nil => rfl
  | cons e rest ih =>
    obtain ⟨id, v⟩ := e
    cases v with
    | mapping x =>
      have hfault := (h id).fault x
      rw [observed, List.flatMap_cons, List.head?_append, ← observed, ← ih]
      dsimp only
      rw [← hfault, Table.mapUntil, Value.attemptMapping]
      generalize change id x = changed
      obtain ⟨x', fault⟩ := changed
      cases fault <;> rfl
    | _ => exact ih

lemma observed_mapUntil (h : ∀ id, Tells R (faults id) (change id)) {collection collection' : Fields}
    (hdone : collection.mapUntil (fun id v => v.attemptMapping (change id)) = (collection', none))
    {o : String → Fields → List α} (ho : Respects R o) :
    collection'.observed o = collection.observed o := by
  induction collection generalizing collection' with
  | nil =>
    obtain ⟨rfl, -⟩ := Prod.mk.inj hdone
    rfl
  | cons e rest ih =>
    obtain ⟨id, v⟩ := e
    rw [Table.mapUntil] at hdone
    split at hdone
    · cases (Prod.mk.inj hdone).2
    · next w hw =>
      obtain ⟨rfl, hrest⟩ := Prod.mk.inj hdone
      have htail := ih (Prod.ext rfl hrest)
      cases v with
      | mapping x =>
        obtain ⟨rfl, hnone⟩ := Prod.mk.inj hw
        have hsame := ho id x _ ((h id).related x _ (Prod.ext rfl hnone))
        exact congrArg₂ (· ++ ·) hsame htail
      | _ =>
        obtain ⟨rfl, -⟩ := Prod.mk.inj hw
        exact htail

lemma Tells.attemptAt (h : ∀ id, Tells R (faults id) (change id)) (key : String) :
    Tells (Alike R) (fun fields => fields.observedAt faults key) (Fields.attemptAt key
      (Table.mapUntil fun id v => v.attemptMapping (change id))) where
  fault fields := by
    unfold Fields.attemptAt
    split
    · next inner hinner =>
      rw [observedAt_of_get? faults hinner]
      exact fault_mapUntil h inner
    · next hother =>
      rw [observedAt, mappingAt]
      cases hv : fields.get? key with
      | none => rfl
      | some v =>
        cases v with
        | mapping inner => exact absurd hv (hother inner)
        | _ => rfl
  related fields fields' hdone := by
    intro α o ho other
    unfold Fields.attemptAt at hdone
    split at hdone
    · next inner hinner =>
      obtain ⟨rfl, hnone⟩ := Prod.mk.inj hdone
      by_cases hk : key = other
      · subst hk
        rw [observedAt_of_get? o hinner, observedAt_of_get? o (Table.get?_insert_self _ _ _)]
        exact observed_mapUntil h (Prod.ext rfl hnone) ho
      · exact observedAt_congr o (Table.get?_insert_of_ne _ _ hk)
    · obtain ⟨rfl, -⟩ := Prod.mk.inj hdone
      rfl

/-- Going through the collections of several types fails with the first fault of all: what is changed
on the way does not show in the faults of what is still to come. -/
theorem Tells.attemptEach {plural : τ → String} {types : List τ}
    {faults : τ → String → Fields → List ε} {change : τ → String → Fields → Fields × Option ε}
    (h : ∀ t id, Tells R (faults t id) (change t id)) (hfaults : ∀ t, Respects R (faults t)) :
    Tells (Alike R) (fun fields => types.flatMap fun t => fields.observedAt (faults t) (plural t))
      (Fields.attemptEach plural types change) := by
  induction types with
  | nil =>
    refine ⟨fun fields => rfl, fun fields fields' hdone => ?_⟩
    obtain ⟨rfl, -⟩ := Prod.mk.inj hdone
    exact .refl R fields
  | cons a types ih =>
    have hfirst := Tells.attemptAt (h a) (plural a)
    constructor
    case fault =>
      intro fields
      have hfault := hfirst.fault fields
      rw [List.flatMap_cons, List.head?_append, ← hfault, Fields.attemptEach, attemptAll]
      split
      · next heq => rw [heq]; rfl
      · next fields' heq =>
        have halike := hfirst.related fields fields' heq
        rw [heq, Option.none_or, ← Fields.attemptEach, ih.fault]
        refine congrArg List.head? (List.flatMap_congr fun t _ => ?_)
        exact halike ε (faults t) (hfaults t) (plural t)
    case related =>
      intro fields fields' hdone
      obtain ⟨hnone, hrest⟩ := attemptEach_cons hdone
      exact (hfirst.related fields _ (Prod.ext rfl hnone)).trans (ih.related _ _ hrest)

end Fields

namespace Defaults

open Fields (Alike Respects Tells)

variable {message message' : Fields} {id key : String} {fault : Fault} {m : Model}

/-- An attribute of a message is the name of the CloudEvents envelope, in any case. -/
def NamesCloudEvents (message : Fields) (key : String) : Prop :=
  ∃ text, message.get? key = some (.string text) ∧ Text.sameIgnoringCase text cloudEvents = true

/-- A message is one of CloudEvents, with the attribute that holds its metadata. The envelope comes
before the format. -/
inductive CloudEventsMessage (message : Fields) : String → Prop
  | byEnvelope (h : NamesCloudEvents message "envelope") : CloudEventsMessage message "envelopemetadata"
  | byFormat (h : ¬NamesCloudEvents message "envelope") (h' : NamesCloudEvents message "format") :
      CloudEventsMessage message "metadata"

/-- What is wrong with a CloudEvents message: its metadata are absent, have no type, or are no
mapping. -/
inductive Broken (id : String) (message : Fields) : Fault → Prop
  | absent {key : String} (h : CloudEventsMessage message key) (hget : message.get? key = none) :
      Broken id message (.missingMessageType id)
  | untyped {key : String} {metadata : Fields} (h : CloudEventsMessage message key)
      (hget : message.get? key = some (.mapping metadata)) (htype : metadata.has "type" = false) :
      Broken id message (.missingMessageType id)
  | notMapping {key : String} {v : Value} (h : CloudEventsMessage message key)
      (hget : message.get? key = some v) (hv : v.isMapping = false) :
      Broken id message (.invalidDocument id (.metadataNotMapping key))

lemma namesCloudEvents_eq_true :
    namesCloudEvents message key = true ↔ NamesCloudEvents message key := by
  rw [namesCloudEvents, NamesCloudEvents, Fields.textAt?, Option.any_eq_true]
  simp only [Option.bind_eq_some_iff]
  constructor
  · rintro ⟨text, ⟨v, hv, htext⟩, hsame⟩
    cases v with
    | string s =>
      obtain rfl := Option.some.inj htext
      exact ⟨s, hv, hsame⟩
    | _ => cases htext
  · rintro ⟨text, hv, hsame⟩
    exact ⟨text, ⟨_, hv, rfl⟩, hsame⟩

lemma metadataKey?_eq_some : metadataKey? message = some key ↔ CloudEventsMessage message key := by
  unfold metadataKey?
  constructor
  · intro h
    split at h
    · next henvelope =>
      obtain rfl := Option.some.inj h
      exact .byEnvelope (namesCloudEvents_eq_true.1 henvelope)
    · next henvelope =>
      split at h
      · next hformat =>
        obtain rfl := Option.some.inj h
        exact .byFormat (fun hn => henvelope (namesCloudEvents_eq_true.2 hn))
          (namesCloudEvents_eq_true.1 hformat)
      · cases h
  · intro h
    cases h with
    | byEnvelope h => rw [if_pos (namesCloudEvents_eq_true.2 h)]
    | byFormat h h' =>
      rw [if_neg fun hn => h (namesCloudEvents_eq_true.1 hn), if_pos (namesCloudEvents_eq_true.2 h')]

/-- The fault of a message. -/
def fault? (id : String) (message : Fields) : Option Fault :=
  (metadataKey? message).bind fun key => match message.get? key with
    | none => some (.missingMessageType id)
    | some (.mapping metadata) =>
      if Table.has metadata "type" then none else some (.missingMessageType id)
    | some _ => some (.invalidDocument id (.metadataNotMapping key))

lemma fault?_eq_some : fault? id message = some fault ↔ Broken id message fault := by
  rw [fault?, Option.bind_eq_some_iff]
  constructor
  · rintro ⟨key, hkey, h⟩
    rw [metadataKey?_eq_some] at hkey
    split at h
    · next hnone =>
      obtain rfl := Option.some.inj h
      exact .absent hkey hnone
    · next metadata hget =>
      split at h
      · cases h
      · next htype =>
        obtain rfl := Option.some.inj h
        exact .untyped hkey hget (by simpa using htype)
    · next v hother hget =>
      obtain rfl := Option.some.inj h
      refine .notMapping hkey hget ?_
      cases v with
      | mapping metadata => exact absurd rfl (hother metadata)
      | _ => rfl
  · intro h
    cases h with
    | absent h hget => exact ⟨_, metadataKey?_eq_some.2 h, by rw [hget]⟩
    | untyped h hget htype => exact ⟨_, metadataKey?_eq_some.2 h, by simp [hget, htype]⟩
    | @notMapping _ v h hget hv =>
      refine ⟨_, metadataKey?_eq_some.2 h, ?_⟩
      rw [hget]
      cases v with
      | mapping => cases hv
      | _ => rfl

/-- A message without a fault has typed metadata if it has to have any. -/
lemma fault?_eq_none : fault? id message = none ↔ ∀ key, metadataKey? message = some key →
    ∃ metadata : Fields, message.get? key = some (.mapping metadata) ∧ metadata.has "type" = true := by
  unfold fault?
  cases metadataKey? message with
  | none => simp
  | some key =>
    simp only [Option.bind_some, Option.some.injEq, forall_eq']
    constructor
    · intro h
      split at h
      · cases h
      · next metadata hget =>
        split at h
        · next htype => exact ⟨metadata, hget, htype⟩
        · cases h
      · cases h
    · rintro ⟨metadata, hget, htype⟩
      rw [hget]
      exact if_pos htype

/-- Two mappings have the same fault as messages. -/
def SameFault (message message' : Fields) : Prop := ∀ id, fault? id message' = fault? id message

/-- The attributes that decide whether a message has a fault. -/
def decisive : List String := "envelope" :: "format" :: metadataKeys

lemma metadataKey?_of_get? (h : ∀ key ∈ decisive, message'.get? key = message.get? key) :
    metadataKey? message' = metadataKey? message := by
  have hnames : ∀ key ∈ decisive, namesCloudEvents message' key = namesCloudEvents message key := by
    intro key hkey
    rw [namesCloudEvents, namesCloudEvents, Fields.textAt?, Fields.textAt?, h key hkey]
  rw [metadataKey?, metadataKey?, hnames "envelope" (by decide), hnames "format" (by decide)]

lemma sameFault_of_get? (h : ∀ key ∈ decisive, message'.get? key = message.get? key) :
    SameFault message message' := by
  intro id
  rw [fault?, fault?, metadataKey?_of_get? h]
  refine Option.bind_congr fun key hkey => ?_
  rw [h key (List.mem_cons_of_mem _ (List.mem_cons_of_mem _ (mem_metadataKeys hkey)))]

/-- An id is none of the attributes that decide. -/
lemma get?_insertNew_id (message : Fields) (singular : String) (v : Value) :
    ∀ key ∈ decisive, (message.insertNew (singular ++ "id") v).get? key = message.get? key := by
  intro key hkey
  rw [Table.get?_insertNew, if_neg, Option.or_none]
  rintro rfl
  have hends : ∀ key ∈ decisive, key.toList.getLast? ≠ some 'd' := by decide
  refine hends _ hkey ?_
  rw [String.toList_append]
  exact List.getLast?_append_of_ne_nil _ (by decide)

lemma fault_completeMessage (id : String) (message : Fields) :
    (completeMessage id message).2 = fault? id message := by
  unfold completeMessage fault?
  cases metadataKey? message with
  | none => rfl
  | some key =>
    unfold completeMetadata
    dsimp only [Option.bind_some]
    rw [Table.get?_insertNew, if_pos rfl]
    cases message.get? key with
    | none => rfl
    | some v =>
      cases v with
      | mapping metadata =>
        dsimp only [Option.some_or]
        cases Table.has metadata "type" <;> rfl
      | _ => rfl

/-- The faults of the messages among the resources of a type. -/
def messageFaults (r : ResourceType) (id : String) (resource : Fields) : List Fault :=
  if r.singular = "message" then (fault? id resource).toList else []

/-- Completing a resource fails if it is a message with a fault, and else leaves one that has a fault
as a message exactly if it had one before. -/
lemma tells_completeResource (r : ResourceType) (id : String) :
    Tells SameFault (messageFaults r id) (completeResource r id) where
  fault resource := by
    have hnew := sameFault_of_get? (get?_insertNew_id resource r.singular (.string id))
    unfold completeResource messageFaults
    dsimp only
    split
    · rw [fault_completeMessage, ResourceType.idAttribute, hnew id]
      cases fault? id resource <;> rfl
    · rfl
  related resource resource' h := by
    have hnew := sameFault_of_get? (get?_insertNew_id resource r.singular (.string id))
    unfold completeResource at h
    dsimp only at h
    split at h
    · intro other
      have hbefore : fault? id (Table.insertNew resource r.idAttribute (.string id)) = none := by
        rw [← fault_completeMessage, h]
      have hafter : fault? id resource' = none := by
        rw [← fault_completeMessage, completeMessage_twice h]
      rw [ResourceType.idAttribute, hnew id] at hbefore
      rw [fault?_eq_none.2 (fault?_eq_none.1 hbefore), fault?_eq_none.2 (fault?_eq_none.1 hafter)]
    · obtain ⟨rfl, -⟩ := Prod.mk.inj h
      exact hnew

/-- The faults of the messages in a group. -/
def groupFaults (g : GroupType) (_ : String) (group : Fields) : List Fault :=
  g.resources.flatMap fun r => group.observedAt (messageFaults r) r.plural

lemma respects_messageFaults (r : ResourceType) : Respects SameFault (messageFaults r) := by
  intro id x x' h
  rw [messageFaults, messageFaults, h id]

lemma respects_groupFaults (g : GroupType) : Respects (Alike SameFault) (groupFaults g) :=
  fun id _ _ h => List.flatMap_congr fun r _ =>
    Fields.respects_observedAt (respects_messageFaults r) r.plural id _ _ h

lemma tells_completeGroup (g : GroupType) (id : String) :
    Tells (Alike SameFault) (groupFaults g id) (completeGroup g id) := by
  have heach : Tells (Alike SameFault) (groupFaults g id)
      (Fields.attemptEach (·.plural) g.resources completeResource) :=
    Tells.attemptEach tells_completeResource respects_messageFaults
  have hnew : ∀ group : Fields, Alike SameFault group (group.insertNew g.idAttribute (.string id)) :=
    fun group => Fields.alike_insertNew SameFault group _ rfl
  constructor
  case fault =>
    intro group
    rw [completeGroup_eq, heach.fault, respects_groupFaults g id _ _ (hnew group)]
  case related =>
    intro group group' h
    exact (hnew group).trans (heach.related _ _ h)

/-- Completing a document fails with the first fault of its messages. -/
theorem tells_complete (m : Model) : Tells (Alike (Alike SameFault))
    (fun root => m.groups.flatMap fun g => root.observedAt (groupFaults g) g.plural) (complete m) :=
  Tells.attemptEach tells_completeGroup respects_groupFaults

end Defaults

end Registry
