import Registry.Defaults
import Registry.Proofs.CollectionChanges

/-!
# Completing twice

Completing the defaults adds what is missing, so completing them again adds nothing: whatever the first
pass put in is found by the second one, and nothing of it decides what else is to be put in.
-/

namespace Registry

namespace Table

variable {α : Type} {t : Table α} {key other : String} {v : α}

lemma insertNew_of_has (h : t.has key = true) (v : α) : t.insertNew key v = t := by
  rw [insertNew, if_pos h]

lemma get?_insertNew (t : Table α) (key : String) (v : α) (other : String) :
    (t.insertNew key v).get? other =
      (t.get? other).or (if key = other then some v else none) := by
  rw [insertNew]
  split
  · next hhas =>
    cases hv : t.get? other with
    | some w => rfl
    | none =>
      have hne : key ≠ other := by
        rintro rfl
        rw [Table.has, hv] at hhas
        cases hhas
      rw [if_neg hne]
      rfl
  · rw [get?_append, get?_cons]
    cases t.get? other <;> rfl

lemma has_insertNew (t : Table α) (key : String) (v : α) (other : String) :
    (t.insertNew key v).has other = (t.has other || decide (key = other)) := by
  rw [has, has, get?_insertNew]
  by_cases hk : key = other
  · cases t.get? other <;> simp [hk]
  · cases t.get? other <;> simp [hk]

lemma has_insertNew_self (t : Table α) (key : String) (v : α) : (t.insertNew key v).has key = true := by
  rw [has_insertNew, decide_eq_true rfl, Bool.or_true]

end Table

namespace Defaults

variable {message message' defaults fields : Fields} {id key other : String} {fault : Option Fault}

lemma has_addMissing (defaults fields : Fields) (key : String) :
    (addMissing defaults fields).has key = true ↔ fields.has key = true ∨ key ∈ defaults.keys := by
  unfold addMissing
  induction defaults generalizing fields with
  | nil => simp
  | cons e defaults ih =>
    have hkeys : key ∈ Table.keys (e :: defaults) ↔ e.1 = key ∨ key ∈ Table.keys defaults :=
      List.mem_cons.trans (or_congr_left eq_comm)
    rw [List.foldl_cons, ih, Table.has_insertNew, Bool.or_eq_true, decide_eq_true_iff, or_assoc, hkeys]

lemma addMissing_eq_self (h : ∀ key ∈ defaults.keys, fields.has key = true) :
    addMissing defaults fields = fields := by
  unfold addMissing
  induction defaults with
  | nil => rfl
  | cons e defaults ih =>
    obtain ⟨he, hdefaults⟩ := List.forall_mem_cons.1 h
    rw [List.foldl_cons, Table.insertNew_of_has he, ih hdefaults]

/-- The attributes under which a CloudEvents message has its metadata. -/
def metadataKeys : List String := ["envelopemetadata", "metadata"]

lemma mem_metadataKeys (h : metadataKey? message = some key) : key ∈ metadataKeys := by
  unfold metadataKey? at h
  split at h
  · exact Option.some.inj h ▸ List.mem_cons_self
  · split at h
    · exact Option.some.inj h ▸ List.mem_cons_of_mem _ List.mem_cons_self
    · cases h

/-- A message gets its metadata completed, or no more than room for them if there is a fault. -/
lemma completeMetadata_cases (id key : String) (message : Fields) :
    let placed : Fields := message.insertNew key (.mapping [])
    ((∃ fault, (completeMetadata id key message).2 = some fault) ∧
      (completeMetadata id key message).1 = placed) ∨
    ∃ metadata : Fields, metadata.has "type" = true ∧
      completeMetadata id key message =
        (placed.insert key (.mapping (addMissing metadataDefaults metadata)), none) := by
  intro placed
  unfold completeMetadata
  dsimp only
  split
  · next metadata _ =>
    split
    · next htype => exact .inr ⟨metadata, htype, rfl⟩
    · exact .inl ⟨⟨_, rfl⟩, rfl⟩
  · exact .inl ⟨⟨_, rfl⟩, rfl⟩

lemma get?_completeMetadata_of_ne (h : key ≠ other) :
    (completeMetadata id key message).1.get? other = message.get? other := by
  have hplaced : (Table.insertNew message key (Value.mapping [])).get? other = message.get? other := by
    rw [Table.get?_insertNew, if_neg h, Option.or_none]
  rcases completeMetadata_cases id key message with ⟨-, hfault⟩ | ⟨metadata, -, hcomplete⟩
  · rw [hfault, hplaced]
  · rw [hcomplete, ← hplaced]
    exact (Table.get?_insert _ _ _ _).trans (if_neg h)

lemma has_completeMetadata (id key : String) (message : Fields) :
    (completeMetadata id key message).1.has key = true := by
  rcases completeMetadata_cases id key message with ⟨-, hfault⟩ | ⟨metadata, -, hcomplete⟩
  · rw [hfault]
    exact Table.has_insertNew_self _ _ _
  · rw [hcomplete, Table.has, Table.get?_insert_self]
    rfl

lemma get?_completeMessage_of_notMem (h : other ∉ metadataKeys) :
    (completeMessage id message).1.get? other = message.get? other := by
  unfold completeMessage
  split
  · rfl
  · next key hkey => exact get?_completeMetadata_of_ne fun he => h (he ▸ mem_metadataKeys hkey)

/-- The metadata of a message is looked for in the same place once it is completed. -/
lemma metadataKey?_completeMessage (id : String) (message : Fields) :
    metadataKey? (completeMessage id message).1 = metadataKey? message := by
  have htext : ∀ key, key ∉ metadataKeys →
      namesCloudEvents (completeMessage id message).1 key = namesCloudEvents message key := by
    intro key hkey
    rw [namesCloudEvents, namesCloudEvents, Fields.textAt?, get?_completeMessage_of_notMem hkey]
    rfl
  rw [metadataKey?, htext "envelope" (by decide), htext "format" (by decide), metadataKey?]

lemma completeMetadata_twice (h : completeMetadata id key message = (message', none)) :
    completeMetadata id key message' = (message', none) := by
  rcases completeMetadata_cases id key message with ⟨⟨fault, hfault⟩, -⟩ | ⟨metadata, htype, hcomplete⟩
  · rw [h] at hfault
    cases hfault
  obtain ⟨rfl, -⟩ := Prod.mk.inj (hcomplete.symm.trans h)
  -- the second pass finds the metadata of the first one: they have a type, and no default is missing
  let full := addMissing metadataDefaults metadata
  have hget : ∀ fields : Fields, (fields.insert key (.mapping full)).get? key =
      some (.mapping full) := fun fields => Table.get?_insert_self _ _ _
  have hfull : addMissing metadataDefaults full = full :=
    addMissing_eq_self fun k hk => (has_addMissing _ _ k).2 (.inr hk)
  have hfulltype : full.has "type" = true := (has_addMissing _ _ _).2 (.inl htype)
  unfold completeMetadata
  dsimp only
  rw [Table.insertNew_of_has (by rw [Table.has, hget]; rfl), hget]
  dsimp only
  rw [if_pos hfulltype, hfull, Table.insert_of_get? (hget _)]

lemma completeMessage_twice (h : completeMessage id message = (message', none)) :
    completeMessage id message' = (message', none) := by
  have hkey : metadataKey? message' = metadataKey? message := by
    have hkept := metadataKey?_completeMessage id message
    rwa [h] at hkept
  unfold completeMessage at h ⊢
  rw [hkey]
  cases hm : metadataKey? message with
  | none => rfl
  | some key =>
    rw [hm] at h
    exact completeMetadata_twice h

lemma has_completeMessage (id : String) (h : message.has key = true) :
    (completeMessage id message).1.has key = true := by
  unfold completeMessage
  split
  · exact h
  · next place _ =>
    by_cases hk : place = key
    · exact hk ▸ has_completeMetadata id place message
    · rw [Table.has, get?_completeMetadata_of_ne hk]
      exact h

variable {type : ResourceType} {g : GroupType} {resource resource' group group' : Fields}

lemma get?_completeResource_of_ne (id : String) (resource : Fields) (hid : type.idAttribute ≠ other)
    (hmetadata : type.singular = "message" → other ∉ metadataKeys) :
    (completeResource type id resource).1.get? other = resource.get? other := by
  have hnew : (Table.insertNew resource type.idAttribute (.string id)).get? other =
      resource.get? other := by
    rw [Table.get?_insertNew, if_neg hid, Option.or_none]
  unfold completeResource
  dsimp only
  split
  · next hmessage => exact (get?_completeMessage_of_notMem (hmetadata hmessage)).trans hnew
  · exact hnew

lemma has_completeResource (type : ResourceType) (id : String) (resource : Fields) :
    (completeResource type id resource).1.has type.idAttribute = true := by
  have hnew := Table.has_insertNew_self resource type.idAttribute (.string id)
  unfold completeResource
  dsimp only
  split
  · exact has_completeMessage id hnew
  · exact hnew

lemma completeResource_twice (h : completeResource type id resource = (resource', none)) :
    completeResource type id resource' = (resource', none) := by
  have hhas : resource'.has type.idAttribute = true := by
    have hkept := has_completeResource type id resource
    rwa [h] at hkept
  unfold completeResource at h ⊢
  dsimp only at h ⊢
  rw [Table.insertNew_of_has hhas]
  by_cases hm : type.singular = "message"
  · rw [if_pos hm] at h ⊢
    exact completeMessage_twice h
  · rw [if_neg hm]

lemma completeGroup_eq (g : GroupType) (id : String) (group : Fields) :
    completeGroup g id group = Fields.attemptEach (·.plural) g.resources completeResource
      (group.insertNew g.idAttribute (.string id)) := rfl

lemma complete_eq (m : Model) (root : Fields) :
    complete m root = root.attemptEach (·.plural) m.groups completeGroup := rfl

lemma has_of_completeGroup (h : completeGroup g id group = (group', none)) :
    group'.has g.idAttribute = true := by
  rw [Table.has_iff_mem_keys, Fields.keys_attemptEach (completeGroup_eq g id group ▸ h),
    ← Table.has_iff_mem_keys]
  exact Table.has_insertNew_self _ _ _

lemma completeGroup_twice (hn : (g.resources.map (·.plural)).Nodup)
    (h : completeGroup g id group = (group', none)) (hk : group'.WellKeyed) :
    completeGroup g id group' = (group', none) := by
  rw [completeGroup_eq, Table.insertNew_of_has (has_of_completeGroup h)]
  refine Fields.attemptEach_eq_self hk fun type ht id resource hx => ?_
  obtain ⟨before, -, hbefore⟩ := Fields.of_attemptEach hn ht (completeGroup_eq g _ group ▸ h) hx
  exact completeResource_twice hbefore

variable {m : Model} {root whole : Fields}

/-- **Completing a complete document changes nothing.** -/
theorem complete_twice (hgroups : (m.groups.map (·.plural)).Nodup)
    (hresources : ∀ g ∈ m.groups, (g.resources.map (·.plural)).Nodup)
    (h : complete m root = (whole, none)) (hk : whole.WellKeyed) :
    complete m whole = (whole, none) := by
  rw [complete_eq] at h ⊢
  refine Fields.attemptEach_eq_self hk fun g hg groupId group hx => ?_
  obtain ⟨before, -, hbefore⟩ := Fields.of_attemptEach hgroups hg h hx
  have hgroup : Fields.WellKeyed group := Value.wellKeyed_at? hk (Value.at?_of_under hx)
  exact completeGroup_twice (hresources g hg) hbefore hgroup

/-- What stands at a resource's place in a completed document is the completed resource. -/
theorem of_complete (hgroups : (m.groups.map (·.plural)).Nodup) (hg : g ∈ m.groups)
    (hresources : (g.resources.map (·.plural)).Nodup) (ht : type ∈ g.resources)
    (h : complete m root = (whole, none)) {groupId : String}
    (hx : (Value.mapping whole).under [g.plural, groupId, type.plural, id] =
      some (.mapping resource')) :
    ∃ resource, (Value.mapping root).under [g.plural, groupId, type.plural, id] =
        some (.mapping resource) ∧ completeResource type id resource = (resource', none) := by
  obtain ⟨after, hv, hx⟩ := Value.exists_under_pair hx
  rw [Value.under_cons_cons]
  obtain ⟨group, hgroup, hcompleted⟩ := Fields.of_attemptEach hgroups hg (complete_eq m root ▸ h) hv
  obtain ⟨resource, hresource, hchange⟩ := Fields.of_attemptEach hresources ht hcompleted hx
  refine ⟨resource, ?_, hchange⟩
  rw [hgroup, Option.bind_some]
  rw [Value.under_mapping_cons, Table.get?_insertNew] at hresource
  rw [Value.under_mapping_cons]
  obtain ⟨w, hw, hend⟩ := Option.bind_eq_some_iff.1 hresource
  rcases Option.or_eq_some_iff.1 hw with hown | ⟨-, hnew⟩
  · rw [hown]
    exact hend
  · -- the id that is put in is a text, so nothing stands below it
    split at hnew
    · rw [← Option.some.inj hnew] at hend
      cases hend
    · cases hnew

end Defaults

end Registry
