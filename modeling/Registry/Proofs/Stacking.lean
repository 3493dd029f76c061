import Mathlib.Data.List.Pairwise
import Registry.Proofs.SelectedChanges
import Registry.Stack

/-!
# Stacked documents

Documents are put one on top of the other down to single resources: collections, groups and resource
collections of all documents come together, and what stands in them is that of the last document
which has it. So a stack may be put together in stages.
-/

namespace Registry

namespace Table

variable {α : Type}

/-- Puts every entry of a table into another one. What is put under a key may depend on what stands
there. -/
def putEach (put : String → Option α → α → α) (base top : Table α) : Table α :=
  top.foldl (fun t e => t.insert e.1 (put e.1 (t.get? e.1) e.2)) base

variable {put : String → Option α → α → α} {base top : Table α}

lemma putEach_cons (key : String) (v : α) : putEach put base ((key, v) :: top) =
    putEach put (base.insert key (put key (base.get? key) v)) top := rfl

lemma get?_putEach (ht : top.keys.Nodup) (key : String) :
    (putEach put base top).get? key =
      match top.get? key with
      | some v => some (put key (base.get? key) v)
      | none => base.get? key := by
  induction top generalizing base with
  | nil => rfl
  | cons e top ih =>
    obtain ⟨k, v⟩ := e
    rw [keys_cons, List.nodup_cons] at ht
    rw [putEach_cons, ih ht.2, get?_cons, get?_insert]
    by_cases hk : k = key
    · subst hk
      rw [if_pos rfl, if_pos rfl, get?_eq_none_iff.2 ht.1]
    · rw [if_neg hk, if_neg hk]

lemma isSome_get?_putEach (ht : top.keys.Nodup) (key : String) :
    ((putEach put base top).get? key).isSome =
      ((base.get? key).isSome || (top.get? key).isSome) := by
  rw [get?_putEach ht]
  cases top.get? key <;> simp

lemma keys_putEach (ht : top.keys.Nodup) :
    (putEach put base top).keys = base.keys ++ top.keys.filter fun k => k ∉ base.keys := by
  induction top generalizing base with
  | nil => simp [putEach]
  | cons e top ih =>
    obtain ⟨k, v⟩ := e
    rw [keys_cons, List.nodup_cons] at ht
    rw [putEach_cons, ih ht.2, keys_cons, List.filter_cons, keys_insert]
    by_cases hk : k ∈ base.keys
    · simp [hk]
    · have hsame : ((keys top).filter fun j => j ∉ base.keys ++ [k]) =
          (keys top).filter fun j => j ∉ base.keys := by
        refine List.filter_congr fun j hj => ?_
        have hne : j ≠ k := fun he => ht.1 (he ▸ hj)
        simp [hne]
      simp only [hk, if_false, hsame]
      simp

lemma nodup_keys_putEach (hb : base.keys.Nodup) : (putEach put base top).keys.Nodup := by
  induction top generalizing base with
  | nil => exact hb
  | cons e top ih => exact ih (nodup_keys_insert hb _ _)

lemma putEach_nil (ht : top.keys.Nodup) (h : ∀ e ∈ top, put e.1 none e.2 = e.2) :
    putEach put [] top = top := by
  have hnil : (keys ([] : Table α)).Nodup := List.nodup_nil
  apply eq_of_keys_of_get? (nodup_keys_putEach hnil)
  · simp [keys_putEach ht]
  · intro key
    rw [get?_putEach ht]
    cases hg : top.get? key with
    | none => rfl
    | some v => exact congrArg some (h (key, v) (mem_of_get? hg))

/-- If values put one after the other under a key may be put together first, so may tables. -/
theorem putEach_assoc {a b c : Table α} (ha : a.keys.Nodup) (hb : b.keys.Nodup)
    (hc : c.keys.Nodup) (hnone : ∀ key w, c.get? key = some w → put key none w = w)
    (h : ∀ key v w, b.get? key = some v → c.get? key = some w →
      put key (some (put key (a.get? key) v)) w = put key (a.get? key) (put key (some v) w)) :
    putEach put (putEach put a b) c = putEach put a (putEach put b c) := by
  have hbc : (putEach put b c).keys.Nodup := nodup_keys_putEach hb
  apply eq_of_keys_of_get? (nodup_keys_putEach (nodup_keys_putEach ha))
  · rw [keys_putEach hc, keys_putEach hb, keys_putEach hbc, keys_putEach hc, List.filter_append,
      List.filter_filter, List.append_assoc]
    refine congrArg _ (congrArg _ (List.filter_congr fun k _ => ?_))
    by_cases hka : k ∈ a.keys
    · simp [hka]
    · by_cases hkb : k ∈ b.keys <;> simp [hka, hkb]
  · intro key
    rw [get?_putEach hc, get?_putEach hb, get?_putEach hbc, get?_putEach hc]
    cases hv : b.get? key with
    | none =>
      cases hw : c.get? key with
      | none => rfl
      | some w => simp only [hnone key w hw]
    | some v =>
      cases hw : c.get? key with
      | none => rfl
      | some w => exact congrArg some (h key v w hv hw)

end Table

lemma Fields.WellKeyed.putEach {put : String → Option Value → Value → Value} {base top : Fields}
    (hb : base.WellKeyed) (ht : top.WellKeyed)
    (h : ∀ key (lower : Option Value) v, (∀ w ∈ lower, w.WellKeyed) → v.WellKeyed →
      (put key lower v).WellKeyed) :
    Fields.WellKeyed (Table.putEach put base top) := by
  have hn : (Table.putEach put base top).keys.Nodup := Table.nodup_keys_putEach hb.nodup
  refine Fields.wellKeyed_iff.2 ⟨hn, fun e he => ?_⟩
  have hg := Table.get?_of_mem hn (show (e.1, e.2) ∈ Table.putEach put base top from he)
  rw [Table.get?_putEach ht.nodup] at hg
  cases hw : top.get? e.1 with
  | none =>
    rw [hw] at hg
    exact hb.of_get? hg
  | some w =>
    rw [hw, Option.some.injEq] at hg
    rw [← hg]
    exact h e.1 _ w (fun _ hv => hb.of_get? hv) (ht.of_get? hw)

namespace Model

/-- No name, be it plural or singular, belongs to two group types. -/
def Unambiguous (m : Model) : Prop :=
  m.groups.Pairwise fun g g' => ∀ name ∈ [g.plural, g.singular], name ∉ [g'.plural, g'.singular]

instance (m : Model) : Decidable m.Unambiguous := inferInstanceAs (Decidable (List.Pairwise _ _))

variable {m : Model} {type other : GroupType} {key : String}

lemma Unambiguous.eq_of_name (hm : m.Unambiguous) (ht : type ∈ m.groups) (ho : other ∈ m.groups)
    (h : type.plural ∈ [other.plural, other.singular]) : other = type := by
  by_contra hne
  have hsymm : Std.Symm fun g g' : GroupType =>
      ∀ name ∈ [g.plural, g.singular], name ∉ [g'.plural, g'.singular] :=
    ⟨fun _ _ hp name hn hn' => hp name hn' hn⟩
  have hapart := List.Pairwise.forall hm ho ht hne
  exact hapart type.plural h List.mem_cons_self

/-- The name of a group collection stands for its group type. -/
lemma Unambiguous.collection?_plural (hm : m.Unambiguous) (ht : type ∈ m.groups) :
    m.collection? type.plural = some type := by
  have hgroup : m.group? type.plural = some type := by
    unfold group?
    cases hs : m.groups.find? (·.singular == type.plural) with
    | some g =>
      have hname : g.singular = type.plural := by simpa using List.find?_some hs
      rw [hm.eq_of_name ht (List.mem_of_find?_eq_some hs) (by simp [hname])]
      rfl
    | none =>
      cases hp : m.groups.find? (·.plural == type.plural) with
      | some g =>
        have hname : g.plural = type.plural := by simpa using List.find?_some hp
        rw [hm.eq_of_name ht (List.mem_of_find?_eq_some hp) (by simp [hname])]
        rfl
      | none => exact absurd (List.find?_eq_none.1 hp type ht) (by simp)
  rw [collection?, hgroup]
  simp

lemma mem_of_collection? (h : m.collection? key = some type) : type ∈ m.groups ∧ type.plural = key := by
  obtain ⟨hg, hname⟩ := Option.filter_eq_some_iff.1 h
  refine ⟨?_, by simpa using hname⟩
  rcases Option.or_eq_some_iff.1 hg with hs | ⟨-, hp⟩
  · exact List.mem_of_find?_eq_some hs
  · exact List.mem_of_find?_eq_some hp

lemma collection?_eq_none (h : ∀ type ∈ m.groups, type.plural ≠ key) : m.collection? key = none := by
  refine Option.eq_none_iff_forall_not_mem.2 fun type ht => ?_
  obtain ⟨hmem, hname⟩ := mem_of_collection? ht
  exact h type hmem hname

end Model

namespace Stack

variable {m : Model} {type : GroupType} {r : ResourceType} {a b c : Fields} {key id : String}
  {path : List String}

/-- The entries that a value is put on; there are none unless a mapping stands there. -/
def below (lower : Option Value) : Fields := (lower.bind Value.fields?).getD []

lemma wellKeyed_below {lower : Option Value} (h : ∀ v ∈ lower, v.WellKeyed) :
    (below lower).WellKeyed := by
  cases lower with
  | none => exact Fields.wellKeyed_nil
  | some v => exact (h v rfl).entries

/-- What an attribute of a group becomes on top of what stands under its key. -/
def attributeOver (type : GroupType) (key : String) (lower : Option Value) (v : Value) : Value :=
  match type.resource? key, v with
  | some _, .mapping resources =>
    .mapping (Table.putEach (fun _ _ w => w) (below lower) resources)
  | _, v => v

/-- What a group becomes on top of what stands under its id. -/
def groupOver (type : GroupType) (_ : String) (lower : Option Value) (group : Value) : Value :=
  match lower, group with
  | some (.mapping lower), .mapping upper =>
    .mapping (Table.putEach (attributeOver type) lower upper)
  | _, group => group

/-- What a top-level attribute becomes on top of what stands under its key. -/
def entryOver (m : Model) (key : String) (lower : Option Value) (v : Value) : Value :=
  match m.collection? key, v with
  | some type, .mapping groups =>
    .mapping (Table.putEach (groupOver type) (below lower) groups)
  | _, v => v

lemma overlayAttribute_eq (type : GroupType) (base : Fields) (key : String) (v : Value) :
    overlayAttribute type base key v = base.insert key (attributeOver type key (base.get? key) v) := by
  unfold overlayAttribute attributeOver
  cases type.resource? key <;> cases v <;> rfl

lemma overlayGroup_eq (type : GroupType) (base : Fields) (id : String) (group : Value) :
    overlayGroup type base id group = base.insert id (groupOver type id (base.get? id) group) := by
  unfold overlayGroup groupOver
  cases base.get? id with
  | none => rfl
  | some lower =>
    cases lower <;> cases group <;> try rfl
    simp only [Table.putEach, overlayAttribute_eq]

lemma overlayEntry_eq (m : Model) (base : Fields) (key : String) (v : Value) :
    overlayEntry m base key v = base.insert key (entryOver m key (base.get? key) v) := by
  unfold overlayEntry entryOver
  cases m.collection? key with
  | none => rfl
  | some type =>
    cases v <;> try rfl
    simp only [Table.putEach, overlayGroup_eq, Fields.within]
    rfl

lemma overlay_eq (m : Model) (base top : Fields) :
    overlay m base top = Table.putEach (entryOver m) base top := by
  simp only [overlay, Table.putEach, overlayEntry_eq]

/-- The paths at which documents come together: group collections, groups, and the resource
collections that their types declare. -/
inductive Container (m : Model) : List String → Prop where
  | collection {type : GroupType} (ht : type ∈ m.groups) : Container m [type.plural]
  | group {type : GroupType} (ht : type ∈ m.groups) (id : String) : Container m [type.plural, id]
  | resources {type : GroupType} {r : ResourceType} (ht : type ∈ m.groups)
      (hr : r ∈ type.resources) (id : String) : Container m [type.plural, id, r.plural]

/-- The paths at which one document replaces another: the entries of containers that are none
themselves. -/
inductive Replaced (m : Model) : List String → Prop where
  | entry {key : String} (h : ∀ type ∈ m.groups, type.plural ≠ key) : Replaced m [key]
  | groupAttribute {type : GroupType} {key : String} (ht : type ∈ m.groups) (id : String)
      (h : ∀ r ∈ type.resources, r.plural ≠ key) : Replaced m [type.plural, id, key]
  | resource {type : GroupType} {r : ResourceType} (ht : type ∈ m.groups) (hr : r ∈ type.resources)
      (id resourceId : String) : Replaced m [type.plural, id, r.plural, resourceId]

/-- A document holds mappings wherever documents come together, if it holds anything there. -/
structure Regular (m : Model) (document : Fields) : Prop where
  wellKeyed : document.WellKeyed
  containers : ∀ path, Container m path →
    ∀ v, (Value.mapping document).under path = some v → v.isMapping = true

lemma under_one (document : Fields) (key : String) :
    (Value.mapping document).under [key] = document.get? key := by
  rw [Value.under_mapping_cons]
  cases document.get? key <;> rfl

lemma under_two (document : Fields) (first second : String) :
    (Value.mapping document).under [first, second] =
      (document.mappingAt first).get? second := by
  rw [Value.under_mapping_cons, ← Fields.under_mappingAt _ _ (by simp), under_one]

lemma under_three (document : Fields) (first second third : String) :
    (Value.mapping document).under [first, second, third] =
      ((document.mappingAt first).mappingAt second).get? third := by
  rw [Value.under_mapping_cons, ← Fields.under_mappingAt _ _ (by simp), under_two]

lemma under_four (document : Fields) (first second third fourth : String) :
    (Value.mapping document).under [first, second, third, fourth] =
      (((document.mappingAt first).mappingAt second).mappingAt third).get? fourth := by
  rw [Value.under_mapping_cons, ← Fields.under_mappingAt _ _ (by simp), under_three]

/-- The resource collections of a group are mappings. -/
def RegularGroup (type : GroupType) (group : Fields) : Prop :=
  ∀ r ∈ type.resources, ∀ v, group.get? r.plural = some v → v.isMapping = true

/-- The groups of a collection are mappings with regular content. -/
def RegularGroups (type : GroupType) (groups : Fields) : Prop :=
  ∀ id v, groups.get? id = some v → ∃ group, v = .mapping group ∧ RegularGroup type group

lemma Regular.groups (h : Regular m a) (ht : type ∈ m.groups) {v : Value}
    (hv : a.get? type.plural = some v) : ∃ groups, v = .mapping groups ∧ RegularGroups type groups := by
  have hunder : ∀ rest, (Value.mapping a).under (type.plural :: rest) = v.under rest := by
    intro rest
    rw [Value.under_mapping_cons, hv, Option.bind_some]
  obtain ⟨groups, rfl⟩ := Value.isMapping_iff.1 (h.containers _ (.collection ht) v (hunder []))
  refine ⟨groups, rfl, fun id group hg => ?_⟩
  have hgroup : ∀ rest, (Value.mapping groups).under (id :: rest) = group.under rest := by
    intro rest
    rw [Value.under_mapping_cons, hg, Option.bind_some]
  have hat := (hunder [id]).trans (hgroup [])
  obtain ⟨fields, rfl⟩ := Value.isMapping_iff.1 (h.containers _ (.group ht id) group hat)
  refine ⟨fields, rfl, fun r hr w hw => h.containers _ (.resources ht hr id) w ?_⟩
  rw [hunder, hgroup, Value.under_mapping_cons, hw]
  rfl

/-- The mappings that a regular document holds, read off its entries. -/
lemma regular_iff : Regular m a ↔ a.WellKeyed ∧
    ∀ type ∈ m.groups, ∀ v ∈ a.get? type.plural, v.isMapping = true ∧
      ∀ e ∈ v.entries, e.2.isMapping = true ∧
        ∀ r ∈ type.resources, ∀ w ∈ e.2.get? r.plural, w.isMapping = true := by
  constructor
  · intro h
    refine ⟨h.wellKeyed, fun type ht v hv => ?_⟩
    obtain ⟨groups, rfl, hgroups⟩ := h.groups ht hv
    have hk : Fields.WellKeyed groups := h.wellKeyed.of_get? hv
    refine ⟨rfl, fun e he => ?_⟩
    obtain ⟨group, hgroup, hregular⟩ := hgroups e.1 e.2 (Table.get?_of_mem hk.nodup he)
    rw [hgroup]
    exact ⟨rfl, hregular⟩
  · rintro ⟨hk, h⟩
    refine ⟨hk, fun path hp v hv => ?_⟩
    cases hp with
    | @collection type ht =>
      rw [under_one] at hv
      exact (h type ht v hv).1
    | @group type ht id =>
      obtain ⟨groups, hgroups, hv⟩ := Fields.get?_mappingAt_eq_some.1 (under_two a _ id ▸ hv)
      exact ((h type ht _ hgroups).2 (id, v) (Table.mem_of_get? hv)).1
    | @resources type r ht hr id =>
      rw [under_three] at hv
      obtain ⟨group, hgroup, hv⟩ := Fields.get?_mappingAt_eq_some.1 hv
      obtain ⟨groups, hgroups, hgroup⟩ := Fields.get?_mappingAt_eq_some.1 hgroup
      exact ((h type ht _ hgroups).2 (id, .mapping group) (Table.mem_of_get? hgroup)).2 r hr v hv

lemma attributeOver_none {v : Value} (hv : v.WellKeyed) : attributeOver type key none v = v := by
  unfold attributeOver
  split
  · next resources _ =>
    have hn : (Table.keys resources).Nodup := Fields.WellKeyed.nodup hv
    exact congrArg Value.mapping (Table.putEach_nil hn fun _ _ => rfl)
  · rfl

lemma putEach_attributeOver_nil (hb : b.WellKeyed) : Table.putEach (attributeOver type) [] b = b :=
  Table.putEach_nil hb.nodup fun _ he => attributeOver_none (hb.of_mem he)

lemma groupOver_mapping (lower : Option Value) (hb : b.WellKeyed) :
    groupOver type id lower (.mapping b) =
      .mapping (Table.putEach (attributeOver type) (below lower) b) := by
  cases lower with
  | none => exact congrArg Value.mapping (putEach_attributeOver_nil hb).symm
  | some lower =>
    cases lower with
    | mapping => rfl
    | _ => exact congrArg Value.mapping (putEach_attributeOver_nil hb).symm

lemma groupOver_none {v : Value} : groupOver type id none v = v := by
  cases v <;> rfl

lemma entryOver_none {v : Value} (hv : v.WellKeyed) : entryOver m key none v = v := by
  unfold entryOver
  split
  · next groups _ =>
    have hn : (Table.keys groups).Nodup := Fields.WellKeyed.nodup hv
    exact congrArg Value.mapping (Table.putEach_nil hn fun _ _ => groupOver_none)
  · rfl

lemma mappingAt_putEach {put put' : String → Option Value → Value → Value} (hb : b.keys.Nodup)
    (hv : ∀ v, b.get? key = some v → v.isMapping = true)
    (hput : ∀ inner, b.get? key = some (.mapping inner) → put key (a.get? key) (.mapping inner) =
      .mapping (Table.putEach put' (a.mappingAt key) inner)) :
    Fields.mappingAt (Table.putEach put a b) key =
      Table.putEach put' (a.mappingAt key) (b.mappingAt key) := by
  rw [Fields.mappingAt, Table.get?_putEach hb, Fields.mappingAt, Fields.mappingAt]
  cases hg : b.get? key with
  | none => rfl
  | some v =>
    obtain ⟨inner, rfl⟩ := Value.isMapping_iff.1 (hv v hg)
    simp only [hput inner hg]
    rfl

lemma mappingAt_overlay (hm : m.Unambiguous) (ht : type ∈ m.groups) (hb : Regular m b) :
    (overlay m a b).mappingAt type.plural =
      Table.putEach (groupOver type) (a.mappingAt type.plural) (b.mappingAt type.plural) := by
  rw [overlay_eq]
  refine mappingAt_putEach hb.wellKeyed.nodup (fun v hv => ?_) fun groups _ => ?_
  · obtain ⟨groups, rfl, -⟩ := hb.groups ht hv
    rfl
  · unfold entryOver
    rw [hm.collection?_plural ht]
    rfl

lemma mappingAt_groups (hb : b.WellKeyed) (hv : RegularGroups type b) :
    Fields.mappingAt (Table.putEach (groupOver type) a b) id =
      Table.putEach (attributeOver type) (a.mappingAt id) (b.mappingAt id) := by
  refine mappingAt_putEach hb.nodup (fun v hg => ?_) fun group hg => ?_
  · obtain ⟨group, rfl, -⟩ := hv id v hg
    rfl
  · have hgroup : Fields.WellKeyed group := hb.of_get? hg
    exact groupOver_mapping _ hgroup

lemma exists_resource? (hr : r ∈ type.resources) : ∃ r', type.resource? r.plural = some r' := by
  refine Option.isSome_iff_exists.1 (List.find?_isSome.2 ⟨r, hr, ?_⟩)
  exact beq_self_eq_true _

lemma mappingAt_attributes (hr : r ∈ type.resources) (hb : b.WellKeyed) (hv : RegularGroup type b) :
    Fields.mappingAt (Table.putEach (attributeOver type) a b) r.plural =
      Table.putEach (fun _ _ w => w) (a.mappingAt r.plural) (b.mappingAt r.plural) := by
  obtain ⟨r', hr'⟩ := exists_resource? hr
  refine mappingAt_putEach hb.nodup (hv r hr) fun resources _ => ?_
  unfold attributeOver
  rw [hr']
  rfl

lemma wellKeyed_attributeOver {lower : Option Value} {v : Value} (hl : ∀ w ∈ lower, w.WellKeyed)
    (hv : v.WellKeyed) : (attributeOver type key lower v).WellKeyed := by
  unfold attributeOver
  split
  · exact (wellKeyed_below hl).putEach hv fun _ _ _ _ hw => hw
  · exact hv

lemma wellKeyed_groupOver {lower : Option Value} {v : Value} (hl : ∀ w ∈ lower, w.WellKeyed)
    (hv : v.WellKeyed) : (groupOver type id lower v).WellKeyed := by
  unfold groupOver
  split
  · have hlower := hl _ rfl
    exact Fields.WellKeyed.putEach hlower hv fun _ _ _ => wellKeyed_attributeOver
  · exact hv

lemma wellKeyed_entryOver {lower : Option Value} {v : Value} (hl : ∀ w ∈ lower, w.WellKeyed)
    (hv : v.WellKeyed) : (entryOver m key lower v).WellKeyed := by
  unfold entryOver
  split
  · exact (wellKeyed_below hl).putEach hv fun _ _ _ => wellKeyed_groupOver
  · exact hv

lemma wellKeyed_overlay (ha : a.WellKeyed) (hb : b.WellKeyed) : (overlay m a b).WellKeyed := by
  rw [overlay_eq]
  exact ha.putEach hb fun _ _ _ => wellKeyed_entryOver

lemma attributeOver_assoc {lower : Option Value} {v w : Value} (hl : ∀ x ∈ lower, x.WellKeyed)
    (hv : v.WellKeyed) (hw : w.WellKeyed) (hmapping : (type.resource? key).isSome → v.isMapping) :
    attributeOver type key (some (attributeOver type key lower v)) w =
      attributeOver type key lower (attributeOver type key (some v) w) := by
  unfold attributeOver
  cases hr : type.resource? key with
  | none => rfl
  | some r =>
    cases w with
    | mapping upper =>
      obtain ⟨middle, rfl⟩ := Value.isMapping_iff.1 (hmapping (by rw [hr]; rfl))
      exact congrArg Value.mapping (Table.putEach_assoc (wellKeyed_below hl).nodup
        (Fields.WellKeyed.nodup hv) (Fields.WellKeyed.nodup hw) (fun _ _ _ => rfl)
        fun _ _ _ _ _ => rfl)
    | _ => rfl

lemma isMapping_of_resource? (hv : RegularGroup type b) {v : Value} (hg : b.get? key = some v)
    (hr : (type.resource? key).isSome) : v.isMapping = true := by
  obtain ⟨r, hr⟩ := Option.isSome_iff_exists.1 hr
  have hname : r.plural = key := by simpa using List.find?_some hr
  exact hv r (List.mem_of_find?_eq_some hr) v (hname ▸ hg)

lemma groupOver_assoc {lower : Option Value} (hl : ∀ x ∈ lower, x.WellKeyed) (hb : b.WellKeyed)
    (hc : c.WellKeyed) (hv : RegularGroup type b) :
    groupOver type id (some (groupOver type id lower (.mapping b))) (.mapping c) =
      groupOver type id lower (groupOver type id (some (.mapping b)) (.mapping c)) := by
  have hbc : Fields.WellKeyed (Table.putEach (attributeOver type) b c) :=
    hb.putEach hc fun _ _ _ => wellKeyed_attributeOver
  have hbelow := wellKeyed_below hl
  rw [groupOver_mapping lower hb, groupOver_mapping (some (.mapping b)) hc,
    groupOver_mapping (some _) hc]
  refine Eq.trans (congrArg Value.mapping ?_) (groupOver_mapping lower hbc).symm
  refine Table.putEach_assoc hbelow.nodup hb.nodup hc.nodup
    (fun key w hw => attributeOver_none (hc.of_get? hw)) fun key v w hvg hwg => ?_
  exact attributeOver_assoc (fun _ hx => hbelow.of_get? hx) (hb.of_get? hvg) (hc.of_get? hwg)
    (isMapping_of_resource? hv hvg)

lemma putEach_groupOver_assoc (ha : a.WellKeyed) (hb : b.WellKeyed) (hc : c.WellKeyed)
    (hvb : RegularGroups type b) (hvc : RegularGroups type c) :
    Table.putEach (groupOver type) (Table.putEach (groupOver type) a b) c =
      Table.putEach (groupOver type) a (Table.putEach (groupOver type) b c) := by
  refine Table.putEach_assoc ha.nodup hb.nodup hc.nodup (fun _ _ _ => groupOver_none)
    fun id v w hv hw => ?_
  obtain ⟨middle, rfl, hmiddle⟩ := hvb id v hv
  obtain ⟨upper, rfl, -⟩ := hvc id w hw
  have hmk : Fields.WellKeyed middle := hb.of_get? hv
  have huk : Fields.WellKeyed upper := hc.of_get? hw
  exact groupOver_assoc (fun _ hx => ha.of_get? hx) hmk huk hmiddle

theorem overlay_assoc (ha : a.WellKeyed) (hb : Regular m b) (hc : Regular m c) :
    overlay m (overlay m a b) c = overlay m a (overlay m b c) := by
  simp only [overlay_eq]
  refine Table.putEach_assoc ha.nodup hb.wellKeyed.nodup hc.wellKeyed.nodup
    (fun key w hw => entryOver_none (hc.wellKeyed.of_get? hw)) fun key v w hv hw => ?_
  unfold entryOver
  cases htype : m.collection? key with
  | none => rfl
  | some type =>
    obtain ⟨ht, rfl⟩ := Model.mem_of_collection? htype
    obtain ⟨middle, rfl, hmiddle⟩ := hb.groups ht hv
    obtain ⟨upper, rfl, hupper⟩ := hc.groups ht hw
    have hmk : Fields.WellKeyed middle := hb.wellKeyed.of_get? hv
    have huk : Fields.WellKeyed upper := hc.wellKeyed.of_get? hw
    exact congrArg Value.mapping (putEach_groupOver_assoc
      (wellKeyed_below fun _ hx => ha.of_get? hx) hmk huk hmiddle hupper)

lemma Regular.mappingAt (h : Regular m a) (ht : type ∈ m.groups) :
    (a.mappingAt type.plural).WellKeyed ∧ RegularGroups type (a.mappingAt type.plural) := by
  refine ⟨h.wellKeyed.mappingAt _, ?_⟩
  rw [Fields.mappingAt]
  cases hg : a.get? type.plural with
  | none =>
    intro id v hv
    cases hv
  | some v =>
    obtain ⟨groups, rfl, hgroups⟩ := h.groups ht hg
    exact hgroups

lemma RegularGroups.mappingAt (h : RegularGroups type a) (id : String) :
    RegularGroup type (a.mappingAt id) := by
  rw [Fields.mappingAt]
  cases hg : a.get? id with
  | none =>
    intro r _ v hv
    cases hv
  | some v =>
    obtain ⟨group, rfl, hgroup⟩ := h id v hg
    exact hgroup

/-- What is put under a key where nothing merges is what the upper document has there, and else what
the lower one has. -/
lemma get?_putEach_of_replaced {put : String → Option Value → Value → Value} (hb : b.keys.Nodup)
    (h : ∀ lower v, put key lower v = v) :
    (Table.putEach put a b).get? key = (b.get? key).or (a.get? key) := by
  rw [Table.get?_putEach hb]
  cases b.get? key with
  | none => rfl
  | some v => exact congrArg some (h _ v)

theorem under_overlay (hm : m.Unambiguous) (hb : Regular m b) (hp : Replaced m path) :
    (Value.mapping (overlay m a b)).under path =
      ((Value.mapping b).under path).or ((Value.mapping a).under path) := by
  cases hp with
  | @entry key h =>
    rw [under_one, under_one, under_one, overlay_eq]
    refine get?_putEach_of_replaced hb.wellKeyed.nodup fun lower v => ?_
    unfold entryOver
    rw [Model.collection?_eq_none h]
  | @groupAttribute type key ht id h =>
    obtain ⟨hk, hv⟩ := hb.mappingAt ht
    rw [under_three, under_three, under_three, mappingAt_overlay hm ht hb, mappingAt_groups hk hv]
    refine get?_putEach_of_replaced (hk.mappingAt id).nodup fun lower v => ?_
    have hnone : type.resource? key = none :=
      List.find?_eq_none.2 fun r hr hname => h r hr (by simpa using hname)
    unfold attributeOver
    rw [hnone]
  | @resource type r ht hr id resourceId =>
    obtain ⟨hk, hv⟩ := hb.mappingAt ht
    rw [under_four, under_four, under_four, mappingAt_overlay hm ht hb, mappingAt_groups hk hv,
      mappingAt_attributes hr (hk.mappingAt id) (hv.mappingAt id)]
    exact get?_putEach_of_replaced ((hk.mappingAt id).mappingAt r.plural).nodup fun _ _ => rfl

theorem isSome_under_overlay (hm : m.Unambiguous) (hb : Regular m b) (hp : Container m path) :
    ((Value.mapping (overlay m a b)).under path).isSome =
      (((Value.mapping a).under path).isSome || ((Value.mapping b).under path).isSome) := by
  cases hp with
  | @collection type ht =>
    rw [under_one, under_one, under_one, overlay_eq]
    exact Table.isSome_get?_putEach hb.wellKeyed.nodup _
  | @group type ht id =>
    obtain ⟨hk, -⟩ := hb.mappingAt ht
    rw [under_two, under_two, under_two, mappingAt_overlay hm ht hb]
    exact Table.isSome_get?_putEach hk.nodup _
  | @resources type r ht hr id =>
    obtain ⟨hk, hv⟩ := hb.mappingAt ht
    rw [under_three, under_three, under_three, mappingAt_overlay hm ht hb, mappingAt_groups hk hv]
    exact Table.isSome_get?_putEach (hk.mappingAt id).nodup _

/-- If mappings stay mappings when they are put on something, only mappings stand under a key where
only mappings stood. -/
lemma isMapping_of_get?_putEach {put : String → Option Value → Value → Value} (hb : b.keys.Nodup)
    (hput : ∀ lower inner, (put key lower (.mapping inner)).isMapping = true)
    (ha : ∀ v, a.get? key = some v → v.isMapping = true)
    (hbv : ∀ v, b.get? key = some v → v.isMapping = true) {v : Value}
    (hv : (Table.putEach put a b).get? key = some v) : v.isMapping = true := by
  rw [Table.get?_putEach hb] at hv
  cases hg : b.get? key with
  | none =>
    rw [hg] at hv
    exact ha v hv
  | some w =>
    obtain ⟨inner, rfl⟩ := Value.isMapping_iff.1 (hbv w hg)
    rw [hg, Option.some.injEq] at hv
    exact hv ▸ hput _ inner

lemma isMapping_attributeOver (lower : Option Value) (inner : Fields) :
    (attributeOver type key lower (.mapping inner)).isMapping = true := by
  unfold attributeOver
  split <;> rfl

lemma isMapping_groupOver (lower : Option Value) (inner : Fields) :
    (groupOver type id lower (.mapping inner)).isMapping = true := by
  unfold groupOver
  split <;> rfl

lemma isMapping_entryOver (lower : Option Value) (inner : Fields) :
    (entryOver m key lower (.mapping inner)).isMapping = true := by
  unfold entryOver
  split <;> rfl

theorem Regular.overlay (hm : m.Unambiguous) (ha : Regular m a) (hb : Regular m b) :
    Regular m (overlay m a b) := by
  refine ⟨wellKeyed_overlay ha.wellKeyed hb.wellKeyed, fun path hp v hv => ?_⟩
  have hla := ha.containers path hp
  have hlb := hb.containers path hp
  cases hp with
  | @collection type ht =>
    rw [under_one] at hla hlb hv
    rw [overlay_eq] at hv
    exact isMapping_of_get?_putEach hb.wellKeyed.nodup isMapping_entryOver hla hlb hv
  | @group type ht id =>
    obtain ⟨hk, -⟩ := hb.mappingAt ht
    rw [under_two] at hla hlb hv
    rw [mappingAt_overlay hm ht hb] at hv
    exact isMapping_of_get?_putEach hk.nodup isMapping_groupOver hla hlb hv
  | @resources type r ht hr id =>
    obtain ⟨hk, hgroups⟩ := hb.mappingAt ht
    rw [under_three] at hla hlb hv
    rw [mappingAt_overlay hm ht hb, mappingAt_groups hk hgroups] at hv
    exact isMapping_of_get?_putEach (hk.mappingAt id).nodup isMapping_attributeOver hla hlb hv

variable {d : Fields} {ds : List Fields}

lemma regular_foldl_overlay (hm : m.Unambiguous) (hd : Regular m d) (hds : ∀ e ∈ ds, Regular m e) :
    Regular m (ds.foldl (overlay m) d) := by
  induction ds generalizing d with
  | nil => exact hd
  | cons e ds ih =>
    obtain ⟨he, hds⟩ := List.forall_mem_cons.1 hds
    exact ih (hd.overlay hm he) hds

lemma under_foldl_overlay (hm : m.Unambiguous) (hds : ∀ e ∈ ds, Regular m e)
    (hp : Replaced m path) :
    (Value.mapping (ds.foldl (overlay m) d)).under path =
      ((d :: ds).filterMap fun e => (Value.mapping e).under path).getLast? := by
  induction ds generalizing d with
  | nil =>
    rw [List.foldl_nil, List.filterMap_cons]
    cases (Value.mapping d).under path <;> rfl
  | cons e ds ih =>
    obtain ⟨he, hds⟩ := List.forall_mem_cons.1 hds
    -- the lowest two documents count as one, which has what the upper of them has, or else the lower
    rw [List.foldl_cons, ih hds, List.filterMap_cons, under_overlay hm he hp, List.filterMap_cons,
      List.filterMap_cons]
    cases (Value.mapping e).under path <;> cases (Value.mapping d).under path <;>
      simp [List.getLast?_cons_cons]

lemma isSome_under_foldl_overlay (hm : m.Unambiguous) (hds : ∀ e ∈ ds, Regular m e)
    (hp : Container m path) :
    ((Value.mapping (ds.foldl (overlay m) d)).under path).isSome ↔
      ∃ e ∈ d :: ds, ((Value.mapping e).under path).isSome := by
  induction ds generalizing d with
  | nil => simp
  | cons e ds ih =>
    obtain ⟨he, hds⟩ := List.forall_mem_cons.1 hds
    rw [List.foldl_cons, ih hds]
    simp [isSome_under_overlay hm he hp, or_assoc]

/-- A stack on top of a document is that document with the stacked ones put on it one by one. -/
lemma overlay_foldl_overlay (hm : m.Unambiguous) (ha : a.WellKeyed) (hd : Regular m d)
    (hds : ∀ e ∈ ds, Regular m e) :
    overlay m a (ds.foldl (overlay m) d) = ds.foldl (overlay m) (overlay m a d) := by
  induction ds generalizing d with
  | nil => rfl
  | cons e ds ih =>
    obtain ⟨he, hds⟩ := List.forall_mem_cons.1 hds
    rw [List.foldl_cons, List.foldl_cons, ih (hd.overlay hm he) hds, overlay_assoc ha hd he]

/-- Every path starts with one where documents replace each other, unless documents come together
all along it. -/
lemma container_or_replaced (m : Model) {path : List String} (h : path ≠ []) :
    Container m path ∨ ∃ front, front <+: path ∧ Replaced m front := by
  obtain ⟨key, rest, rfl⟩ := List.exists_cons_of_ne_nil h
  by_cases hkey : ∀ type ∈ m.groups, type.plural ≠ key
  · exact .inr ⟨[key], ⟨rest, rfl⟩, .entry hkey⟩
  push Not at hkey
  obtain ⟨type, ht, rfl⟩ := hkey
  match rest with
  | [] => exact .inl (.collection ht)
  | [id] => exact .inl (.group ht id)
  | id :: key :: rest =>
    by_cases hr : ∀ r ∈ type.resources, r.plural ≠ key
    · exact .inr ⟨[type.plural, id, key], ⟨rest, rfl⟩, .groupAttribute ht id hr⟩
    push Not at hr
    obtain ⟨r, hr, rfl⟩ := hr
    match rest with
    | [] => exact .inl (.resources ht hr id)
    | resourceId :: rest =>
      exact .inr ⟨[type.plural, id, r.plural, resourceId], ⟨rest, rfl⟩,
        .resource ht hr id resourceId⟩

/-- What stands anywhere in a stack stands there in one of its documents. -/
lemma exists_isSome_under (hm : m.Unambiguous) (hds : ∀ e ∈ ds, Regular m e)
    (h : ((Value.mapping (ds.foldl (overlay m) d)).under path).isSome) :
    ∃ e ∈ d :: ds, ((Value.mapping e).under path).isSome := by
  by_cases hnil : path = []
  · exact ⟨d, List.mem_cons_self, by rw [hnil]; rfl⟩
  rcases container_or_replaced m hnil with hp | ⟨front, ⟨rest, rfl⟩, hp⟩
  · exact (isSome_under_foldl_overlay hm hds hp).1 h
  · -- all that stands below a place where documents replace each other is of one of them
    rw [Value.under_append, under_foldl_overlay hm hds hp] at h
    obtain ⟨x, hx⟩ := Option.isSome_iff_exists.1 h
    obtain ⟨v, hv, hrest⟩ := Option.bind_eq_some_iff.1 hx
    obtain ⟨e, he, hfront⟩ := List.mem_filterMap.1 (List.mem_of_getLast? hv)
    refine ⟨e, he, Option.isSome_iff_exists.2 ⟨x, ?_⟩⟩
    rw [Value.under_append, hfront, Option.bind_some, hrest]

/-- **The last document wins, resource by resource.** In a stack of regular documents, what stands
where documents replace each other is what the last of them has there; a container is there if one
of them has it; nothing stands anywhere that none of them has. Stacking is associative, so a stack
may be put together in stages. -/
theorem foldl_overlay_last_wins (hm : m.Unambiguous) (hd : Regular m d)
    (hds : ∀ e ∈ ds, Regular m e) :
    (∀ path, Replaced m path → (Value.mapping (ds.foldl (overlay m) d)).under path =
      ((d :: ds).filterMap fun e => (Value.mapping e).under path).getLast?) ∧
    (∀ path, Container m path → (((Value.mapping (ds.foldl (overlay m) d)).under path).isSome ↔
      ∃ e ∈ d :: ds, ((Value.mapping e).under path).isSome)) ∧
    (∀ path, ((Value.mapping (ds.foldl (overlay m) d)).under path).isSome →
      ∃ e ∈ d :: ds, ((Value.mapping e).under path).isSome) ∧
    Regular m (ds.foldl (overlay m) d) ∧
    (∀ a b c, Regular m a → Regular m b → Regular m c →
      overlay m (overlay m a b) c = overlay m a (overlay m b c)) ∧
    ∀ front e back, ds = front ++ e :: back → ds.foldl (overlay m) d =
      overlay m (front.foldl (overlay m) d) (back.foldl (overlay m) e) := by
  refine ⟨fun path => under_foldl_overlay hm hds, fun path => isSome_under_foldl_overlay hm hds,
    fun path => exists_isSome_under hm hds, regular_foldl_overlay hm hd hds,
    fun a b c ha hb hc => overlay_assoc ha.wellKeyed hb hc, ?_⟩
  rintro front e back rfl
  obtain ⟨hfront, hback⟩ := List.forall_mem_append.1 hds
  obtain ⟨he, hback⟩ := List.forall_mem_cons.1 hback
  have hlower := regular_foldl_overlay hm hd hfront
  rw [overlay_foldl_overlay hm hlower.wellKeyed he hback, List.foldl_append, List.foldl_cons]

/-- The documents are regular, so the theorem applies to a stack of three in which a group first
appears in the middle and a resource is replaced as a whole. -/
theorem foldl_overlay_last_wins_three :
    let resource := fun text => Value.mapping [("name", .string text)]
    let group := fun messages : Fields => Value.mapping [("messages", .mapping messages)]
    let first : Fields := [("messagegroups", .mapping [("g", group [("a", resource "first")])])]
    let second : Fields := [("messagegroups", .mapping [("h", group [("c", resource "second")]),
      ("g", group [("a", .mapping [("format", .string "second")]), ("b", resource "second")])])]
    let third : Fields := [("messagegroups", .mapping [("h", group [("c", resource "third")])])]
    let whole := [second, third].foldl (overlay Model.standard) first
    Model.standard.Unambiguous ∧ Regular Model.standard first ∧
      (∀ e ∈ [second, third], Regular Model.standard e) ∧
      (Value.mapping whole).under ["messagegroups", "g", "messages", "a"] =
        some (.mapping [("format", .string "second")]) ∧
      (Value.mapping whole).under ["messagegroups", "h", "messages", "c"] = some (resource "third") ∧
      whole = overlay Model.standard first (overlay Model.standard second third) := by
  intro resource group first second third whole
  have hm : Model.standard.Unambiguous := by decide
  have hall : ∀ e ∈ [first, second, third], Regular Model.standard e := by
    intro e he
    refine regular_iff.2 ⟨?_, by revert e; decide⟩
    simp only [List.mem_cons, List.not_mem_nil, or_false] at he
    rcases he with rfl | rfl | rfl <;>
      simp [first, second, third, group, resource, Fields.WellKeyed, Value.WellKeyed,
        Value.WellKeyedFields]
  obtain ⟨hd, hds⟩ := List.forall_mem_cons.1 hall
  have hstack := foldl_overlay_last_wins hm hd hds
  have htype : ⟨"messagegroups", "messagegroup", [Model.message]⟩ ∈ Model.standard.groups := by decide
  have hplace : ∀ id resourceId, Replaced Model.standard ["messagegroups", id, "messages", resourceId] :=
    Replaced.resource htype List.mem_cons_self
  refine ⟨hm, hd, hds, ?_, ?_, ?_⟩
  · rw [hstack.1 _ (hplace "g" "a")]
    rfl
  · rw [hstack.1 _ (hplace "h" "c")]
    rfl
  · exact hstack.2.2.2.2.2 [] second [third] rfl

end Stack

end Registry
