import Registry.Proofs.TableLookup
import Registry.Value.Merge

/-!
# What a merge keeps and fills

A merge seen from outside: what is found under a key, and at the end of a path of keys. What the
first value holds stays, mappings grow at their end, and what is missing comes from the base.
-/

namespace Registry

/-- No mapping in the content repeats a key. -/
def Fields.WellKeyed (fields : Fields) : Prop := (Value.mapping fields).WellKeyed

namespace Fields

lemma wellKeyed_iff {fields : Fields} :
    fields.WellKeyed ↔ fields.keys.Nodup ∧ ∀ e ∈ fields, e.2.WellKeyed := by
  rw [WellKeyed, Value.WellKeyed, Value.wellKeyedFields_iff]

lemma WellKeyed.nodup {fields : Fields} (h : fields.WellKeyed) : fields.keys.Nodup :=
  (wellKeyed_iff.1 h).1

lemma WellKeyed.of_mem {fields : Fields} (h : fields.WellKeyed) {e : String × Value}
    (he : e ∈ fields) : e.2.WellKeyed :=
  (wellKeyed_iff.1 h).2 e he

lemma WellKeyed.of_get? {fields : Fields} (h : fields.WellKeyed) {key : String} {v : Value}
    (hv : fields.get? key = some v) : v.WellKeyed :=
  h.of_mem (Table.mem_of_get? hv)

lemma wellKeyed_nil : WellKeyed [] := wellKeyed_iff.2 ⟨List.nodup_nil, by simp⟩

lemma wellKeyed_singleton {key : String} {v : Value} (h : v.WellKeyed) :
    WellKeyed [(key, v)] :=
  wellKeyed_iff.2 ⟨List.nodup_singleton key, by simpa using h⟩

/-- What `Table.insert` holds was there before or is what was stored. -/
lemma mem_insert {t : Fields} {key : String} {v : Value} {e : String × Value}
    (h : e ∈ t.insert key v) : e ∈ t ∨ e = (key, v) := by
  induction t with
  | nil => exact .inr (by simpa [Table.insert] using h)
  | cons d t ih =>
    obtain ⟨k, w⟩ := d
    rw [Table.insert] at h
    by_cases hk : k = key
    · rw [if_pos hk, List.mem_cons, hk] at h
      exact h.elim .inr fun h => .inl (List.mem_cons_of_mem _ h)
    · rw [if_neg hk, List.mem_cons] at h
      rcases h with h | h
      · exact .inl (h ▸ List.mem_cons_self)
      · exact (ih h).imp (List.mem_cons_of_mem _) id

lemma WellKeyed.insert {fields : Fields} (h : fields.WellKeyed) {key : String} {v : Value}
    (hv : v.WellKeyed) : WellKeyed (fields.insert key v) := by
  refine wellKeyed_iff.2 ⟨Table.nodup_keys_insert h.nodup key v, fun e he => ?_⟩
  rcases mem_insert he with he | rfl
  · exact h.of_mem he
  · exact hv

lemma WellKeyed.swapErase {fields : Fields} (h : fields.WellKeyed) (key : String) :
    WellKeyed (fields.swapErase key) :=
  wellKeyed_iff.2 ⟨Table.nodup_keys_swapErase h.nodup key,
    fun _ he => h.of_mem (Table.mem_of_mem_swapErase h.nodup he)⟩

end Fields

namespace Value

lemma WellKeyed.fields {v : Value} (h : v.WellKeyed) {fields : Fields}
    (hf : v.fields? = some fields) : fields.WellKeyed := by
  cases v with
  | mapping fs =>
    rw [fields?, Option.some.injEq] at hf
    exact hf ▸ h
  | _ => simp [fields?] at hf

/-- The entries of a value; none if it is no mapping. -/
def entries (v : Value) : Fields := v.fields?.getD []

lemma WellKeyed.entries {v : Value} (h : v.WellKeyed) : v.entries.WellKeyed := by
  cases v with
  | mapping fields => exact h
  | _ => exact Fields.wellKeyed_nil

lemma fields?_eq_some {v : Value} {fields : Fields} :
    v.fields? = some fields ↔ v = mapping fields := by
  cases v <;> simp [fields?]

lemma isMapping_iff {v : Value} : v.isMapping = true ↔ ∃ fields, v = mapping fields := by
  cases v <;> simp [isMapping, fields?]

lemma get?_eq_some {v : Value} {key : String} {w : Value} :
    v.get? key = some w ↔ ∃ fields : Fields, v = mapping fields ∧ fields.get? key = some w := by
  simp only [get?, Option.bind_eq_some_iff, fields?_eq_some]

lemma WellKeyed.of_get? {v w : Value} {key : String} (hv : v.WellKeyed)
    (hw : v.get? key = some w) : w.WellKeyed := by
  obtain ⟨fields, rfl, hw⟩ := get?_eq_some.1 hw
  exact Fields.WellKeyed.of_get? hv hw

lemma sizeOf_of_mem {fields : Fields} {e : String × Value} (he : e ∈ fields) :
    sizeOf e.2 < sizeOf (mapping fields) := by
  have h := List.sizeOf_lt_of_mem he
  obtain ⟨k, v⟩ := e
  simp only [Prod.mk.sizeOf_spec, mapping.sizeOf_spec] at h ⊢
  omega

/-- Induction on values: a mapping comes after the values that it holds. -/
theorem induction_on_mappings {P : Value → Prop}
    (ofMapping : ∀ fields : Fields, (∀ e ∈ fields, P e.2) → P (mapping fields))
    (ofOther : ∀ v : Value, v.isMapping = false → P v) (v : Value) : P v := by
  cases hv : v.isMapping with
  | false => exact ofOther v hv
  | true =>
    cases v with
    | mapping fields =>
      exact ofMapping fields fun e he => induction_on_mappings ofMapping ofOther e.2
    | _ => simp [isMapping, fields?] at hv
termination_by sizeOf v
decreasing_by exact sizeOf_of_mem he

lemma sizeOf_of_mem_items {items : List Value} {v : Value} (h : v ∈ items) :
    sizeOf v < sizeOf (sequence items) := by
  have hlt := List.sizeOf_lt_of_mem h
  simp only [sequence.sizeOf_spec]
  omega

/-- Induction on values: a mapping comes after the values that it holds, a sequence after its
items. -/
theorem induction_on_contents {P : Value → Prop}
    (ofMapping : ∀ fields : Fields, (∀ e ∈ fields, P e.2) → P (mapping fields))
    (ofSequence : ∀ items, (∀ v ∈ items, P v) → P (sequence items))
    (ofScalar : ∀ v, v.isMapping = false → (∀ items, v ≠ sequence items) → P v) : (v : Value) → P v
  | mapping fields =>
    ofMapping fields fun e _ => induction_on_contents ofMapping ofSequence ofScalar e.2
  | sequence items =>
    ofSequence items fun v _ => induction_on_contents ofMapping ofSequence ofScalar v
  | null | boolean _ | number _ | string _ => ofScalar _ rfl (by simp)
termination_by v => sizeOf v
decreasing_by
  · next he => exact sizeOf_of_mem he
  · next hv => exact sizeOf_of_mem_items hv

lemma merge_of_not_isMapping {v : Value} (h : v.isMapping = false) (w : Value) :
    v.merge w = v := by
  cases v with
  | mapping fields => simp [isMapping, fields?] at h
  | _ => rw [merge]

lemma merge_of_base_not_isMapping (v : Value) {w : Value} (h : w.isMapping = false) :
    v.merge w = v := by
  cases v with
  | mapping ds =>
    cases w with
    | mapping bs => simp [isMapping, fields?] at h
    | _ => rw [merge]; simp
  | _ => rw [merge]

lemma text?_merge (v w : Value) : (v.merge w).text? = v.text? := by
  cases v with
  | mapping ds =>
    cases hw : w.isMapping with
    | false => rw [merge_of_base_not_isMapping _ hw]
    | true =>
      obtain ⟨bs, rfl⟩ := isMapping_iff.1 hw
      rw [merge]
      rfl
  | _ => rw [merge]

end Value

namespace Fields

lemma textAt?_eq_some {fields : Fields} {key s : String} :
    fields.textAt? key = some s ↔ fields.get? key = some (.string s) := by
  rw [Fields.textAt?, Option.bind_eq_some_iff]
  constructor
  · rintro ⟨v, hv, htext⟩
    cases v with
    | string => rw [hv, Option.some.inj htext]
    | _ => cases htext
  · exact fun h => ⟨_, h, rfl⟩

lemma get?_mergeShared (ds bs : Fields) (key : String) :
    Table.get? (mergeShared ds bs) key = (Table.get? ds key).map fun v =>
      match Table.get? bs key with
      | some b => v.merge b
      | none => v := by
  induction ds with
  | nil => rfl
  | cons e ds ih =>
    obtain ⟨k, v⟩ := e
    rw [mergeShared, Table.get?_cons, Table.get?_cons, ih]
    by_cases h : k = key
    · subst h
      cases Table.get? bs k <;> simp
    · rw [if_neg h, if_neg h]

lemma get?_filter_not_has (ds bs : Fields) (key : String) :
    Table.get? (bs.filter fun e => !Table.has ds e.1) key =
      if Table.has ds key then none else Table.get? bs key := by
  induction bs with
  | nil => simp
  | cons e bs ih =>
    obtain ⟨k, v⟩ := e
    rw [List.filter_cons]
    by_cases hk : k = key
    · subst hk
      by_cases hh : Table.has ds k
      · simp [hh, ih]
      · simp [hh, Table.get?_cons]
    · by_cases hh : Table.has ds k <;> simp [hh, Table.get?_cons, hk, ih]

/-- Under a key that only one side has, a merge holds what that side has; under a shared key, the
merge of both. -/
theorem get?_merge (ds bs : Fields) (key : String) :
    Table.get? (ds.merge bs) key =
      match Table.get? ds key, Table.get? bs key with
      | some v, some b => some (v.merge b)
      | some v, none => some v
      | none, found => found := by
  rw [Fields.merge, Table.get?_append, get?_mergeShared, get?_filter_not_has, Table.has]
  cases Table.get? ds key <;> cases Table.get? bs key <;> rfl

lemma get?_merge_of_some {ds : Fields} (bs : Fields) {key : String} {v : Value}
    (h : Table.get? ds key = some v) : ∃ b, Table.get? (ds.merge bs) key = some (v.merge b) := by
  rw [get?_merge, h]
  cases Table.get? bs key with
  | some b => exact ⟨b, rfl⟩
  | none => exact ⟨.null, by rw [Value.merge_of_base_not_isMapping v rfl]⟩

lemma get?_merge_of_none {ds bs : Fields} {key : String} (h : Table.get? ds key = none) :
    Table.get? (ds.merge bs) key = Table.get? bs key := by
  rw [get?_merge, h]

lemma has_merge (ds bs : Fields) (key : String) :
    (ds.merge bs).has key = (Table.has ds key || Table.has bs key) := by
  rw [Table.has, Table.has, Table.has, get?_merge]
  cases Table.get? ds key <;> cases Table.get? bs key <;> rfl

lemma merge_nil (ds : Fields) : ds.merge [] = ds := by
  rw [Fields.merge, List.filter_nil, List.append_nil]
  induction ds with
  | nil => rfl
  | cons e ds ih =>
    obtain ⟨k, v⟩ := e
    rw [mergeShared, ih]
    rfl

lemma nil_merge (bs : Fields) : Fields.merge [] bs = bs := by
  simp [Fields.merge, mergeShared, Table.has]

lemma keys_prefix_merge (ds bs : Fields) : Table.keys ds <+: Table.keys (ds.merge bs) := by
  rw [keys_merge]
  exact List.prefix_append _ _

lemma nodup_keys_merge {ds bs : Fields} (hd : (Table.keys ds).Nodup) (hb : (Table.keys bs).Nodup) :
    (Table.keys (ds.merge bs)).Nodup := by
  rw [keys_merge, List.nodup_append]
  refine ⟨hd, hb.filter _, fun k hk k' hk' he => ?_⟩
  subst he
  have hh := (List.mem_filter.1 hk').2
  rw [(Table.has_iff_mem_keys ds k).2 hk] at hh
  exact absurd hh (by simp)

/-- A merge of contents without repeated keys repeats none. -/
theorem WellKeyed.merge {ds bs : Fields} (hd : ds.WellKeyed) (hb : bs.WellKeyed) :
    (ds.merge bs).WellKeyed := by
  suffices h : ∀ v : Value, v.WellKeyed → ∀ w : Value, w.WellKeyed → (v.merge w).WellKeyed by
    have := h (.mapping ds) hd (.mapping bs) hb
    rwa [Value.merge_mapping] at this
  intro v
  induction v using Value.induction_on_mappings with
  | ofOther v hv => exact fun h w _ => by rwa [Value.merge_of_not_isMapping hv]
  | ofMapping ds ih =>
    intro hd w hw
    cases hm : w.isMapping with
    | false => rwa [Value.merge_of_base_not_isMapping _ hm]
    | true =>
      obtain ⟨bs, rfl⟩ := Value.isMapping_iff.1 hm
      have hd : ds.WellKeyed := hd
      have hb : Fields.WellKeyed bs := hw
      have hn := nodup_keys_merge hd.nodup hb.nodup
      rw [Value.merge_mapping]
      refine wellKeyed_iff.2 ⟨hn, fun e he => ?_⟩
      have hg := Table.get?_of_mem hn (show (e.1, e.2) ∈ ds.merge bs from he)
      cases hg' : Table.get? ds e.1 with
      | none =>
        rw [get?_merge_of_none hg'] at hg
        exact hb.of_get? hg
      | some v =>
        rw [get?_merge, hg'] at hg
        cases hb' : Table.get? bs e.1 with
        | none =>
          simp only [hb', Option.some.injEq] at hg
          exact hg ▸ hd.of_get? hg'
        | some b =>
          simp only [hb', Option.some.injEq] at hg
          exact hg ▸ ih _ (Table.mem_of_get? hg') (hd.of_get? hg') b (hb.of_get? hb')

end Fields

namespace Value

/-- The value at the end of a path of keys, through mappings alone. -/
def under (v : Value) : List String → Option Value
  | [] => some v
  | key :: rest => (v.get? key).bind (·.under rest)

/-- Whether a value leaves room at the end of a path: there is nothing yet, and nothing but mappings
on the way. -/
def Open (v : Value) : List String → Prop
  | [] => False
  | key :: rest => v.isMapping ∧ ∀ w, v.get? key = some w → w.Open rest

lemma under_cons_eq_some {v : Value} {key : String} {rest : List String} {x : Value} :
    v.under (key :: rest) = some x ↔
      ∃ fields : Fields, v = mapping fields ∧ ∃ w, fields.get? key = some w ∧ w.under rest = some x := by
  simp only [under, Option.bind_eq_some_iff, get?_eq_some]
  grind

lemma under_mapping_cons (fields : Fields) (key : String) (rest : List String) :
    (mapping fields).under (key :: rest) = (fields.get? key).bind (Value.under · rest) := rfl

lemma under_cons_of_not_isMapping {v : Value} (h : v.isMapping = false) (key : String)
    (rest : List String) : v.under (key :: rest) = none := by
  cases hu : v.under (key :: rest) with
  | none => rfl
  | some x =>
    obtain ⟨fields, rfl, -⟩ := under_cons_eq_some.1 hu
    exact absurd h (by simp [isMapping, fields?])

lemma Open.under_eq_none {v : Value} {path : List String} (h : v.Open path) : v.under path = none := by
  induction path generalizing v with
  | nil => exact h.elim
  | cons key rest ih =>
    obtain ⟨hm, hopen⟩ := h
    obtain ⟨fields, rfl⟩ := isMapping_iff.1 hm
    rw [under_mapping_cons]
    cases hg : Table.get? fields key with
    | none => rfl
    | some w => exact ih (hopen w (get?_eq_some.2 ⟨fields, rfl, hg⟩))

lemma under_append (v : Value) (front back : List String) :
    v.under (front ++ back) = (v.under front).bind (·.under back) := by
  induction front generalizing v with
  | nil => rfl
  | cons key rest ih =>
    rw [List.cons_append, under, under]
    cases v.get? key with
    | none => rfl
    | some child => exact ih child

/-- What the first value of a merge has at a path is merged with what the base has there, if there is
such. -/
theorem under_merge_of_under {v w : Value} {path : List String} {x : Value}
    (h : v.under path = some x) :
    (v.merge w).under path = some (((w.under path).map x.merge).getD x) := by
  induction path generalizing v w with
  | nil =>
    rw [under, Option.some.injEq] at h
    rw [h]
    rfl
  | cons key rest ih =>
    obtain ⟨ds, rfl, d, hd, hx⟩ := under_cons_eq_some.1 h
    cases hw : w.isMapping with
    | false =>
      rw [merge_of_base_not_isMapping _ hw, under_cons_of_not_isMapping hw]
      exact h
    | true =>
      obtain ⟨bs, rfl⟩ := isMapping_iff.1 hw
      rw [merge_mapping, under_mapping_cons, under_mapping_cons, Fields.get?_merge, hd]
      cases Table.get? bs key with
      | none => exact hx
      | some b => exact ih hx

/-- What the first value of a merge has at a path is still there, merged with something. -/
theorem under_merge_of_some {v : Value} (w : Value) {path : List String} {x : Value}
    (h : v.under path = some x) : ∃ b, (v.merge w).under path = some (x.merge b) := by
  rw [under_merge_of_under h]
  cases w.under path with
  | none => exact ⟨.null, congrArg some (merge_of_base_not_isMapping x rfl).symm⟩
  | some b => exact ⟨b, rfl⟩

/-- Where the first value of a merge leaves room, what the base has comes in. -/
theorem under_merge_of_open {v : Value} {path : List String} (h : v.Open path) (w : Value) :
    (v.merge w).under path = w.under path := by
  induction path generalizing v w with
  | nil => exact h.elim
  | cons key rest ih =>
    obtain ⟨hm, hopen⟩ := h
    obtain ⟨ds, rfl⟩ := isMapping_iff.1 hm
    have hroom : ∀ d, Table.get? ds key = some d → d.Open rest := fun d hd =>
      hopen d (get?_eq_some.2 ⟨ds, rfl, hd⟩)
    cases hw : w.isMapping with
    | false =>
      rw [merge_of_base_not_isMapping _ hw, under_cons_of_not_isMapping hw, under_mapping_cons]
      cases hd : Table.get? ds key with
      | none => rfl
      | some d => exact (hroom d hd).under_eq_none
    | true =>
      obtain ⟨bs, rfl⟩ := isMapping_iff.1 hw
      rw [merge_mapping, under_mapping_cons, under_mapping_cons, Fields.get?_merge]
      cases hd : Table.get? ds key with
      | none => rfl
      | some d =>
        cases Table.get? bs key with
        | none => exact (hroom d hd).under_eq_none
        | some b => exact ih (hroom d hd) b

lemma under_entries (v : Value) {path : List String} (h : path ≠ []) :
    (mapping v.entries).under path = v.under path := by
  obtain ⟨first, rest, rfl⟩ := List.exists_cons_of_ne_nil h
  cases v <;> rfl

end Value

namespace Fields

lemma mappingAt_eq (fields : Fields) (key : String) :
    fields.mappingAt key = ((fields.get? key).map Value.entries).getD [] := by
  rw [mappingAt]
  cases fields.get? key <;> rfl

lemma WellKeyed.mappingAt {fields : Fields} (h : fields.WellKeyed) (key : String) :
    (fields.mappingAt key).WellKeyed := by
  rw [mappingAt_eq]
  cases hg : fields.get? key with
  | none => exact wellKeyed_nil
  | some v => exact (h.of_get? hg).entries

lemma get?_mappingAt_eq_some {fields : Fields} {key inner : String} {v : Value} :
    (fields.mappingAt key).get? inner = some v ↔
      ∃ content : Fields, fields.get? key = some (.mapping content) ∧ content.get? inner = some v := by
  rw [mappingAt]
  cases fields.get? key with
  | none => simp
  | some w => cases w <;> simp [Value.fields?]

lemma under_mappingAt (fields : Fields) (key : String) {path : List String} (h : path ≠ []) :
    (Value.mapping (fields.mappingAt key)).under path =
      (fields.get? key).bind (Value.under · path) := by
  rw [mappingAt_eq]
  cases fields.get? key with
  | none =>
    obtain ⟨first, rest, rfl⟩ := List.exists_cons_of_ne_nil h
    rfl
  | some v => exact Value.under_entries v h

end Fields

end Registry
