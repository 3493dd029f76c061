import Registry.Proofs.InheritanceCycles

/-!
# Values without the texts that name bases

A message that takes over a mapping which is no message takes over all that is in it, and so the
references of messages in it, just as they are spelled. Blotting out such texts goes along with merging,
with removing keys and with all that decides what a base gives.
-/

namespace Registry

open Inheritance (baseAttribute)

namespace Value

/-- What a key holds, without the text that names a base. -/
def mask (key : String) (v : Value) : Value :=
  if key = baseAttribute ∧ v.text?.isSome then .null else v

mutual

/-- A value without the texts that name bases in its mappings, at any depth. -/
def blot : Value → Value
  | .mapping fields => .mapping (blotEntries fields)
  | v => v

/-- Entries without such texts. -/
def blotEntries : List (String × Value) → List (String × Value)
  | [] => []
  | (key, v) :: rest => (key, mask key v.blot) :: blotEntries rest

end

end Value

/-- The content of a mapping without the texts that name bases. -/
def Fields.blot (fields : Fields) : Fields := fields.mapValues fun key v => (v.blot).mask key

variable {fields ds bs : Fields} {key : String} {v w : Value}

namespace Value

lemma mask_of_ne (h : key ≠ baseAttribute) (v : Value) : mask key v = v := if_neg fun hk => h hk.1

lemma fields?_mask (key : String) (v : Value) : (mask key v).fields? = v.fields? := by
  unfold mask
  split
  · next h =>
    cases v with
    | string => rfl
    | _ => cases h.2
  · rfl

lemma blotEntries_eq (fields : Fields) : blotEntries fields = fields.blot := by
  induction fields with
  | nil => rfl
  | cons e fields ih =>
    obtain ⟨key, v⟩ := e
    rw [blotEntries, ih]
    rfl

@[simp] lemma blot_mapping (fields : Fields) : (mapping fields).blot = .mapping fields.blot := by
  rw [blot, blotEntries_eq]

lemma blot_of_not_isMapping (h : v.isMapping = false) : v.blot = v := by
  cases v with
  | mapping => cases h
  | _ => simp [blot]

lemma isMapping_blot (v : Value) : v.blot.isMapping = v.isMapping := by
  cases v with
  | mapping fields =>
    rw [blot_mapping]
    rfl
  | _ => rw [blot_of_not_isMapping rfl]

lemma fields?_blot (v : Value) : v.blot.fields? = v.fields?.map Fields.blot := by
  cases v with
  | mapping fields =>
    rw [blot_mapping]
    rfl
  | _ =>
    rw [blot_of_not_isMapping rfl]
    rfl

lemma text?_blot (v : Value) : v.blot.text? = v.text? := by
  cases v with
  | mapping fields =>
    rw [blot_mapping]
    rfl
  | _ => rw [blot_of_not_isMapping rfl]

end Value

namespace Fields

lemma get?_blot (fields : Fields) (key : String) :
    fields.blot.get? key = (fields.get? key).map fun v => (v.blot).mask key :=
  Table.get?_mapValues _ _ _

lemma get?_blot_of_ne (h : key ≠ baseAttribute) (fields : Fields) :
    fields.blot.get? key = (fields.get? key).map Value.blot := by
  rw [get?_blot]
  exact congrArg (Option.map · _) (funext fun v => Value.mask_of_ne h v.blot)

lemma textAt?_blot (h : key ≠ baseAttribute) (fields : Fields) :
    fields.blot.textAt? key = fields.textAt? key := by
  rw [textAt?, textAt?, get?_blot_of_ne h, Option.bind_map]
  exact congrArg _ (funext Value.text?_blot)

lemma has_blot (fields : Fields) (key : String) : fields.blot.has key = fields.has key :=
  Table.has_mapValues _ _ _

lemma keys_blot (fields : Fields) : fields.blot.keys = fields.keys := Table.keys_mapValues _ _

lemma blot_insert (fields : Fields) (key : String) (v : Value) :
    Fields.blot (fields.insert key v) = fields.blot.insert key ((v.blot).mask key) :=
  (Table.insert_mapValues (fun key (v : Value) => v.blot.mask key) fields key v).symm

/-- A text that names a base is blotted out whatever it is. -/
lemma blot_insert_base {text : String} (h : fields.get? baseAttribute = some (.string text))
    (text' : String) : Fields.blot (fields.insert baseAttribute (.string text')) = fields.blot := by
  have hmask : ∀ text : String, Value.mask baseAttribute (Value.string text).blot = .null := by
    intro text
    rw [Value.blot_of_not_isMapping rfl, Value.mask, if_pos ⟨rfl, rfl⟩]
  rw [blot_insert, hmask]
  exact Table.insert_of_get? (by rw [get?_blot, h, Option.map_some, hmask])

lemma blot_swapErase (fields : Fields) (key : String) :
    Fields.blot (fields.swapErase key) = fields.blot.swapErase key :=
  (Table.swapErase_mapValues _ _ _).symm

end Fields

/-- What two sides hold under one key is merged before or after its text is blotted out. -/
lemma Value.mask_merge (key : String) (v w : Value) :
    mask key (v.merge w) = (mask key v).merge (mask key w) := by
  by_cases hkey : key = baseAttribute ∧ v.text?.isSome
  · have hmerge : key = baseAttribute ∧ (v.merge w).text?.isSome := by
      rw [text?_merge]
      exact hkey
    rw [mask, if_pos hmerge, mask, if_pos hkey, merge_of_not_isMapping rfl]
  · have hmerge : ¬(key = baseAttribute ∧ (v.merge w).text?.isSome) := by
      rwa [text?_merge]
    have hv : mask key v = v := if_neg hkey
    rw [mask, if_neg hmerge, hv, mask]
    split
    · next hw =>
      have hother : w.isMapping = false := by
        cases w with
        | mapping => cases hw.2
        | _ => rfl
      rw [merge_of_base_not_isMapping v hother, merge_of_base_not_isMapping v rfl]
    · rfl

lemma Fields.blot_mergeShared (h : ∀ e ∈ ds, ∀ w, (e.2.merge w).blot = e.2.blot.merge w.blot) :
    Fields.blot (mergeShared ds bs) = mergeShared ds.blot bs.blot := by
  induction ds with
  | nil => rfl
  | cons e ds ih =>
    obtain ⟨k, v⟩ := e
    obtain ⟨hv, hds⟩ := List.forall_mem_cons.1 h
    change _ = mergeShared ((k, v.blot.mask k) :: Fields.blot ds) bs.blot
    rw [mergeShared, mergeShared, ← ih hds, get?_blot]
    change (k, Value.mask k _) :: _ = _
    cases bs.get? k with
    | none => rfl
    | some b =>
      dsimp only [Option.map_some]
      rw [hv, Value.mask_merge]
      rfl

lemma Fields.blot_merge_of (h : ∀ e ∈ ds, ∀ w, (e.2.merge w).blot = e.2.blot.merge w.blot) :
    Fields.blot (ds.merge bs) = ds.blot.merge bs.blot := by
  have hrest : Fields.blot (bs.filter fun e => !Table.has ds e.1) =
      bs.blot.filter fun e => !Table.has ds.blot e.1 := by
    have hhas : (fun e : String × Value => !Table.has ds.blot e.1) ∘
        (fun e : String × Value => (e.1, e.2.blot.mask e.1)) = fun e => !Table.has ds e.1 :=
      funext fun e => congrArg (!·) (ds.has_blot e.1)
    refine Eq.trans ?_ List.filter_map.symm
    rw [hhas]
    rfl
  rw [Fields.merge, Fields.merge, ← Fields.blot_mergeShared h, ← hrest]
  exact List.map_append

theorem Value.blot_merge (v w : Value) : (v.merge w).blot = v.blot.merge w.blot := by
  induction v using induction_on_mappings generalizing w with
  | ofOther v hv =>
    rw [merge_of_not_isMapping hv, merge_of_not_isMapping (v.isMapping_blot.trans hv)]
  | ofMapping ds ih =>
    cases hw : w.isMapping with
    | false =>
      rw [merge_of_base_not_isMapping _ hw, merge_of_base_not_isMapping _ (w.isMapping_blot.trans hw)]
    | true =>
      obtain ⟨bs, rfl⟩ := isMapping_iff.1 hw
      rw [merge_mapping, blot_mapping, blot_mapping, blot_mapping, merge_mapping,
        Fields.blot_merge_of ih]

lemma Fields.blot_merge (ds bs : Fields) : Fields.blot (ds.merge bs) = ds.blot.merge bs.blot :=
  Fields.blot_merge_of fun e _ => e.2.blot_merge

namespace Value

lemma blot_modifyAt {g : Value → Value} {x : Value} {path : List String} (hg : (g x).blot = x.blot)
    (hx : v.under path = some x) : (v.modifyAt g path).blot = v.blot := by
  induction path generalizing v with
  | nil =>
    obtain rfl := Option.some.inj hx
    exact hg
  | cons key path ih =>
    obtain ⟨fields, rfl, w, hw, hbelow⟩ := under_cons_eq_some.1 hx
    have hchild : (mapping fields).child? key = some w := hw
    rw [modifyAt, hchild]
    dsimp only
    rw [blot_mapping, blot_mapping, Fields.blot_insert, ih hbelow]
    refine congrArg mapping (Table.insert_of_get? ?_)
    rw [Fields.get?_blot, hw, Option.map_some]

/-- Changes that differ in such texts alone lead to values that do. -/
lemma blot_mapAlong_congr {selections : List (String → Bool)} {f g : List String → Value → Value}
    (hv : v.WellKeyed)
    (h : ∀ q x, Selected selections q → v.under q = some x → (f q x).blot = (g q x).blot) :
    (mapAlong selections f v).blot = (mapAlong selections g v).blot := by
  induction selections generalizing f g v with
  | nil => exact h [] v .nil rfl
  | cons selected selections ih =>
    cases hm : v.isMapping with
    | false => rw [mapAlong_of_not_isMapping selected hm, mapAlong_of_not_isMapping selected hm]
    | true =>
      obtain ⟨fields, rfl⟩ := isMapping_iff.1 hm
      have hfields : Fields.WellKeyed fields := hv
      rw [mapAlong_mapping, mapAlong_mapping, blot_mapping, blot_mapping, Fields.blot, Fields.blot,
        Table.mapValues, Table.mapValues, Table.mapValues, Table.mapValues, List.map_map,
        List.map_map]
      refine congrArg mapping (List.map_congr_left fun e he => ?_)
      have hw := Table.get?_of_mem hfields.nodup (show (e.1, e.2) ∈ fields from he)
      dsimp only [Function.comp_apply]
      split
      · next hk =>
        rw [ih (hfields.of_mem he) fun q x hq hu => h (e.1 :: q) x (selected_cons.2 ⟨hk, hq⟩)
          (under_cons_eq_some.2 ⟨fields, rfl, e.2, hw, hu⟩)]
      · rfl

end Value

lemma Version.choose?_blot (versions : Fields) (default? : Option String) :
    choose? versions.blot default? = choose? versions default? := by
  unfold choose?
  simp only [Fields.has_blot, Fields.keys_blot]

lemma Value.latestVersion?_blot (v : Value) : v.blot.latestVersion? =
    v.latestVersion?.map fun (id, version) => (id, version.blot.mask id) := by
  cases v with
  | mapping fields =>
    have hget : ∀ fields : Fields, (mapping fields).get? "versions" = fields.get? "versions" :=
      fun _ => rfl
    have htext : ∀ fields : Fields,
        (mapping fields).textAt? "defaultversionid" = fields.textAt? "defaultversionid" :=
      fun _ => rfl
    rw [blot_mapping, latestVersion?, latestVersion?, hget, hget, htext, htext,
      Fields.get?_blot_of_ne (by decide), Fields.textAt?_blot (by decide)]
    cases Table.get? fields "versions" with
    | none => rfl
    | some versions =>
      simp only [Option.bind_eq_bind, Option.map_some, Option.bind_some, fields?_blot]
      cases versions.fields? with
      | none => rfl
      | some versions =>
        simp only [Option.map_some, Option.bind_some, Version.choose?_blot, Fields.get?_blot]
        cases Version.choose? versions (Fields.textAt? fields "defaultversionid") with
        | none => rfl
        | some id =>
          simp only [Option.bind_some]
          cases versions.get? id <;> rfl
  | _ =>
    rw [blot_of_not_isMapping rfl]
    rfl

namespace Inheritance

lemma inheritable_blot (v : Value) :
    Lineage.inheritable v.blot = (Lineage.inheritable v).map Fields.blot := by
  have hgiven : ∀ v w : Value, w.fields? = v.fields?.map Fields.blot →
      (w.fields?.bind fun fields =>
        some ((fields.swapErase baseAttribute).swapErase idAttribute)) =
      (v.fields?.bind fun fields =>
        some ((fields.swapErase baseAttribute).swapErase idAttribute)).map Fields.blot := by
    intro v w h
    rw [h]
    cases v.fields? with
    | none => rfl
    | some fields =>
      simp only [Option.map_some, Option.bind_some, Fields.blot_swapErase]
  unfold Lineage.inheritable
  rw [Value.latestVersion?_blot]
  cases v.latestVersion? with
  | none => exact hgiven v v.blot v.fields?_blot
  | some counted =>
    refine hgiven counted.2 _ ?_
    rw [Value.fields?_mask, Value.fields?_blot]

lemma completed_blot (message : Fields) (base? : Option Fields) :
    (Lineage.completed message base?).blot =
      Lineage.completed message.blot (base?.map Fields.blot) := by
  unfold Lineage.completed
  rw [Fields.blot_swapErase]
  cases base? with
  | none => rfl
  | some fields =>
    simp only [Option.map_some, Option.getD_some, Fields.blot_merge]

end Inheritance

end Registry
