import Registry.Value

/-!
# Merging

Filling a value with everything another one has and it does not define itself. Where both sides hold
mappings the merge goes on inside them; any other collision keeps the first value. Main statement:
the keys of a merged mapping are those of the first one, then the new ones of the second.
-/

namespace Registry

mutual

def Value.merge : (derived base : Value) → Value
  | .mapping ds, .mapping bs => .mapping (mergeShared ds bs ++ bs.filter fun e => !Table.has ds e.1)
  | .mapping ds, _ => .mapping ds
  | .null, _ => .null
  | .boolean b, _ => .boolean b
  | .number n, _ => .number n
  | .string s, _ => .string s
  | .sequence items, _ => .sequence items

/-- Fills the entries of a mapping from the entries of a base under the same keys. -/
def mergeShared : (derived : List (String × Value)) → (base : Fields) → List (String × Value)
  | [], _ => []
  | (k, v) :: rest, base =>
    (k, match base.get? k with
      | some b => v.merge b
      | none => v) :: mergeShared rest base

end

/-- Fills a mapping from a base mapping: shared keys are merged in place, new ones follow. -/
def Fields.merge (derived base : Fields) : Fields :=
  mergeShared derived base ++ base.filter fun e => !derived.has e.1

theorem Value.merge_mapping (ds bs : Fields) :
    (Value.mapping ds).merge (.mapping bs) = .mapping (ds.merge bs) := by
  rw [Value.merge, Fields.merge]

theorem keys_mergeShared (ds bs : Fields) : Table.keys (mergeShared ds bs) = Table.keys ds := by
  induction ds with
  | nil => rfl
  | cons e ds ih =>
    obtain ⟨k, v⟩ := e
    rw [mergeShared, Table.keys_cons, Table.keys_cons, ih]

/-- A merged mapping has the keys of the first mapping, then the new keys of the second. -/
theorem Fields.keys_merge (ds bs : Fields) :
    Table.keys (Fields.merge ds bs) =
      Table.keys ds ++ (Table.keys bs).filter fun k => !Table.has ds k := by
  have h := keys_mergeShared ds bs
  simp only [Table.keys] at h ⊢
  rw [Fields.merge, List.map_append, h, List.filter_map]
  rfl

end Registry
