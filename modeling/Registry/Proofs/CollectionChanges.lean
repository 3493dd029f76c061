import Registry.Proofs.SelectedChanges

/-!
# Changes of what collections hold

Populating and completing a document goes through the collections that some types name and changes
each mapping in them. Where no two types have a collection in common, every mapping is changed once,
by itself. A change that carries a state computes one that does not if the state makes no difference.
-/

namespace Registry

namespace Fields

variable {τ σ ε α : Type} {fields : Fields} {key other id : String}

/-- Changes the mapping under a key; nothing happens if there is no mapping. -/
def alterAt (key : String) (alter : Fields → Fields) (fields : Fields) : Fields :=
  match fields.get? key with
  | some (.mapping inner) => fields.insert key (.mapping (alter inner))
  | _ => fields

/-- Changes every mapping in the collections that some types name, given its type and its key. -/
def alterEach (plural : τ → String) (types : List τ) (alter : τ → String → Fields → Fields)
    (fields : Fields) : Fields :=
  types.foldl (fun fields t => fields.alterAt (plural t)
    fun inner => inner.mapValues fun id v => v.onMapping (alter t id)) fields

lemma under_of_mem {inner : Fields} {e : String × Value} (hf : fields.WellKeyed)
    (hinner : fields.get? key = some (.mapping inner)) (he : e ∈ inner) :
    (Value.mapping fields).under [key, e.1] = some e.2 := by
  have hk : Fields.WellKeyed inner := hf.of_get? hinner
  exact Value.under_pair_eq_some.2 ⟨inner, hinner, Table.get?_of_mem hk.nodup he⟩

lemma get?_alterAt (key : String) (alter : Fields → Fields) (fields : Fields) (other : String) :
    (fields.alterAt key alter).get? other =
      if key = other then (fields.get? key).map (·.onMapping alter) else fields.get? other := by
  unfold alterAt
  split
  · next inner hinner => rw [Table.get?_insert, hinner]; rfl
  · next hother =>
    by_cases hk : key = other
    · subst hk
      rw [if_pos rfl]
      cases hv : fields.get? key with
      | none => rfl
      | some v =>
        cases v with
        | mapping inner => exact absurd hv (hother inner)
        | _ => rfl
    · rw [if_neg hk]

lemma alterAt_eq_self {alter : Fields → Fields}
    (h : ∀ inner, fields.get? key = some (.mapping inner) → alter inner = inner) :
    fields.alterAt key alter = fields := by
  unfold alterAt
  split
  · next inner hinner => rw [h inner hinner, Table.insert_of_get? hinner]
  · rfl

section alterEach

variable {plural : τ → String} {types : List τ} {t : τ} {alter : τ → String → Fields → Fields}

lemma get?_alterEach_of_ne (h : ∀ t ∈ types, plural t ≠ key) :
    (fields.alterEach plural types alter).get? key = fields.get? key := by
  induction types generalizing fields with
  | nil => rfl
  | cons a types ih =>
    obtain ⟨ha, htypes⟩ := List.forall_mem_cons.1 h
    exact (ih htypes).trans ((get?_alterAt _ _ _ _).trans (if_neg ha))

lemma get?_alterEach (hn : (types.map plural).Nodup) (ht : t ∈ types) :
    (fields.alterEach plural types alter).get? (plural t) = (fields.get? (plural t)).map
      (·.onMapping fun inner => inner.mapValues fun id v => v.onMapping (alter t id)) := by
  induction types generalizing fields with
  | nil => cases ht
  | cons a types ih =>
    obtain ⟨ha, htypes⟩ := List.nodup_cons.1 hn
    have hapart : ∀ t ∈ types, plural t ≠ plural a :=
      fun t ht he => ha (he ▸ List.mem_map_of_mem ht)
    rcases List.mem_cons.1 ht with rfl | ht
    · exact (get?_alterEach_of_ne hapart).trans ((get?_alterAt _ _ _ _).trans (if_pos rfl))
    · refine (ih htypes ht).trans (congrArg _ ?_)
      exact (get?_alterAt _ _ _ _).trans (if_neg (hapart t ht).symm)

/-- Where each collection belongs to one type, every mapping in it is changed once. -/
theorem under_alterEach (hn : (types.map plural).Nodup) (ht : t ∈ types) (id : String) :
    (Value.mapping (fields.alterEach plural types alter)).under [plural t, id] =
      ((Value.mapping fields).under [plural t, id]).map (·.onMapping (alter t id)) := by
  rw [Value.under_mapping_cons, Value.under_mapping_cons, get?_alterEach hn ht]
  cases fields.get? (plural t) with
  | none => rfl
  | some v =>
    cases v with
    | mapping inner =>
      rw [Option.map_some, Option.bind_some, Option.bind_some, Value.onMapping,
        Value.under_mapping_cons, Value.under_mapping_cons, Table.get?_mapValues]
      cases Table.get? inner id <;> rfl
    | _ => rfl

lemma alterEach_eq_self (hf : fields.WellKeyed)
    (h : ∀ t ∈ types, ∀ id x, (Value.mapping fields).under [plural t, id] = some (.mapping x) →
      alter t id x = x) : fields.alterEach plural types alter = fields := by
  induction types with
  | nil => rfl
  | cons a types ih =>
    obtain ⟨ha, htypes⟩ := List.forall_mem_cons.1 h
    have hsame : (fields.alterAt (plural a) fun inner =>
        inner.mapValues fun id v => v.onMapping (alter a id)) = fields := by
      refine alterAt_eq_self fun inner hinner => Table.mapValues_eq_self fun e he => ?_
      have hunder := under_of_mem hf hinner he
      cases hv : e.2 with
      | mapping x => exact congrArg Value.mapping (ha e.1 x (hv ▸ hunder))
      | _ => rfl
    have hfold : fields.alterEach plural (a :: types) alter = (fields.alterAt (plural a)
        fun inner => inner.mapValues fun id v => v.onMapping (alter a id)).alterEach plural types
          alter := rfl
    rw [hfold, hsame, ih htypes]

end alterEach

/-- A change that carries a state along does what another one does, as long as the state is as it
should be. -/
def Computes (P : σ → Prop) (change : Fields → σ → Fields × σ) (alter : Fields → Fields) : Prop :=
  ∀ fields s, P s → (change fields s).1 = alter fields ∧ P (change fields s).2

namespace Computes

variable {P : σ → Prop} {change : Fields → σ → Fields × σ} {alter : Fields → Fields}

lemma changeMapping (h : Computes P change alter) (v : Value) {s : σ} (hs : P s) :
    (v.changeMapping change s).1 = v.onMapping alter ∧ P (v.changeMapping change s).2 := by
  cases v with
  | mapping fields => exact (h fields s hs).imp_left (congrArg Value.mapping)
  | _ => exact ⟨rfl, hs⟩

lemma changeAt (h : Computes P change alter) (key : String) :
    Computes P (Fields.changeAt key change) (Fields.alterAt key alter) := by
  intro fields s hs
  unfold Fields.changeAt Fields.alterAt
  cases fields.get? key with
  | none => exact ⟨rfl, hs⟩
  | some v =>
    cases v with
    | mapping inner =>
      obtain ⟨hsame, hp⟩ := h inner s hs
      exact ⟨congrArg (fun inner => fields.insert key (.mapping inner)) hsame, hp⟩
    | _ => exact ⟨rfl, hs⟩

lemma mapState (h : Computes P change alter) :
    Computes P (fun (fields : Fields) s => fields.mapState (fun _ v s => v.changeMapping change s) s)
      fun fields => fields.mapValues fun _ v => v.onMapping alter := by
  intro (fields : Fields) s hs
  induction fields generalizing s with
  | nil => exact ⟨rfl, hs⟩
  | cons e fields ih =>
    obtain ⟨hv, hp⟩ := h.changeMapping e.2 hs
    obtain ⟨hrest, hp⟩ := ih _ hp
    exact ⟨congrArg₂ List.cons (congrArg (Prod.mk e.1) hv) hrest, hp⟩

lemma foldl {change : Fields × σ → α → Fields × σ} {alter : α → Fields → Fields} {as : List α}
    (h : ∀ a ∈ as, Computes P (fun fields s => change (fields, s) a) (alter a)) :
    Computes P (fun fields s => as.foldl change (fields, s))
      fun fields => as.foldl (fun fields a => alter a fields) fields := by
  induction as with
  | nil => exact fun fields s hs => ⟨rfl, hs⟩
  | cons a as ih =>
    obtain ⟨ha, has⟩ := List.forall_mem_cons.1 h
    intro fields s hs
    obtain ⟨hsame, hp⟩ := ha fields s hs
    obtain ⟨hrest, hp⟩ := ih has _ _ hp
    exact ⟨hrest.trans (by rw [hsame]; rfl), hp⟩

end Computes

/-- Changes every mapping in the collections that some types name, up to the first failure. -/
def attemptEach (plural : τ → String) (types : List τ)
    (change : τ → String → Fields → Fields × Option ε) : Fields → Fields × Option ε :=
  attemptAll (fun t => attemptAt (plural t)
    (Table.mapUntil fun id v => v.attemptMapping (change t id))) types

lemma get?_attemptAt_of_ne {change : Fields → Fields × Option ε} (h : key ≠ other) :
    (fields.attemptAt key change).1.get? other = fields.get? other := by
  unfold attemptAt
  split
  · exact (Table.get?_insert _ _ _ _).trans (if_neg h)
  · rfl

lemma keys_attemptAt (key : String) (change : Fields → Fields × Option ε) (fields : Fields) :
    (fields.attemptAt key change).1.keys = fields.keys := by
  unfold attemptAt
  split
  · next hinner => exact Table.keys_insert_of_mem (Table.mem_keys_of_get? hinner) _
  · rfl

lemma attemptAt_eq_self {change : Fields → Fields × Option ε}
    (h : ∀ inner, fields.get? key = some (.mapping inner) → change inner = (inner, none)) :
    fields.attemptAt key change = (fields, none) := by
  unfold attemptAt
  split
  · next inner hinner =>
    rw [h inner hinner]
    exact congrArg (·, none) (Table.insert_of_get? hinner)
  · rfl

end Fields

namespace Table

variable {α ε : Type} {f : String → α → α × Option ε} {t t' : Table α}

/-- Without a failure every value is one that a change gave. -/
lemma get?_of_mapUntil (h : t.mapUntil f = (t', none)) {key : String} {w : α}
    (hw : t'.get? key = some w) : ∃ v, t.get? key = some v ∧ f key v = (w, none) := by
  induction t generalizing t' with
  | nil =>
    obtain ⟨rfl, -⟩ := Prod.mk.inj h
    cases hw
  | cons e t ih =>
    obtain ⟨k, v⟩ := e
    rw [mapUntil] at h
    split at h
    · cases (Prod.mk.inj h).2
    · next w' hchange =>
      obtain ⟨rfl, hnone⟩ := Prod.mk.inj h
      rw [get?_cons] at hw ⊢
      by_cases hk : k = key
      · subst hk
        rw [if_pos rfl, Option.some.injEq] at hw
        exact ⟨v, if_pos rfl, hw ▸ hchange⟩
      · rw [if_neg hk] at hw ⊢
        exact ih (Prod.ext rfl hnone) hw

lemma mapUntil_eq_self (h : ∀ e ∈ t, f e.1 e.2 = (e.2, none)) : t.mapUntil f = (t, none) := by
  induction t with
  | nil => rfl
  | cons e t ih =>
    obtain ⟨he, ht⟩ := List.forall_mem_cons.1 h
    obtain ⟨k, v⟩ := e
    rw [mapUntil, he, ih ht]

end Table

lemma Value.of_attemptMapping {ε : Type} {change : Fields → Fields × Option ε} {v : Value}
    {x : Fields} (h : v.attemptMapping change = (.mapping x, none)) :
    ∃ y, v = .mapping y ∧ change y = (x, none) := by
  cases v with
  | mapping y =>
    obtain ⟨hx, hnone⟩ := Prod.mk.inj h
    exact ⟨y, rfl, Prod.ext (Value.mapping.inj hx) hnone⟩
  | _ => cases (Prod.mk.inj h).1

namespace Fields

variable {τ ε : Type} {plural : τ → String} {types : List τ} {t : τ}
  {change : τ → String → Fields → Fields × Option ε} {fields fields' : Fields} {key id : String}

lemma attemptEach_cons {a : τ} (h : fields.attemptEach plural (a :: types) change = (fields', none)) :
    (fields.attemptAt (plural a) (Table.mapUntil fun id v => v.attemptMapping (change a id))).2 =
        none ∧
      (fields.attemptAt (plural a)
        (Table.mapUntil fun id v => v.attemptMapping (change a id))).1.attemptEach plural types
          change = (fields', none) := by
  rw [attemptEach, attemptAll] at h
  split at h
  · cases (Prod.mk.inj h).2
  · next first hfirst => exact hfirst ▸ ⟨rfl, h⟩

lemma keys_attemptEach (h : fields.attemptEach plural types change = (fields', none)) :
    fields'.keys = fields.keys := by
  induction types generalizing fields with
  | nil => exact congrArg Table.keys (Prod.mk.inj h).1.symm
  | cons a types ih => exact (ih (attemptEach_cons h).2).trans (keys_attemptAt _ _ _)

lemma get?_attemptEach_of_ne (h : fields.attemptEach plural types change = (fields', none))
    (hkey : ∀ t ∈ types, plural t ≠ key) : fields'.get? key = fields.get? key := by
  induction types generalizing fields with
  | nil => exact congrArg (Table.get? · key) (Prod.mk.inj h).1.symm
  | cons a types ih =>
    obtain ⟨ha, htypes⟩ := List.forall_mem_cons.1 hkey
    exact (ih (attemptEach_cons h).2 htypes).trans (get?_attemptAt_of_ne ha)

/-- Where each collection belongs to one type, a mapping in it is what the change of its type gave,
if there was no failure. -/
theorem of_attemptEach (hn : (types.map plural).Nodup) (ht : t ∈ types)
    (h : fields.attemptEach plural types change = (fields', none)) {x : Fields}
    (hx : (Value.mapping fields').under [plural t, id] = some (.mapping x)) :
    ∃ y, (Value.mapping fields).under [plural t, id] = some (.mapping y) ∧
      change t id y = (x, none) := by
  induction types generalizing fields with
  | nil => cases ht
  | cons a types ih =>
    obtain ⟨ha, htypes⟩ := List.nodup_cons.1 hn
    obtain ⟨hfirst, hrest⟩ := attemptEach_cons h
    have hapart : ∀ t ∈ types, plural t ≠ plural a :=
      fun t ht he => ha (he ▸ List.mem_map_of_mem ht)
    rcases List.mem_cons.1 ht with rfl | ht
    · -- the types after this one leave its collection alone
      rw [Value.under_mapping_cons, get?_attemptEach_of_ne hrest hapart] at hx
      rw [Value.under_mapping_cons]
      unfold attemptAt at hfirst hx
      split at hx
      · next inner hinner =>
        rw [hinner] at hfirst ⊢
        rw [Table.get?_insert, if_pos rfl, Option.bind_some, Value.under_mapping_cons] at hx
        obtain ⟨w, hw, hwx⟩ := Option.bind_eq_some_iff.1 hx
        obtain rfl := Option.some.inj hwx
        obtain ⟨v, hv, hchange⟩ := Table.get?_of_mapUntil (Prod.ext rfl hfirst) hw
        obtain ⟨y, rfl, hy⟩ := Value.of_attemptMapping hchange
        refine ⟨y, ?_, hy⟩
        rw [Option.bind_some, Value.under_mapping_cons, hv]
        rfl
      · next hother =>
        obtain ⟨v, hv, hend⟩ := Option.bind_eq_some_iff.1 hx
        obtain ⟨inner, rfl, -⟩ := Value.under_cons_eq_some.1 hend
        exact absurd hv (hother inner)
    · -- so has the first type left the collection of a later one
      obtain ⟨y, hy, hchange⟩ := ih htypes ht hrest
      rw [Value.under_mapping_cons, get?_attemptAt_of_ne (hapart t ht).symm] at hy
      exact ⟨y, hy, hchange⟩

lemma attemptEach_eq_self (hf : fields.WellKeyed)
    (h : ∀ t ∈ types, ∀ id x, (Value.mapping fields).under [plural t, id] = some (.mapping x) →
      change t id x = (x, none)) : fields.attemptEach plural types change = (fields, none) := by
  induction types with
  | nil => rfl
  | cons a types ih =>
    obtain ⟨ha, htypes⟩ := List.forall_mem_cons.1 h
    have hsame : fields.attemptAt (plural a)
        (Table.mapUntil fun id v => v.attemptMapping (change a id)) = (fields, none) := by
      refine attemptAt_eq_self fun inner hinner => Table.mapUntil_eq_self fun e he => ?_
      have hunder := under_of_mem hf hinner he
      cases hv : e.2 with
      | mapping x => rw [Value.attemptMapping, ha e.1 x (hv ▸ hunder)]
      | _ => rfl
    rw [attemptEach, attemptAll, hsame]
    exact ih htypes

end Fields

end Registry
