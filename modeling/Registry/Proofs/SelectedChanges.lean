import Registry.Proofs.PointerText

/-!
# Changes below selected keys

A change of what stands a fixed number of mappings deep, below keys that are selected at each level.
It reaches the selected paths and leaves everything else as it was.
-/

namespace Registry

namespace Value

/-- A value is another one but for what stands at some paths: mappings around these keep their keys,
and what is apart from them stays. -/
structure SameBut (touched : List String → Prop) (v w : Value) : Prop where
  apart : ∀ path, (∀ q, touched q → ¬q <+: path ∧ ¬path <+: q) → w.at? path = v.at? path
  around : ∀ path q, touched q → path <+: q → path ≠ q → ∃ ds ds' : Fields,
    v.at? path = some (.mapping ds) ∧ w.at? path = some (.mapping ds') ∧ ds'.keys = ds.keys

/-- Changes every value that a path of selected keys leads to. -/
def mapAlong : List (String → Bool) → (List String → Value → Value) → Value → Value
  | [], f, v => f [] v
  | selected :: rest, f, v =>
    v.onMapping (·.mapValues fun key w =>
      if selected key then mapAlong rest (fun path => f (key :: path)) w else w)

/-- Whether a path has a selected key at each level. -/
def Selected (selections : List (String → Bool)) (path : List String) : Prop :=
  List.Forall₂ (fun selected key => selected key = true) selections path

variable {selections : List (String → Bool)} {f : List String → Value → Value}

lemma selected_cons {selected : String → Bool} {key : String} {path : List String} :
    Selected (selected :: selections) (key :: path) ↔ selected key = true ∧ Selected selections path :=
  List.forall₂_cons

lemma at?_mapping_cons (fields : Fields) (key : String) (rest : List String) :
    (mapping fields).at? (key :: rest) = (fields.get? key).bind (Value.at? · rest) := rfl

lemma under_cons_cons (v : Value) (first second : String) (rest : List String) :
    v.under (first :: second :: rest) = (v.under [first, second]).bind (·.under rest) :=
  under_append v [first, second] rest

lemma under_pair_eq_some {fields : Fields} {first second : String} {x : Value} :
    (mapping fields).under [first, second] = some x ↔
      ∃ inner : Fields, fields.get? first = some (.mapping inner) ∧ inner.get? second = some x := by
  rw [under_mapping_cons, Option.bind_eq_some_iff]
  constructor
  · rintro ⟨v, hv, hx⟩
    obtain ⟨inner, rfl, w, hw, hend⟩ := under_cons_eq_some.1 hx
    obtain rfl := Option.some.inj hend
    exact ⟨inner, hv, hw⟩
  · rintro ⟨inner, hinner, hx⟩
    exact ⟨_, hinner, under_cons_eq_some.2 ⟨inner, rfl, x, hx, rfl⟩⟩

/-- A path that goes on behind two keys leads through a mapping there. -/
lemma exists_under_pair {v x : Value} {first second third : String} {rest : List String}
    (h : v.under (first :: second :: third :: rest) = some x) :
    ∃ fields : Fields, v.under [first, second] = some (.mapping fields) ∧
      (mapping fields).under (third :: rest) = some x := by
  rw [under_cons_cons] at h
  obtain ⟨w, hw, hx⟩ := Option.bind_eq_some_iff.1 h
  obtain ⟨fields, rfl, -⟩ := under_cons_eq_some.1 hx
  exact ⟨fields, hw, hx⟩

lemma mapAlong_mapping (selected : String → Bool) (fields : Fields) :
    mapAlong (selected :: selections) f (.mapping fields) =
      .mapping (fields.mapValues fun key w =>
        if selected key then mapAlong selections (fun path => f (key :: path)) w else w) := rfl

lemma mapAlong_of_not_isMapping (selected : String → Bool) {v : Value} (h : v.isMapping = false) :
    mapAlong (selected :: selections) f v = v := by
  cases v with
  | mapping => simp [isMapping, fields?] at h
  | _ => rfl

lemma onMapping_eq_mapAlong {selected : String → Bool} {v : Value} {alter : Fields → Fields}
    (h : ∀ fields : Fields, v = .mapping fields → alter fields = fields.mapValues fun key w =>
      if selected key then mapAlong selections (fun path => f (key :: path)) w else w) :
    v.onMapping alter = mapAlong (selected :: selections) f v := by
  cases v with
  | mapping fields => exact congrArg mapping (h fields rfl)
  | _ => rfl

/-- What a selected path leads to is changed. -/
lemma under_mapAlong {v : Value} {path : List String} (h : Selected selections path) :
    (mapAlong selections f v).under path = (v.under path).map (f path) := by
  induction selections generalizing f v path with
  | nil =>
    cases h
    rfl
  | cons selected selections ih =>
    cases path with
    | nil => cases h
    | cons key path =>
      obtain ⟨hkey, hpath⟩ := selected_cons.1 h
      cases hm : v.isMapping with
      | false =>
        rw [mapAlong_of_not_isMapping selected hm, under_cons_of_not_isMapping hm]
        rfl
      | true =>
        obtain ⟨fields, rfl⟩ := isMapping_iff.1 hm
        rw [mapAlong_mapping, under_mapping_cons, under_mapping_cons, Table.get?_mapValues]
        cases Table.get? fields key with
        | none => rfl
        | some w =>
          simp only [Option.map_some, Option.bind_some, hkey, if_true]
          exact ih hpath

/-- What another path as long as the selected ones leads to stays. -/
lemma under_mapAlong_of_not_selected {v : Value} {path : List String}
    (hlength : path.length = selections.length) (h : ¬Selected selections path) :
    (mapAlong selections f v).under path = v.under path := by
  induction selections generalizing f v path with
  | nil => exact absurd (List.length_eq_zero_iff.1 hlength ▸ .nil) h
  | cons selected selections ih =>
    cases path with
    | nil => cases hlength
    | cons key path =>
      cases hm : v.isMapping with
      | false => rw [mapAlong_of_not_isMapping selected hm]
      | true =>
        obtain ⟨fields, rfl⟩ := isMapping_iff.1 hm
        rw [mapAlong_mapping, under_mapping_cons, under_mapping_cons, Table.get?_mapValues]
        cases Table.get? fields key with
        | none => rfl
        | some w =>
          rw [Option.map_some, Option.bind_some, Option.bind_some]
          split
          · next hkey =>
            exact ih (Nat.succ.inj hlength) fun hpath => h (selected_cons.2 ⟨hkey, hpath⟩)
          · rfl

/-- Nothing changes apart from the mappings that selected paths lead to. -/
lemma at?_mapAlong {v : Value} (hv : v.WellKeyed) {path : List String}
    (hf : ∀ path w, w.isMapping = false → f path w = w)
    (h : ∀ q ds, Selected selections q → v.under q = some (.mapping ds) →
      ¬q <+: path ∧ ¬path <+: q) :
    (mapAlong selections f v).at? path = v.at? path := by
  induction selections generalizing f v path with
  | nil =>
    have hm : v.isMapping = false := by
      cases hm : v.isMapping with
      | false => rfl
      | true =>
        obtain ⟨ds, rfl⟩ := isMapping_iff.1 hm
        exact absurd List.nil_prefix (h [] ds .nil rfl).1
    rw [mapAlong, hf [] v hm]
  | cons selected selections ih =>
    cases hm : v.isMapping with
    | false => rw [mapAlong_of_not_isMapping selected hm]
    | true =>
      obtain ⟨fields, rfl⟩ := isMapping_iff.1 hm
      have hfields : Fields.WellKeyed fields := hv
      have hbelow : ∀ key w path', Table.get? fields key = some w → selected key = true →
          (∀ q ds, Selected selections q → w.under q = some (.mapping ds) →
            ¬q <+: path' ∧ ¬path' <+: q) →
          (mapAlong selections (fun p => f (key :: p)) w).at? path' = w.at? path' :=
        fun key w path' hw _ hq => ih (hfields.of_get? hw) (fun p => hf (key :: p)) hq
      have hunder : ∀ key w q ds, Table.get? fields key = some w → selected key = true →
          Selected selections q → w.under q = some (.mapping ds) →
          ¬(key :: q) <+: path ∧ ¬path <+: (key :: q) :=
        fun key w q ds hw hk hq hu => h (key :: q) ds (selected_cons.2 ⟨hk, hq⟩)
          (under_cons_eq_some.2 ⟨fields, rfl, w, hw, hu⟩)
      cases path with
      | nil =>
        -- No selected path leads to a mapping at all, so no entry changes.
        have hsame : ∀ e ∈ fields, (if selected e.1 then
            mapAlong selections (fun p => f (e.1 :: p)) e.2 else e.2) = e.2 := by
          intro e he
          have hw := Table.get?_of_mem hfields.nodup (show (e.1, e.2) ∈ fields from he)
          split
          · next hk =>
            refine Option.some.inj (hbelow e.1 e.2 [] hw hk fun q ds hq hu => ?_)
            exact absurd List.nil_prefix (hunder e.1 e.2 q ds hw hk hq hu).2
          · rfl
        rw [mapAlong_mapping, Table.mapValues_eq_self hsame]
      | cons key path =>
        rw [mapAlong_mapping, at?_mapping_cons, at?_mapping_cons, Table.get?_mapValues]
        cases hw : Table.get? fields key with
        | none => rfl
        | some w =>
          rw [Option.map_some, Option.bind_some, Option.bind_some]
          split
          · next hk =>
            refine hbelow key w path hw hk fun q ds hq hu => ?_
            have hne := hunder key w q ds hw hk hq hu
            simpa [List.cons_prefix_cons] using hne
          · rfl

/-- The mappings around what a selected path leads to keep their keys. -/
lemma around_mapAlong {v : Value} {path q : List String} {x : Value}
    (hq : Selected selections q) (hx : v.under q = some x) (hp : path <+: q) (hne : path ≠ q) :
    ∃ ds ds' : Fields, v.at? path = some (.mapping ds) ∧
      (mapAlong selections f v).at? path = some (.mapping ds') ∧ ds'.keys = ds.keys := by
  induction selections generalizing f v path q with
  | nil =>
    cases hq
    exact absurd (List.prefix_nil.1 hp) hne
  | cons selected selections ih =>
    cases q with
    | nil => cases hq
    | cons key q =>
      obtain ⟨hkey, hpath⟩ := selected_cons.1 hq
      obtain ⟨fields, rfl, w, hw, hend⟩ := under_cons_eq_some.1 hx
      cases path with
      | nil => exact ⟨fields, _, rfl, rfl, Table.keys_mapValues _ _⟩
      | cons key' path =>
        obtain ⟨rfl, hbelow⟩ := List.cons_prefix_cons.1 hp
        obtain ⟨ds, ds', hds, hds', hkeys⟩ :=
          ih (f := fun p => f (key' :: p)) hpath hend hbelow fun he => hne (he ▸ rfl)
        refine ⟨ds, ds', ?_, ?_, hkeys⟩
        · rw [at?_mapping_cons, hw]
          exact hds
        · rw [mapAlong_mapping, at?_mapping_cons, Table.get?_mapValues, hw, Option.map_some,
            Option.bind_some, if_pos hkey]
          exact hds'

/-- A change of selected mappings leaves everything else. -/
theorem sameBut_mapAlong {v : Value} (hv : v.WellKeyed)
    (hf : ∀ path w, w.isMapping = false → f path w = w) :
    SameBut (fun q => Selected selections q ∧ ∃ ds, v.under q = some (.mapping ds)) v
      (mapAlong selections f v) where
  apart _ h := at?_mapAlong hv hf fun q ds hq hu => h q ⟨hq, ds, hu⟩
  around _ _ hq hp hne := around_mapAlong hq.1 hq.2.choose_spec hp hne

/-- A change counts by what it does to what the selected paths lead to. -/
lemma mapAlong_congr {g : List String → Value → Value} {v : Value} (hv : v.WellKeyed)
    (h : ∀ q x, Selected selections q → v.under q = some x → f q x = g q x) :
    mapAlong selections f v = mapAlong selections g v := by
  induction selections generalizing f g v with
  | nil => exact h [] v .nil rfl
  | cons selected selections ih =>
    cases hm : v.isMapping with
    | false => rw [mapAlong_of_not_isMapping selected hm, mapAlong_of_not_isMapping selected hm]
    | true =>
      obtain ⟨fields, rfl⟩ := isMapping_iff.1 hm
      have hfields : Fields.WellKeyed fields := hv
      rw [mapAlong_mapping, mapAlong_mapping]
      refine congrArg mapping (Table.mapValues_congr fun e he => ?_)
      have hw := Table.get?_of_mem hfields.nodup (show (e.1, e.2) ∈ fields from he)
      split
      · next hk =>
        refine ih (hfields.of_mem he) fun q x hq hu => ?_
        exact h (e.1 :: q) x (selected_cons.2 ⟨hk, hq⟩)
          (under_cons_eq_some.2 ⟨fields, rfl, e.2, hw, hu⟩)
      · rfl

lemma mapAlong_id (selections : List (String → Bool)) (v : Value) :
    mapAlong selections (fun _ x => x) v = v := by
  induction selections generalizing v with
  | nil => rfl
  | cons selected selections ih =>
    cases v with
    | mapping fields =>
      rw [mapAlong_mapping]
      exact congrArg mapping (Table.mapValues_eq_self fun e _ => by rw [ih, ite_self])
    | _ => rfl

/-- If nothing that a selected path leads to changes, nothing does. -/
lemma mapAlong_eq_self {v : Value} (hv : v.WellKeyed)
    (h : ∀ q x, Selected selections q → v.under q = some x → f q x = x) :
    mapAlong selections f v = v :=
  (mapAlong_congr hv h).trans (mapAlong_id selections v)

/-- Two changes in turn are one change. -/
lemma mapAlong_mapAlong (f g : List String → Value → Value) (v : Value) :
    mapAlong selections g (mapAlong selections f v) =
      mapAlong selections (fun path x => g path (f path x)) v := by
  induction selections generalizing f g v with
  | nil => rfl
  | cons selected selections ih =>
    cases hm : v.isMapping with
    | false =>
      rw [mapAlong_of_not_isMapping selected hm, mapAlong_of_not_isMapping selected hm,
        mapAlong_of_not_isMapping selected hm]
    | true =>
      obtain ⟨fields, rfl⟩ := isMapping_iff.1 hm
      rw [mapAlong_mapping, mapAlong_mapping, mapAlong_mapping, Table.mapValues, Table.mapValues,
        Table.mapValues, List.map_map]
      refine congrArg mapping (List.map_congr_left fun e _ => ?_)
      dsimp only [Function.comp_apply]
      split
      · rw [ih]
      · rfl

/-- Changing what one selected path leads to, once the change of all of them has been made, is
changing that one differently in the first place. -/
lemma modifyAt_mapAlong {v x : Value} {path : List String} (g : Value → Value) (hv : v.WellKeyed)
    (hpath : Selected selections path) (hx : v.under path = some x) :
    (mapAlong selections f v).modifyAt g path =
      mapAlong selections (fun q y => if q = path then g (f q y) else f q y) v := by
  induction selections generalizing f v path with
  | nil =>
    cases hpath
    rfl
  | cons selected selections ih =>
    cases path with
    | nil => cases hpath
    | cons key path =>
      obtain ⟨hkey, hpath⟩ := selected_cons.1 hpath
      obtain ⟨fields, rfl, w, hw, hbelow⟩ := under_cons_eq_some.1 hx
      have hfields : Fields.WellKeyed fields := hv
      have hkeys := hfields.nodup
      have hchild : (mapAlong (selected :: selections) f (.mapping fields)).child? key =
          some (mapAlong selections (fun p => f (key :: p)) w) := by
        rw [mapAlong_mapping, child?, Table.get?_mapValues, hw, Option.map_some, if_pos hkey]
      rw [modifyAt, hchild]
      simp only [mapAlong_mapping]
      rw [ih (hfields.of_get? hw) hpath hbelow, Table.insert_eq_mapValues
        (by rwa [Table.keys_mapValues])
        (by rw [Table.keys_mapValues]; exact Table.mem_keys_of_get? hw), Table.mapValues,
        Table.mapValues, Table.mapValues, List.map_map]
      refine congrArg mapping (List.map_congr_left fun e he => ?_)
      have he' := Table.get?_of_mem hkeys (show (e.1, e.2) ∈ fields from he)
      by_cases hk : key = e.1
      · subst hk
        obtain rfl : w = e.2 := Option.some.inj (hw.symm.trans he')
        simp [hkey]
      · have hne : ¬e.1 = key := fun h => hk h.symm
        simp [hk, hne]

/-- What a path leads to once something has been changed: something in what has changed, a mapping
around it, or what was there before. -/
lemma at?_modifyAt {v x : Value} {path : List String} (g : Value → Value)
    (hx : v.under path = some x) (other : List String) :
    (∃ rest, other = path ++ rest ∧ v.at? other = x.at? rest ∧
        (v.modifyAt g path).at? other = (g x).at? rest) ∨
      (∃ rest y, path = other ++ rest ∧ rest ≠ [] ∧ v.at? other = some y ∧ y.under rest = some x ∧
        (v.modifyAt g path).at? other = some (y.modifyAt g rest)) ∨
      (v.modifyAt g path).at? other = v.at? other := by
  induction path generalizing v other with
  | nil =>
    obtain rfl := Option.some.inj hx
    exact .inl ⟨other, rfl, rfl, rfl⟩
  | cons key path ih =>
    cases other with
    | nil => exact .inr (.inl ⟨key :: path, v, rfl, List.cons_ne_nil _ _, rfl, hx, rfl⟩)
    | cons token other =>
      obtain ⟨fields, rfl, w, hw, hbelow⟩ := under_cons_eq_some.1 hx
      have hmodify : (mapping fields).modifyAt g (key :: path) =
          mapping (Table.insert fields key (w.modifyAt g path)) := by
        rw [modifyAt, child?, hw]
      rw [hmodify, at?_mapping_cons, at?_mapping_cons]
      by_cases hk : key = token
      · subst hk
        rw [Table.get?_insert_self, hw, Option.bind_some, Option.bind_some]
        rcases ih hbelow other with ⟨rest, rfl, h⟩ | ⟨rest, y, rfl, h⟩ | h
        · exact .inl ⟨rest, rfl, h⟩
        · exact .inr (.inl ⟨rest, y, rfl, h⟩)
        · exact .inr (.inr h)
      · rw [Table.get?_insert_of_ne fields _ hk]
        exact .inr (.inr rfl)

/-- A change that repeats no key leaves a value that repeats none. -/
lemma wellKeyed_mapAlong {v : Value} (hv : v.WellKeyed)
    (hf : ∀ q x, x.WellKeyed → (f q x).WellKeyed) : (mapAlong selections f v).WellKeyed := by
  induction selections generalizing f v with
  | nil => exact hf [] v hv
  | cons selected selections ih =>
    cases hm : v.isMapping with
    | false => rwa [mapAlong_of_not_isMapping selected hm]
    | true =>
      obtain ⟨fields, rfl⟩ := isMapping_iff.1 hm
      have hfields : Fields.WellKeyed fields := hv
      rw [mapAlong_mapping]
      refine Fields.wellKeyed_iff.2 ⟨?_, fun e he => ?_⟩
      · rw [Table.keys_mapValues]
        exact hfields.nodup
      · obtain ⟨w, hw, he⟩ := Table.mem_mapValues.1 he
        rw [he]
        split
        · exact ih (hfields.of_mem hw) fun q => hf (e.1 :: q)
        · exact hfields.of_mem hw

end Value

end Registry
