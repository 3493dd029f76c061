import Registry.Proofs.Merging

/-!
# Merges along paths

What a merge holds at the end of any path of keys is determined by what its two sides hold there and
by what bars the way. Merging a base a second time, or a value with itself, changes nothing, and two
bases may be merged with each other first, unless the nearer one cuts off what the farther one adds.
-/

namespace Registry

variable {v w x d b c : Value} {path : List String} {key : String}

namespace Value

/-- Something that is no mapping stands on a path before its end. -/
def Barred (v : Value) (path : List String) : Prop :=
  ∃ front x, front <+: path ∧ front ≠ path ∧ v.under front = some x ∧ x.isMapping = false

/-- What is no mapping in the first value stays. -/
lemma under_merge_of_not_isMapping (h : v.under path = some x) (hm : x.isMapping = false) :
    (v.merge w).under path = some x := by
  rw [under_merge_of_under h]
  cases w.under path with
  | none => rfl
  | some y => exact congrArg some (merge_of_not_isMapping hm y)

theorem under_merge_of_barred (h : v.Barred path) : (v.merge w).under path = none := by
  obtain ⟨front, x, ⟨rest, rfl⟩, hne, hx, hm⟩ := h
  rw [under_append, under_merge_of_not_isMapping hx hm, Option.bind_some]
  cases rest with
  | nil => exact absurd (List.append_nil front).symm hne
  | cons key rest => exact under_cons_of_not_isMapping hm key rest

/-- Nothing bars the way to a key of the mapping itself. -/
lemma not_barred_singleton (fields : Fields) (key : String) : ¬(mapping fields).Barred [key] := by
  rintro ⟨front, x, hprefix, hne, hx, hm⟩
  cases front with
  | nil =>
    obtain rfl := Option.some.inj hx
    cases hm
  | cons first front =>
    obtain ⟨rfl, hfront⟩ := List.cons_prefix_cons.1 hprefix
    exact hne (congrArg (first :: ·) (List.prefix_nil.1 hfront))

lemma Barred.behind {fields : Fields} {v : Value} (h : v.Barred path)
    (hv : fields.get? key = some v) : (mapping fields).Barred (key :: path) := by
  obtain ⟨front, x, hprefix, hne, hx, hm⟩ := h
  refine ⟨key :: front, x, List.cons_prefix_cons.2 ⟨rfl, hprefix⟩, ?_, ?_, hm⟩
  · exact fun he => hne (List.cons.inj he).2
  · exact under_cons_eq_some.2 ⟨fields, rfl, v, hv, hx⟩

/-- Where nothing bars the way and nothing stands at its end, a value leaves room. -/
lemma open_of_not_barred (h : v.under path = none) (hfree : ¬v.Barred path) : v.Open path := by
  induction path generalizing v with
  | nil => cases h
  | cons key rest ih =>
    have hv : v.isMapping = true := by
      by_contra hm
      exact hfree ⟨[], v, List.nil_prefix, (List.cons_ne_nil key rest).symm, rfl,
        Bool.eq_false_iff.2 hm⟩
    refine ⟨hv, fun w hw => ?_⟩
    obtain ⟨fields, rfl, hget⟩ := get?_eq_some.1 hw
    rw [under_mapping_cons, hget, Option.bind_some] at h
    exact ih h fun hbar => hfree (hbar.behind hget)

/-- Where the base has nothing, a merge has what the first value has. -/
lemma under_merge_of_base_none (h : w.under path = none) :
    (v.merge w).under path = v.under path := by
  cases hv : v.under path with
  | some x => rw [under_merge_of_under hv, h, Option.map_none, Option.getD_none]
  | none =>
    by_cases hbar : v.Barred path
    · exact under_merge_of_barred hbar
    · rw [under_merge_of_open (open_of_not_barred hv hbar), h]

end Value

lemma Value.mapping_merge (ds : Fields) (v : Value) :
    (mapping ds).merge v = mapping (ds.merge v.entries) := by
  cases v with
  | mapping bs => exact merge_mapping ds bs
  | _ =>
    have hstays : mapping ds = mapping (ds.merge []) := congrArg mapping (Fields.merge_nil ds).symm
    exact (merge_of_base_not_isMapping _ rfl).trans hstays

lemma Fields.keys_merge_of_subset {ds bs : Fields} (h : Table.keys bs ⊆ Table.keys ds) :
    Table.keys (ds.merge bs) = Table.keys ds := by
  have hnew : (Table.keys bs).filter (fun key => !Table.has ds key) = [] := by
    rw [List.filter_eq_nil_iff]
    intro key hkey
    simp [(Table.has_iff_mem_keys ds key).2 (h hkey)]
  rw [keys_merge, hnew, List.append_nil]

lemma Fields.keys_subset_merge (ds bs : Fields) : Table.keys bs ⊆ Table.keys (ds.merge bs) := by
  intro key hkey
  rw [← Table.has_iff_mem_keys] at hkey ⊢
  rw [has_merge, hkey, Bool.or_true]

namespace Value

/-- Merging a value with itself changes nothing. -/
theorem merge_self (hv : v.WellKeyed) : v.merge v = v := by
  induction v using induction_on_mappings with
  | ofOther v hm => exact merge_of_not_isMapping hm v
  | ofMapping fields ih =>
    have hf : fields.WellKeyed := hv
    have hkeys : Table.keys (fields.merge fields) = Table.keys fields :=
      Fields.keys_merge_of_subset (List.Subset.refl _)
    rw [merge_mapping]
    refine congrArg mapping (Table.eq_of_keys_of_get? (hf.merge hf).nodup hkeys fun key => ?_)
    rw [Fields.get?_merge]
    cases hg : Table.get? fields key with
    | none => rfl
    | some v => exact congrArg some (ih _ (Table.mem_of_get? hg) (hf.of_get? hg))

/-- Merging a base a second time changes nothing. -/
theorem merge_merge_base (hv : v.WellKeyed) (hw : w.WellKeyed) :
    (v.merge w).merge w = v.merge w := by
  induction v using induction_on_mappings generalizing w with
  | ofOther v hm => rw [merge_of_not_isMapping hm, merge_of_not_isMapping hm]
  | ofMapping ds ih =>
    cases hm : w.isMapping with
    | false => rw [merge_of_base_not_isMapping _ hm, merge_of_base_not_isMapping _ hm]
    | true =>
      obtain ⟨(bs : Fields), rfl⟩ := isMapping_iff.1 hm
      have hd : ds.WellKeyed := hv
      have hb : bs.WellKeyed := hw
      have hkeys : Table.keys ((ds.merge bs).merge bs) = Table.keys (ds.merge bs) :=
        Fields.keys_merge_of_subset (Fields.keys_subset_merge ds bs)
      rw [merge_mapping, merge_mapping]
      refine congrArg mapping
        (Table.eq_of_keys_of_get? ((hd.merge hb).merge hb).nodup hkeys fun key => ?_)
      rw [Fields.get?_merge, Fields.get?_merge]
      cases hgd : Table.get? ds key with
      | none =>
        cases hgb : Table.get? bs key with
        | none => rfl
        | some b => exact congrArg some (merge_self (hb.of_get? hgb))
      | some d =>
        cases hgb : Table.get? bs key with
        | none => rfl
        | some b =>
          exact congrArg some (ih _ (Table.mem_of_get? hgd) (hd.of_get? hgd) (hb.of_get? hgb))

/-- A value holds nothing but mappings where two others both hold a mapping. -/
def Bridges (b d c : Value) : Prop :=
  ∀ path (ds cs : Fields), d.under path = some (mapping ds) → c.under path = some (mapping cs) →
    ∀ x, b.under path = some x → x.isMapping = true

lemma Bridges.behind {ds bs cs : Fields} (h : (mapping bs).Bridges (mapping ds) (mapping cs))
    (hd : ds.get? key = some d) (hb : bs.get? key = some b) (hc : cs.get? key = some c) :
    b.Bridges d c := by
  intro path ds' cs' hds hcs x hx
  refine h (key :: path) ds' cs' ?_ ?_ x ?_
  · exact under_cons_eq_some.2 ⟨ds, rfl, d, hd, hds⟩
  · exact under_cons_eq_some.2 ⟨cs, rfl, c, hc, hcs⟩
  · exact under_cons_eq_some.2 ⟨bs, rfl, b, hb, hx⟩

/-- Two bases may be merged with each other first, unless the nearer one has something else where
the value and the farther one have mappings. -/
theorem merge_assoc (hd : d.WellKeyed) (hb : b.WellKeyed) (hc : c.WellKeyed)
    (h : b.Bridges d c) : d.merge (b.merge c) = (d.merge b).merge c := by
  induction d using induction_on_mappings generalizing b c with
  | ofOther d hm =>
    rw [merge_of_not_isMapping hm, merge_of_not_isMapping hm, merge_of_not_isMapping hm]
  | ofMapping ds ih =>
    cases hmc : c.isMapping with
    | false => rw [merge_of_base_not_isMapping _ hmc, merge_of_base_not_isMapping _ hmc]
    | true =>
      obtain ⟨(cs : Fields), rfl⟩ := isMapping_iff.1 hmc
      obtain ⟨(bs : Fields), rfl⟩ := isMapping_iff.1 (h [] ds cs rfl rfl b rfl)
      have hd : ds.WellKeyed := hd
      have hb : bs.WellKeyed := hb
      have hc : cs.WellKeyed := hc
      have hkeys : Table.keys (ds.merge (bs.merge cs)) = Table.keys ((ds.merge bs).merge cs) := by
        simp only [Fields.keys_merge, List.filter_append, List.filter_filter, Fields.has_merge,
          Bool.not_or, List.append_assoc]
      rw [merge_mapping, merge_mapping, merge_mapping, merge_mapping]
      refine congrArg mapping
        (Table.eq_of_keys_of_get? (hd.merge (hb.merge hc)).nodup hkeys fun key => ?_)
      simp only [Fields.get?_merge]
      cases hgd : Table.get? ds key with
      | none => rfl
      | some d =>
        cases hgb : Table.get? bs key with
        | none => rfl
        | some b =>
          cases hgc : Table.get? cs key with
          | none => rfl
          | some c =>
            exact congrArg some (ih _ (Table.mem_of_get? hgd) (hd.of_get? hgd) (hb.of_get? hgb)
              (hc.of_get? hgc) (h.behind hgd hgb hgc))

/-- Without that condition the law fails: the nearer base may hide what the farther one adds. -/
example :
    let d : Value := mapping [("a", mapping [])]
    let b : Value := mapping [("a", null)]
    let c : Value := mapping [("a", mapping [("x", null)])]
    d.merge (b.merge c) = d ∧ (d.merge b).merge c = c := by
  decide

end Value

/-- The entries of the mapping at the end of a path; none if there is no mapping. -/
def Fields.entriesAt (fields : Fields) (path : List String) : Fields :=
  (((Value.mapping fields).under path).map Value.entries).getD []

/-- Where the first side has a mapping, the merge has one with the same keys in the same order, and
behind them those that only the base has there. -/
lemma Fields.under_merge_of_mapping {d b ds : Fields}
    (h : (Value.mapping d).under path = some (.mapping ds)) :
    ∃ ms : Fields, (Value.mapping (d.merge b)).under path = some (.mapping ms) ∧
      ms.keys = ds.keys ++ (b.entriesAt path).keys.filter fun key => !ds.has key := by
  have hmerge := Value.under_merge_of_under (w := .mapping b) h
  rw [Value.merge_mapping] at hmerge
  refine ⟨ds.merge (b.entriesAt path), ?_, keys_merge _ _⟩
  rw [hmerge, entriesAt]
  cases (Value.mapping b).under path with
  | none => exact congrArg (some <| Value.mapping ·) (merge_nil ds).symm
  | some y => exact congrArg some (Value.mapping_merge ds y)

/-- What a merge holds at each path, with the order of the keys of its mappings, and the laws of
merging that follow. -/
theorem Fields.merge_along_paths {d b c : Fields} (hd : d.WellKeyed) (hb : b.WellKeyed)
    (hc : c.WellKeyed) :
    (∀ path,
      (∀ x, (Value.mapping d).under path = some x → x.isMapping = false →
        (Value.mapping (d.merge b)).under path = some x) ∧
      (∀ ds : Fields, (Value.mapping d).under path = some (.mapping ds) →
        ∃ ms : Fields, (Value.mapping (d.merge b)).under path = some (.mapping ms) ∧
          ms.keys = ds.keys ++ (entriesAt b path).keys.filter fun key => !ds.has key) ∧
      ((Value.mapping d).under path = none →
        ((Value.mapping d).Barred path → (Value.mapping (d.merge b)).under path = none) ∧
        (¬(Value.mapping d).Barred path →
          (Value.mapping (d.merge b)).under path = (Value.mapping b).under path))) ∧
    (d.merge b).merge b = d.merge b ∧ d.merge d = d ∧
    ((Value.mapping b).Bridges (.mapping d) (.mapping c) →
      d.merge (b.merge c) = (d.merge b).merge c) := by
  refine ⟨fun path => ⟨fun x hx hm => ?_, fun ds => under_merge_of_mapping, fun hnone => ?_⟩,
    ?_, ?_, fun h => ?_⟩
  · rw [← Value.merge_mapping]
    exact Value.under_merge_of_not_isMapping hx hm
  · rw [← Value.merge_mapping]
    exact ⟨Value.under_merge_of_barred, fun hfree =>
      Value.under_merge_of_open (Value.open_of_not_barred hnone hfree) _⟩
  · have hagain := Value.merge_merge_base (v := .mapping d) (w := .mapping b) hd hb
    rw [Value.merge_mapping, Value.merge_mapping] at hagain
    exact Value.mapping.inj hagain
  · have hself := Value.merge_self (v := .mapping d) hd
    rw [Value.merge_mapping] at hself
    exact Value.mapping.inj hself
  · have hassoc := Value.merge_assoc (d := .mapping d) (b := .mapping b) hd hb hc h
    simp only [Value.merge_mapping] at hassoc
    exact Value.mapping.inj hassoc

theorem Fields.merge_along_paths_nested :
    let d : Fields := [("t", .mapping [("v", .null)]), ("s", .string "own")]
    let b : Fields := [("s", .mapping [("y", .null)]), ("n", .boolean true),
      ("t", .mapping [("r", .null), ("v", .mapping [])])]
    let c : Fields := [("t", .mapping [("q", .null)])]
    d.WellKeyed ∧ b.WellKeyed ∧ c.WellKeyed ∧ (Value.mapping b).Bridges (.mapping d) (.mapping c) ∧
      (Value.mapping d).Barred ["s", "y"] ∧
      (Value.mapping (d.merge b)).under ["s", "y"] = none ∧
      (Value.mapping (d.merge b)).under ["n"] = some (.boolean true) ∧
      d.merge (b.merge c) = (d.merge b).merge c := by
  intro d b c
  have hd : d.WellKeyed := by
    simp [d, WellKeyed, Value.WellKeyed, Value.WellKeyedFields, Table.keys]
  have hb : b.WellKeyed := by
    simp [b, WellKeyed, Value.WellKeyed, Value.WellKeyedFields, Table.keys]
  have hc : c.WellKeyed := by
    simp [c, WellKeyed, Value.WellKeyed, Value.WellKeyedFields, Table.keys]
  have hbridges : (Value.mapping b).Bridges (.mapping d) (.mapping c) := by
    intro path ds cs _ hcs x hx
    cases path with
    | nil =>
      obtain rfl := Option.some.inj hx
      rfl
    | cons key rest =>
      by_cases hkey : key = "t"
      · subst hkey
        cases rest with
        | nil =>
          obtain rfl := Option.some.inj hx
          rfl
        | cons inner rest =>
          by_cases hinner : inner = "q"
          · subst hinner
            cases rest <;> cases hcs
          · simp [c, Value.under_mapping_cons, Table.get?_cons, Ne.symm hinner] at hcs
      · simp [c, Value.under_mapping_cons, Table.get?_cons, Ne.symm hkey] at hcs
  have hbarred : (Value.mapping d).Barred ["s", "y"] :=
    ⟨["s"], .string "own", by decide, by decide, by decide, rfl⟩
  obtain ⟨hpaths, -, -, hassoc⟩ := merge_along_paths hd hb hc
  refine ⟨hd, hb, hc, hbridges, hbarred, ?_, ?_, hassoc hbridges⟩
  · exact ((hpaths ["s", "y"]).2.2 (by decide)).1 hbarred
  · rw [((hpaths ["n"]).2.2 (by decide)).2 (Value.not_barred_singleton d "n")]
    decide

end Registry
