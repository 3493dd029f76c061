import Mathlib.Data.List.Induction
import Mathlib.Data.List.Nodup
import Registry.Table

/-!
# Looking keys up

What every operation on a table does to the keys and to what is found under them. A table without
repeated keys is determined by its keys, in order, and by what is found under each of them.
-/

namespace Registry.Table

variable {α β : Type}

lemma get?_append (t u : Table α) (key : String) :
    get? (t ++ u) key = (get? t key).or (get? u key) := by
  induction t with
  | nil => simp
  | cons e t ih =>
    obtain ⟨k, v⟩ := e
    rw [List.cons_append, get?_cons, get?_cons]
    by_cases h : k = key
    · simp [h]
    · rw [if_neg h, if_neg h, ih]

lemma get?_eq_none_iff {t : Table α} {key : String} : get? t key = none ↔ key ∉ keys t := by
  rw [← has_iff_mem_keys, has]
  cases get? t key <;> simp

lemma mem_keys_of_get? {t : Table α} {key : String} {v : α} (h : get? t key = some v) :
    key ∈ keys t := by
  rw [← has_iff_mem_keys, has, h]
  rfl

lemma mem_of_get? {t : Table α} {key : String} {v : α} (h : get? t key = some v) :
    (key, v) ∈ t := by
  induction t with
  | nil => simp at h
  | cons e t ih =>
    obtain ⟨k, w⟩ := e
    rw [get?_cons] at h
    by_cases hk : k = key
    · rw [if_pos hk, Option.some.injEq] at h
      simp [hk, h]
    · rw [if_neg hk] at h
      exact List.mem_cons_of_mem _ (ih h)

lemma mem_keys_of_mem {t : Table α} {e : String × α} (h : e ∈ t) : e.1 ∈ keys t :=
  List.mem_map_of_mem h

/-- Where all entries of a key agree, the first one is as good as any. -/
lemma get?_of_mem_of_unique {t : Table α} {key : String} {v : α} (h : (key, v) ∈ t)
    (hu : ∀ w, (key, w) ∈ t → w = v) : get? t key = some v := by
  cases hg : get? t key with
  | none => exact absurd (mem_keys_of_mem h) (get?_eq_none_iff.1 hg)
  | some w => rw [hu w (mem_of_get? hg)]

lemma eq_of_mem_of_nodup {t : Table α} (hn : t.keys.Nodup) {key : String} {v w : α}
    (hv : (key, v) ∈ t) (hw : (key, w) ∈ t) : v = w :=
  congrArg Prod.snd (List.inj_on_of_nodup_map hn hv hw rfl)

lemma get?_of_mem {t : Table α} (hn : t.keys.Nodup) {key : String} {v : α} (h : (key, v) ∈ t) :
    get? t key = some v :=
  get?_of_mem_of_unique h fun _ hw => eq_of_mem_of_nodup hn hw h

lemma has_of_keys_eq {t : Table α} {u : Table β} (h : u.keys = t.keys) (key : String) :
    u.has key = t.has key := by
  rw [Bool.eq_iff_iff, has_iff_mem_keys, has_iff_mem_keys, h]

/-- Under each key two tables with the same keys both have something, or neither has. -/
lemma get?_of_keys_eq {t : Table α} {u : Table β} (h : u.keys = t.keys) (key : String) :
    (get? t key = none ∧ get? u key = none) ∨ ∃ v w, get? t key = some v ∧ get? u key = some w := by
  have hhas := has_of_keys_eq h key
  rw [has, has] at hhas
  cases hv : get? t key with
  | none =>
    rw [hv] at hhas
    exact .inl ⟨rfl, by simpa using hhas⟩
  | some v =>
    rw [hv, Option.isSome_some] at hhas
    obtain ⟨w, hw⟩ := Option.isSome_iff_exists.1 hhas
    exact .inr ⟨v, w, rfl, hw⟩

/-- The keys in order and what is found under them make up the whole table. -/
theorem eq_of_keys_of_get? {t u : Table α} (hn : t.keys.Nodup) (hk : t.keys = u.keys)
    (hg : ∀ key, get? t key = get? u key) : t = u := by
  induction t generalizing u with
  | nil =>
    cases u with
    | nil => rfl
    | cons e u => simp [keys] at hk
  | cons e t ih =>
    obtain ⟨k, v⟩ := e
    cases u with
    | nil => simp at hk
    | cons e' u =>
      obtain ⟨k', v'⟩ := e'
      simp only [keys_cons, List.cons.injEq] at hk
      obtain ⟨rfl, hk⟩ := hk
      rw [keys_cons, List.nodup_cons] at hn
      have hv : v = v' := by simpa [get?_cons] using hg k
      have ht : t = u := by
        apply ih hn.2 hk
        intro key
        by_cases h : k = key
        · subst h
          rw [get?_eq_none_iff.2 hn.1, get?_eq_none_iff.2 (hk ▸ hn.1)]
        · simpa [get?_cons, h] using hg key
      rw [hv, ht]

lemma insert_of_get?_eq_none {t : Table α} {key : String} (h : get? t key = none) (v : α) :
    insert t key v = t ++ [(key, v)] := by
  induction t with
  | nil => rfl
  | cons e t ih =>
    obtain ⟨k, w⟩ := e
    rw [get?_cons] at h
    by_cases hk : k = key
    · simp [hk] at h
    · rw [if_neg hk] at h
      rw [insert, if_neg hk, ih h, List.cons_append]

/-- Without repeated keys, the order of the entries does not matter to what is found. -/
lemma get?_of_perm {t u : Table α} (hn : t.keys.Nodup) (h : u.Perm t) (key : String) :
    u.get? key = t.get? key := by
  have hkeys : u.keys.Perm t.keys := h.map Prod.fst
  cases hg : t.get? key with
  | none => exact get?_eq_none_iff.2 fun hk => get?_eq_none_iff.1 hg (hkeys.mem_iff.1 hk)
  | some v => exact get?_of_mem (hkeys.nodup_iff.2 hn) (h.mem_iff.2 (mem_of_get? hg))

lemma get?_insert (t : Table α) (key : String) (v : α) (other : String) :
    get? (insert t key v) other = if key = other then some v else get? t other := by
  by_cases h : key = other
  · rw [if_pos h, ← h, get?_insert_self]
  · rw [if_neg h, get?_insert_of_ne t v h]

lemma insert_of_get? {t : Table α} {key : String} {v : α} (h : get? t key = some v) :
    t.insert key v = t := by
  induction t with
  | nil => cases h
  | cons e t ih =>
    obtain ⟨k, w⟩ := e
    rw [get?_cons] at h
    by_cases hk : k = key
    · rw [if_pos hk, Option.some.injEq] at h
      rw [insert, if_pos hk, h]
    · rw [if_neg hk] at h
      rw [insert, if_neg hk, ih h]

lemma keys_insert_of_mem {t : Table α} {key : String} (h : key ∈ keys t) (v : α) :
    keys (insert t key v) = keys t := by
  rw [keys_insert, if_pos h]

lemma get?_mapValues (f : String → α → β) (t : Table α) (key : String) :
    get? (mapValues f t) key = (get? t key).map (f key) := by
  induction t with
  | nil => rfl
  | cons e t ih =>
    obtain ⟨k, v⟩ := e
    change get? ((k, f k v) :: mapValues f t) key = _
    rw [get?_cons, get?_cons, ih]
    by_cases h : k = key
    · simp [h]
    · simp [h]

lemma has_mapValues (f : String → α → β) (t : Table α) (key : String) :
    (mapValues f t).has key = t.has key := by
  rw [has, has, get?_mapValues, Option.isSome_map]

lemma insert_mapValues (f : String → α → β) (t : Table α) (key : String) (v : α) :
    insert (mapValues f t) key (f key v) = mapValues f (insert t key v) := by
  induction t with
  | nil => rfl
  | cons e t ih =>
    obtain ⟨k, w⟩ := e
    change insert ((k, f k w) :: mapValues f t) key (f key v) = _
    rw [insert, insert]
    split
    · next hk =>
      subst hk
      rfl
    · rw [ih]
      rfl

lemma mem_mapValues {f : String → α → β} {t : Table α} {e : String × β} :
    e ∈ mapValues f t ↔ ∃ v, (e.1, v) ∈ t ∧ e.2 = f e.1 v := by
  obtain ⟨k, w⟩ := e
  simp only [mapValues, List.mem_map, Prod.mk.injEq, Prod.exists]
  constructor
  · rintro ⟨k', v, hv, rfl, rfl⟩
    exact ⟨v, hv, rfl⟩
  · rintro ⟨v, hv, rfl⟩
    exact ⟨k, v, hv, rfl, rfl⟩

lemma mapValues_congr {f g : String → α → β} {t : Table α} (h : ∀ e ∈ t, f e.1 e.2 = g e.1 e.2) :
    mapValues f t = mapValues g t :=
  List.map_congr_left fun e he => by rw [h e he]

lemma mapValues_eq_self {f : String → α → α} {t : Table α} (h : ∀ e ∈ t, f e.1 e.2 = e.2) :
    mapValues f t = t := by
  conv_rhs => rw [← List.map_id t]
  exact List.map_congr_left fun e he => by rw [h e he]; rfl

/-- Storing under a known key changes one value and nothing else. -/
lemma insert_eq_mapValues {t : Table α} (hn : t.keys.Nodup) {key : String} (h : key ∈ keys t)
    (v : α) : insert t key v = mapValues (fun k w => if key = k then v else w) t := by
  apply eq_of_keys_of_get? (nodup_keys_insert hn key v)
  · rw [keys_insert_of_mem h, keys_mapValues]
  · intro other
    rw [get?_insert, get?_mapValues]
    by_cases ho : key = other
    · subst ho
      obtain ⟨w, hw⟩ := Option.ne_none_iff_exists'.1 (mt get?_eq_none_iff.1 (not_not.2 h))
      simp [hw]
    · simp [ho]

lemma keys_append (t u : Table α) : keys (t ++ u) = keys t ++ keys u := List.map_append

lemma get?_replaceEntry {t : Table α} (hn : t.keys.Nodup) {entry : String × α} {key : String}
    (he : entry.1 ∉ keys t) (hk : key ∈ keys t) (other : String) :
    get? (replaceEntry entry t key) other =
      if other = key then none else if other = entry.1 then some entry.2 else get? t other := by
  induction t with
  | nil => simp at hk
  | cons e t ih =>
    obtain ⟨k, v⟩ := e
    rw [keys_cons, List.nodup_cons] at hn
    rw [keys_cons, List.mem_cons, not_or] at he
    by_cases h : k = key
    · subst h
      have hkey := get?_eq_none_iff.2 hn.1
      rw [replaceEntry, if_pos rfl, get?_cons, get?_cons]
      grind
    · have hk' : key ∈ keys t := by
        rw [keys_cons, List.mem_cons] at hk
        exact hk.resolve_left fun h' => h h'.symm
      rw [replaceEntry, if_neg h, get?_cons, get?_cons, ih hn.2 he.2 hk']
      grind

lemma keys_replaceEntry_perm {t : Table α} {entry : String × α} {key : String}
    (hk : key ∈ keys t) : (key :: keys (replaceEntry entry t key)).Perm (entry.1 :: keys t) := by
  induction t with
  | nil => simp at hk
  | cons e t ih =>
    obtain ⟨k, v⟩ := e
    by_cases h : k = key
    · subst h
      rw [replaceEntry, if_pos rfl, keys_cons, keys_cons]
      exact List.Perm.swap _ _ _
    · have hk' : key ∈ keys t := by
        rw [keys_cons, List.mem_cons] at hk
        exact hk.resolve_left fun h' => h h'.symm
      rw [replaceEntry, if_neg h, keys_cons, keys_cons]
      exact ((List.Perm.swap _ _ _).trans ((ih hk').cons k)).trans (List.Perm.swap _ _ _)

/-- Removing an absent key changes nothing. -/
lemma swapErase_of_not_mem {t : Table α} {key : String} (h : key ∉ keys t) :
    swapErase t key = t := by
  unfold swapErase
  cases hl : t.getLast? with
  | none => rfl
  | some last =>
    have hm : last.1 ∈ keys t := mem_keys_of_mem (List.mem_of_getLast? hl)
    have hne : last.1 ≠ key := fun he => h (he ▸ hm)
    have hh : t.has key = false := by
      rw [Bool.eq_false_iff]
      exact fun hh => h ((has_iff_mem_keys t key).1 hh)
    simp [hne, hh]

lemma replaceEntry_mapValues (f : String → α → β) (entry : String × α) (t : Table α) (key : String) :
    replaceEntry (entry.1, f entry.1 entry.2) (mapValues f t) key =
      mapValues f (replaceEntry entry t key) := by
  induction t with
  | nil => rfl
  | cons e t ih =>
    obtain ⟨k, v⟩ := e
    change replaceEntry _ ((k, f k v) :: mapValues f t) key = _
    rw [replaceEntry, replaceEntry]
    split
    · rfl
    · rw [ih]
      rfl

/-- A key can be removed before or after the values are changed. -/
lemma swapErase_mapValues (f : String → α → β) (t : Table α) (key : String) :
    swapErase (mapValues f t) key = mapValues f (swapErase t key) := by
  have hlast : (mapValues f t).getLast? = t.getLast?.map fun e => (e.1, f e.1 e.2) :=
    List.getLast?_map
  have hdrop : (mapValues f t).dropLast = mapValues f t.dropLast := List.map_dropLast.symm
  unfold swapErase
  rw [hlast, hdrop, has_mapValues]
  cases t.getLast? with
  | none => rfl
  | some last =>
    dsimp only [Option.map_some]
    split
    · rfl
    · split
      · exact replaceEntry_mapValues f last _ key
      · rfl

/-- Which keys are left where does not depend on the values. -/
lemma keys_swapErase_congr {t : Table α} {u : Table β} (h : t.keys = u.keys) (key : String) :
    (swapErase t key).keys = (swapErase u key).keys := by
  have hkeys : mapValues (fun _ _ => ()) t = mapValues (fun _ _ => ()) u := by
    have hmap : ∀ {γ : Type} (w : Table γ), mapValues (fun _ _ => ()) w = w.keys.map (·, ()) := by
      intro γ w
      rw [keys, List.map_map]
      rfl
    rw [hmap, hmap, h]
  rw [← keys_mapValues (fun _ _ => ()) (swapErase t key), ← swapErase_mapValues, hkeys,
    swapErase_mapValues, keys_mapValues]

/-- Without repeated keys, removing a key leaves all others what they were. -/
theorem get?_swapErase {t : Table α} (hn : t.keys.Nodup) (key other : String) :
    get? (swapErase t key) other = if other = key then none else get? t other := by
  by_cases hmem : key ∈ keys t
  · obtain ⟨front, last, rfl⟩ : ∃ front last, t = front ++ [last] := by
      rcases List.eq_nil_or_concat t with rfl | ⟨front, last, h⟩
      · simp at hmem
      · exact ⟨front, last, by rw [h, List.concat_eq_append]⟩
    obtain ⟨k, v⟩ := last
    rw [keys_append, List.nodup_append] at hn
    obtain ⟨hf, -, hd⟩ := hn
    have hk : k ∉ keys front := fun hk => hd k hk k (by simp) rfl
    rw [get?_append, get?_cons, get?_nil]
    by_cases h : k = key
    · subst h
      have hnone := get?_eq_none_iff.2 hk
      simp only [swapErase, List.getLast?_append, List.getLast?_singleton, Option.some_or,
        List.dropLast_concat, if_true]
      grind
    · have hkey : key ∈ keys front := by
        rw [keys_append, List.mem_append] at hmem
        exact hmem.resolve_right fun h' => h (List.mem_singleton.1 h').symm
      have hhas : has (front ++ [(k, v)]) key = true := (has_iff_mem_keys _ _).2 hmem
      have hnone := get?_eq_none_iff.2 hk
      simp only [swapErase, List.getLast?_append, List.getLast?_singleton, Option.some_or,
        List.dropLast_concat, if_neg h, hhas, if_true]
      rw [get?_replaceEntry hf hk hkey]
      grind
  · rw [swapErase_of_not_mem hmem]
    by_cases h : other = key
    · rw [if_pos h, h, get?_eq_none_iff.2 hmem]
    · rw [if_neg h]

/-- Removing a present key removes it from the keys. -/
lemma keys_swapErase_perm {t : Table α} {key : String} (h : key ∈ keys t) :
    (key :: keys (swapErase t key)).Perm (keys t) := by
  obtain ⟨front, last, rfl⟩ : ∃ front last, t = front ++ [last] := by
    rcases List.eq_nil_or_concat t with rfl | ⟨front, last, ht⟩
    · simp at h
    · exact ⟨front, last, by rw [ht, List.concat_eq_append]⟩
  obtain ⟨k, v⟩ := last
  have hlast : (k :: keys front).Perm (keys (front ++ [(k, v)])) := by
    rw [keys_append]
    exact (List.perm_append_singleton k (keys front)).symm
  by_cases hk : k = key
  · subst hk
    simpa [swapErase] using hlast
  · have hkey : key ∈ keys front := by
      rw [keys_append, List.mem_append] at h
      exact h.resolve_right fun h' => hk (List.mem_singleton.1 h').symm
    have hhas : has (front ++ [(k, v)]) key = true := (has_iff_mem_keys _ _).2 h
    simp only [swapErase, List.getLast?_append, List.getLast?_singleton, Option.some_or,
      List.dropLast_concat, if_neg hk, hhas, if_true]
    exact (keys_replaceEntry_perm hkey).trans hlast

lemma nodup_keys_swapErase {t : Table α} (hn : t.keys.Nodup) (key : String) :
    (swapErase t key).keys.Nodup := by
  by_cases h : key ∈ keys t
  · exact ((keys_swapErase_perm h).nodup_iff.2 hn).of_cons
  · rwa [swapErase_of_not_mem h]

/-- What a key held does not matter once it is removed. -/
lemma swapErase_congr {t u : Table α} (hn : t.keys.Nodup) (hk : t.keys = u.keys) {key : String}
    (h : ∀ other, other ≠ key → get? t other = get? u other) : swapErase t key = swapErase u key := by
  refine eq_of_keys_of_get? (nodup_keys_swapErase hn key) (keys_swapErase_congr hk key) fun other => ?_
  rw [get?_swapErase hn, get?_swapErase (hk ▸ hn)]
  split
  · rfl
  · next hne => exact h other hne

/-- What is left after a removal was there before. -/
lemma mem_of_mem_swapErase {t : Table α} (hn : t.keys.Nodup) {key : String} {e : String × α}
    (h : e ∈ swapErase t key) : e ∈ t := by
  obtain ⟨k, v⟩ := e
  have hg := get?_of_mem (nodup_keys_swapErase hn key) h
  rw [get?_swapErase hn] at hg
  by_cases hk : k = key
  · simp [hk] at hg
  · rw [if_neg hk] at hg
    exact mem_of_get? hg

section entries

variable {entries : List (String × α)} {key : String}

lemma ofEntries_concat (entries : List (String × α)) (e : String × α) :
    ofEntries (entries ++ [e]) = (ofEntries entries).insert e.1 e.2 := by
  rw [ofEntries, List.foldl_append]
  rfl

lemma mem_keys_ofEntries : key ∈ (ofEntries entries).keys ↔ key ∈ entries.map Prod.fst := by
  induction entries using List.reverseRecOn with
  | nil => rfl
  | append_singleton entries e ih =>
    rw [ofEntries_concat, keys_insert, List.map_append, List.mem_append, ← ih]
    split
    · next h =>
      rw [List.map_singleton, List.mem_singleton]
      exact ⟨.inl, fun hm => hm.elim id fun he => he ▸ h⟩
    · exact List.mem_append

/-- The last entry of a key counts. -/
lemma get?_ofEntries (before : List (String × α)) (e : String × α) {after : List (String × α)}
    (h : ∀ e' ∈ after, e'.1 ≠ e.1) : (ofEntries (before ++ e :: after)).get? e.1 = some e.2 := by
  induction after using List.reverseRecOn with
  | nil =>
    rw [ofEntries_concat]
    exact get?_insert_self _ _ _
  | append_singleton after last ih =>
    obtain ⟨hafter, hlast⟩ := List.forall_mem_append.1 h
    rw [← List.cons_append, ← List.append_assoc, ofEntries_concat,
      get?_insert_of_ne _ _ (hlast last (List.mem_singleton_self last))]
    exact ih hafter

/-- A table is its entries if no key is repeated. -/
lemma ofEntries_eq_iff : ofEntries entries = entries ↔ (entries.map Prod.fst).Nodup := by
  constructor
  · intro h
    have hn := nodup_keys_ofEntries entries
    rwa [h] at hn
  · intro h
    induction entries using List.reverseRecOn with
    | nil => rfl
    | append_singleton entries e ih =>
      rw [List.map_append, List.map_singleton, ← List.concat_eq_append, List.nodup_concat] at h
      have hnew : (ofEntries entries).get? e.1 = none :=
        get?_eq_none_iff.2 (mt mem_keys_ofEntries.1 h.1)
      rw [ofEntries_concat, insert_of_get?_eq_none hnew, ih h.2]

end entries

end Registry.Table
