import Registry.Fetcher
import Registry.Proofs.Merging

/-!
# Documents that are read repeat no key

A text may give a key of a mapping several times, in JSON and in YAML. Its document has each key
once, at every depth, and so has the version object that the attributes of a registry describe.
-/

namespace Registry

lemma Fields.wellKeyed_ofEntries {entries : List (String × Value)}
    (h : ∀ e ∈ entries, e.2.WellKeyed) : Fields.WellKeyed (Table.ofEntries entries) := by
  have hfold : ∀ (entries : List (String × Value)) (fields : Fields), fields.WellKeyed →
      (∀ e ∈ entries, e.2.WellKeyed) →
      Fields.WellKeyed (entries.foldl (fun t e => t.insert e.1 e.2) fields) := by
    intro entries
    induction entries with
    | nil => exact fun _ hf _ => hf
    | cons e entries ih =>
      intro fields hf he
      exact ih _ (hf.insert (he e List.mem_cons_self)) fun d hd => he d (List.mem_cons_of_mem _ hd)
  exact hfold entries [] Fields.wellKeyed_nil h

lemma Value.wellKeyed_sequence {items : List Value} (h : ∀ v ∈ items, v.WellKeyed) :
    (Value.sequence items).WellKeyed :=
  (wellKeyedItems_iff items).2 h

namespace Json

variable {item : (s : List Char) → Option (Value × Tail s)}

lemma wellKeyed_of_readItems (hitem : ∀ s v r, item s = some (v, r) → v.WellKeyed)
    {s : List Char} {vs : List Value} {r : Tail s} (h : readItems item s = some (vs, r)) :
    ∀ v ∈ vs, v.WellKeyed := by
  fun_induction readItems item s generalizing vs with
  | case1 | case4 => simp at h
  | case2 s v r' hv r'' hr =>
    simp only [Option.some.injEq, Prod.mk.injEq] at h
    obtain ⟨rfl, -⟩ := h
    simpa using hitem s v r' hv
  | case3 s v r' hv r'' hr hlt ih =>
    obtain ⟨⟨rest, tail⟩, hrest, he⟩ := Option.map_eq_some_iff.1 h
    rw [Prod.mk.injEq] at he
    rw [← he.1, List.forall_mem_cons]
    exact ⟨hitem s v r' hv, ih hrest⟩

lemma wellKeyed_of_readEntry (hitem : ∀ s v r, item s = some (v, r) → v.WellKeyed)
    {s : List Char} {e : String × Value} {r : Tail s} (h : readEntry item s = some (e, r)) :
    e.2.WellKeyed := by
  unfold readEntry at h
  split at h
  · split at h
    · simp at h
    · split at h
      · obtain ⟨⟨v, rest⟩, hv, he⟩ := Option.map_eq_some_iff.1 h
        rw [Prod.mk.injEq] at he
        rw [← he.1]
        exact hitem _ v rest hv
      · simp at h
  · simp at h

lemma wellKeyed_of_readEntries (hitem : ∀ s v r, item s = some (v, r) → v.WellKeyed)
    {s : List Char} {es : List (String × Value)} {r : Tail s}
    (h : readEntries item s = some (es, r)) : ∀ e ∈ es, e.2.WellKeyed := by
  fun_induction readEntries item s generalizing es with
  | case1 | case4 => simp at h
  | case2 s e r he r' hr =>
    simp only [Option.some.injEq, Prod.mk.injEq] at h
    obtain ⟨rfl, -⟩ := h
    simpa using wellKeyed_of_readEntry hitem he
  | case3 s e r he r' hr hlt ih =>
    obtain ⟨⟨rest, tail⟩, hrest, hes⟩ := Option.map_eq_some_iff.1 h
    rw [Prod.mk.injEq] at hes
    rw [← hes.1, List.forall_mem_cons]
    exact ⟨wellKeyed_of_readEntry hitem he, ih hrest⟩

lemma wellKeyed_of_readWord {word : String} {w v : Value} {s r : List Char} (hw : w.WellKeyed)
    (h : readWord word w s = some (v, r)) : v.WellKeyed := by
  unfold readWord at h
  split at h
  · rw [Option.some.injEq, Prod.mk.injEq] at h
    exact h.1 ▸ hw
  · simp at h

lemma wellKeyed_of_readScalar {s : List Char} {v : Value} {r : List Char}
    (h : readScalar s = some (v, r)) : v.WellKeyed := by
  unfold readScalar at h
  split at h
  case h_2 => exact wellKeyed_of_readWord (w := .null) trivial h
  case h_3 => exact wellKeyed_of_readWord (w := .boolean true) trivial h
  case h_4 => exact wellKeyed_of_readWord (w := .boolean false) trivial h
  all_goals
    obtain ⟨_, -, he⟩ := Option.map_eq_some_iff.1 h
    rw [Prod.mk.injEq] at he
    rw [← he.1]
    trivial

lemma eq_some_of_shorter {s : List Char} {read : Option (Value × List Char)} {v : Value} {r : Tail s}
    (h : (read.bind fun p => (shorter s p.2).bind fun rest => some (p.1, rest)) = some (v, r)) :
    ∃ t, read = some (v, t) := by
  obtain ⟨⟨w, t⟩, hr, h⟩ := Option.bind_eq_some_iff.1 h
  obtain ⟨rest, -, h⟩ := Option.bind_eq_some_iff.1 h
  rw [Option.some.injEq, Prod.mk.injEq] at h
  obtain ⟨rfl, -⟩ := h
  exact ⟨t, hr⟩

/-- A JSON value repeats no key in any of its objects. -/
theorem wellKeyed_of_readValue {depth : Nat} {s : List Char} {v : Value} {r : Tail s}
    (h : readValue depth s = some (v, r)) : v.WellKeyed := by
  induction depth generalizing s v with
  | zero =>
    unfold readValue at h
    simp only [Option.bind_eq_bind] at h
    split at h
    case h_1 | h_2 => simp at h
    case h_3 hd _ | h_4 hd _ => exact absurd hd (by simp)
    obtain ⟨t, ht⟩ := eq_some_of_shorter h
    exact wellKeyed_of_readScalar ht
  | succ depth ih =>
    unfold readValue at h
    simp only [Option.bind_eq_bind] at h
    split at h
    case h_1 | h_2 => simp at h
    case h_3 hd _ =>
      cases hd
      split at h
      all_goals obtain ⟨t, ht⟩ := eq_some_of_shorter h
      · rw [Option.some.injEq, Prod.mk.injEq] at ht
        exact ht.1 ▸ Value.wellKeyed_sequence (by simp)
      · obtain ⟨⟨vs, rest⟩, hvs, he⟩ := Option.map_eq_some_iff.1 ht
        rw [Prod.mk.injEq] at he
        exact he.1 ▸ Value.wellKeyed_sequence (wellKeyed_of_readItems (fun _ _ _ => ih) hvs)
    case h_4 hd _ =>
      cases hd
      split at h
      all_goals obtain ⟨t, ht⟩ := eq_some_of_shorter h
      · rw [Option.some.injEq, Prod.mk.injEq] at ht
        exact ht.1 ▸ Fields.wellKeyed_nil
      · obtain ⟨⟨es, rest⟩, hes, he⟩ := Option.map_eq_some_iff.1 ht
        rw [Prod.mk.injEq] at he
        exact he.1 ▸ Fields.wellKeyed_ofEntries (wellKeyed_of_readEntries (fun _ _ _ => ih) hes)
    case h_5 =>
      obtain ⟨t, ht⟩ := eq_some_of_shorter h
      exact wellKeyed_of_readScalar ht

lemma wellKeyed_of_read? {text : String} {v : Value} (h : read? text = some v) : v.WellKeyed := by
  unfold read? at h
  split at h
  case h_1 w r hr =>
    split at h
    · rw [Option.some.injEq] at h
      exact h ▸ wellKeyed_of_readValue hr
    · simp at h
  case h_2 => simp at h

end Json

namespace Yaml

lemma wellKeyed_of_realValue? {text : String} {v : Value} (h : realValue? text = some v) :
    v.WellKeyed := by
  unfold realValue? at h
  split at h
  · rw [Option.some.injEq] at h
    exact h ▸ trivial
  · obtain ⟨x, -, rfl⟩ := Option.map_eq_some_iff.1 h
    trivial

lemma wellKeyed_of_integerValue? {text : String} {v : Value}
    (h : integerValue? text = some (some v)) : v.WellKeyed := by
  unfold integerValue? at h
  split at h
  · simp at h
  · split at h <;> simp only [Option.some.injEq, reduceCtorEq] at h
    exact h ▸ trivial

lemma wellKeyed_of_plainValue? {text : String} {v : Value} (h : plainValue? text = some v) :
    v.WellKeyed := by
  unfold plainValue? at h
  split at h
  · rw [Option.some.injEq] at h
    exact h ▸ trivial
  · split at h
    · rw [Option.some.injEq] at h
      exact h ▸ trivial
    · split at h
      case h_1 w hw => exact wellKeyed_of_integerValue? (h ▸ hw)
      case h_2 =>
        split at h <;> rw [Option.some.injEq] at h
        · exact h ▸ trivial
        · cases hr : realValue? text with
          | some w => exact (by simpa [hr] using h : w = v) ▸ wellKeyed_of_realValue? hr
          | none => exact (by simpa [hr] using h : Value.string text = v) ▸ trivial

lemma wellKeyed_of_scalarValue? {tag : Option Tag} {text : String} {plain : Bool} {v : Value}
    (h : scalarValue? tag text plain = some v) : v.WellKeyed := by
  unfold scalarValue? at h
  split at h
  case h_1 =>
    split at h
    · exact wellKeyed_of_plainValue? h
    · rw [Option.some.injEq] at h
      exact h ▸ trivial
  case h_2 =>
    obtain ⟨b, -, rfl⟩ := Option.map_eq_some_iff.1 h
    trivial
  case h_3 =>
    obtain ⟨w, hw, rfl⟩ := Option.bind_eq_some_iff.1 h
    exact wellKeyed_of_integerValue? hw
  case h_4 => exact wellKeyed_of_realValue? h
  case h_5 | h_6 =>
    split at h <;> simp only [Option.some.injEq, reduceCtorEq] at h
    exact h ▸ trivial

/-- What a computation that follows aliases gives in each place, it gives in a list of them. -/
lemma forall_of_mapM_eq_some {α β : Type} {P : β → Prop} {f : α → Following β} {xs : List α}
    (hf : ∀ x ∈ xs, ∀ s y t, (f x).run s = some (y, t) → P y) {s : Nat} {ys : List β} {t : Nat}
    (h : (xs.mapM f).run s = some (ys, t)) : ∀ y ∈ ys, P y := by
  induction xs generalizing s ys t with
  | nil =>
    simp only [List.mapM_nil, StateT.run_pure, Option.pure_def, Option.some.injEq,
      Prod.mk.injEq] at h
    simp [← h.1]
  | cons x xs ih =>
    simp only [List.mapM_cons, StateT.run_bind, StateT.run_pure, Option.bind_eq_bind,
      Option.pure_def, Option.bind_eq_some_iff, Prod.exists, Option.some.injEq, Prod.mk.injEq] at h
    obtain ⟨y, u, hy, zs, w, hzs, rfl, -⟩ := h
    rw [List.forall_mem_cons]
    exact ⟨hf x List.mem_cons_self s y u hy, ih (fun x hx => hf x (List.mem_cons_of_mem _ hx)) hzs⟩

/-- Where the nodes inside have well-keyed values, so does the node around them. -/
lemma wellKeyed_of_valueBy {anchored : List (Nat × Node)} {inside? : Option (Node → Following Value)}
    (hin : ∀ inside ∈ inside?, ∀ n s v t, (inside n).run s = some (v, t) → v.WellKeyed)
    {n : Node} {s t : Nat} {v : Value} (h : (valueBy anchored inside? n).run s = some (v, t)) :
    v.WellKeyed := by
  unfold valueBy at h
  simp only [StateT.run_bind, Option.bind_eq_bind, Option.bind_eq_some_iff, Prod.exists] at h
  obtain ⟨w, u, -, h⟩ := h
  split at h
  case h_1 tag text plain =>
    cases hs : scalarValue? tag text plain with
    | none => simp [hs] at h
    | some x =>
      rw [hs] at h
      change some (x, u) = some (v, t) at h
      rw [Option.some.injEq, Prod.mk.injEq] at h
      exact h.1 ▸ wellKeyed_of_scalarValue? hs
  case h_2 =>
    split at h
    · simp at h
    · simp only [StateT.run_bind, StateT.run_pure, Option.bind_eq_bind, Option.pure_def,
        Option.bind_eq_some_iff, Prod.exists, Option.some.injEq, Prod.mk.injEq] at h
      obtain ⟨vs, u', hvs, rfl, -⟩ := h
      exact Value.wellKeyed_sequence (forall_of_mapM_eq_some (fun n _ => hin _ rfl n) hvs)
  case h_3 =>
    split at h
    · simp at h
    · simp only [StateT.run_bind, StateT.run_pure, Option.bind_eq_bind, Option.pure_def,
        Option.bind_eq_some_iff, Prod.exists, Option.some.injEq, Prod.mk.injEq] at h
      obtain ⟨es, u', hes, rfl, -⟩ := h
      refine Fields.wellKeyed_ofEntries (forall_of_mapM_eq_some (fun e _ s' y t' he => ?_) hes)
      simp only [StateT.run_bind, StateT.run_pure, Option.bind_eq_bind, Option.pure_def,
        Option.bind_eq_some_iff, Prod.exists, Option.some.injEq, Prod.mk.injEq] at he
      obtain ⟨key, s'', -, x, t'', hx, rfl, -⟩ := he
      exact hin _ rfl _ _ _ _ hx
  case h_4 => simp at h

/-- A YAML value repeats no key in any of its mappings. -/
theorem wellKeyed_of_valueOf {anchored : List (Nat × Node)} {depth : Nat} {n : Node} {s t : Nat}
    {v : Value} (h : (valueOf anchored depth n).run s = some (v, t)) : v.WellKeyed := by
  induction depth generalizing n s t v with
  | zero => exact wellKeyed_of_valueBy (by simp) h
  | succ depth ih =>
    refine wellKeyed_of_valueBy (fun inside hi n s v t hv => ?_) h
    rw [Option.mem_some_iff] at hi
    exact ih (hi ▸ hv)

lemma wellKeyed_of_read? {text : String} {v : Value} (h : read? text = some v) : v.WellKeyed := by
  unfold read? at h
  simp only [Option.bind_eq_bind, Option.bind_eq_some_iff] at h
  obtain ⟨tokens, -, n, -, h⟩ := h
  split at h
  · rw [Option.some.injEq] at h
    exact h ▸ trivial
  · obtain ⟨⟨w, t⟩, hw, rfl⟩ := Option.map_eq_some_iff.1 h
    exact wellKeyed_of_valueOf hw

end Yaml

/-- A text's document repeats no key, whatever the text and the policy. -/
theorem Document.wellKeyed_of_read? {policy : ParsePolicy} {text : String} {v : Value}
    (h : Document.read? policy text = some v) : v.WellKeyed := by
  unfold Document.read? at h
  split at h
  case h_1 w hw => exact Option.some.inj h ▸ Json.wellKeyed_of_read? hw
  case h_2 =>
    split at h
    case h_1 =>
      split at h
      · exact Option.some.inj h ▸ trivial
      · rw [Option.some.injEq] at h
        cases hy : Yaml.read? text with
        | none => exact h ▸ hy ▸ trivial
        | some w =>
          rw [hy] at h
          have hw := Yaml.wellKeyed_of_read? hy
          cases w <;> exact h ▸ hw
    case h_2 => exact Yaml.wellKeyed_of_read? h

namespace Fetcher

lemma wellKeyed_withAttributes (attributes : Table String) {document : Value}
    (h : document.WellKeyed) : (withAttributes attributes document).WellKeyed := by
  have hfold : ∀ (attributes : Table String) (fields : Fields), fields.WellKeyed →
      Fields.WellKeyed (attributes.foldl
        (fun fields e => fields.insert (attributeKey e.1) (.string e.2)) fields) := by
    intro attributes
    induction attributes with
    | nil => exact fun _ hf => hf
    | cons e attributes ih => exact fun _ hf => ih _ (hf.insert trivial)
  exact (hfold attributes [] Fields.wellKeyed_nil).insert h

/-- The document of whatever a source answers repeats no key. -/
theorem wellKeyed_of_parse {policy : ParsePolicy} {raw : RawDocument} {v : Value}
    (h : parse policy raw = some v) : v.WellKeyed := by
  unfold parse at h
  split at h
  · simp at h
  · obtain ⟨document, hd, rfl⟩ := Option.map_eq_some_iff.1 h
    have hw := Document.wellKeyed_of_read? hd
    split
    · exact wellKeyed_withAttributes raw.attributes hw
    · exact hw

lemma wellKeyed_of_readOf {policy : ParsePolicy} {location : String} {raw? : Option RawDocument}
    {v : Value} (h : (readOf policy location raw?).document = some v) : v.WellKeyed := by
  cases raw? with
  | none => simp [readOf] at h
  | some raw => exact wellKeyed_of_parse h

end Fetcher

end Registry
