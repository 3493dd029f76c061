import Registry.Proofs.Merging
import Registry.Value.Pointer

/-!
# The text of a pointer

The tokens of a pointer can be read back from its text, so different places have different pointers,
and the pointer of a place leads to it.
-/

namespace Registry

namespace Pointer

lemma ofTokens_cons (token : String) (tokens : List String) :
    ofTokens (token :: tokens) = "/" ++ escape token ++ ofTokens tokens := rfl

lemma toList_ofTokens_cons (token : String) (tokens : List String) :
    (ofTokens (token :: tokens)).toList =
      '/' :: ['/'].intercalate ((token :: tokens).map fun t => escapeChars t.toList) := by
  induction tokens generalizing token with
  | nil => simp [ofTokens, escape]
  | cons next tokens ih =>
    rw [ofTokens_cons, String.toList_append, String.toList_append, ih]
    simp [escape, List.intercalate]

/-- The text of a pointer gives back its tokens. -/
theorem tokens?_ofTokens (tokens : List String) : tokens? (ofTokens tokens) = some tokens := by
  cases tokens with
  | nil => rfl
  | cons token tokens =>
    have hfree : ∀ l ∈ (token :: tokens).map (fun t => escapeChars t.toList), '/' ∉ l := by
      intro l hl
      obtain ⟨t, -, rfl⟩ := List.mem_map.1 hl
      exact slash_not_mem_escapeChars t.toList
    unfold tokens?
    rw [toList_ofTokens_cons]
    simp only [List.splitOn_intercalate '/' hfree (by simp), List.map_map]
    simp [Function.comp_def, unescapeChars_escapeChars]

theorem ofTokens_injective {ts us : List String} (h : ofTokens ts = ofTokens us) : ts = us := by
  have hread := congrArg tokens? h
  rwa [tokens?_ofTokens, tokens?_ofTokens, Option.some.injEq] at hread

lemma ofFragment_ofTokens {tokens : List String} (h : tokens ≠ []) :
    ofFragment (ofTokens tokens) = ofTokens tokens := by
  obtain ⟨token, rest, rfl⟩ := List.exists_cons_of_ne_nil h
  unfold ofFragment
  rw [toList_ofTokens_cons, List.dropWhile_cons_of_neg (by decide)]
  change String.ofList ('/' :: _) = _
  rw [← toList_ofTokens_cons, String.ofList_toList]

lemma ofFragment_hash (fragment : String) : ofFragment ("#" ++ fragment) = ofFragment fragment := by
  have hs : ("#" ++ fragment).toList = '#' :: fragment.toList := by
    rw [String.toList_append]
    rfl
  rw [ofFragment, ofFragment, hs, List.dropWhile_cons_of_pos (by decide)]

end Pointer

namespace Value

lemma at?_of_under {v x : Value} {path : List String} (h : v.under path = some x) :
    v.at? path = some x := by
  induction path generalizing v with
  | nil => exact h
  | cons key rest ih =>
    obtain ⟨fields, rfl, w, hw, hx⟩ := under_cons_eq_some.1 h
    rw [at?, child?, hw]
    exact ih hx

lemma fragmentTokens?_ofTokens {tokens : List String} (h : tokens ≠ []) :
    fragmentTokens? (Pointer.ofTokens tokens) = some tokens := by
  rw [fragmentTokens?, Pointer.ofFragment_ofTokens h, Pointer.tokens?_ofTokens]

lemma lookup_ofTokens (v : Value) {tokens : List String} (h : tokens ≠ []) :
    v.lookup (Pointer.ofTokens tokens) = v.at? tokens := by
  rw [lookup, fragmentTokens?_ofTokens h]
  rfl

lemma wellKeyed_at? {v x : Value} (hv : v.WellKeyed) {path : List String}
    (h : v.at? path = some x) : x.WellKeyed := by
  induction path generalizing v with
  | nil => exact Option.some.inj h ▸ hv
  | cons token rest ih =>
    obtain ⟨w, hw, hx⟩ := Option.bind_eq_some_iff.1 h
    refine ih ?_ hx
    cases v with
    | mapping fields => exact Fields.WellKeyed.of_get? hv hw
    | sequence items =>
      obtain ⟨i, -, hi⟩ := Option.bind_eq_some_iff.1 hw
      exact (wellKeyedItems_iff items).1 hv w (List.mem_of_getElem? hi)
    | _ => simp [child?] at hw

lemma wellKeyed_lookup {v x : Value} (hv : v.WellKeyed) {pointer : String}
    (h : v.lookup pointer = some x) : x.WellKeyed := by
  obtain ⟨tokens, -, hx⟩ := Option.bind_eq_some_iff.1 h
  exact wellKeyed_at? hv hx

end Value

end Registry
