import Registry.Inheritance
import Registry.Proofs.Placement
import Registry.Proofs.SelectedChanges
import Registry.Proofs.TextPieces

/-!
# Where a resource's URL leads

A composition puts the document of a URL where the segments of its path say, as they are written. The
pointer of a base that is named by a URL has the same segments with their escapes resolved. The two
agree on exactly those URLs where resolving the escapes changes nothing.
-/

namespace Registry

namespace Url

/-- No segment of the path has a slash in it. -/
def Path.Divided : Path → Prop
  | .segments parts => ∀ part ∈ parts, '/' ∉ part.toList
  | .rootless _ => True

variable {u : Url} {cs : List Char}

lemma divided_toPath (kind : Kind) (d : Draft) : (d.toPath kind).Divided := by
  unfold Draft.toPath
  split
  · simp [Path.Divided]
  · intro part hpart
    obtain ⟨piece, hpiece, rfl⟩ := List.mem_map.1 hpart
    rw [String.toList_ofList]
    exact Text.sep_not_mem_of_mem_splitOn hpiece

lemma divided_withPath (u : Url) (before : Draft) (cs : List Char) :
    (u.withPath before cs).path.Divided :=
  divided_toPath _ _

lemma divided_withPathStart (u : Url) (cs : List Char) :
    (u.withPathStart cs).path.Divided := by
  have hnone : (Path.segments []).Divided := by simp [Path.Divided]
  unfold withPathStart
  split
  · split
    · exact divided_withPath _ _ _
    · split
      · exact hnone
      · exact divided_withPath _ _ _
  · split
    · exact divided_withPath _ _ _
    · exact hnone

lemma divided_of_readAuthority {scheme : String} (h : readAuthority scheme cs = some u) :
    u.path.Divided := by
  obtain ⟨_, _, _, _, _, -, -, -, rfl⟩ := readAuthority_eq_some h
  exact divided_withPathStart _ _

lemma divided_of_readGeneral {scheme : String} (h : readGeneral scheme cs = some u) :
    u.path.Divided := by
  unfold readGeneral at h
  split at h
  · exact divided_of_readAuthority h
  · rw [← Option.some.inj h]
    exact divided_withPath _ _ _
  · rw [← Option.some.inj h]
    exact trivial

/-- The path of a URL that stands alone is divided at its slashes. -/
theorem divided_of_ofText? {text : String} (h : ofText? text = some u) : u.path.Divided := by
  unfold ofText? read? at h
  dsimp only at h
  split at h
  · split at h
    · rw [Option.filter_none] at h
      obtain ⟨_, _, rfl⟩ := readFile_none_eq_some h
      exact divided_withPath _ _ _
    · exact divided_of_readAuthority h
    · exact divided_of_readGeneral h
  · simp at h

lemma toList_toString_segments (part : String) (parts : List String) :
    (Path.segments (part :: parts)).toString.toList =
      '/' :: ['/'].intercalate ((part :: parts).map String.toList) := by
  induction parts generalizing part with
  | nil => simp [Path.toString]
  | cons next parts ih =>
    have hcons : (Path.segments (part :: next :: parts)).toString =
        "/" ++ part ++ (Path.segments (next :: parts)).toString := rfl
    rw [hcons, String.toList_append, String.toList_append, ih]
    simp [List.intercalate]

/-- Cutting the text of a divided path at its slashes gives back its segments. -/
lemma filter_pieces_toString {parts : List String} (h : (Path.segments parts).Divided) :
    (Text.pieces '/' (Path.segments parts).toString).filter (!·.isEmpty) =
      parts.filter (!·.isEmpty) := by
  cases parts with
  | nil => decide
  | cons part parts =>
    have hfree : ∀ l ∈ (part :: parts).map String.toList, '/' ∉ l := by
      intro l hl
      obtain ⟨s, hs, rfl⟩ := List.mem_map.1 hl
      exact h s hs
    have hpieces : Text.pieces '/' (Path.segments (part :: parts)).toString =
        "" :: part :: parts := by
      unfold Text.pieces
      rw [toList_toString_segments, List.splitOn_cons_eq_if_modifyHead, if_pos (by decide),
        List.splitOn_intercalate '/' hfree (by simp), List.map_cons, List.map_map]
      simp [Function.comp_def]
    rw [hpieces]
    rfl

end Url

namespace Address

variable {m : Model} {location : String}

lemma inModel_of_url (m : Model) {u : Url} (hu : Url.ofText? location = some u)
    (hhttp : u.isHttp = true) : inModel m location = ofUrl m.isGroupCollection u := by
  rw [inModel, ofLocation, hu, Option.filter_some, if_pos hhttp]

lemma inModel_of_not_isHttp (m : Model) (h : ¬Location.isHttp location = true) :
    inModel m location = fileRoot := by
  have hnone : (Url.ofText? location).filter Url.isHttp = none := by
    rw [Option.filter_eq_none_iff]
    intro u hu hhttp
    exact h (by rw [Location.isHttp, hu, Option.any_some, hhttp])
  rw [inModel, ofLocation, hnone]

/-- Where the segments of a path stand: what is before the first group collection is outside. -/
lemma ofUrl_of_segments {u : Url} {outer inner : List String} {first : String}
    (hpath : u.path = .segments (outer ++ inner)) (hfilled : ∀ s ∈ outer ++ inner, s ≠ "")
    (houter : ∀ s ∈ outer, m.isGroupCollection s = false) (hfirst : inner.head? = some first)
    (hcollection : m.isGroupCollection first = true) :
    ofUrl m.isGroupCollection u = ⟨u.scheme ++ "://" ++ u.hostAndPort, outer, inner⟩ := by
  have hsegments : u.pathSegments = outer ++ inner := by
    rw [Url.pathSegments, hpath]
    exact List.filter_eq_self.2 fun s hs => by simp [hfilled s hs]
  have hfront : ∀ s ∈ outer, (!m.isGroupCollection s) = true := by simpa using houter
  obtain ⟨htake, hdrop⟩ := Text.takeWhile_append_stop hfront inner (by simp [hfirst, hcollection])
  rw [ofUrl, hsegments, htake, hdrop]

/-- A location below a group collection is a URL read over HTTP, and its path has segments. -/
lemma exists_url_of_inner_ne_nil (h : (inModel m location).inner ≠ []) :
    ∃ (u : Url) (parts : List String), Url.ofText? location = some u ∧ u.isHttp = true ∧
      u.path = .segments parts ∧ inModel m location = ofUrl m.isGroupCollection u := by
  by_cases hhttp : Location.isHttp location = true
  · rw [Location.isHttp, Option.any_eq_true] at hhttp
    obtain ⟨u, hu, hhttp⟩ := hhttp
    rw [inModel_of_url m hu hhttp] at h ⊢
    cases hp : u.path with
    | segments parts => exact ⟨u, parts, hu, hhttp, hp, rfl⟩
    | rootless text => simp [ofUrl, Url.pathSegments, hp] at h
  · rw [inModel_of_not_isHttp m hhttp] at h
    exact absurd rfl h

/-- The first segment below the root names a group collection. -/
lemma isGroupCollection_of_inner {first : String} {rest : List String}
    (h : (inModel m location).inner = first :: rest) : m.isGroupCollection first = true := by
  obtain ⟨u, parts, -, -, -, ha⟩ := exists_url_of_inner_ne_nil (h ▸ List.cons_ne_nil first rest)
  have hnot := List.head?_dropWhile_not (!m.isGroupCollection ·) u.pathSegments
  have hdrop : u.pathSegments.dropWhile (!m.isGroupCollection ·) = first :: rest := by
    rw [← h, ha]
    rfl
  rw [hdrop] at hnot
  simpa using hnot

end Address

namespace Inheritance

open Text

variable {m : Model} {document : Value} {location : String}

/-- Resolving the escapes in a URL's path changes neither where the first group collection is nor
what its segments are from there on. -/
def SpelledOut (m : Model) (location : String) : Prop :=
  (∀ s ∈ (Address.inModel m location).outer, m.isGroupCollection (Percent.unescape s) = false) ∧
    ∀ s ∈ (Address.inModel m location).inner, Percent.unescape s = s

instance (m : Model) (location : String) : Decidable (SpelledOut m location) :=
  inferInstanceAs (Decidable (_ ∧ _))

lemma dropWhile_map_eq_iff {α : Type} {p : α → Bool} {g : α → α} {outer inner : List α}
    {first : α} (hfirst : inner.head? = some first) (hp : p first = true) :
    ((outer ++ inner).map g).dropWhile (!p ·) = inner ↔
      (∀ a ∈ outer, p (g a) = false) ∧ ∀ a ∈ inner, g a = a := by
  rw [List.map_append]
  constructor
  · intro h
    have hsplit := List.takeWhile_append_dropWhile (p := (!p ·)) (l := outer.map g ++ inner.map g)
    rw [h] at hsplit
    obtain ⟨hfront, hback⟩ := List.append_inj' hsplit (by simp)
    refine ⟨fun a ha => ?_, fun a ha => ?_⟩
    · have hall := List.all_takeWhile (p := (!p ·)) (l := outer.map g ++ inner.map g)
      rw [hfront] at hall
      simpa using List.all_eq_true.1 hall (g a) (List.mem_map_of_mem ha)
    · have hmap : inner.map g = inner.map id := by rw [List.map_id, ← hback]
      exact List.map_inj_left.1 hmap a ha
  · rintro ⟨houter, hinner⟩
    have hmap : inner.map g = inner := by
      rw [List.map_congr_left hinner, List.map_id']
    rw [List.dropWhile_append_of_pos, hmap]
    · obtain ⟨rest, rfl⟩ := List.head?_eq_some_iff.1 hfirst
      exact List.dropWhile_cons_of_neg (by simp [hp])
    · intro b hb
      obtain ⟨a, ha, rfl⟩ := List.mem_map.1 hb
      simp [houter a ha]

/-- A reference without a fragment is read by its path alone. -/
lemma basePointer?_of_hash_not_mem (hhash : '#' ∉ location.toList) (htrim : trim location = location) :
    basePointer? m document location =
      pointerOfPath? m (((Url.ofText? location).map (·.path.toString)).getD location) := by
  have hcut : cutAt? '#' location = none := by
    rw [cutAt?, cut?_eq_none.2 hhash, Option.map_none]
  have hwhole : wholeFragment? document location = none := by
    rw [wholeFragment?, htrim, hcut]
    rfl
  have hreference : Reference.ofText location = .external location none none := by
    rw [Reference.ofText, htrim, hcut]
  rw [basePointer?, hwhole, hreference]

lemma basePointer?_of_url {u : Url} (hu : Url.ofText? location = some u)
    (hhash : '#' ∉ location.toList) (htrim : trim location = location) :
    basePointer? m document location = pointerOfPath? m u.path.toString := by
  rw [basePointer?_of_hash_not_mem hhash htrim, hu]
  rfl

lemma exists_tokens_of_url (m : Model) (document : Value) (hhash : '#' ∉ location.toList)
    (htrim : trim location = location) (hinner : (Address.inModel m location).inner ≠ []) :
    ∃ tokens, (tokens = (Address.inModel m location).inner ↔ SpelledOut m location) ∧
      basePointer? m document location =
        if tokens = [] then none else some (Pointer.ofTokens tokens) := by
  obtain ⟨u, parts, hu, -, hparts, ha⟩ := Address.exists_url_of_inner_ne_nil hinner
  have hdivided := Url.divided_of_ofText? hu
  rw [hparts] at hdivided
  have hsegments : parts.filter (!·.isEmpty) =
      (Address.inModel m location).outer ++ (Address.inModel m location).inner := by
    have hpath : u.pathSegments = parts.filter (!·.isEmpty) := by rw [Url.pathSegments, hparts]
    rw [ha, ← hpath]
    exact List.takeWhile_append_dropWhile.symm
  obtain ⟨first, rest, hfirst⟩ := List.exists_cons_of_ne_nil hinner
  have hhead : (Address.inModel m location).inner.head? = some first := by rw [hfirst]; rfl
  have hcollection := Address.isGroupCollection_of_inner hfirst
  refine ⟨((parts.filter (!·.isEmpty)).map Percent.unescape).dropWhile (!m.isGroupCollection ·),
    ?_, ?_⟩
  · rw [hsegments]
    exact dropWhile_map_eq_iff hhead hcollection
  · rw [basePointer?_of_url hu hhash htrim, hparts, pointerOfPath?,
      Url.filter_pieces_toString hdivided]
    cases ((parts.filter (!·.isEmpty)).map Percent.unescape).dropWhile
      (!m.isGroupCollection ·) <;> rfl

/-- The pointer that a URL spells leads where its segments say if and only if they say it without
escapes. -/
theorem basePointer?_leads_iff (m : Model) (document : Value) (hhash : '#' ∉ location.toList)
    (htrim : trim location = location) (hinner : (Address.inModel m location).inner ≠ []) :
    (∃ pointer, basePointer? m document location = some pointer ∧
      Value.fragmentTokens? pointer = some (Address.inModel m location).inner) ↔
        SpelledOut m location := by
  obtain ⟨tokens, htokens, hpointer⟩ := exists_tokens_of_url m document hhash htrim hinner
  rw [← htokens, hpointer]
  by_cases hnil : tokens = []
  · rw [if_pos hnil, hnil]
    constructor
    · rintro ⟨pointer, hnone, -⟩
      cases hnone
    · exact fun h => absurd h.symm hinner
  · have hread := Value.fragmentTokens?_ofTokens hnil
    rw [if_neg hnil]
    constructor
    · rintro ⟨pointer, hsome, hleads⟩
      rw [← Option.some.inj hsome, hread] at hleads
      exact Option.some.inj hleads
    · intro h
      exact ⟨_, rfl, h ▸ hread⟩

lemma basePointer?_of_spelledOut (m : Model) (document : Value) (hhash : '#' ∉ location.toList)
    (htrim : trim location = location) (hinner : (Address.inModel m location).inner ≠ [])
    (h : SpelledOut m location) : basePointer? m document location =
      some (Pointer.ofTokens (Address.inModel m location).inner) := by
  obtain ⟨tokens, htokens, hpointer⟩ := exists_tokens_of_url m document hhash htrim hinner
  rw [htokens.2 h, if_neg hinner] at hpointer
  exact hpointer

end Inheritance

namespace Composition

variable {m : Model} {location key : String} {path q : List String} {fields composed : Fields}
  {document : Value} {change : Fields → Fields}

/-- The entries at the end of a path of keys; none where there is no mapping. -/
def contentAt : List String → Fields → Fields
  | [], fields => fields
  | key :: rest, fields => contentAt rest (fields.mappingAt key)

lemma get?_contentAt (path : List String) (fields : Fields) (key : String) :
    (contentAt path fields).get? key = (Value.mapping fields).under (path ++ [key]) := by
  induction path generalizing fields with
  | nil =>
    rw [List.nil_append, Value.under_mapping_cons, contentAt]
    cases fields.get? key <;> rfl
  | cons first rest ih =>
    rw [contentAt, ih, Fields.under_mappingAt fields first (by simp), List.cons_append,
      Value.under_mapping_cons]

lemma under_withinPath (path : List String) (change : Fields → Fields) (fields : Fields)
    (q : List String) :
    (Value.mapping (withinPath path change fields)).under (path ++ q) =
      (Value.mapping (change (contentAt path fields))).under q := by
  induction path generalizing fields with
  | nil => rfl
  | cons first rest ih =>
    rw [withinPath, Fields.within, List.cons_append, Value.under_mapping_cons,
      Table.get?_insert_self, Option.bind_some, ih, contentAt]

/-- A change of one key at the end of a path leaves all that is apart from it. -/
lemma under_withinPath_of_apart
    (hchange : ∀ (fields : Fields) k, k ≠ key → (change fields).get? k = fields.get? k)
    (hq : ¬q <+: path ++ [key]) (hp : ¬path ++ [key] <+: q) (fields : Fields) :
    (Value.mapping (withinPath path change fields)).under q = (Value.mapping fields).under q := by
  obtain ⟨k, q, rfl⟩ := List.exists_cons_of_ne_nil fun h : q = [] => hq (h ▸ List.nil_prefix)
  induction path generalizing fields k q with
  | nil =>
    have hne : k ≠ key := by
      intro he
      exact hp (by simp [he])
    rw [withinPath, Value.under_mapping_cons, Value.under_mapping_cons, hchange fields k hne]
  | cons first rest ih =>
    rw [withinPath, Fields.within, Value.under_mapping_cons, Value.under_mapping_cons]
    by_cases hk : first = k
    · subst hk
      rw [List.cons_append, List.cons_prefix_cons, not_and] at hq hp
      obtain ⟨k', q', rfl⟩ :=
        List.exists_cons_of_ne_nil fun h : q = [] => hq rfl (h ▸ List.nil_prefix)
      rw [Table.get?_insert_self, Option.bind_some, ih (fields.mappingAt first) k' q' (hq rfl)
        (hp rfl), Fields.under_mappingAt fields first (List.cons_ne_nil _ _)]
    · rw [Table.get?_insert, if_neg hk]

/-- A document with what was there before it, which comes first. -/
def mergedOver (existing : Option Value) (document : Value) : Value :=
  match existing with
  | none => document
  | some v => v.merge document

lemma get?_fill (fields : Fields) (key : String) (document : Value) (other : String) :
    (fill fields key document).get? other =
      if key = other then some (mergedOver (fields.get? key) document) else fields.get? other := by
  unfold fill
  cases h : fields.get? key with
  | none =>
    dsimp only
    rw [← Table.insert_of_get?_eq_none h, Table.get?_insert]
    rfl
  | some v => exact Table.get?_insert _ _ _ _

/-- A URL without a fragment and without blanks around it that names a resource in a collection that
the model knows. -/
structure NamesResource (m : Model) (location : String) : Prop where
  plain : '#' ∉ location.toList
  trimmed : Text.trim location = location
  level : (Address.inModel m location).level = .resource
  known : ∃ segment, (Address.inModel m location).collection? = some segment ∧
    (m.resource? segment).isSome

namespace NamesResource

lemma inner_eq (h : NamesResource m location) : ∃ groupType groupId segment resourceId,
    (Address.inModel m location).inner = [groupType, groupId, segment, resourceId] ∧
      collectionName m (Address.inModel m location) = segment := by
  obtain ⟨segment, hsegment, hknown⟩ := h.known
  have hlevel := h.level
  have hname : collectionName m (Address.inModel m location) = segment := by
    rw [collectionName, hsegment, Option.filter_some, if_pos hknown]
  unfold Address.level at hlevel
  unfold Address.collection? at hsegment
  rcases hi : (Address.inModel m location).inner with _ | ⟨groupType, _ | ⟨groupId, _ | ⟨third, _ |
    ⟨resourceId, _ | ⟨_, _ | ⟨_, _ | ⟨_, _⟩⟩⟩⟩⟩⟩⟩ <;> rw [hi] at hlevel hsegment <;>
    cases hlevel
  obtain rfl := Option.some.inj hsegment
  exact ⟨groupType, groupId, third, resourceId, rfl, hname⟩

lemma inner_ne_nil (h : NamesResource m location) : (Address.inModel m location).inner ≠ [] := by
  obtain ⟨_, _, _, _, hinner, -⟩ := h.inner_eq
  simp [hinner]

/-- The document of a resource's URL is put at the place that the segments say, over what is there
already, and what is apart from that place stays. -/
theorem under_mergeAtLocation (h : NamesResource m location) (composed : Fields) (document : Value) :
    (Value.mapping (mergeAtLocation m composed location document)).under
        (Address.inModel m location).inner =
      some (mergedOver ((Value.mapping composed).under (Address.inModel m location).inner)
        document) ∧
      ∀ q, ¬q <+: (Address.inModel m location).inner → ¬(Address.inModel m location).inner <+: q →
        (Value.mapping (mergeAtLocation m composed location document)).under q =
          (Value.mapping composed).under q := by
  obtain ⟨groupType, groupId, segment, resourceId, hinner, hname⟩ := h.inner_eq
  have hmerge : mergeAtLocation m composed location document =
      withinPath [groupType, groupId, segment] (fill · resourceId document) composed := by
    rw [mergeAtLocation, mergeAt, hinner]
    dsimp only
    rw [hname]
    rfl
  have hplace : (Address.inModel m location).inner =
      [groupType, groupId, segment] ++ [resourceId] := hinner
  rw [hmerge, hplace]
  constructor
  · rw [under_withinPath, Value.under_mapping_cons, get?_fill, if_pos rfl, get?_contentAt]
    rfl
  · intro q hq hp
    refine under_withinPath_of_apart (fun fields k hk => ?_) hq hp composed
    rw [get?_fill, if_neg (Ne.symm hk)]

end NamesResource

end Composition

end Registry
