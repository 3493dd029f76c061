import Registry.Lint
import Registry.Proofs.InheritanceChains
import Registry.Proofs.ReferenceText
import Registry.Proofs.ShownLists

/-!
# Fragment references that lead nowhere

Linting finds every text that starts with `#` under the key of a reference, at any depth, and that
leads nowhere without the name of a type at its end, each one once. One that leads somewhere as it
stands, because an id in it has a colon, is found as well, although a message would inherit along it.
-/

namespace Registry

namespace Lint

/-- A step into a value. -/
inductive Step where
  | key (name : String)
  | item (index : Nat)
  deriving DecidableEq

/-- A path with one more step. -/
def extended (path : String) : Step → String
  | .key name => below path name
  | .item index => path ++ "[" ++ toString index ++ "]"

/-- A text at a place of a value. -/
structure Occurrence where
  place : List Step
  text : String

/-- An occurrence in a value at a path, as a reference that leads nowhere. -/
def Occurrence.finding (path : String) (o : Occurrence) : Finding :=
  ⟨o.place.foldl extended path, .unresolvedReference o.text⟩

/-- An occurrence, seen from a step above. -/
def Occurrence.behind (step : Step) (o : Occurrence) : Occurrence := { o with place := step :: o.place }

/-- A text is a fragment reference in a value: it starts with `#` and stands under the key of a
reference in a mapping, which is the value itself or lies in it, through mappings and sequences. -/
inductive FragmentIn : Value → Occurrence → Prop where
  | here {fields : Fields} {key s : String} (hget : fields.get? key = some (.string s))
      (hkey : Discovery.isReferenceKey key = true) (hs : Text.startsWith s "#" = true) :
      FragmentIn (.mapping fields) ⟨[.key key], s⟩
  | field {fields : Fields} {key : String} {v : Value} {o : Occurrence}
      (hget : fields.get? key = some v) (h : FragmentIn v o) :
      FragmentIn (.mapping fields) (o.behind (.key key))
  | item {items : List Value} {i : Nat} {v : Value} {o : Occurrence} (hget : items[i]? = some v)
      (h : FragmentIn v o) : FragmentIn (.sequence items) (o.behind (.item i))

variable {root v : Value} {path key s : String} {o : Occurrence}

/-- The fragment references in a value under a key that lead nowhere. -/
def lintChild (root : Value) (path key : String) : Value → List Finding
  | .string s => lintText root (below path key) key s
  | v => lintReferences root (below path key) v

lemma lintReferencesInFields_eq (root : Value) (path : String) (fields : Fields) :
    lintReferencesInFields root path fields =
      fields.flatMap fun e => lintChild root path e.1 e.2 := by
  induction fields with
  | nil => rw [lintReferencesInFields, List.flatMap_nil]
  | cons e fields ih =>
    obtain ⟨key, v⟩ := e
    rw [List.flatMap_cons, ← ih]
    cases v <;> simp [lintReferencesInFields, lintChild]

lemma lintReferencesInItems_eq (root : Value) (path : String) (n : Nat) (items : List Value) :
    lintReferencesInItems root path n items =
      (items.zipIdx n).flatMap fun e => lintReferences root (extended path (.item e.2)) e.1 := by
  induction items generalizing n with
  | nil => rw [lintReferencesInItems, List.zipIdx_nil, List.flatMap_nil]
  | cons v items ih => rw [lintReferencesInItems, ih, List.zipIdx_cons, List.flatMap_cons]; rfl

/-- A text is a fragment reference in a value that stands under a key, or it is that value. -/
def FragmentAlong (key : String) (v : Value) (o : Occurrence) : Prop :=
  (∃ s, v = .string s ∧ Discovery.isReferenceKey key = true ∧ Text.startsWith s "#" = true ∧
    o = ⟨[.key key], s⟩) ∨
  ∃ inner, FragmentIn v inner ∧ inner.behind (.key key) = o

lemma fragmentIn_mapping {fields : Fields} (hn : fields.keys.Nodup) :
    FragmentIn (.mapping fields) o ↔ ∃ e ∈ fields, FragmentAlong e.1 e.2 o := by
  constructor
  · rintro (⟨hget, hkey, hs⟩ | ⟨hget, h⟩)
    · exact ⟨_, Table.mem_of_get? hget, .inl ⟨_, rfl, hkey, hs, rfl⟩⟩
    · exact ⟨_, Table.mem_of_get? hget, .inr ⟨_, h, rfl⟩⟩
  · rintro ⟨⟨key, v⟩, he, ⟨s, rfl, hkey, hs, rfl⟩ | ⟨inner, h, rfl⟩⟩
    · exact .here (Table.get?_of_mem hn he) hkey hs
    · exact .field (Table.get?_of_mem hn he) h

lemma fragmentIn_sequence {items : List Value} : FragmentIn (.sequence items) o ↔
    ∃ i v, items[i]? = some v ∧ ∃ inner, FragmentIn v inner ∧ inner.behind (.item i) = o := by
  constructor
  · rintro ⟨⟩
    next i v inner h hget =>
      exact ⟨i, v, hget, inner, h, rfl⟩
  · rintro ⟨i, v, hget, inner, h, rfl⟩
    exact .item hget h

/-- Two occurrences are in different places. -/
def Apart (o o' : Occurrence) : Prop := o.place ≠ o'.place

lemma Apart.behind {o o' : Occurrence} (h : Apart o o') (step : Step) :
    Apart (o.behind step) (o'.behind step) := by
  intro heq
  exact h (List.cons.inj heq).2

lemma finding_behind (path : String) (step : Step) (o : Occurrence) :
    (o.behind step).finding path = o.finding (extended path step) := rfl

/-- A text is a fragment reference in a value and leads nowhere in a document without the name of a
type. -/
def Lost (root v : Value) (o : Occurrence) : Prop := FragmentIn v o ∧ resolves root o.text = false

lemma shows_behind {step : Step} {xs : List Finding}
    (h : Shows (Occurrence.finding (extended path step)) Apart (Lost root v) xs) :
    Shows (Occurrence.finding path) Apart
      (fun o => ∃ inner, Lost root v inner ∧ inner.behind step = o) xs :=
  h.rename (fun o => finding_behind path step o) fun _ _ hapart => hapart.behind step

lemma FragmentIn.starts (h : FragmentIn v o) : Text.startsWith o.text "#" = true := by
  induction h with
  | here _ _ hs => exact hs
  | field _ _ ih => exact ih
  | item _ _ ih => exact ih

lemma not_fragmentIn_of_scalar (hmapping : v.isMapping = false) (hsequence : ∀ items, v ≠ .sequence items)
    (o : Occurrence) : ¬FragmentIn v o := by
  rintro (_ | _ | _)
  · exact absurd hmapping (by simp [Value.isMapping, Value.fields?])
  · exact absurd hmapping (by simp [Value.isMapping, Value.fields?])
  · exact hsequence _ rfl

lemma shows_lintText (root : Value) (path key s : String) :
    Shows (Occurrence.finding path) Apart
      (fun o => FragmentAlong key (.string s) o ∧ resolves root o.text = false)
      (lintText root (below path key) key s) := by
  have halong : ∀ o, FragmentAlong key (.string s) o ↔ Discovery.isReferenceKey key = true ∧
      Text.startsWith s "#" = true ∧ o = ⟨[.key key], s⟩ := by
    intro o
    simp [FragmentAlong, not_fragmentIn_of_scalar (v := .string s) rfl (by simp)]
  rw [lintText]
  split
  · next h =>
    simp only [Bool.and_eq_true, Bool.not_eq_true'] at h
    refine shows_singleton (g := (⟨[.key key], s⟩ : Occurrence)) fun o => ?_
    rw [halong]
    constructor
    · exact fun ho => ho.1.2.2
    · rintro rfl
      exact ⟨⟨h.1.1, h.1.2, rfl⟩, h.2⟩
  · next h =>
    apply shows_nil
    rintro o ⟨ho, hlost⟩
    obtain ⟨hkey, hs, rfl⟩ := (halong o).1 ho
    exact h (by simp [hkey, hs, hlost])

lemma shows_lintChild (h : ∀ path, Shows (Occurrence.finding path) Apart (Lost root v)
    (lintReferences root path v)) (path key : String) :
    Shows (Occurrence.finding path) Apart
      (fun o => FragmentAlong key v o ∧ resolves root o.text = false)
      (lintChild root path key v) := by
  by_cases hv : ∃ s, v = .string s
  · obtain ⟨s, rfl⟩ := hv
    exact shows_lintText root path key s
  · have hchild : lintChild root path key v = lintReferences root (below path key) v := by
      unfold lintChild
      split
      · next s => exact absurd ⟨s, rfl⟩ hv
      · rfl
    rw [hchild]
    refine (shows_behind (h (extended path (.key key)))).congr fun o => ?_
    constructor
    · rintro ⟨inner, ⟨hin, hlost⟩, rfl⟩
      exact ⟨.inr ⟨inner, hin, rfl⟩, hlost⟩
    · rintro ⟨⟨s, rfl, -⟩ | ⟨inner, hin, rfl⟩, hlost⟩
      · exact absurd ⟨s, rfl⟩ hv
      · exact ⟨inner, ⟨hin, hlost⟩, rfl⟩

/-- The first step of a fragment reference along a key is that key. -/
lemma FragmentAlong.place (h : FragmentAlong key v o) : ∃ rest, o.place = .key key :: rest := by
  rcases h with ⟨s, -, -, -, rfl⟩ | ⟨inner, -, rfl⟩
  · exact ⟨[], rfl⟩
  · exact ⟨inner.place, rfl⟩

/-- Linting a value shows its fragment references that lead nowhere, one for each place. -/
theorem shows_lintReferences (root v : Value) (hv : v.WellKeyed) (path : String) :
    Shows (Occurrence.finding path) Apart (Lost root v) (lintReferences root path v) := by
  induction v using Value.induction_on_contents generalizing path with
  | ofMapping fields ih =>
    have hf : Fields.WellKeyed fields := hv
    rw [lintReferences, lintReferencesInFields_eq]
    refine (shows_flatMap (P := fun e o => FragmentAlong e.1 e.2 o ∧ resolves root o.text = false)
      ?_ ?_).congr ?_
    · intro e he
      exact shows_lintChild (fun path => ih e he (hf.of_mem he) path) path e.1
    · refine (List.pairwise_map.1 hf.nodup).imp ?_
      rintro e e' hne o o' ⟨ho, -⟩ ⟨ho', -⟩ heq
      obtain ⟨rest, hplace⟩ := ho.place
      obtain ⟨rest', hplace'⟩ := ho'.place
      rw [hplace, hplace', List.cons.injEq, Step.key.injEq] at heq
      exact hne heq.1
    · intro o
      rw [Lost, fragmentIn_mapping hf.nodup]
      constructor
      · rintro ⟨e, he, ho, hlost⟩
        exact ⟨⟨e, he, ho⟩, hlost⟩
      · rintro ⟨⟨e, he, ho⟩, hlost⟩
        exact ⟨e, he, ho, hlost⟩
  | ofSequence items ih =>
    have hitems : ∀ v ∈ items, v.WellKeyed := (Value.wellKeyedItems_iff items).1 hv
    rw [lintReferences, lintReferencesInItems_eq]
    refine (shows_zipIdx
      (P := fun i v o => ∃ inner, Lost root v inner ∧ inner.behind (.item i) = o) ?_ ?_).congr ?_
    · intro i v hget
      have hmem : v ∈ items := List.mem_of_getElem? hget
      exact shows_behind (ih v hmem (hitems v hmem) _)
    · rintro i j v w _ _ hlt ⟨inner, -, rfl⟩ ⟨inner', -, rfl⟩ heq
      exact hlt.ne (Step.item.inj (List.cons.inj heq).1)
    · intro o
      rw [Lost, fragmentIn_sequence]
      constructor
      · rintro ⟨i, v, hget, inner, ⟨hin, hlost⟩, rfl⟩
        exact ⟨⟨i, v, hget, inner, hin, rfl⟩, hlost⟩
      · rintro ⟨⟨i, v, hget, inner, hin, rfl⟩, hlost⟩
        exact ⟨i, v, hget, inner, ⟨hin, hlost⟩, rfl⟩
  | ofScalar v hmapping hsequence =>
    have hnil : lintReferences root path v = [] := by
      cases v with
      | mapping fields => simp [Value.isMapping, Value.fields?] at hmapping
      | sequence items => exact absurd rfl (hsequence items)
      | _ => rw [lintReferences] <;> simp
    rw [hnil]
    exact shows_nil fun o ho => not_fragmentIn_of_scalar hmapping hsequence o ho.1

/-- A finding is about the shape of a document, not about a reference in it. -/
def IsShape (f : Finding) : Prop := ∀ reference, f.problem ≠ .unresolvedReference reference

lemma isShape_lintVersions {resource : Fields} {f : Finding} (h : f ∈ lintVersions path resource) :
    IsShape f := by
  unfold lintVersions at h
  split at h
  · simp at h
  · obtain rfl := List.mem_singleton.1 h
    exact fun _ => by simp
  · split at h
    · simp at h
    · obtain rfl := List.mem_singleton.1 h
      exact fun _ => by simp
  · simp at h
  · obtain rfl := List.mem_singleton.1 h
    exact fun _ => by simp

lemma isShape_lintResource {type : ResourceType} {id : String} {f : Finding}
    (h : f ∈ lintResource type path id v) : IsShape f := by
  unfold lintResource at h
  split at h
  · exact isShape_lintVersions h
  · obtain rfl := List.mem_singleton.1 h
    exact fun _ => by simp

lemma isShape_lintResources {group : Fields} {type : ResourceType} {f : Finding}
    (h : f ∈ lintResources path group type) : IsShape f := by
  unfold lintResources at h
  dsimp only at h
  split at h
  · simp at h
  · obtain ⟨e, -, he⟩ := List.mem_flatMap.1 h
    exact isShape_lintResource he
  · obtain rfl := List.mem_singleton.1 h
    exact fun _ => by simp

lemma isShape_lintGroup {type : GroupType} {id : String} {f : Finding}
    (h : f ∈ lintGroup type path id v) : IsShape f := by
  unfold lintGroup at h
  split at h
  · obtain ⟨kind, -, hkind⟩ := List.mem_flatMap.1 h
    exact isShape_lintResources hkind
  · obtain rfl := List.mem_singleton.1 h
    exact fun _ => by simp

lemma isShape_lintEntry {m : Model} {f : Finding} (h : f ∈ lintEntry m key v) : IsShape f := by
  unfold lintEntry at h
  split at h
  · unfold lintCollection at h
    split at h
    · obtain ⟨e, -, he⟩ := List.mem_flatMap.1 h
      exact isShape_lintGroup he
    · obtain rfl := List.mem_singleton.1 h
      exact fun _ => by simp
  · split at h
    · obtain rfl := List.mem_singleton.1 h
      exact fun _ => by simp
    · simp at h

lemma IsShape.code {f : Finding} (h : IsShape f) : f.problem.code ≠ "unresolved-reference" := by
  unfold IsShape at h
  cases hf : f.problem <;> simp_all [Problem.code]

lemma code_finding (path : String) (o : Occurrence) :
    (o.finding path).problem.code = "unresolved-reference" := rfl

lemma filter_errors (m : Model) (root : Fields) (p : Finding → Bool) :
    (errors m (.mapping root)).filter p =
      (root.flatMap fun (key, v) => lintEntry m key v).filter (fun f => p f && !f.problem.isWarning) ++
        (lintReferences (.mapping root) "" (.mapping root)).filter
          fun f => p f && !f.problem.isWarning := by
  rw [errors, findings, List.filter_filter, List.filter_append]

/-- The errors about references are what linting finds in the values, and nothing of the shape. -/
lemma references_errors (m : Model) {root : Fields} (hr : root.WellKeyed) :
    (errors m (.mapping root)).filter (·.problem.code == "unresolved-reference") =
      lintReferences (.mapping root) "" (.mapping root) := by
  obtain ⟨os, hos, -, -⟩ := shows_lintReferences (.mapping root) (.mapping root) hr ""
  rw [filter_errors, hos]
  have hshape : ((root.flatMap fun (key, v) => lintEntry m key v).filter fun f =>
      f.problem.code == "unresolved-reference" && !f.problem.isWarning) = [] := by
    rw [List.filter_eq_nil_iff]
    intro f hf
    obtain ⟨e, -, he⟩ := List.mem_flatMap.1 hf
    simp [(isShape_lintEntry he).code]
  rw [hshape, List.nil_append, List.filter_eq_self]
  intro f hf
  obtain ⟨o, -, rfl⟩ := List.mem_map.1 hf
  rfl

/-- A text leads nowhere in a document, be it as it stands or without the name of a type. -/
def Dangling (document : Value) (s : String) : Prop :=
  document.lookup s = none ∧ resolves document s = false

lemma exists_hash (h : Text.startsWith s "#" = true) : ∃ fragment, s = "#" ++ fragment := by
  obtain ⟨cs, hcs⟩ := List.isPrefixOf_iff_prefix.1 h
  exact ⟨String.ofList cs, String.toList_injective (by simp [← hcs])⟩

/-- A fragment without blanks around it and without the name of a type is read as it stands. -/
lemma resolves_of_typeName?_eq_none {document : Value} (hs : Text.startsWith s "#" = true)
    (htrim : Text.trim s = s) (hname : (Reference.ofText s).typeName? = none) :
    resolves document s = (document.lookup s).isSome := by
  obtain ⟨fragment, rfl⟩ := exists_hash hs
  have hread : Reference.ofText ("#" ++ fragment) =
      .fragment (Reference.cutTypeName fragment).1 (Reference.cutTypeName fragment).2 := by
    simp [Reference.ofText, htrim, Inheritance.cutAt?_hash]
  rw [hread] at hname
  rw [resolves, hread, Reference.cutTypeName_none hname]
  rfl

lemma ofFragment_ofFragment (fragment : String) :
    Pointer.ofFragment (Pointer.ofFragment fragment) = Pointer.ofFragment fragment := by
  have hread : Pointer.ofFragment fragment = "" ∨
      ∃ cs, Pointer.ofFragment fragment = String.ofList ('/' :: cs) := by
    rw [Pointer.ofFragment]
    split
    · exact .inl rfl
    · exact .inr ⟨_, rfl⟩
    · exact .inr ⟨_, rfl⟩
  rcases hread with hread | ⟨cs, hread⟩ <;> rw [hread]
  · rfl
  · simp [Pointer.ofFragment]

/-- A message takes a fragment that leads somewhere as it stands. -/
lemma basePointer?_whole (m : Model) {document : Value} (hs : Text.startsWith s "#" = true)
    (htrim : Text.trim s = s) (h : (document.lookup s).isSome = true) :
    ∃ pointer, Inheritance.basePointer? m document s = some pointer ∧
      document.lookup pointer = document.lookup s := by
  obtain ⟨fragment, rfl⟩ := exists_hash hs
  have hlookup : document.lookup (Pointer.ofFragment fragment) =
      document.lookup ("#" ++ fragment) := by
    rw [Value.lookup, Value.fragmentTokens?, ofFragment_ofFragment, ← Pointer.ofFragment_hash]
    rfl
  refine ⟨Pointer.ofFragment fragment, ?_, hlookup⟩
  have hwhole : Inheritance.wholeFragment? document ("#" ++ fragment) =
      some (Pointer.ofFragment fragment) := by
    simp [Inheritance.wholeFragment?, htrim, Inheritance.cutAt?_hash, hlookup, h]
  rw [Inheritance.basePointer?, hwhole]

/-- The errors about references stand for the fragment references that lead nowhere without the name
of a type, at any depth, one for each place and for nothing else. So every reference is among them
that leads nowhere in either reading, and of the others only those that lead somewhere as they stand
and end like a typed reference or in blanks; a message would inherit along such a one without blanks.
They are the references that lead nowhere in either reading if there is none of that kind. -/
theorem unresolved_references_exactly (m : Model) {root : Fields} (hr : root.WellKeyed) :
    let document := Value.mapping root
    ∃ os : List Occurrence,
      (errors m document).filter (·.problem.code == "unresolved-reference") =
        os.map (Occurrence.finding "") ∧
      os.Pairwise Apart ∧
      (∀ o, o ∈ os ↔ FragmentIn document o ∧ resolves document o.text = false) ∧
      (∀ o, FragmentIn document o → Dangling document o.text → o ∈ os) ∧
      (∀ o ∈ os, Dangling document o.text ∨ (document.lookup o.text).isSome = true ∧
        ((Reference.ofText o.text).typeName?.isSome = true ∨ Text.trim o.text ≠ o.text)) ∧
      (∀ o ∈ os, (document.lookup o.text).isSome = true → Text.trim o.text = o.text →
        ∃ pointer, Inheritance.basePointer? m document o.text = some pointer ∧
          document.lookup pointer = document.lookup o.text) ∧
      ((∀ o, o ∈ os ↔ FragmentIn document o ∧ Dangling document o.text) ↔
        ∀ o, FragmentIn document o → (document.lookup o.text).isSome = true →
          resolves document o.text = true) := by
  intro document
  obtain ⟨os, hos, hapart, hmem⟩ := shows_lintReferences document document hr ""
  have hstarts : ∀ o ∈ os, Text.startsWith o.text "#" = true :=
    fun o ho => ((hmem o).1 ho).1.starts
  refine ⟨os, ?_, hapart, hmem, ?_, ?_, ?_, ?_⟩
  · rw [references_errors m hr, hos]
  · exact fun o ho hdangling => (hmem o).2 ⟨ho, hdangling.2⟩
  · intro o ho
    have hlost := ((hmem o).1 ho).2
    cases hlookup : document.lookup o.text with
    | none => exact .inl ⟨hlookup, hlost⟩
    | some v =>
      refine .inr ⟨rfl, ?_⟩
      by_contra hplain
      simp only [not_or, not_not, Bool.not_eq_true, Option.isSome_eq_false_iff,
        Option.isNone_iff_eq_none] at hplain
      rw [resolves_of_typeName?_eq_none (hstarts o ho) hplain.2 hplain.1, hlookup] at hlost
      cases hlost
  · exact fun o ho hlookup htrim => basePointer?_whole m (hstarts o ho) htrim hlookup
  · constructor
    · intro hexact o ho hlookup
      by_contra hlost
      have hdangling := ((hexact o).1 ((hmem o).2 ⟨ho, by simpa using hlost⟩)).2
      rw [hdangling.1] at hlookup
      cases hlookup
    · intro hnone o
      rw [hmem]
      refine and_congr_right fun ho => ⟨fun hlost => ⟨?_, hlost⟩, fun hdangling => hdangling.2⟩
      by_contra hsome
      have hresolves := hnone o ho (Option.isSome_iff_ne_none.2 hsome)
      rw [hlost] at hresolves
      cases hresolves

/-- Of two references to ids with a colon, only the one to a missing message leads nowhere. -/
theorem unresolved_references_exactly_colons :
    let message (base : String) : Value := .mapping [("basemessageurl", .string base)]
    let root : Fields := [("messagegroups", .mapping [("g", .mapping [("messages", .mapping [
      ("a:b", .mapping []),
      ("c", message "#/messagegroups/g/messages/a:b"),
      ("d", message "#/messagegroups/g/messages/e:f")])])])]
    root.WellKeyed ∧
      (∀ o, FragmentIn (.mapping root) o → Dangling (.mapping root) o.text →
        o.finding "" ∈ errors Model.standard (.mapping root)) ∧
      ¬Dangling (.mapping root) "#/messagegroups/g/messages/a:b" ∧
      Dangling (.mapping root) "#/messagegroups/g/messages/e:f" := by
  intro message root
  have hroot : root.WellKeyed := by
    simp [root, message, Fields.WellKeyed, Value.WellKeyed, Value.WellKeyedFields, Table.keys]
  have hwhole : (Value.lookup (.mapping root) "#/messagegroups/g/messages/a:b").isSome = true := by
    decide +kernel
  have hmissing : Value.lookup (.mapping root) "#/messagegroups/g/messages/e:f" = none ∧
      resolves (.mapping root) "#/messagegroups/g/messages/e:f" = false := by
    decide +kernel
  refine ⟨hroot, ?_, fun hdangling => ?_, hmissing⟩
  swap
  · rw [hdangling.1] at hwhole
    cases hwhole
  obtain ⟨os, hos, -, -, hfound, -⟩ := unresolved_references_exactly Model.standard hroot
  intro o ho hdangling
  apply List.mem_of_mem_filter
  rw [hos]
  exact List.mem_map_of_mem (hfound o ho hdangling)

/-- A reference to a message whose id has a colon is found to lead nowhere. -/
theorem lint_refuses_colon :
    let reference := "#/messagegroups/g/messages/a:b"
    let document : Value := .mapping [("messagegroups", .mapping [("g", .mapping [("messages",
      .mapping [("a:b", .mapping []),
        ("c", .mapping [("basemessageurl", .string reference)])])])])]
    document.lookup reference = some (.mapping []) ∧
      errors Model.standard document = [⟨"messagegroups.g.messages.c.basemessageurl",
        .unresolvedReference reference⟩] := by
  decide +kernel

end Lint

end Registry
