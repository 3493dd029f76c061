import Mathlib.Tactic.Lemma
import Registry.Reference

/-!
# References and their texts

A text is cut at its first `#`, and what stands behind that at its last colon, if the name of a type
follows. The parts with their separators are the text again; and parts that could not have been cut
elsewhere are read back from the text that is made of them.
-/

namespace Registry

/-- A text with no blank at either end stays as it is; it may be empty. -/
lemma Text.trim_eq_self {s : String} (hstart : ∀ c ∈ s.toList.head?, isBlank c = false)
    (hend : ∀ c ∈ s.toList.getLast?, isBlank c = false) : trim s = s := by
  cases hs : s.toList with
  | nil =>
    rw [String.toList_eq_nil_iff.1 hs]
    rfl
  | cons first cs =>
    have hlast := List.getLast?_eq_some_getLast (hs ▸ List.cons_ne_nil first cs)
    exact trim_of_ends hs (hstart first (by rw [hs]; rfl)) _ hlast (hend _ hlast)

namespace Reference

variable {raw l p f name text : String} {typeName : Option String}

/-- A text that can follow the last colon of a reference as the name of a type. -/
structure NamesType (name : String) : Prop where
  ne_empty : name ≠ ""
  slash_not_mem : '/' ∉ name.toList
  colon_not_mem : ':' ∉ name.toList

/-- Where a reference points; empty if it points into the same document. -/
def location : Reference → String
  | .fragment _ _ => ""
  | external location _ _ => location

/-- The place in the document; empty if the reference names none. -/
def path : Reference → String
  | .fragment path _ => path
  | external _ place _ => place.getD ""

/-- What follows the path in the text of a reference. -/
def suffix (typeName : Option String) : String := (typeName.map (":" ++ ·)).getD ""

/-- The text of a reference. -/
def written (r : Reference) : String := r.location ++ "#" ++ r.path ++ suffix r.typeName?

/-- The reference with given parts. Without a location it points into the same document; to another
document, an empty path is none. -/
def ofParts (location path : String) (typeName : Option String) : Reference :=
  if location = "" then .fragment path typeName
  else external location (if path = "" then none else some path) typeName

lemma isFragment_ofParts : (ofParts l p typeName).isFragment = true ↔ l = "" := by
  unfold ofParts
  split
  · next h => simp [isFragment, h]
  · next h => simp [isFragment, h]

lemma location_ofParts : (ofParts l p typeName).location = l := by
  unfold ofParts
  split
  · next h => exact h.symm
  · rfl

lemma path_ofParts : (ofParts l p typeName).path = p := by
  unfold ofParts
  split
  · rfl
  · by_cases h : p = "" <;> simp [path, h]

lemma typeName?_ofParts : (ofParts l p typeName).typeName? = typeName := by
  unfold ofParts
  split <;> rfl

lemma written_ofParts : (ofParts l p typeName).written = l ++ "#" ++ p ++ suffix typeName := by
  rw [written, location_ofParts, path_ofParts, typeName?_ofParts]

/-- Without the name of a type, only the `#` in front of an empty path may be missing. -/
lemma withoutTypeName_ofParts : (ofParts l p typeName).withoutTypeName =
    if l ≠ "" ∧ p = "" then l else l ++ "#" ++ p := by
  unfold ofParts
  by_cases hl : l = ""
  · simp [hl, withoutTypeName]
  · by_cases hp : p = "" <;> simp [hl, hp, withoutTypeName]

lemma isTypeName_iff : isTypeName name = true ↔ name ≠ "" ∧ '/' ∉ name.toList := by
  simp [isTypeName]

lemma cutTypeName_append (h : NamesType name) (p : String) :
    cutTypeName (p ++ ":" ++ name) = (p, some name) := by
  have hlist : (p ++ ":" ++ name).toList = p.toList ++ ':' :: name.toList := by simp
  rw [cutTypeName, Text.cutAtLast?, hlist, Text.cutLast?_append _ h.colon_not_mem, Option.map_some,
    String.ofList_toList, String.ofList_toList]
  dsimp only
  rw [if_pos (isTypeName_iff.2 ⟨h.ne_empty, h.slash_not_mem⟩)]

/-- The name of a type is cut off exactly where one follows the last colon. -/
theorem cutTypeName_eq_some_iff :
    cutTypeName text = (p, some name) ↔ text = p ++ ":" ++ name ∧ NamesType name := by
  constructor
  · intro h
    obtain ⟨htext, hname, hcolon⟩ := cutTypeName_some h
    obtain ⟨hne, hslash⟩ := isTypeName_iff.1 hname
    exact ⟨htext, hne, hslash, hcolon⟩
  · rintro ⟨rfl, h⟩
    exact cutTypeName_append h p

lemma cutTypeName_none (h : (cutTypeName text).2 = none) : cutTypeName text = (text, none) := by
  unfold cutTypeName at h ⊢
  split
  · split
    · next hcut hname => simp [hcut, hname] at h
    · rfl
  · rfl

/-- Nothing of a fragment is lost but the colon in front of the name of a type. -/
lemma cutTypeName_written (text : String) :
    (cutTypeName text).1 ++ suffix (cutTypeName text).2 = text := by
  cases h : (cutTypeName text).2 with
  | none =>
    rw [cutTypeName_none h]
    simp [suffix]
  | some name =>
    have hcut := (cutTypeName_eq_some_iff.1 (Prod.ext rfl h)).1
    rw [suffix, Option.map_some, Option.getD_some, ← String.append_assoc, ← hcut]

/-- A path keeps its last colon if no name of a type follows. -/
lemma cutTypeName_path (h : ∀ before behind, p = before ++ ":" ++ behind → ':' ∉ behind.toList →
    behind = "" ∨ '/' ∈ behind.toList) : cutTypeName p = (p, none) := by
  cases hname : (cutTypeName p).2 with
  | none => exact cutTypeName_none hname
  | some name =>
    obtain ⟨hp, hvalid⟩ := cutTypeName_eq_some_iff.1 (Prod.ext rfl hname)
    rcases h _ name hp hvalid.colon_not_mem with hempty | hslash
    · exact absurd hempty hvalid.ne_empty
    · exact absurd hslash hvalid.slash_not_mem

lemma ofText_of_not_mem (h : '#' ∉ (Text.trim raw).toList) :
    ofText raw = external (Text.trim raw) none none := by
  unfold ofText
  dsimp only
  rw [Text.cutAt?, Text.cut?_eq_none.2 h, Option.map_none]

lemma ofText_of_hash (hl : '#' ∉ l.toList) (h : Text.trim raw = l ++ "#" ++ f) :
    ofText raw = ofParts l (cutTypeName f).1 (cutTypeName f).2 := by
  have hlist : (l ++ "#" ++ f).toList = l.toList ++ '#' :: f.toList := by simp
  have hcut : Text.cutAt? '#' (Text.trim raw) = some (l, f) := by
    rw [h, Text.cutAt?, hlist, Text.cut?_append hl, Option.map_some, String.ofList_toList,
      String.ofList_toList]
  unfold ofText
  dsimp only
  rw [hcut, ofParts]
  simp only [String.isEmpty_iff]

/-- A text with a `#` in it is not trimmed if its location starts with no blank and what stands
behind the `#` ends in none. -/
lemma trim_hash (hl : ∀ c ∈ l.toList.head?, Text.isBlank c = false)
    (hf : ∀ c ∈ f.toList.getLast?, Text.isBlank c = false) :
    Text.trim (l ++ "#" ++ f) = l ++ "#" ++ f := by
  have hlist : (l ++ "#" ++ f).toList = l.toList ++ '#' :: f.toList := by simp
  apply Text.trim_eq_self <;> rw [hlist]
  · cases hs : l.toList with
    | nil => simp [Text.isBlank]
    | cons c cs => simpa [hs] using hl
  · rw [List.getLast?_append, List.getLast?_cons]
    cases hs : f.toList.getLast? with
    | none => simp [Text.isBlank]
    | some c => simpa [hs] using hf

lemma ofText_append (hl : '#' ∉ l.toList) (hstart : ∀ c ∈ l.toList.head?, Text.isBlank c = false)
    (hend : ∀ c ∈ f.toList.getLast?, Text.isBlank c = false) :
    ofText (l ++ "#" ++ f) = ofParts l (cutTypeName f).1 (cutTypeName f).2 :=
  ofText_of_hash hl (trim_hash hstart hend)

lemma getLast?_append_name (h : name ≠ "") (p : String) :
    (p ++ ":" ++ name).toList.getLast? = name.toList.getLast? := by
  have hne : name.toList ≠ [] := mt String.toList_eq_nil_iff.1 h
  rw [String.toList_append, List.getLast?_append, List.getLast?_eq_some_getLast hne, Option.some_or]

/-- Reading a reference loses nothing of the trimmed text but the `#` in front of an empty path, and
the parts of a reference are read back from its text. -/
theorem ofText_lossless :
    (∀ raw, '#' ∉ (Text.trim raw).toList → ofText raw = external (Text.trim raw) none none) ∧
    (∀ raw l f, '#' ∉ l.toList → Text.trim raw = l ++ "#" ++ f →
      ((ofText raw).isFragment = true ↔ l = "") ∧ (ofText raw).location = l ∧
      (∀ name, (ofText raw).typeName? = some name → NamesType name) ∧
      (ofText raw).written = Text.trim raw ∧
      (ofText raw).withoutTypeName ++ suffix (ofText raw).typeName? =
        if l ≠ "" ∧ (ofText raw).path = "" then l ++ suffix (ofText raw).typeName?
        else Text.trim raw) ∧
    (∀ l p name, '#' ∉ l.toList → (∀ c ∈ l.toList.head?, Text.isBlank c = false) →
      NamesType name → (∀ c ∈ name.toList.getLast?, Text.isBlank c = false) →
      ofText (l ++ "#" ++ p ++ ":" ++ name) = ofParts l p (some name)) ∧
    (∀ l p, '#' ∉ l.toList → (∀ c ∈ l.toList.head?, Text.isBlank c = false) →
      (∀ c ∈ p.toList.getLast?, Text.isBlank c = false) →
      (∀ before behind, p = before ++ ":" ++ behind → ':' ∉ behind.toList →
        behind = "" ∨ '/' ∈ behind.toList) →
      ofText (l ++ "#" ++ p) = ofParts l p none) := by
  refine ⟨fun raw => ofText_of_not_mem, fun raw l f hl htrim => ?_, ?_, ?_⟩
  · have hread := ofText_of_hash hl htrim
    have hname : ∀ name, (ofText raw).typeName? = some name → NamesType name := by
      intro name hname
      rw [hread, typeName?_ofParts] at hname
      exact (cutTypeName_eq_some_iff.1 (Prod.ext rfl hname)).2
    have hwritten : (ofText raw).written = Text.trim raw := by
      rw [hread, written_ofParts, String.append_assoc, cutTypeName_written, htrim]
    refine ⟨?_, ?_, hname, hwritten, ?_⟩
    · rw [hread, isFragment_ofParts]
    · rw [hread, location_ofParts]
    · rw [← hwritten, hread, withoutTypeName_ofParts, path_ofParts, typeName?_ofParts,
        written_ofParts]
      split <;> rfl
  · intro l p name hl hstart hname hend
    have hlast : ∀ c ∈ (p ++ ":" ++ name).toList.getLast?, Text.isBlank c = false := by
      rwa [getLast?_append_name hname.ne_empty]
    have hread := ofText_append hl hstart hlast
    rw [cutTypeName_append hname] at hread
    simpa only [String.append_assoc] using hread
  · intro l p hl hstart hend hpath
    rw [ofText_append hl hstart hend, cutTypeName_path hpath]

theorem ofText_lossless_colons :
    Text.trim " http://h:80/x#/g/a:b/c#d:Order " = "http://h:80/x" ++ "#" ++ "/g/a:b/c#d:Order" ∧
      (ofText " http://h:80/x#/g/a:b/c#d:Order ").written = "http://h:80/x#/g/a:b/c#d:Order" ∧
      ofText ("http://h:80/x" ++ "#" ++ "/g/a:b/c#d" ++ ":" ++ "Order") =
        external "http://h:80/x" (some "/g/a:b/c#d") (some "Order") ∧
      ofText ("" ++ "#" ++ "/g/a:b/c") = .fragment "/g/a:b/c" none := by
  obtain ⟨-, hreads, hnamed, hplain⟩ := ofText_lossless
  have htrim : Text.trim " http://h:80/x#/g/a:b/c#d:Order " =
      "http://h:80/x" ++ "#" ++ "/g/a:b/c#d:Order" := by decide +kernel
  refine ⟨htrim, ?_, ?_, ?_⟩
  · rw [(hreads _ _ _ (by decide) htrim).2.2.2.1, htrim]
    decide
  · exact hnamed _ _ _ (by decide) (by rintro c ⟨⟩; decide) ⟨by decide, by decide, by decide⟩
      (by rintro c ⟨⟩; decide)
  · refine hplain "" _ (by decide) (by rintro c ⟨⟩) (by rintro c ⟨⟩; decide)
      fun before behind hp hbehind => .inr ?_
    have hcut := Text.cutLast?_append before.toList hbehind
    have hlist : before.toList ++ ':' :: behind.toList = "/g/a:b/c".toList := by simp [hp]
    rw [hlist] at hcut
    obtain ⟨-, hbehind⟩ := Prod.mk.inj (Option.some.inj hcut)
    rw [← hbehind]
    decide

end Reference

end Registry
