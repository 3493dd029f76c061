import Mathlib.Tactic.Lemma
import Registry.SchemaClass

/-!
# The stages of a schema class

What a reference to a schema goes through until it gives a class name: the schema that it leads to,
the version that counts, the name of the class and the payload. There is a class name exactly if
every stage gives something.
-/

namespace Registry.SchemaClass

variable {l l' : Loader} {text project format full : String} {root schema version payload : Value}
  {reference : Reference} {path : List String} {name : String}

/-- A reference leads to a schema, in the document or in another one; and the loader afterwards. -/
inductive LeadsTo (l : Loader) (root : Value) : Reference → Value → Loader → Prop
  | fragment {path : String} {typeName : Option String} {schema : Value}
      (hlookup : root.lookup ("#" ++ path) = some schema) (hschema : isSchema schema = true) :
      LeadsTo l root (.fragment path typeName) schema (l.addSchemaReference ("#" ++ path))
  | document {location : String} {typeName : Option String} {schema : Value} {l' : Loader}
      (hload : l.loadSchemaDocument location [] = (some schema, l')) :
      LeadsTo l root (.external location none typeName) schema l'
  | part {location fragment : String} {typeName : Option String} {document schema : Value}
      {l' : Loader} (hload : l.loadSchemaDocument location [] = (some document, l'))
      (hlookup : document.lookup fragment = some schema) :
      LeadsTo l root (.external location (some fragment) typeName) schema l'

theorem find_eq_ok :
    find l root reference = (.ok schema, l') ↔ LeadsTo l root reference schema l' := by
  constructor
  · intro h
    cases reference with
    | fragment path typeName =>
      rw [find, Prod.mk.injEq] at h
      obtain ⟨hfound, rfl⟩ := h
      split at hfound
      · next found hlookup =>
        obtain rfl := Except.ok.inj hfound
        obtain ⟨hlookup, hschema⟩ := Option.filter_eq_some_iff.1 hlookup
        exact .fragment hlookup hschema
      · cases hfound
    | external location fragment typeName =>
      rw [find, Prod.mk.injEq] at h
      obtain ⟨hfound, rfl⟩ := h
      split at hfound
      · cases hfound
      · next document hdocument =>
        obtain rfl := Except.ok.inj hfound
        exact .document (Prod.ext hdocument rfl)
      · next document fragment hdocument =>
        split at hfound
        · next found hlookup =>
          obtain rfl := Except.ok.inj hfound
          exact .part (Prod.ext hdocument rfl) hlookup
        · cases hfound
  · rintro (⟨hlookup, hschema⟩ | hload | ⟨hload, hlookup⟩)
    · rw [find, hlookup, Option.filter_some, if_pos hschema]
    · rw [find, hload]
    · rw [find, hload]
      simp only [hlookup]

/-- The version of a schema that counts: the latest one or, without versions, the schema itself. -/
def counted (schema : Value) : Value := (schema.latestVersion?.map Prod.snd).getD schema

lemma counted_eq_self (h : schema.latestVersion? = none) : counted schema = schema := by
  rw [counted, h]
  rfl

/-- Something of a schema can count: it has versions, or is a mapping itself. -/
def Counts (schema : Value) : Prop := schema.latestVersion?.isSome ∨ schema.isMapping = true

instance (schema : Value) : Decidable (Counts schema) := inferInstanceAs (Decidable (_ ∨ _))

/-- The name of a class: the one at the end of the reference or, without one, the id of the schema
if it has versions, else its id by its place. A name derived from the schema in the same document is
qualified by the group unless it starts like the group. -/
def className (root : Value) (reference : Reference) (schema : Value) : String :=
  match reference.typeName? with
  | some name => name
  | none =>
    let path := segments reference.withoutTypeName
    let own := if schema.latestVersion?.isSome then
        ((schema.get? "schemaid").or (schema.get? "id")).bind Value.text?
      else none
    let name := (own.or (resourceId? path)).getD ""
    match if reference.isFragment then groupId? root path else none with
    | some group => if Text.startsWith name group then name else group ++ "." ++ name
    | none => name

lemma version_eq_ok (h : SchemaClass.version schema path = .ok (version, name)) :
    Counts schema ∧ version = counted schema ∧
      name = ((if schema.latestVersion?.isSome then
          ((schema.get? "schemaid").or (schema.get? "id")).bind Value.text?
        else none).or (resourceId? path)).getD "" := by
  unfold SchemaClass.version at h
  split at h
  · next id latest hlatest =>
    obtain ⟨rfl, rfl⟩ := Prod.mk.inj (Except.ok.inj h)
    simp [Counts, counted, hlatest]
  · next hnone =>
    split at h
    · next hm =>
      obtain ⟨rfl, rfl⟩ := Prod.mk.inj (Except.ok.inj h)
      simp [Counts, counted, hnone, hm]
    · cases h

lemma exists_version (h : Counts schema) (path : List String) :
    ∃ name, SchemaClass.version schema path = .ok (counted schema, name) := by
  unfold SchemaClass.version counted
  split
  · next hlatest => exact ⟨_, by rw [hlatest]; rfl⟩
  · next hnone =>
    rw [Counts, hnone] at h
    exact ⟨_, by rw [if_pos (h.resolve_left (by decide)), hnone]; rfl⟩

lemma version_of_not_counts (h : ¬Counts schema) (path : List String) :
    SchemaClass.version schema path = .error .versionNotFound := by
  rw [Counts, not_or] at h
  rw [SchemaClass.version, Option.not_isSome_iff_eq_none.1 h.1]
  exact if_neg h.2

lemma qualified_eq_className
    (h : SchemaClass.version schema (segments reference.withoutTypeName) = .ok (version, name)) :
    qualified root reference (segments reference.withoutTypeName)
      (reference.typeName?.getD name) = className root reference schema := by
  obtain ⟨-, -, rfl⟩ := version_eq_ok h
  unfold qualified className
  cases reference.typeName? with
  | some given => simp
  | none => cases reference.isFragment <;> rfl

/-- A version holds a payload: the document at its URL if it has one, else what it has inline; and
the loader afterwards. -/
inductive HoldsPayload (l : Loader) (version : Value) : Value → Loader → Prop
  | loaded {url : String} {payload : Value} {l' : Loader}
      (hurl : version.textAt? "schemaurl" = some url)
      (hload : l.loadSchemaDocument url [] = (some payload, l')) : HoldsPayload l version payload l'
  | inline {payload : Value} (hurl : version.textAt? "schemaurl" = none)
      (hschema : version.get? "schema" = some payload) : HoldsPayload l version payload l

theorem payload_eq_ok :
    SchemaClass.payload l text version = (.ok payload, l') ↔ HoldsPayload l version payload l' := by
  constructor
  · intro h
    unfold SchemaClass.payload at h
    split at h
    · next url hurl =>
      obtain ⟨hfound, rfl⟩ := Prod.mk.inj h
      split at hfound
      · next document hdocument =>
        obtain rfl := Except.ok.inj hfound
        exact .loaded hurl (Prod.ext hdocument rfl)
      · cases hfound
    · next hurl =>
      obtain ⟨hfound, rfl⟩ := Prod.mk.inj h
      split at hfound
      · next schema hschema =>
        obtain rfl := Except.ok.inj hfound
        exact .inline hurl hschema
      · cases hfound
  · rintro (⟨hurl, hload⟩ | ⟨hurl, hschema⟩)
    · rw [SchemaClass.payload, hurl]
      simp only [hload]
    · rw [SchemaClass.payload, hurl]
      simp only [hschema]

lemma payload_eq_error {fault : Fault}
    (h : SchemaClass.payload l text version = (.error fault, l')) :
    ∃ reference defect, fault = .schemaReference reference defect := by
  unfold SchemaClass.payload at h
  split at h <;>
    · have hfault := (Prod.mk.inj h).1
      split at hfault
      · cases hfault
      · exact ⟨_, _, (Except.error.inj hfault).symm⟩

/-- The format that a version declares. -/
def declared (version : Value) : String := (version.textAt? "format").getD ""

/-- A reference leads to a schema whose version that counts declares a format and holds a payload;
and the loader afterwards. -/
inductive Reaches (l : Loader) (root : Value) (reference : Reference) (format : String)
    (schema payload : Value) (l' : Loader) : Prop
  | intro {between : Loader} (leads : LeadsTo l root reference schema between)
      (counts : Counts schema)
      (declares : Text.sameIgnoringCase (declared (counted schema)) format = true)
      (holds : HoldsPayload between (counted schema) payload l')

lemma Reaches.of_plain {between : Loader} (hleads : LeadsTo l root reference schema between)
    (hm : schema.isMapping = true) (hplain : schema.latestVersion? = none)
    (hformat : Text.sameIgnoringCase (declared schema) format = true)
    (hholds : HoldsPayload between schema payload l') :
    Reaches l root reference format schema payload l' := by
  have hcounted := counted_eq_self hplain
  refine ⟨hleads, .inr hm, ?_, ?_⟩ <;> rw [hcounted]
  · exact hformat
  · exact hholds

/-- The class name that a payload gives, as the schema, its reference and its format say. -/
def classOf (root : Value) (reference : Reference) (project : String) (schema payload : Value) :
    Except SchemaDefect String :=
  ofPayload (family (declared (counted schema))) project (className root reference schema)
    (segments reference.withoutTypeName) payload

/-- The class name that a payload gives, or a fault of the reference. -/
def outcome (root : Value) (text project : String) (schema payload : Value) : Except Fault String :=
  (classOf root (.ofText text) project schema payload).mapError (.schemaReference text)

lemma schemaClass_of_find_eq_error {defect : SchemaDefect}
    (h : find l root (.ofText text) = (.error defect, l')) :
    l.schemaClass text project root format = (.error (.schemaReference text defect), l') := by
  simp only [Loader.schemaClass, h]

lemma schemaClass_of_version_eq_error {defect : SchemaDefect}
    (h : find l root (.ofText text) = (.ok schema, l'))
    (hv : SchemaClass.version schema (segments (Reference.ofText text).withoutTypeName) =
      .error defect) :
    l.schemaClass text project root format = (.error (.schemaReference text defect), l') := by
  simp only [Loader.schemaClass, h, hv]

/-- Where a reference leads to a schema of which something counts, format and payload decide. -/
lemma schemaClass_of_leadsTo (hleads : LeadsTo l root (.ofText text) schema l')
    (hcounts : Counts schema) (project format : String) :
    l.schemaClass text project root format =
      if Text.sameIgnoringCase (declared (counted schema)) format then
        match SchemaClass.payload l' text (counted schema) with
        | (.error fault, l) => (.error fault, l)
        | (.ok payload, l) => (outcome root text project schema payload, l)
      else (.error (.formatMismatch format (declared (counted schema))), l') := by
  obtain ⟨name, hversion⟩ :=
    exists_version hcounts (segments (Reference.ofText text).withoutTypeName)
  simp only [Loader.schemaClass, find_eq_ok.2 hleads, hversion, qualified_eq_className hversion]
  by_cases hformat : Text.sameIgnoringCase (declared (counted schema)) format = true
  · have hsame : Text.sameIgnoringCase (((counted schema).textAt? "format").getD "") format =
        true := hformat
    rw [if_pos hformat, if_neg (by simp [hsame])]
    generalize SchemaClass.payload l' text (counted schema) = held
    obtain ⟨fault | payload, after⟩ := held
    · rfl
    · simp only [outcome, classOf, declared]
      generalize ofPayload _ project _ _ payload = result
      cases result <;> rfl
  · have hother : Text.sameIgnoringCase (((counted schema).textAt? "format").getD "") format =
        false := Bool.eq_false_iff.2 hformat
    rw [if_neg hformat, if_pos (by simp [hother])]
    rfl

/-- Where a reference reaches a payload, that decides. -/
theorem Reaches.schemaClass_eq (h : Reaches l root (.ofText text) format schema payload l')
    (project : String) :
    l.schemaClass text project root format = (outcome root text project schema payload, l') := by
  obtain ⟨hleads, hcounts, hformat, hholds⟩ := h
  rw [schemaClass_of_leadsTo hleads hcounts, if_pos hformat, payload_eq_ok.2 hholds]

/-- A class name comes from a payload that the reference reaches; whatever else happens is a fault
of a reference or of the format. -/
theorem schemaClass_cases (l : Loader) (text project : String) (root : Value) (format : String) :
    (∃ full schema payload l', l.schemaClass text project root format = (.ok full, l') ∧
      Reaches l root (.ofText text) format schema payload l' ∧
      classOf root (.ofText text) project schema payload = .ok full) ∨
    (∃ reference defect l', l.schemaClass text project root format =
      (.error (.schemaReference reference defect), l')) ∨
    ∃ found l', l.schemaClass text project root format =
      (.error (.formatMismatch format found), l') ∧ Text.sameIgnoringCase found format = false := by
  rcases hfind : find l root (.ofText text) with ⟨defect | schema, between⟩
  · exact .inr (.inl ⟨_, _, _, schemaClass_of_find_eq_error hfind⟩)
  rcases hversion : SchemaClass.version schema (segments (Reference.ofText text).withoutTypeName) with
    defect | counting
  · exact .inr (.inl ⟨_, _, _, schemaClass_of_version_eq_error hfind hversion⟩)
  have hleads := find_eq_ok.1 hfind
  have hcounts := (version_eq_ok hversion).1
  by_cases hformat : Text.sameIgnoringCase (declared (counted schema)) format = true
  · rcases hpayload : SchemaClass.payload between text (counted schema) with ⟨fault | payload, l'⟩
    · obtain ⟨reference, defect, rfl⟩ := payload_eq_error hpayload
      refine .inr (.inl ⟨reference, defect, l', ?_⟩)
      rw [schemaClass_of_leadsTo hleads hcounts, if_pos hformat, hpayload]
    · have hreaches : Reaches l root (.ofText text) format schema payload l' :=
        ⟨hleads, hcounts, hformat, payload_eq_ok.1 hpayload⟩
      have hrun := hreaches.schemaClass_eq project
      rw [outcome] at hrun
      rcases hclass : classOf root (.ofText text) project schema payload with defect | full
      · rw [hclass] at hrun
        exact .inr (.inl ⟨text, defect, l', hrun⟩)
      · rw [hclass] at hrun
        exact .inl ⟨full, schema, payload, l', hrun, hreaches, hclass⟩
  · refine .inr (.inr ⟨declared (counted schema), between, ?_, Bool.eq_false_iff.2 hformat⟩)
    rw [schemaClass_of_leadsTo hleads hcounts, if_neg hformat]

end Registry.SchemaClass
