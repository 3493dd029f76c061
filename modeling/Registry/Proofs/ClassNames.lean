import Mathlib.Data.List.Infix
import Registry.Proofs.ProtoMessages

/-!
# The names of classes

A class is named by its reference, by its schema or by the place of the schema. In the same document
the group qualifies the name unless the name starts with the group's id, whether or not a dot follows
there. The project qualifies every name but the last segment of a place, which stands for a schema
that has no name at all.
-/

namespace Registry.SchemaClass

open Text

variable {l l' : Loader} {reference path project format full : String}
  {root schema version payload : Value}

lemma unescapeChars_eq_nil {cs : List Char} : Pointer.unescapeChars cs = [] ↔ cs = [] := by
  constructor
  · intro h
    unfold Pointer.unescapeChars at h
    split at h
    · cases h
    · cases h
    · cases h
    · rfl
  · rintro rfl
    rfl

lemma isEmpty_unescape (token : String) : (Pointer.unescape token).isEmpty = token.isEmpty := by
  rw [Bool.eq_iff_iff, String.isEmpty_iff, String.isEmpty_iff, Pointer.unescape,
    ← String.toList_eq_nil_iff, String.toList_ofList, unescapeChars_eq_nil,
    String.toList_eq_nil_iff]

lemma filter_map_unescape (tokens : List String) :
    (tokens.map Pointer.unescape).filter (!·.isEmpty) =
      (tokens.filter (!·.isEmpty)).map Pointer.unescape := by
  have hsame : (!·.isEmpty) ∘ Pointer.unescape = (!·.isEmpty) :=
    funext fun token => congrArg (!·) (isEmpty_unescape token)
  rw [List.filter_map, hsame]

/-- No segment of a place is empty. -/
lemma ne_empty_of_mem_segments {place segment : String} (h : segment ∈ segments place) :
    segment ≠ "" := by
  obtain ⟨token, htoken, rfl⟩ := List.mem_map.1 h
  have hne := (List.mem_filter.1 htoken).2
  rw [← isEmpty_unescape] at hne
  rintro he
  rw [he] at hne
  cases hne

/-- The segments of a fragment's place are its tokens that are not empty. -/
lemma segments_fragment {tokens : List String}
    (h : Value.fragmentTokens? ("#" ++ path) = some tokens) :
    segments ("#" ++ path) = tokens.filter (!·.isEmpty) := by
  have hlist : ("#" ++ path).toList = '#' :: path.toList := by simp
  have hcut : cutAt? '#' ("#" ++ path) = some ("", path) := by
    rw [cutAt?, hlist, cut?, if_pos rfl]
    simp
  have hpointer : Pointer.ofFragment ("#" ++ path) = Pointer.ofFragment path := by
    unfold Pointer.ofFragment
    rw [hlist, List.dropWhile_cons_of_pos rfl]
  have hread : Pointer.unescape ∘ String.ofList =
      fun token => String.ofList (Pointer.unescapeChars token) :=
    funext fun token => by simp [Pointer.unescape]
  unfold segments
  rw [Value.fragmentTokens?, hpointer] at h
  rw [hcut]
  dsimp only
  generalize Pointer.ofFragment path = pointer at h
  rw [← filter_map_unescape]
  unfold Pointer.tokens? at h
  unfold pieces
  split at h
  · next hnil =>
    rw [← Option.some.inj h, hnil]
    rfl
  · next cs hcs =>
    rw [← Option.some.inj h, hcs, List.splitOn_cons_eq_if_modifyHead, if_pos (by decide),
      List.map_cons, List.map_cons, List.filter_cons_of_neg (by decide), List.map_map, hread]
  · cases h

/-- The name that a schema with versions gives itself. -/
def ownName? (schema : Value) : Option String :=
  if schema.latestVersion?.isSome then
    ((schema.get? "schemaid").or (schema.get? "id")).bind Value.text?
  else none

/-- A name in a group: as it is if it starts like the group, else behind the group and a dot. -/
def inGroup (group name : String) : String :=
  if startsWith name group then name else group ++ "." ++ name

lemma className_of_typeName {typeName : String}
    (h : (Reference.ofText reference).typeName? = some typeName) :
    className root (.ofText reference) schema = typeName := by
  rw [className, h]

lemma className_of_none {r : Reference} (h : r.typeName? = none) :
    className root r schema =
      let name := ((ownName? schema).or (resourceId? (segments r.withoutTypeName))).getD ""
      match if r.isFragment then groupId? root (segments r.withoutTypeName) else none with
      | some group => inGroup group name
      | none => name := by
  rw [className, h]
  rfl

/-- A name in a group that has an id is not empty. -/
lemma inGroup_ne_empty {group name : String} (h : group ≠ "") : inGroup group name ≠ "" := by
  unfold inGroup
  split
  · next hstart =>
    rintro rfl
    exact h (String.toList_eq_nil_iff.1 (List.prefix_nil.1 (List.isPrefixOf_iff_prefix.1 hstart)))
  · simp

/-- A class has no name only if neither its reference nor its schema gives one and its schema has no
place of a resource, or if the schema gives an empty one. -/
lemma className_eq_empty (h : className root (.ofText reference) schema = "") :
    (Reference.ofText reference).typeName? = none ∧ (ownName? schema = some "" ∨
      ownName? schema = none ∧ (segments (Reference.ofText reference).withoutTypeName).length < 4) := by
  cases htype : (Reference.ofText reference).typeName? with
  | some typeName =>
    rw [className_of_typeName htype] at h
    exact absurd h (typeName_ne_empty htype)
  | none =>
    rw [className_of_none htype] at h
    dsimp only at h
    generalize hplace : segments (Reference.ofText reference).withoutTypeName = place at h ⊢
    have hname : ((ownName? schema).or (resourceId? place)).getD "" = "" := by
      split at h
      · unfold inGroup at h
        split at h
        · exact h
        · simp at h
      · exact h
    refine ⟨rfl, ?_⟩
    cases hown : ownName? schema with
    | some own =>
      rw [hown, Option.some_or, Option.getD_some] at hname
      exact .inl (congrArg some hname)
    | none =>
      refine .inr ⟨rfl, ?_⟩
      rw [hown, Option.none_or] at hname
      cases hid : place[3]? with
      | none => exact Nat.lt_succ_of_le (List.getElem?_eq_none_iff.1 hid)
      | some id =>
        rw [resourceId?, hid, Option.getD_some] at hname
        have hmem := List.mem_of_getElem? hid
        rw [← hplace] at hmem
        exact absurd hname (ne_empty_of_mem_segments hmem)

/-- A format whose schemas name no types. -/
def IsPlain (format : String) : Prop :=
  startsWith (family format) "avro" = false ∧ startsWith (family format) "proto" = false

lemma ofPayload_plain {name : String} {place : List String} (h : IsPlain format) :
    ofPayload (family format) project name place payload = plainClass project name place := by
  rw [ofPayload, if_neg (by simp [h.1]), if_neg (by simp [h.2])]

lemma Reaches.schemaClass_plain
    (h : Reaches l root (.ofText reference) format schema payload l') (hplain : IsPlain format)
    (project : String) :
    (l.schemaClass reference project root format).1 =
      (plainClass project (className root (.ofText reference) schema)
        (segments (Reference.ofText reference).withoutTypeName)).mapError
          (.schemaReference reference) := by
  rw [h.schemaClass_of_family project, ofPayload_plain hplain]

lemma plainClass_of_ne_empty {name : String} (h : name ≠ "") (place : List String) :
    plainClass project name place = .ok (project ++ "." ++ name) := by
  rw [plainClass, if_pos (by simpa using h)]

/-- Without a name, a class is called like a segment of its schema's place. -/
lemma mem_of_plainClass {place : List String} (h : plainClass project "" place = .ok full) :
    full ∈ place := by
  rw [plainClass, if_neg (by decide)] at h
  rw [← List.mem_reverse]
  split at h
  · next name _ hplace =>
    rw [hplace, ← Except.ok.inj h]
    simp
  · next name _ hplace =>
    rw [hplace, ← Except.ok.inj h]
    simp
  · cases h

/-- A name in a group, by dotted components: as it is if it is the group's id or goes on behind it
with a dot, else behind the group and a dot. -/
def inGroupByDots (group name : String) : String :=
  if name = group ∨ startsWith name (group ++ ".") = true then name else group ++ "." ++ name

lemma startsWith_append (front back : String) : startsWith (front ++ back) front = true := by
  rw [startsWith, List.isPrefixOf_iff_prefix, String.toList_append]
  exact List.prefix_append _ _

lemma startsWith_of_dotted {group name : String} (h : startsWith name (group ++ ".") = true) :
    startsWith name group = true := by
  unfold startsWith at h ⊢
  rw [List.isPrefixOf_iff_prefix, String.toList_append] at h
  exact List.isPrefixOf_iff_prefix.2 ((List.prefix_append _ _).trans h)

lemma ne_behind_dot (group name : String) : name ≠ group ++ "." ++ name := by
  intro h
  have hlength := congrArg String.length h
  simp at hlength

/-- Both readings of a group give the same name exactly if no name starts like the group without a
dot behind it. -/
lemma inGroup_eq_iff {group name : String} :
    inGroup group name = inGroupByDots group name ↔
      (startsWith name group = true → name = group ∨ startsWith name (group ++ ".") = true) := by
  unfold inGroup inGroupByDots
  by_cases hdots : name = group ∨ startsWith name (group ++ ".") = true
  · have hstart : startsWith name group = true := by
      rcases hdots with rfl | hdots
      · simpa using startsWith_append name ""
      · exact startsWith_of_dotted hdots
    rw [if_pos hdots, if_pos hstart]
    exact ⟨fun _ _ => hdots, fun _ => rfl⟩
  · rw [if_neg hdots]
    by_cases hstart : startsWith name group = true
    · rw [if_pos hstart]
      exact ⟨fun h => absurd h (ne_behind_dot group name), fun h => absurd (h hstart) hdots⟩
    · rw [if_neg hstart]
      exact ⟨fun _ h => absurd h hstart, fun _ => rfl⟩

/-- The name of a class whose reference leads to a resource in the same document. -/
lemma className_in_group {groupType key collection id group : String}
    (hplace : Value.fragmentTokens? ("#" ++ path) = some [groupType, key, collection, id])
    (htype : groupType ≠ "") (hkey : key ≠ "") (hcollection : collection ≠ "")
    (hgroup : groupId? root [groupType, key] = some group) :
    className root (.fragment path none) schema = inGroup group ((ownName? schema).getD id) := by
  have hsegments : segments ("#" ++ path) =
      groupType :: key :: collection :: [id].filter (!·.isEmpty) := by
    rw [segments_fragment hplace]
    simp [htype, hkey, hcollection]
  have hid : resourceId? (segments ("#" ++ path)) = ([id].filter (!·.isEmpty))[0]? := by
    rw [hsegments]
    rfl
  have hgroup' : groupId? root (segments ("#" ++ path)) = some group := by
    rw [hsegments, ← hgroup]
    rfl
  have hname : ((ownName? schema).or ([id].filter (!·.isEmpty))[0]?).getD "" =
      (ownName? schema).getD id := by
    cases ownName? schema with
    | some own => rfl
    | none =>
      by_cases he : id = ""
      · simp [he]
      · simp [he]
  rw [className_of_none rfl]
  simp only [Reference.isFragment, Reference.withoutTypeName, if_true, hgroup', hid, hname]

/-- A schema in the same document, of a format that names no types, gives the class of its name in
its group. That is the name by dotted components exactly if it does not start like the group's id
without a dot behind it. -/
theorem schemaClass_in_group {groupType key collection id group versionId : String}
    (hreference : Reference.ofText reference = .fragment path none)
    (hplace : Value.fragmentTokens? ("#" ++ path) = some [groupType, key, collection, id])
    (htype : groupType ≠ "") (hkey : key ≠ "") (hcollection : collection ≠ "")
    (hgroup : groupId? root [groupType, key] = some group) (hne : group ≠ "")
    (hlookup : root.lookup ("#" ++ path) = some schema)
    (hlatest : schema.latestVersion? = some (versionId, version))
    (hformat : sameIgnoringCase (declared version) format = true) (hplain : IsPlain format)
    (hurl : version.textAt? "schemaurl" = none) (hschema : version.get? "schema" = some payload)
    (l : Loader) (project : String) :
    let name := (ownName? schema).getD id
    let result := (l.schemaClass reference project root format).1
    result = .ok (project ++ "." ++ inGroup group name) ∧
      (result = .ok (project ++ "." ++ inGroupByDots group name) ↔
        (startsWith name group = true → name = group ∨ startsWith name (group ++ ".") = true)) := by
  intro name result
  have hmapping : isSchema schema = true := by
    cases schema with
    | mapping => rfl
    | _ => cases hlatest
  have hcounted : counted schema = version := by
    rw [counted, hlatest]
    rfl
  have hleads : LeadsTo l root (.ofText reference) schema (l.addSchemaReference ("#" ++ path)) :=
    hreference ▸ .fragment hlookup hmapping
  have hreaches : Reaches l root (.ofText reference) format schema payload
      (l.addSchemaReference ("#" ++ path)) := by
    refine ⟨hleads, .inl (by rw [hlatest]; rfl), ?_, ?_⟩
    · rw [hcounted]
      exact hformat
    · rw [hcounted]
      exact .inline hurl hschema
  have hname : className root (.ofText reference) schema = inGroup group name := by
    rw [hreference]
    exact className_in_group hplace htype hkey hcollection hgroup
  have hresult : result = .ok (project ++ "." ++ inGroup group name) := by
    have hclass := hreaches.schemaClass_plain hplain project
    rw [hname, plainClass_of_ne_empty (inGroup_ne_empty hne)] at hclass
    exact hclass
  refine ⟨hresult, ?_⟩
  rw [hresult, Except.ok.injEq, String.append_right_inj]
  exact inGroup_eq_iff

/-- A schema whose id is the id of its group and goes on with a dot. -/
theorem schemaClass_in_group_dotted :
    let version : Value := .mapping [("format", .string "JsonSchema/draft-07"), ("schema", .mapping [])]
    let root : Value := .mapping [("schemagroups", .mapping [("order", .mapping [("schemagroupid",
      .string "order"), ("schemas", .mapping [("order.created", .mapping [("versions", .mapping
        [("1", version)])])])])])]
    let result := ((Loader.start ⟨[], .null⟩ (.ofDocuments []) .strict).schemaClass
      "#/schemagroups/order/schemas/order.created" "App" root "jsonschema/draft-07").1
    result = .ok "App.order.created" ∧
      result = .ok ("App" ++ "." ++ inGroupByDots "order" "order.created") := by
  intro version root result
  have hlookup : root.lookup ("#" ++ "/schemagroups/order/schemas/order.created") =
      some (.mapping [("versions", .mapping [("1", version)])]) := by decide +kernel
  have hplace : Value.fragmentTokens? ("#" ++ "/schemagroups/order/schemas/order.created") =
      some ["schemagroups", "order", "schemas", "order.created"] := by decide +kernel
  have hlatest : (Value.mapping [("versions", .mapping [("1", version)])]).latestVersion? =
      some ("1", version) := by decide +kernel
  have hreference : Reference.ofText "#/schemagroups/order/schemas/order.created" =
      .fragment "/schemagroups/order/schemas/order.created" none := by decide +kernel
  have hgroup : groupId? root ["schemagroups", "order"] = some "order" := by decide +kernel
  have hplain : IsPlain "jsonschema/draft-07" := ⟨by decide +kernel, by decide +kernel⟩
  have hschema : version.get? "schema" = some (.mapping []) := rfl
  obtain ⟨hresult, hdots⟩ := schemaClass_in_group hreference hplace (by decide) (by decide)
    (by decide) hgroup (by decide) hlookup hlatest (by decide +kernel) hplain rfl hschema
    (Loader.start ⟨[], .null⟩ (.ofDocuments []) .strict) "App"
  have hname : "App" ++ "." ++ inGroup "order" "order.created" = "App.order.created" := by
    decide +kernel
  exact ⟨hname ▸ hresult, hdots.2 fun _ => .inr (by decide +kernel)⟩

/-- A schema whose id goes on behind the id of its group without a dot loses the group. -/
theorem schemaClass_not_in_group :
    let version : Value := .mapping [("format", .string "JsonSchema/draft-07"), ("schema", .mapping [])]
    let root : Value := .mapping [("schemagroups", .mapping [("order", .mapping [("schemagroupid",
      .string "order"), ("schemas", .mapping [("orderCreated", .mapping [("schemaid",
        .string "orderCreated"), ("versions", .mapping [("1", version)])])])])])]
    let result := ((Loader.start ⟨[], .null⟩ (.ofDocuments []) .strict).schemaClass
      "#/schemagroups/order/schemas/orderCreated" "App" root "JsonSchema/draft-07").1
    "App" ++ "." ++ inGroupByDots "order" "orderCreated" = "App.order.orderCreated" ∧
      result = .ok "App.orderCreated" := by
  decide +kernel

lemma ne_empty_of_sameIgnoringCase {name other : String} (h : sameIgnoringCase name other = true)
    (hne : other ≠ "") : name ≠ "" := by
  rintro rfl
  rw [sameIgnoringCase, beq_iff_eq, lowerAscii, lowerAscii] at h
  have hother := String.ofList_injective h
  exact hne (String.toList_eq_nil_iff.1 (List.map_eq_nil_iff.1 hother.symm))

/-- A record that is asked for by a name has one. -/
lemma Holds.ne_empty {wanted : String} {record : Value} (h : Holds wanted payload record full)
    (hne : wanted ≠ "") : full ≠ "" := by
  cases h with
  | only hrecord hname => exact ne_empty_of_sameIgnoringCase (hname.resolve_left hne) hne
  | member _ _ _ => exact hne

/-- The class of a message has a name. -/
lemma ne_empty_of_protoMessage {name : String} (h : protoMessage name payload = .ok full) :
    full ≠ "" := by
  unfold protoMessage at h
  split at h
  · cases h
  · split at h
    · cases h
    · next message hmessage =>
      obtain ⟨_, _, -, hdeclaring, -⟩ := firstMessage?_eq_some.1 hmessage
      have hne : message ≠ "" := mt String.toList_eq_nil_iff.2 hdeclaring.ne_nil
      split at h
      · exact Except.ok.inj h ▸ hne
      · next hname =>
        split at h
        · exact Except.ok.inj h ▸ mt String.isEmpty_iff.2 hname
        · rw [← Except.ok.inj h]
          simp [hne]

lemma ofPayload_proto {family name : String} {place : List String}
    (hf : startsWith family "proto" = true)
    (h : ofPayload family project name place payload = .ok full) :
    ∃ message, message ≠ "" ∧ full = project ++ "." ++ message := by
  rw [ofPayload, if_neg (not_avro_of_proto hf), if_pos hf] at h
  cases hmessage : protoMessage name payload with
  | error => rw [hmessage] at h; cases h
  | ok message =>
    rw [hmessage] at h
    exact ⟨message, ne_empty_of_protoMessage hmessage, (Except.ok.inj h).symm⟩

/-- A class has the project in front of a name that is not empty if its reference, its schema or the
place of the schema gives a name, or if it is of a message. Without a name, the class of a record is
called like the record, which may have an empty name, and a class of a family that names no types is
called like a segment of the place, without the project. -/
theorem schemaClass_qualified (l : Loader) (reference project : String) (root : Value)
    (format : String) :
    match l.schemaClass reference project root format with
    | (.ok full, l') => ∃ schema payload,
        Reaches l root (.ofText reference) format schema payload l' ∧
        (className root (.ofText reference) schema ≠ "" ∨
            startsWith (family format) "proto" = true →
          ∃ name, name ≠ "" ∧ full = project ++ "." ++ name) ∧
        (className root (.ofText reference) schema = "" →
          ((Reference.ofText reference).typeName? = none ∧ (ownName? schema = some "" ∨
            ownName? schema = none ∧
              (segments (Reference.ofText reference).withoutTypeName).length < 4)) ∧
          (startsWith (family format) "avro" = true →
            ∃ name, IsRecord payload name ∧ full = project ++ "." ++ name) ∧
          (IsPlain format →
            full ∈ segments (Reference.ofText reference).withoutTypeName ∧ full ≠ ""))
    | (.error _, _) => True := by
  have hcases := schemaClass_cases l reference project root format
  generalize l.schemaClass reference project root format = result at hcases ⊢
  rcases hcases with ⟨full, schema, payload, l', rfl, hreaches, hclass⟩ | ⟨_, _, _, rfl⟩ |
    ⟨_, _, rfl, -⟩
  · obtain ⟨-, -, hformat, -⟩ := id hreaches
    rw [classOf, family_congr hformat] at hclass
    refine ⟨schema, payload, hreaches, fun hnamed => ?_, fun hname =>
      ⟨className_eq_empty hname, fun havro => ?_, fun hplain => ?_⟩⟩
    · by_cases hproto : startsWith (family format) "proto" = true
      · exact ofPayload_proto hproto hclass
      · have hne := hnamed.resolve_right hproto
        by_cases havro : startsWith (family format) "avro" = true
        · obtain ⟨record, name, hholds, hfull⟩ := ofPayload_avro havro hclass
          exact ⟨name, hholds.ne_empty hne, hfull⟩
        · rw [ofPayload_plain ⟨Bool.eq_false_iff.2 havro, Bool.eq_false_iff.2 hproto⟩,
            plainClass_of_ne_empty hne] at hclass
          exact ⟨_, hne, (Except.ok.inj hclass).symm⟩
    · obtain ⟨record, name, hholds, hfull⟩ := ofPayload_avro havro hclass
      rw [hname] at hholds
      cases hholds with
      | only hrecord _ => exact ⟨name, hrecord, hfull⟩
      | member _ hne _ => exact absurd rfl hne
    · rw [ofPayload_plain hplain, hname] at hclass
      have hmem := mem_of_plainClass hclass
      exact ⟨hmem, ne_empty_of_mem_segments hmem⟩
  · trivial
  · trivial

/-- A schema that is read at a short place, of a family that names no types, gives a class without
the project, and a record without a name gives nothing but the project. -/
theorem schemaClass_not_qualified :
    let s : Source := .ofDocuments [
      ("https://r.example.com/order.json", ⟨"https://r.example.com/order.json",
        "\x7b\"format\": \"JsonSchema/draft-07\", \"schema\": \x7b\x7d\x7d", []⟩),
      ("https://r.example.com/order.avsc", ⟨"https://r.example.com/order.avsc",
        "\x7b\"format\": \"Avro/1.11.3\", \"schema\": \x7b\"type\": \"record\", \"name\": \"\"\x7d\x7d",
        []⟩)]
    let result (reference format : String) :=
      ((Loader.start ⟨[], .null⟩ s .strict).schemaClass reference "App" (.mapping []) format).1
    result "https://r.example.com/order.json" "JsonSchema/draft-07" = .ok "order.json" ∧
      result "https://r.example.com/order.avsc" "Avro/1.11.3" = .ok "App." ∧
      (¬∃ name, name ≠ "" ∧ "order.json" = "App" ++ "." ++ name) ∧
      ¬∃ name, name ≠ "" ∧ "App." = "App" ++ "." ++ name := by
  intro s result
  refine ⟨by decide +kernel, by decide +kernel, ?_, ?_⟩
  · rintro ⟨name, -, h⟩
    have hhead := congrArg (·.toList.head?) h
    simp at hhead
  · rintro ⟨name, hne, h⟩
    have hlength := congrArg String.length h
    simp [hne] at hlength

end Registry.SchemaClass
