import Registry.Proofs.SchemaStages

/-!
# What a class name stands for

A reference that gives a class name leads to a schema of the requested format. If that is an Avro
format, the name is the one of a record that the payload holds. Everything else is a fault of a
reference or of the format.
-/

namespace Registry.SchemaClass

variable {wanted full : String} {record payload : Value}

/-- The family of a format depends on its letters only, not on their case. -/
lemma family_congr {format other : String} (h : Text.sameIgnoringCase format other = true) :
    family format = family other := by
  have hslash : ∀ c : Char, c.toLower = '/' ↔ c = '/' :=
    fun c => ⟨Text.eq_of_toLower_eq (by decide), fun hc => by rw [hc]; rfl⟩
  have hfamily : ∀ s : String, family s = String.ofList (((Text.cut? '/'
      (s.toList.map Char.toLower)).map Prod.fst).getD (s.toList.map Char.toLower)) := by
    intro s
    rw [Text.cut?_map hslash, family, Text.cutAt?, Text.lowerAscii]
    cases Text.cut? '/' s.toList <;> simp
  have hletters : format.toList.map Char.toLower = other.toList.map Char.toLower := by
    rw [Text.sameIgnoringCase, beq_iff_eq] at h
    exact String.ofList_injective h
  rw [hfamily, hfamily, hletters]

/-- The family of the requested format decides how the payload is read. -/
lemma Reaches.schemaClass_of_family {l l' : Loader} {text format : String} {root schema : Value}
    {payload : Value} (h : Reaches l root (.ofText text) format schema payload l')
    (project : String) :
    (l.schemaClass text project root format).1 =
      (ofPayload (family format) project (className root (.ofText text) schema)
        (segments (Reference.ofText text).withoutTypeName) payload).mapError
          (.schemaReference text) := by
  rw [h.schemaClass_eq project]
  obtain ⟨-, -, hformat, -⟩ := h
  rw [outcome, classOf, family_congr hformat]

/-- A value is an Avro record with a name, which stands behind its namespace and a dot if it has a
namespace. -/
inductive IsRecord (record : Value) : String → Prop
  | plain {name : String} (htype : record.textAt? "type" = some "record")
      (hname : record.textAt? "name" = some name)
      (hnamespace : (record.textAt? "namespace").getD "" = "") : IsRecord record name
  | qualified {name ns : String} (htype : record.textAt? "type" = some "record")
      (hname : record.textAt? "name" = some name)
      (hnamespace : record.textAt? "namespace" = some ns) (hne : ns ≠ "") :
      IsRecord record (ns ++ "." ++ name)

/-- A payload holds a record that a class name may mean: it is the record, under that name unless
there is no class name; or the record is in its list, under exactly that name. -/
inductive Holds (wanted : String) : (payload record : Value) → (full : String) → Prop
  | only {fields : Fields} {full : String} (hrecord : IsRecord (.mapping fields) full)
      (hname : wanted = "" ∨ Text.sameIgnoringCase full wanted = true) :
      Holds wanted (.mapping fields) (.mapping fields) full
  | member {records : List Value} {record : Value} (hmem : record ∈ records)
      (hne : wanted ≠ "") (hrecord : IsRecord record wanted) :
      Holds wanted (.sequence records) record wanted

lemma recordName?_eq_some : recordName? record = some full ↔ IsRecord record full := by
  unfold recordName?
  constructor
  · intro h
    by_cases htype : record.textAt? "type" = some "record"
    · rw [if_neg (not_not_intro htype)] at h
      obtain ⟨name, hname, h⟩ := Option.bind_eq_some_iff.1 h
      cases hns : record.textAt? "namespace" with
      | none =>
        rw [hns] at h
        exact Option.some.inj h ▸ .plain htype hname (by rw [hns]; rfl)
      | some ns =>
        rw [hns] at h
        dsimp only at h
        by_cases hne : ns = ""
        · rw [if_pos (String.isEmpty_iff.2 hne)] at h
          exact Option.some.inj h ▸ .plain htype hname (by rw [hns, hne]; rfl)
        · rw [if_neg (mt String.isEmpty_iff.1 hne)] at h
          exact Option.some.inj h ▸ .qualified htype hname hns hne
    · rw [if_pos htype] at h
      cases h
  · rintro (⟨htype, hname, hns⟩ | ⟨htype, hname, hns, hne⟩)
    · rw [if_neg (not_not_intro htype), hname]
      cases h : record.textAt? "namespace" with
      | none => rfl
      | some ns =>
        rw [h, Option.getD_some] at hns
        rw [hns]
        rfl
    · rw [if_neg (not_not_intro htype), hname, hns]
      simp [hne]

/-- The name of an Avro class is the one of a record that the payload holds. -/
lemma avroRecord_eq_ok :
    avroRecord wanted payload = .ok full ↔ ∃ record, Holds wanted payload record full := by
  constructor
  · intro h
    unfold avroRecord at h
    split at h
    · next fields =>
      split at h
      · cases h
      · next found hfound =>
        split at h
        · next hname =>
          obtain rfl := Except.ok.inj h
          rw [Bool.or_eq_true, String.isEmpty_iff] at hname
          exact ⟨_, .only (recordName?_eq_some.1 hfound) hname⟩
        · cases h
    · next records =>
      split at h
      · cases h
      · next hempty =>
        split at h
        · next found hfound =>
          obtain rfl := Except.ok.inj h
          obtain rfl := beq_iff_eq.1 (List.find?_some (p := (· == wanted)) hfound)
          obtain ⟨record, hmem, hrecord⟩ := List.mem_filterMap.1 (List.mem_of_find?_eq_some hfound)
          exact ⟨record, .member hmem (mt String.isEmpty_iff.2 hempty)
            (recordName?_eq_some.1 hrecord)⟩
        · cases h
    · cases h
  · rintro ⟨record, hholds⟩
    cases hholds with
    | only hrecord hname =>
      rw [avroRecord, recordName?_eq_some.2 hrecord]
      exact if_pos (by rwa [Bool.or_eq_true, String.isEmpty_iff])
    | @member records _ hmem hne hrecord =>
      have hin : wanted ∈ records.filterMap recordName? :=
        List.mem_filterMap.2 ⟨record, hmem, recordName?_eq_some.2 hrecord⟩
      rw [avroRecord, if_neg (mt String.isEmpty_iff.1 hne)]
      cases hfind : (records.filterMap recordName?).find? (· == wanted) with
      | some found => rw [beq_iff_eq.1 (List.find?_some (p := (· == wanted)) hfind)]
      | none => exact absurd (beq_self_eq_true wanted) (List.find?_eq_none.1 hfind wanted hin)

lemma ofPayload_avro {family project : String} {path : List String}
    (hf : Text.startsWith family "avro" = true)
    (h : ofPayload family project wanted path payload = .ok full) :
    ∃ record name, Holds wanted payload record name ∧ full = project ++ "." ++ name := by
  rw [ofPayload, if_pos hf] at h
  cases hname : avroRecord wanted payload with
  | error => rw [hname] at h; cases h
  | ok name =>
    rw [hname] at h
    obtain ⟨record, hholds⟩ := avroRecord_eq_ok.1 hname
    exact ⟨record, name, hholds, (Except.ok.inj h).symm⟩

/-- A class name comes from a schema that the reference leads to, whose version that counts declares
the requested format; and if that is an Avro format, it is the name of a record that the payload of
the version holds. Everything else is a fault of a reference or of the format. -/
theorem schemaClass_sound (l : Loader) (text project : String) (root : Value) (format : String) :
    match l.schemaClass text project root format with
    | (.ok full, l') => ∃ schema between,
        LeadsTo l root (.ofText text) schema between ∧
        Text.sameIgnoringCase (declared (counted schema)) format = true ∧
        family (declared (counted schema)) = family format ∧
        (Text.startsWith (family format) "avro" = true → ∃ payload record name,
          HoldsPayload between (counted schema) payload l' ∧
          Holds (className root (.ofText text) schema) payload record name ∧
          full = project ++ "." ++ name)
    | (.error fault, _) => (∃ reference defect, fault = .schemaReference reference defect) ∨
        ∃ found, fault = .formatMismatch format found := by
  have hcases := schemaClass_cases l text project root format
  generalize l.schemaClass text project root format = result at hcases ⊢
  rcases hcases with ⟨full, schema, payload, l', rfl, hreaches, hclass⟩ |
    ⟨reference, defect, l', rfl⟩ | ⟨found, l', rfl, -⟩
  · obtain ⟨hleads, -, hformat, hholds⟩ := hreaches
    have hfamily := family_congr hformat
    refine ⟨schema, _, hleads, hformat, hfamily, fun havro => ?_⟩
    rw [← hfamily] at havro
    obtain ⟨record, name, hrecord, hfull⟩ := ofPayload_avro havro hclass
    exact ⟨payload, record, name, hholds, hrecord, hfull⟩
  · exact .inl ⟨reference, defect, rfl⟩
  · exact .inr ⟨found, rfl⟩

-- A record in a list, asked for by its full name.
example :
    let record : Value := .mapping [("type", .string "record"), ("name", .string "B"),
      ("namespace", .string "n")]
    let version : Value := .mapping [("format", .string "avro/1"),
      ("schema", .sequence [.null, record])]
    let root : Value := .mapping [("groups", .mapping [("g", .mapping [("schemas", .mapping [("s",
      .mapping [("versions", .mapping [("1", version)])])])])])]
    ((Loader.start ⟨[], .null⟩ (.ofDocuments []) .strict).schemaClass "#/groups/g/schemas/s:n.B"
      "App" root "AVRO/1").1.toOption = some "App.n.B" := by
  decide +kernel

end Registry.SchemaClass
