import Registry.Proofs.ClassNames
import Registry.Proofs.LoaderHistory
import Registry.Proofs.SchemaPayload
import Registry.Proofs.UrlPaths

/-!
# Schemas of hosted registries

The address of a URL leaves out what stands before the first group collection, so that the id of a
resource does not depend on where its registry is hosted. The name of a class counts the segments
from the host on: a class that has no other name is called like the fourth segment of the whole path,
which is the id of the resource if the registry is hosted at the root.
-/

namespace Registry

open Url
open Registry.Composition (Reading reading_run)

variable {host : String} {base : Url} {place outer : List String}

/-- The URL of a path refers to the whole document there. -/
lemma Reference.ofText_hosted (h : IsHost host base) (hne : place ≠ [])
    (hplain : ∀ segment ∈ place, PlainSegment segment) :
    ofText (hosted host place) = .external (hosted host place) none none := by
  rw [ofText, trim_hosted hne hplain, cutAt?_hosted h hne hplain]

namespace SchemaClass

lemma segments_hosted (h : IsHost host base) (hne : place ≠ [])
    (hplain : ∀ segment ∈ place, PlainSegment segment) :
    segments (hosted host place) = place.map Pointer.unescape := by
  have hdivided : (Path.segments place).Divided := fun part hpart =>
    (hplain part hpart).slash_not_mem
  have hfilled : place.filter (!·.isEmpty) = place :=
    List.filter_eq_self.2 fun segment hsegment => by simp [(hplain segment hsegment).ne_empty]
  rw [segments, cutAt?_hosted h hne hplain]
  dsimp only
  rw [(ofText?_hosted h hne hplain).2, Option.map_some, Option.getD_some,
    filter_pieces_toString hdivided, hfilled]

/-- Two results are the same up to the reference that a fault names. -/
inductive SameUpToReference {α : Type} : Except Fault α → Except Fault α → Prop
  | same (result : Except Fault α) : SameUpToReference result result
  | reference {text text' : String} {defect : SchemaDefect} :
      SameUpToReference (.error (.schemaReference text defect))
        (.error (.schemaReference text' defect))

lemma SameUpToReference.bind {α β : Type} {held held' : Except Fault α}
    {next next' : α → Except Fault β} (h : SameUpToReference held held')
    (hnext : ∀ a, held = .ok a → SameUpToReference (next a) (next' a)) :
    SameUpToReference (held.bind next) (held'.bind next') := by
  cases h with
  | reference => exact .reference
  | same =>
    cases held with
    | error fault => exact .same _
    | ok a => exact hnext a rfl

lemma SameUpToReference.eq_ok {α : Type} {result result' : Except Fault α} {a : α}
    (h : SameUpToReference result result') (ha : result = .ok a) : result' = .ok a := by
  cases h with
  | same => exact ha
  | reference => cases ha

variable {s : Source} {policy : ParsePolicy} {l l' : Loader} {text text' : String}
  {location location' : String} {typeName : Option String} {document payload root : Value}
  {project format : String}

/-- The payload that a document holds for a format, over a source, or the fault that it gives before
there is a class. -/
def held (s : Source) (policy : ParsePolicy) (text format : String) (document : Value) :
    Except Fault Value :=
  if ¬Counts document then .error (.schemaReference text .versionNotFound)
  else if Text.sameIgnoringCase (declared (counted document)) format = false then
    .error (.formatMismatch format (declared (counted document)))
  else match (counted document).textAt? "schemaurl" with
    | some url =>
      match (s.load policy url).document with
      | some payload => .ok payload
      | none => .error (.schemaReference url .schemaNotFound)
    | none =>
      match (counted document).get? "schema" with
      | some payload => .ok payload
      | none => .error (.schemaReference text .versionWithoutSchema)

lemma held_same (text text' : String) :
    SameUpToReference (held s policy text format document) (held s policy text' format document) := by
  unfold held
  split
  · exact .reference
  · split
    · exact .same _
    · cases (counted document).textAt? "schemaurl" with
      | some url => exact .same _
      | none =>
        cases (counted document).get? "schema" with
        | some payload => exact .same _
        | none => exact .reference

lemma declared_of_held (h : held s policy text format document = .ok payload) :
    Text.sameIgnoringCase (declared (counted document)) format = true := by
  unfold held at h
  split at h
  · cases h
  · split at h
    · cases h
    · next hformat => exact Bool.eq_true_of_not_eq_false hformat

/-- Over a stable source, a reference to a document gives the class of what the document holds. -/
lemma schemaClass_eq_bind (hs : s.Stable) (hl : Reading s policy l.fetcher)
    (htext : Reference.ofText text = .external location none typeName)
    (hdocument : (s.load policy location).document = some document) (project format : String)
    (root : Value) :
    (l.schemaClass text project root format).1 =
      (held s policy text format document).bind (outcome root text project document) := by
  have hload := Loader.loadSchemaDocument_fst hs hl location []
  have hreading := hl.goesOn (Loader.goesOn_loadSchemaDocument (.refl l.fetcher) location [])
  have hleads : LeadsTo l root (.ofText text) document (l.loadSchemaDocument location []).2 := by
    rw [htext]
    exact .document (Prod.ext (hload.trans hdocument) rfl)
  generalize (l.loadSchemaDocument location []).2 = after at hreading hleads
  unfold held
  by_cases hcounts : Counts document
  · rw [schemaClass_of_leadsTo hleads hcounts, if_neg (not_not_intro hcounts)]
    cases hformat : Text.sameIgnoringCase (declared (counted document)) format with
    | false => rfl
    | true =>
      rw [if_pos rfl, if_neg (by decide), SchemaClass.payload]
      cases (counted document).textAt? "schemaurl" with
      | some url =>
        dsimp only
        rw [Loader.loadSchemaDocument_fst hs hreading]
        cases (s.load policy url).document <;> simp only [Except.bind]
      | none => cases (counted document).get? "schema" <;> simp only [Except.bind]
  · rw [schemaClass_of_version_eq_error (find_eq_ok.2 hleads) (version_of_not_counts hcounts _),
      if_pos hcounts]
    rfl

/-- The fallback for a class without a name sees no more than the last three segments of a place. -/
lemma ofPayload_append {front back : List String} (h : 3 ≤ back.length)
    (family project name : String) (payload : Value) :
    ofPayload family project name (front ++ back) payload =
      ofPayload family project name back payload := by
  have hplain : plainClass project name (front ++ back) = plainClass project name back := by
    have hlength : 3 ≤ back.reverse.length := by simpa using h
    unfold plainClass
    rw [List.reverse_append]
    match hback : back.reverse, hlength with
    | last :: next :: third :: rest, _ =>
      by_cases hversions : next = "versions"
      · rw [hversions]
        rfl
      · simp [hversions]
  rw [ofPayload, ofPayload, hplain]

/-- A payload gives the same class at two places if it has the same name there and one of them ends
like the other one. -/
lemma outcome_same (htext : Reference.ofText text = .external location none typeName)
    (htext' : Reference.ofText text' = .external location' none typeName)
    (hname : className root (.ofText text) document = className root (.ofText text') document)
    {front : List String} (hplace : segments location' = front ++ segments location)
    (hlong : 3 ≤ (segments location).length) (project : String) (payload : Value) :
    SameUpToReference (outcome root text project document payload)
      (outcome root text' project document payload) := by
  have hclass : classOf root (.ofText text') project document payload =
      classOf root (.ofText text) project document payload := by
    rw [classOf, classOf, ← hname, htext, htext']
    dsimp only [Reference.withoutTypeName]
    rw [hplace, ofPayload_append hlong]
  rw [outcome, outcome, hclass]
  cases classOf root (.ofText text) project document payload with
  | error defect => exact .reference
  | ok full => exact .same _

/-- In a format that names no types, a class with a name is called by it. -/
lemma outcome_plain (hplain : IsPlain format)
    (hformat : Text.sameIgnoringCase (declared (counted document)) format = true)
    (hne : className root (.ofText text) document ≠ "") (project : String) (payload : Value) :
    outcome root text project document payload =
      .ok (project ++ "." ++ className root (.ofText text) document) := by
  rw [outcome, classOf, family_congr hformat, ofPayload_plain hplain, plainClass_of_ne_empty hne]
  rfl

/-- In a format that names no types, a document with different names at two places gives the same at
both exactly if it gives no class. -/
lemma plain_same_iff (hplain : IsPlain format)
    (hne : className root (.ofText text) document ≠ "")
    (hne' : className root (.ofText text') document ≠ "")
    (hother : className root (.ofText text) document ≠ className root (.ofText text') document) :
    SameUpToReference ((held s policy text format document).bind (outcome root text project document))
        ((held s policy text' format document).bind (outcome root text' project document)) ↔
      ∃ fault, (held s policy text format document).bind (outcome root text project document) =
        .error fault := by
  have hsame : SameUpToReference (held s policy text format document)
      (held s policy text' format document) := held_same text text'
  cases hheld : held s policy text format document with
  | error fault =>
    rw [hheld] at hsame
    refine ⟨fun _ => ⟨fault, rfl⟩, fun _ => hsame.bind fun payload hpayload => ?_⟩
    cases hpayload
  | ok payload =>
    -- Both places hold this payload, and the two names give different classes.
    have hformat := declared_of_held hheld
    rw [hheld] at hsame
    generalize held s policy text' format document = held' at hsame
    cases hsame
    simp only [Except.bind, outcome_plain hplain hformat hne, outcome_plain hplain hformat hne']
    constructor
    · intro h
      have hfull := Except.ok.inj (h.eq_ok rfl)
      rw [String.append_right_inj] at hfull
      exact absurd hfull.symm hother
    · rintro ⟨fault, hfault⟩
      cases hfault

/-- The name of a class in another document: the one given, else the one that the schema gives
itself, else the fourth segment of the place. -/
lemma className_external (htext : Reference.ofText text = .external location none typeName)
    {fourth : String} (hfourth : (segments location)[3]? = some fourth) (root schema : Value) :
    className root (.ofText text) schema = (typeName.or (ownName? schema)).getD fourth := by
  rw [htext]
  cases typeName with
  | some name => rfl
  | none =>
    have hname : className root (.external location none none) schema =
        ((ownName? schema).or (resourceId? (segments location))).getD "" := className_of_none rfl
    rw [hname, resourceId?, hfourth]
    cases ownName? schema <;> rfl

lemma className_hosted (h : IsHost host base) (hplain : ∀ segment ∈ place, PlainSegment segment)
    {fourth : String} (hfourth : place[3]? = some fourth)
    (htext : Reference.ofText text = .external (hosted host place) none typeName)
    (root document : Value) :
    className root (.ofText text) document =
      (typeName.or (ownName? document)).getD (Pointer.unescape fourth) := by
  have hne : place ≠ [] := by
    rintro rfl
    cases hfourth
  refine className_external htext ?_ root document
  rw [segments_hosted h hne hplain, List.getElem?_map, hfourth]
  rfl

lemma resourceId?_hosted (h : IsHost host base) {m : Model} {groupType id : String}
    (hfirst : place.head? = some groupType) (hid : place[3]? = some id)
    (htype : m.isGroupCollection groupType = true)
    (houter : ∀ segment ∈ outer, m.isGroupCollection segment = false)
    (hplain : ∀ segment ∈ outer ++ place, PlainSegment segment) :
    (Address.inModel m (hosted host (outer ++ place))).resourceId? = some id := by
  rw [inModel_hosted h m houter hfirst htype hplain]
  exact hid

lemma unescape_ne_empty {segment : String} (h : PlainSegment segment) :
    Pointer.unescape segment ≠ "" := by
  intro he
  have hempty := isEmpty_unescape segment
  rw [he] at hempty
  exact h.ne_empty (String.isEmpty_iff.1 hempty.symm)

lemma segments_hosted_append (h : IsHost host base)
    (hplain : ∀ segment ∈ outer ++ place, PlainSegment segment) (hlong : 3 < place.length) :
    segments (hosted host (outer ++ place)) =
        outer.map Pointer.unescape ++ segments (hosted host place) ∧
      3 ≤ (segments (hosted host place)).length := by
  have hne : place ≠ [] := List.ne_nil_of_length_pos (by omega)
  have hinner : ∀ segment ∈ place, PlainSegment segment := fun segment hsegment =>
    hplain segment (List.mem_append_right outer hsegment)
  rw [segments_hosted h hne hinner,
    segments_hosted h (List.append_ne_nil_of_right_ne_nil outer hne) hplain, List.map_append,
    List.length_map]
  exact ⟨rfl, by omega⟩

/-- The document of a resource gives the same class whether its registry is hosted at the root or
behind other segments, if the reference or the document names the class or if the fourth segment of
the whole path reads like the id of the resource, which both addresses have. In a format that names
no types there is otherwise no class at all, or another one. -/
theorem schemaClass_hosted (hs : s.Stable) (hl : Reading s policy l.fetcher)
    (hl' : Reading s policy l'.fetcher) (hhost : IsHost host base) {m : Model}
    {groupType id : String} (hfirst : place.head? = some groupType) (hid : place[3]? = some id)
    (htype : m.isGroupCollection groupType = true)
    (houter : ∀ segment ∈ outer, m.isGroupCollection segment = false)
    (hplain : ∀ segment ∈ outer ++ place, PlainSegment segment)
    (hhere : (s.load policy (hosted host place)).document = some document)
    (hthere : (s.load policy (hosted host (outer ++ place))).document = some document)
    (htext : Reference.ofText text = .external (hosted host place) none typeName)
    (htext' : Reference.ofText text' = .external (hosted host (outer ++ place)) none typeName)
    (project format : String) (root : Value) :
    let named := typeName.or (ownName? document)
    let result := (l.schemaClass text project root format).1
    let result' := (l'.schemaClass text' project root format).1
    (Address.inModel m (hosted host place)).resourceId? = some id ∧
      (Address.inModel m (hosted host (outer ++ place))).resourceId? = some id ∧
      ∃ fourth, (outer ++ place)[3]? = some fourth ∧
        className root (.ofText text) document = named.getD (Pointer.unescape id) ∧
        className root (.ofText text') document = named.getD (Pointer.unescape fourth) ∧
        (named.isSome ∨ Pointer.unescape fourth = Pointer.unescape id →
          SameUpToReference result result') ∧
        (IsPlain format → (SameUpToReference result result' ↔
          (named.isSome ∨ Pointer.unescape fourth = Pointer.unescape id) ∨
            ∃ fault, result = .error fault)) := by
  intro named result result'
  have hinner : ∀ segment ∈ place, PlainSegment segment := fun segment hsegment =>
    hplain segment (List.mem_append_right outer hsegment)
  have hnothing : ∀ segment ∈ ([] : List String), m.isGroupCollection segment = false := by simp
  have haddress := resourceId?_hosted hhost hfirst hid htype hnothing hinner
  rw [List.nil_append] at haddress
  have hlong : 3 < place.length := (List.getElem?_eq_some_iff.1 hid).1
  obtain ⟨fourth, hfourth⟩ : ∃ fourth, (outer ++ place)[3]? = some fourth :=
    ⟨_, List.getElem?_eq_getElem (by rw [List.length_append]; omega)⟩
  have hname := className_hosted hhost hinner hid htext root document
  have hname' := className_hosted hhost hplain hfourth htext' root document
  have hresult : result = (held s policy text format document).bind
      (outcome root text project document) := schemaClass_eq_bind hs hl htext hhere project format root
  have hresult' : result' = (held s policy text' format document).bind
      (outcome root text' project document) :=
    schemaClass_eq_bind hs hl' htext' hthere project format root
  have hsame : named.isSome ∨ Pointer.unescape fourth = Pointer.unescape id →
      SameUpToReference result result' := by
    intro hagree
    have hnames : className root (.ofText text) document =
        className root (.ofText text') document := by
      rw [hname, hname']
      rcases hagree with hnamed | hfourth
      · obtain ⟨name, hnamed⟩ := Option.isSome_iff_exists.1 hnamed
        rw [show typeName.or (ownName? document) = some name from hnamed]
        rfl
      · rw [hfourth]
    -- A class without a name is called after one of the last segments, which are the same.
    obtain ⟨hplace, hlength⟩ := segments_hosted_append hhost hplain hlong
    rw [hresult, hresult']
    exact (held_same text text').bind fun payload _ =>
      outcome_same htext htext' hnames hplace hlength project payload
  refine ⟨haddress, resourceId?_hosted hhost hfirst hid htype houter hplain, fourth, hfourth, hname, hname', hsame,
    fun hformat => ?_⟩
  by_cases hagree : named.isSome ∨ Pointer.unescape fourth = Pointer.unescape id
  · exact ⟨fun _ => .inl hagree, fun _ => hsame hagree⟩
  · obtain ⟨hnamed, hother⟩ := not_or.1 hagree
    have hnone : typeName.or (ownName? document) = none := Option.not_isSome_iff_eq_none.1 hnamed
    rw [hnone, Option.getD_none] at hname hname'
    have hne : className root (.ofText text) document ≠ "" :=
      hname ▸ unescape_ne_empty (hinner id (List.mem_of_getElem? hid))
    have hne' : className root (.ofText text') document ≠ "" :=
      hname' ▸ unescape_ne_empty (hplain fourth (List.mem_of_getElem? hfourth))
    have hnames : className root (.ofText text) document ≠ className root (.ofText text') document := by
      rw [hname, hname']
      exact Ne.symm hother
    rw [or_iff_right hagree, hresult, hresult']
    exact plain_same_iff hformat hne hne' hnames

/-- A schema with an id, at the root of a host and behind another segment. -/
theorem schemaClass_hosted_with_id :
    let m : Model := ⟨[⟨"schemagroups", "schemagroup", []⟩], .null⟩
    let place := ["schemagroups", "g", "schemas", "s"]
    let here := hosted "host" place
    let there := hosted "host" (["api"] ++ place)
    let text := "\x7b\"schemaid\": \"n\", \"versions\": \x7b\"1\": \x7b\"format\": \"json\", " ++
      "\"schema\": \x7b\x7d\x7d\x7d\x7d"
    let s : Source := .ofDocuments [(here, ⟨here, text, []⟩), (there, ⟨there, text, []⟩)]
    let l := Loader.start m s .strict
    (Address.inModel m there).resourceId? = some "s" ∧
      (l.schemaClass here "App" (.mapping []) "JSON").1 = .ok "App.n" ∧
      SameUpToReference (l.schemaClass here "App" (.mapping []) "JSON").1
        (l.schemaClass there "App" (.mapping []) "JSON").1 := by
  intro m place here there text s l
  let version : Value := .mapping [("format", .string "json"), ("schema", .mapping [])]
  let document : Value :=
    .mapping [("schemaid", .string "n"), ("versions", .mapping [("1", version)])]
  have hhost : IsHost "host" ⟨"https", "", some "host", none, .segments [""], none,
      none⟩ := ⟨by decide, by decide, by decide +kernel⟩
  have hplain : ∀ segment ∈ ["api"] ++ place, PlainSegment segment := by decide
  have hreading : Reading s .strict l.fetcher := reading_run s .strict []
  have hhere : (s.load .strict here).document = some document := by decide +kernel
  have hthere : (s.load .strict there).document = some document := by decide +kernel
  have htext : Reference.ofText here = .external here none none :=
    Reference.ofText_hosted hhost (by decide) (by decide)
  have htext' : Reference.ofText there = .external there none none :=
    Reference.ofText_hosted hhost (by decide) hplain
  obtain ⟨-, hid, fourth, -, -, -, hsame, -⟩ := schemaClass_hosted (Source.stable_ofDocuments _)
    hreading hreading hhost (m := m) rfl rfl (by decide) (by decide) hplain hhere hthere htext htext'
    "App" "JSON" (.mapping [])
  exact ⟨hid, by decide +kernel, hsame (.inl (by decide))⟩

/-- A schema without an id, at the root of a host and behind another segment: both addresses have the
id of the resource, and one class is called like the collection. -/
theorem schemaClass_not_hosted :
    let m : Model := ⟨[⟨"schemagroups", "schemagroup", []⟩], .null⟩
    let here := "https://host/schemagroups/g/schemas/s"
    let there := "https://host/api/schemagroups/g/schemas/s"
    let text := "\x7b\"format\": \"json\", \"schema\": \x7b\x7d\x7d"
    let s : Source := .ofDocuments [(here, ⟨here, text, []⟩), (there, ⟨there, text, []⟩)]
    let result (reference : String) := ((Loader.start m s .strict).schemaClass reference "App"
      (.mapping []) "json").1
    (Address.inModel m here).resourceId? = some "s" ∧
      (Address.inModel m there).resourceId? = some "s" ∧
      result here = .ok "App.s" ∧ result there = .ok "App.schemas" := by
  decide +kernel

end SchemaClass

end Registry
