import Registry.Proofs.PayloadRest
import Registry.Proofs.SchemaStages

/-!
# The payload behind a class name

A version that has been populated has its payload under the name of its resource type. A class name
is read from that payload unless the version has another one inline and a URL as well: the document
at the URL counts before what is inline, while finding payloads has it the other way round.
-/

namespace Registry

open Fetcher Payload
open Registry.Composition (Reading reading_run)

variable {s : Source} {policy : ParsePolicy}

/-- Over a stable source, a schema document is what its location loads as. -/
lemma Loader.loadSchemaDocument_fst (hs : s.Stable) {l : Loader} (hl : Reading s policy l.fetcher)
    (location : String) (headers : Headers) :
    (l.loadSchemaDocument location headers).1 = (s.load policy location).document := by
  have hfetch := fetch_reuse_of_stable hl.faithful (hl.source ▸ hs) location headers
  rw [hl.source, hl.policy] at hfetch
  exact congrArg Prod.snd hfetch

namespace Payload

/-- An entity has a payload inline, under the name of its resource type or under the common one. -/
def HasInline (singular : String) (entity : Fields) : Prop :=
  entity.has singular = true ∨ entity.has "resource" = true

variable {reads : String → CachedRead} {singular : String} {entity : Fields}

lemma populated_eq_append (hown : entity.has singular = false)
    (h : (populated reads singular entity).has singular = true) :
    ∃ source payload, source? singular entity = some source ∧
      payload? reads source.1 source.2 = some payload ∧
      populated reads singular entity = entity ++ [(singular, payload)] := by
  unfold populated at h ⊢
  rw [if_neg (by simp [hown])] at h ⊢
  split
  · next payload hpayload =>
    obtain ⟨source, hsource, hpayload⟩ := Option.bind_eq_some_iff.1 hpayload
    exact ⟨source, payload, hsource, hpayload, rfl⟩
  · next hnone =>
    rw [hnone, hown] at h
    cases h

/-- Without a payload inline, a populated entity with a URL has the document there. -/
lemma get?_populated_of_url {url : String} (hinline : ¬HasInline singular entity)
    (hurl : entity.textAt? (singular ++ "url") = some url)
    (h : (populated reads singular entity).has singular = true) :
    (populated reads singular entity).get? singular = (reads url).document := by
  rw [HasInline, not_or, Bool.not_eq_true, Bool.not_eq_true] at hinline
  obtain ⟨hown, hresource⟩ := hinline
  obtain ⟨source, payload, hsource, hpayload, heq⟩ := populated_eq_append hown h
  have hkey : ∀ {key : String}, entity.has key = false → entity.get? key = none := by
    intro key hk
    simpa [Table.has] using hk
  have hstring : entity.get? (singular ++ "url") = some (.string url) := by
    obtain ⟨v, hv, htext⟩ := Option.bind_eq_some_iff.1 hurl
    cases v with
    | string => exact Option.some.inj htext ▸ hv
    | _ => cases htext
  have hfirst : source? singular entity = some (.url, .string url) := by
    simp only [source?, candidates, List.findSome?_cons, hkey hown, hkey hresource, hstring,
      Option.map_none, Option.map_some]
  obtain rfl := Option.some.inj (hfirst.symm.trans hsource)
  rw [heq, Table.get?_append, hkey hown, Option.none_or]
  exact (if_pos rfl).trans hpayload.symm

end Payload

namespace SchemaClass

variable {l : Loader} {text format url : String} {root : Value} {version : Fields}

/-- What a version without versions holds inline decides if it has no URL. -/
lemma schemaClass_of_inline {between : Loader} {own : Value}
    (hleads : LeadsTo l root (.ofText text) (.mapping version) between)
    (hplain : (Value.mapping version).latestVersion? = none)
    (hformat : Text.sameIgnoringCase (declared (.mapping version)) format = true)
    (hurl : version.textAt? "schemaurl" = none) (hown : version.get? "schema" = some own)
    (project : String) :
    (l.schemaClass text project root format).1 =
      outcome root text project (.mapping version) own := by
  have hreaches : Reaches l root (.ofText text) format (.mapping version) own between :=
    .of_plain hleads rfl hplain hformat (.inline hurl hown)
  rw [hreaches.schemaClass_eq project]

/-- The document at the URL of a version without versions decides, whatever it holds inline. -/
lemma schemaClass_of_url (hs : s.Stable) {between : Loader} (hl : Reading s policy between.fetcher)
    (hleads : LeadsTo l root (.ofText text) (.mapping version) between)
    (hplain : (Value.mapping version).latestVersion? = none)
    (hformat : Text.sameIgnoringCase (declared (.mapping version)) format = true)
    (hurl : version.textAt? "schemaurl" = some url) (project : String) :
    (l.schemaClass text project root format).1 =
      match (s.load policy url).document with
      | some document => outcome root text project (.mapping version) document
      | none => .error (.schemaReference url .schemaNotFound) := by
  have hload := Loader.loadSchemaDocument_fst hs hl url []
  cases hd : (s.load policy url).document with
  | some document =>
    have hloaded : between.loadSchemaDocument url [] =
        (some document, (between.loadSchemaDocument url []).2) := Prod.ext (hload.trans hd) rfl
    have hreaches : Reaches l root (.ofText text) format (.mapping version) document _ :=
      .of_plain hleads rfl hplain hformat (.loaded hurl hloaded)
    rw [hreaches.schemaClass_eq project]
  | none =>
    have hmissing : SchemaClass.payload between text (.mapping version) =
        (.error (.schemaReference url .schemaNotFound), (between.loadSchemaDocument url []).2) := by
      have hurl' : (Value.mapping version).textAt? "schemaurl" = some url := hurl
      simp only [SchemaClass.payload, hurl', hload.trans hd]
    rw [schemaClass_of_leadsTo hleads (.inr rfl), counted_eq_self hplain, if_pos hformat, hmissing]

/-- A class name that is asked for at a populated version is read from the payload of the version,
unless the version has a URL and had a payload inline: then it is read from the document at the URL,
and there is none if that does not load. -/
theorem schemaClass_of_populated (hs : s.Stable) (policy : ParsePolicy)
    (uses : List Fetcher.Use) (headers : Headers) {version : Fields}
    (hplain : (Value.mapping version).latestVersion? = none)
    (hpopulated : isPopulated "schema"
      (populate headers "schema" version ((Fetcher.start s policy).run uses)).1 = true)
    (later : List Fetcher.Use) {l : Loader} (hl : l.fetcher = (Fetcher.start s policy).run later)
    {text path : String} {typeName : Option String}
    (hreference : Reference.ofText text = .fragment path typeName) {root : Value}
    (hlookup : root.lookup ("#" ++ path) = some (.mapping
      (populate headers "schema" version ((Fetcher.start s policy).run uses)).1))
    {format : String} (hformat : Text.sameIgnoringCase (declared (.mapping version)) format = true)
    (project : String) :
    let after := (populate headers "schema" version ((Fetcher.start s policy).run uses)).1
    let result := (l.schemaClass text project root format).1
    (version.textAt? "schemaurl" = none ∨ ¬HasInline "schema" version →
      ∃ own, after.get? "schema" = some own ∧
        result = outcome root text project (.mapping after) own) ∧
    ∀ url, version.textAt? "schemaurl" = some url → HasInline "schema" version →
      result = match (s.load policy url).document with
        | some document => outcome root text project (.mapping after) document
        | none => .error (.schemaReference url .schemaNotFound) := by
  intro after result
  have hafter : after = populated (s.load policy) "schema" version :=
    (computes_populate hs headers "schema" version _ (reading_run s policy uses)).1
  have hget : ∀ key, "schema" ≠ key → after.get? key = version.get? key := fun key hk => by
    rw [hafter, get?_populated_of_ne hk]
  have hurls : after.textAt? "schemaurl" = version.textAt? "schemaurl" :=
    congrArg (·.bind Value.text?) (hget _ (by decide))
  have hplain' : (Value.mapping after).latestVersion? = none := by
    rw [← hplain]
    exact Value.latestVersion?_congr (hget _ (by decide))
      (congrArg (·.bind Value.text?) (hget _ (by decide)))
  have hformat' : Text.sameIgnoringCase (declared (.mapping after)) format = true := by
    have hdeclared : declared (.mapping after) = declared (.mapping version) :=
      congrArg (fun v => (v.bind Value.text?).getD "") (hget "format" (by decide))
    rw [hdeclared]
    exact hformat
  have hleads : LeadsTo l root (.ofText text) (.mapping after)
      (l.addSchemaReference ("#" ++ path)) := hreference ▸ .fragment hlookup rfl
  have hreading : Reading s policy (l.addSchemaReference ("#" ++ path)).fetcher := by
    rw [Loader.fetcher_addSchemaReference, hl]
    exact reading_run s policy later
  obtain ⟨own, hown⟩ : ∃ own, after.get? "schema" = some own :=
    Option.isSome_iff_exists.1 hpopulated
  refine ⟨fun hsource => ⟨own, hown, ?_⟩, fun url hurl _ => ?_⟩
  · cases hurl : version.textAt? "schemaurl" with
    | none => exact schemaClass_of_inline hleads hplain' hformat' (hurls.trans hurl) hown project
    | some url =>
      -- The document at the URL is the payload that was found there.
      have hinline : ¬HasInline "schema" version := hsource.resolve_left (by simp [hurl])
      have hdocument : (s.load policy url).document = some own := by
        rw [← get?_populated_of_url hinline hurl (hafter ▸ hpopulated), ← hafter, hown]
      have hresult :=
        schemaClass_of_url hs hreading hleads hplain' hformat' (hurls.trans hurl) project
      rw [hdocument] at hresult
      exact hresult
  · exact schemaClass_of_url hs hreading hleads hplain' hformat' (hurls.trans hurl) project

/-- A version with a payload inline, under the common name, and a URL that is none of a schema. -/
theorem schemaClass_of_populated_resource :
    let s : Source := .ofDocuments []
    let own : Value := .mapping [("type", .string "record"), ("name", .string "A")]
    let version : Fields := [("format", .string "Avro/1.11.3"), ("resource", own),
      ("resourceurl", .string "https://r.example.com/missing.avsc")]
    let root : Value := .mapping [("groups", .mapping [("g", .mapping [("schemas", .mapping [("s",
      .mapping [("versions", .mapping [("1", .mapping (version ++ [("schema", own)]))])])])])])]
    let l := Loader.start ⟨[], .null⟩ s .strict
    isPopulated "schema" (populate [] "schema" version l.fetcher).1 = true ∧
      (l.schemaClass "#/groups/g/schemas/s/versions/1:A" "App" root "avro/1.11.3").1 =
        .ok "App.A" := by
  intro s own version root l
  have hplain : (Value.mapping version).latestVersion? = none := by decide
  have hreference : Reference.ofText "#/groups/g/schemas/s/versions/1:A" =
      .fragment "/groups/g/schemas/s/versions/1" (some "A") := by decide +kernel
  have hlookup : root.lookup ("#" ++ "/groups/g/schemas/s/versions/1") =
      some (.mapping (populate [] "schema" version l.fetcher).1) := by decide +kernel
  have hformat : Text.sameIgnoringCase (declared (.mapping version)) "avro/1.11.3" = true := by
    decide +kernel
  refine ⟨rfl, ?_⟩
  obtain ⟨hown, -⟩ := schemaClass_of_populated (Source.stable_ofDocuments []) .strict [] [] hplain
    rfl [] (l := l) rfl hreference hlookup hformat "App"
  obtain ⟨payload, hpayload, hresult⟩ := hown (.inl (by decide))
  obtain rfl : own = payload := Option.some.inj hpayload
  rw [hresult]
  decide +kernel

/-- A populated version with a URL that does not load gives no class name, although its payload
would. -/
theorem schemaClass_refuses_populated :
    let s : Source := .ofDocuments []
    let own : Value := .mapping [("type", .string "record"), ("name", .string "A")]
    let version : Fields := [("format", .string "Avro/1.11.3"), ("schema", own),
      ("schemaurl", .string "https://r.example.com/missing.avsc")]
    let root : Value := .mapping [("schemagroups", .mapping [("g", .mapping [("schemas", .mapping
      [("s", .mapping [("versions", .mapping [("1", .mapping version)])])])])])]
    let text := "#/schemagroups/g/schemas/s/versions/1:A"
    let l := Loader.start ⟨[], .null⟩ s .strict
    s.Stable ∧ (populate [] "schema" version l.fetcher).1 = version ∧
      isPopulated "schema" version = true ∧
      root.lookup "#/schemagroups/g/schemas/s/versions/1" = some (.mapping version) ∧
      outcome root text "App" (.mapping version) own = .ok "App.A" ∧
      (l.schemaClass text "App" root "Avro/1.11.3").1 =
        .error (.schemaReference "https://r.example.com/missing.avsc" .schemaNotFound) := by
  intro s own version root text l
  exact ⟨Source.stable_ofDocuments [], rfl, rfl, by decide +kernel, by decide +kernel,
    by decide +kernel⟩

end SchemaClass

end Registry
