import Registry.Proofs.PayloadAgain
import Registry.Proofs.SchemaStages

/-!
# Asking for schema classes again

A class that was asked for once is given again, as long as the loader forgets nothing: each stage is
answered from what the fetcher keeps. This needs no assumption on the source.
-/

namespace Registry

open Fetcher (Quiet)

namespace Fetcher

variable {f g : Fetcher}

/-- What is kept stays as long as nothing is forgotten. -/
lemma GoesOn.keeps_cache (h : f.GoesOn g) : f.cache <+: g.cache := by
  obtain ⟨uses, hu, rfl⟩ := h
  induction uses generalizing f with
  | nil => exact List.prefix_rfl
  | cons use uses ih =>
    rw [List.mem_cons, not_or] at hu
    refine List.IsPrefix.trans ?_ (ih hu.2)
    cases use with
    | fetch location headers mode => exact cache_prefix_fetch f location headers mode
    | markHandled location =>
      have hmarked : (f.after (.markHandled location)).cache = f.cache := cache_addHandled
      exact hmarked ▸ List.prefix_rfl
    | clearHandled | setCurrentUrl => exact List.prefix_rfl
    | reset => exact absurd rfl hu.1

end Fetcher

section again

variable {l k : Loader} {location text project format : String} {headers : Headers} {root : Value}

namespace Loader

lemma loadSchemaDocument_again
    (h : (l.loadSchemaDocument location headers).2.fetcher.cache <+: k.fetcher.cache) :
    (k.loadSchemaDocument location headers).1 = (l.loadSchemaDocument location headers).1 ∧
      Quiet k.fetcher (k.loadSchemaDocument location headers).2.fetcher := by
  rw [fetcher_loadSchemaDocument] at h ⊢
  exact (Fetcher.fetch_again location headers h).imp_left (congrArg Prod.snd)

end Loader

namespace SchemaClass

lemma find_again {reference : Reference}
    (h : (find l root reference).2.fetcher.cache <+: k.fetcher.cache) :
    (find k root reference).1 = (find l root reference).1 ∧
      Quiet k.fetcher (find k root reference).2.fetcher := by
  cases reference with
  | fragment path typeName =>
    refine ⟨rfl, ?_⟩
    rw [find, Loader.fetcher_addSchemaReference]
    exact .refl _
  | external location fragment typeName =>
    obtain ⟨hsame, hquiet⟩ := Loader.loadSchemaDocument_again h
    refine ⟨?_, hquiet⟩
    simp only [find, hsame]

lemma payload_again {version : Value}
    (h : (SchemaClass.payload l text version).2.fetcher.cache <+: k.fetcher.cache) :
    (SchemaClass.payload k text version).1 = (SchemaClass.payload l text version).1 := by
  unfold SchemaClass.payload at h ⊢
  split
  · next url hurl =>
    rw [hurl] at h
    dsimp only
    rw [(Loader.loadSchemaDocument_again h).1]
  · rfl

/-- Nothing is forgotten behind the search for the schema. -/
lemma goesOn_schemaClass_of_find (l : Loader) (text project : String) (root : Value)
    (format : String) : (find l root (.ofText text)).2.fetcher.GoesOn
      (l.schemaClass text project root format).2.fetcher := by
  rcases hfind : find l root (.ofText text) with ⟨defect | schema, l'⟩
  · rw [schemaClass_of_find_eq_error hfind]
    exact .refl _
  by_cases hcounts : Counts schema
  · rw [schemaClass_of_leadsTo (find_eq_ok.1 hfind) hcounts]
    split
    · have hpayload := Loader.goesOn_payload (.refl l'.fetcher) text (counted schema)
      generalize SchemaClass.payload l' text (counted schema) = held at hpayload ⊢
      obtain ⟨fault | payload, after⟩ := held <;> exact hpayload
    · exact .refl _
  · rw [schemaClass_of_version_eq_error hfind (version_of_not_counts hcounts _)]
    exact .refl _

/-- What follows once the schema is found. -/
lemma schemaClass_again_of_leadsTo {l' k' : Loader} {schema : Value}
    (hl : LeadsTo l root (.ofText text) schema l') (hk : LeadsTo k root (.ofText text) schema k')
    (hcounts : Counts schema)
    (h : (l.schemaClass text project root format).2.fetcher.cache <+: k'.fetcher.cache) :
    (k.schemaClass text project root format).1 = (l.schemaClass text project root format).1 := by
  rw [schemaClass_of_leadsTo hl hcounts] at h ⊢
  rw [schemaClass_of_leadsTo hk hcounts]
  by_cases hformat : Text.sameIgnoringCase (declared (counted schema)) format = true
  · rw [if_pos hformat] at h ⊢
    rw [if_pos hformat]
    have hpayload : (SchemaClass.payload k' text (counted schema)).1 =
        (SchemaClass.payload l' text (counted schema)).1 := by
      apply payload_again
      generalize SchemaClass.payload l' text (counted schema) = held at h
      obtain ⟨fault | payload, after⟩ := held <;> exact h
    generalize SchemaClass.payload l' text (counted schema) = held at hpayload
    generalize SchemaClass.payload k' text (counted schema) = held' at hpayload
    obtain ⟨result, after⟩ := held
    obtain ⟨result', after'⟩ := held'
    obtain rfl : result' = result := hpayload
    cases result' <;> rfl
  · rw [if_neg hformat, if_neg hformat]

end SchemaClass

open SchemaClass in
/-- A class that was asked for is the same if it is asked for again, whatever the source would answer
now. -/
theorem Loader.schemaClass_again
    (h : (l.schemaClass text project root format).2.fetcher.cache <+: k.fetcher.cache) :
    (k.schemaClass text project root format).1 = (l.schemaClass text project root format).1 := by
  have hkept := (goesOn_schemaClass_of_find l text project root format).keeps_cache.trans h
  obtain ⟨hsame, hquiet⟩ := find_again hkept
  rcases hl : find l root (.ofText text) with ⟨found, l'⟩
  rcases hk : find k root (.ofText text) with ⟨found', k'⟩
  rw [hl, hk] at hsame
  rw [hk] at hquiet
  obtain rfl : found' = found := hsame
  cases found' with
  | error defect => rw [schemaClass_of_find_eq_error hl, schemaClass_of_find_eq_error hk]
  | ok schema =>
    by_cases hcounts : Counts schema
    · refine schemaClass_again_of_leadsTo (find_eq_ok.1 hl) (find_eq_ok.1 hk) hcounts ?_
      exact hquiet.prefix_cache h
    · have hversion := version_of_not_counts hcounts (segments (Reference.ofText text).withoutTypeName)
      rw [schemaClass_of_version_eq_error hl hversion, schemaClass_of_version_eq_error hk hversion]

end again

end Registry
