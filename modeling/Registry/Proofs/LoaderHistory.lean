import Registry.Proofs.CompositionHistory
import Registry.Proofs.LoaderRequests

/-!
# What a loader has learnt

In a run over a stable source a loader knows of each location that it followed what the location loads
as: loads follow references, and nothing else touches what is known of them.
-/

namespace Registry

open Fetcher Registry.Composition

variable {s : Source} {policy : ParsePolicy} {f g : Fetcher} {m : Model} {headers : Headers}
  {root : Fields}

namespace Composition

lemma Reading.goesOn (h : Reading s policy f) (hg : f.GoesOn g) : Reading s policy g := by
  have hfaithful := hg.faithful h.faithful
  obtain ⟨uses, -, rfl⟩ := hg
  exact ⟨(source_run uses).trans h.source, (policy_run uses).trans h.policy, hfaithful⟩

lemma Learnt.goesOn {d : Dependencies} (h : Learnt s policy d f) (hg : f.GoesOn g) :
    Learnt s policy d g :=
  h.withReading (h.reading.goesOn hg)

end Composition

namespace Entry

lemma wellKeyed_collectionIn (hr : root.WellKeyed) (plural : String) :
    (collectionIn plural root).WellKeyed := by
  unfold collectionIn
  split
  · next inner hinner => exact hr.of_get? hinner
  · exact hr.swapErase plural

lemma wellKeyed_inlineCollection (hf : f.Faithful) (hr : root.WellKeyed) (type : GroupType) :
    (inlineCollection headers type root f).1.WellKeyed := by
  unfold inlineCollection
  dsimp only
  split
  · exact hr
  · split
    · exact hr
    · next url _ =>
      have hdocument : ∀ document, (f.fetch url headers .reuse).1.2 = some document →
          document.WellKeyed := fun _ => wellKeyed_of_fetch hf
      have herased := hr.swapErase (type.plural ++ "url")
      generalize f.fetch url headers .reuse = fetched at hdocument
      obtain ⟨⟨found, document⟩, f'⟩ := fetched
      dsimp only at hdocument ⊢
      split
      · next fields =>
        exact herased.insert (wellKeyed_collectionIn (hdocument _ rfl) type.plural)
      · exact herased

lemma wellKeyed_wrap (m : Model) (hr : root.WellKeyed) : (wrap m root).WellKeyed := by
  unfold wrap
  split
  · exact hr
  · split
    · exact Fields.wellKeyed_singleton (Fields.wellKeyed_singleton hr)
    · exact hr

/-- An entry that repeats no key repeats none in the form of a registry. -/
lemma wellKeyed_normalize (m : Model) (headers : Headers) (hf : f.Faithful) (hr : root.WellKeyed) :
    (normalize m headers root f).1.WellKeyed := by
  have hinlined : (inlineCollections m headers root f).1.WellKeyed := by
    unfold inlineCollections
    generalize m.groups = types
    induction types generalizing root f with
    | nil => exact hr
    | cons type types ih =>
      have hgoes : f.GoesOn (inlineCollection headers type root f).2 :=
        goesOn_inlineCollection (.refl f) type root
      exact ih (hgoes.faithful hf) (wellKeyed_inlineCollection hf hr type)
  exact wellKeyed_wrap m hinlined

end Entry

namespace Loader

/-- A loader has the model of another one and knows the same of references. -/
structure Alike (l l' : Loader) : Prop where
  model : l'.model = l.model
  dependencies : l'.dependencies = l.dependencies

variable {l l' l'' : Loader} {location : String}

namespace Alike

lemma refl (l : Loader) : Alike l l := ⟨rfl, rfl⟩

lemma trans (h : Alike l l') (k : Alike l' l'') : Alike l l'' :=
  ⟨k.model.trans h.model, k.dependencies.trans h.dependencies⟩

lemma addSchemaFile (l : Loader) (location : String) : Alike l (l.addSchemaFile location) := by
  unfold Loader.addSchemaFile
  split <;> exact ⟨rfl, rfl⟩

lemma addSchemaReference (l : Loader) (reference : String) :
    Alike l (l.addSchemaReference reference) := by
  unfold Loader.addSchemaReference
  split <;> exact ⟨rfl, rfl⟩

lemma loadSchemaDocument (l : Loader) (location : String) (headers : Headers) :
    Alike l (l.loadSchemaDocument location headers).2 := by
  unfold Loader.loadSchemaDocument
  generalize l.fetcher.fetch location headers .reuse = fetched
  obtain ⟨⟨found, document⟩, f⟩ := fetched
  have hfetched : Alike l { l with fetcher := f } := ⟨rfl, rfl⟩
  dsimp only
  split
  · exact hfetched.trans (addSchemaFile _ _)
  · exact hfetched

lemma find (l : Loader) (root : Value) (reference : Reference) :
    Alike l (SchemaClass.find l root reference).2 := by
  unfold SchemaClass.find
  split
  · exact addSchemaReference l _
  · exact loadSchemaDocument l _ []

lemma payload (l : Loader) (text : String) (version : Value) :
    Alike l (SchemaClass.payload l text version).2 := by
  unfold SchemaClass.payload
  split
  · exact loadSchemaDocument l _ []
  · exact refl l

lemma schemaClass (l : Loader) (text project : String) (root : Value) (format : String) :
    Alike l (l.schemaClass text project root format).2 := by
  have hfind := find l root (.ofText text)
  unfold Loader.schemaClass
  dsimp only
  split
  · next heq =>
    rw [heq] at hfind
    exact hfind
  · next schema l' heq =>
    rw [heq] at hfind
    split
    · exact hfind
    · next version _ _ =>
      have hpayload := hfind.trans (payload l' text version)
      split
      · exact hfind
      · split
        · next heq =>
          rw [heq] at hpayload
          exact hpayload
        · next heq =>
          rw [heq] at hpayload
          exact hpayload

lemma index (l : Loader) (project : String) (document : Value)
    (messages : List Render.TypedMessage) (types : Fields) :
    Alike l (Render.index project document messages types l).2 := by
  induction messages generalizing types l with
  | nil => exact refl l
  | cons t messages ih =>
    have hclass := schemaClass l t.reference project document t.format
    unfold Render.index
    split
    · next heq =>
      rw [heq] at hclass
      exact hclass
    · next heq =>
      rw [heq] at hclass
      exact hclass.trans (ih _ _)

lemma renderInto (l : Loader) (project : String) (document : Value) (directory : String)
    (disk : Disk) : Alike l (l.renderInto project document directory disk).2.1 := by
  have hrender : Alike l (l.render project document).2 := by
    unfold Loader.render
    split
    · exact index l project document _ _
    · exact refl l
  unfold Loader.renderInto
  split
  · next heq =>
    rw [heq] at hrender
    exact hrender
  · next heq =>
    rw [heq] at hrender
    exact hrender
  · next heq =>
    rw [heq] at hrender
    split <;> exact hrender

lemma stack (l : Loader) (headers : Headers) (locations : List String)
    (lower : Option (String × Fields)) : Alike l (Loader.stack headers locations lower l).2 := by
  induction locations generalizing lower l with
  | nil => exact refl l
  | cons location locations ih =>
    have hread : ∀ f, Alike l { l with fetcher := f } := fun _ => ⟨rfl, rfl⟩
    unfold Loader.stack
    dsimp only
    split
    · exact hread _
    · exact (hread _).trans (ih _ _)
    · exact hread _

end Alike

/-- A loader with a model that knows of each location that it followed what the location loads as. -/
structure HasLearnt (m : Model) (s : Source) (policy : ParsePolicy) (l : Loader) : Prop where
  model : l.model = m
  learnt : Learnt s policy l.dependencies l.fetcher

namespace HasLearnt

lemma start (m : Model) (s : Source) (policy : ParsePolicy) :
    HasLearnt m s policy (Loader.start m s policy) :=
  ⟨rfl, Learnt.start ⟨rfl, rfl, faithful_start s policy⟩⟩

lemma alike (h : HasLearnt m s policy l) (hl : Alike l l') (hg : l.fetcher.GoesOn l'.fetcher) :
    HasLearnt m s policy l' :=
  ⟨hl.model.trans h.model, hl.dependencies ▸ h.learnt.goesOn hg⟩

lemma fetch (h : HasLearnt m s policy l) (location : String) (headers : Headers) (mode : FetchMode) :
    HasLearnt m s policy { l with fetcher := (l.fetcher.fetch location headers mode).2 } :=
  h.alike ⟨rfl, rfl⟩ ((GoesOn.refl _).fetch location headers mode)

lemma process (hs : s.Stable) (h : HasLearnt m s policy l) (location : String) (document : Value)
    (headers : Headers) (options : LoadOptions) (composing : Bool) :
    HasLearnt m s policy (l.process location document headers options composing).2 := by
  unfold Loader.process
  split
  · next root =>
    have hentry : Learnt s policy l.dependencies
        (Entry.normalize l.model headers root l.fetcher).2 :=
      h.learnt.goesOn (Entry.goesOn_normalize (.refl _) root)
    refine ⟨h.model, ?_⟩
    dsimp only
    cases composing with
    | true =>
      rw [if_pos rfl]
      exact (hentry.compose hs l.model headers location _).goesOn (goesOn_settle (.refl _) _)
    | false =>
      rw [if_neg (by decide)]
      exact hentry.goesOn (goesOn_settle (.refl _) _)
  · exact h

lemma loadOne (hs : s.Stable) (h : HasLearnt m s policy l) (location : String) (headers : Headers)
    (options : LoadOptions) (composing : Bool) :
    HasLearnt m s policy (l.loadOne location headers options composing).2 := by
  have hfetch := h.fetch location headers .once
  unfold Loader.loadOne
  dsimp only
  split
  · exact hfetch
  · split
    · exact hfetch
    · exact hfetch.process hs _ _ _ _ _

lemma loadStacked (hs : s.Stable) (h : HasLearnt m s policy l) (locations : List String)
    (headers : Headers) (options : LoadOptions) :
    HasLearnt m s policy (l.loadStacked locations headers options).2 := by
  have hstack : HasLearnt m s policy (stack headers locations none l).2 :=
    h.alike (.stack l headers locations none) (goesOn_stack (.refl _) headers locations none)
  unfold Loader.loadStacked
  split
  · next heq =>
    rw [heq] at hstack
    exact hstack
  · next heq =>
    rw [heq] at hstack
    exact hstack
  · next heq =>
    rw [heq] at hstack
    exact hstack.process hs _ _ _ _ _

lemma after (hs : s.Stable) (h : HasLearnt m s policy l) (use : Use) :
    HasLearnt m s policy (l.after use) := by
  have hgoes : l.fetcher.GoesOn (l.after use).fetcher := goesOn_after (.refl _) use
  cases use with
  | load location headers options =>
    rw [Loader.after, Loader.load]
    exact h.loadOne hs location headers options false
  | loadWithDependencies location headers options =>
    rw [Loader.after, Loader.loadWithDependencies]
    exact h.loadOne hs location headers options true
  | loadStacked locations headers options =>
    rw [Loader.after]
    exact h.loadStacked hs locations headers options
  | loadSchemaDocument location headers =>
    refine h.alike ?_ hgoes
    rw [Loader.after]
    exact .loadSchemaDocument l location headers
  | schemaClass text project root format =>
    refine h.alike ?_ hgoes
    rw [Loader.after]
    exact .schemaClass l text project root format
  | render project document directory disk =>
    refine h.alike ?_ hgoes
    rw [Loader.after]
    exact .renderInto l project document directory disk
  | markHandled location => exact h.alike ⟨rfl, rfl⟩ hgoes
  | clearHandled => exact h.alike ⟨rfl, rfl⟩ hgoes
  | setCurrentUrl location => exact h.alike ⟨rfl, rfl⟩ hgoes

/-- However a loader is used in a run, it has learnt from its source. -/
theorem run (hs : s.Stable) (h : HasLearnt m s policy l) (uses : List Use) :
    HasLearnt m s policy (l.run uses) := by
  induction uses generalizing l with
  | nil => exact h
  | cons use uses ih => exact ih (h.after hs use)

end HasLearnt

end Loader

end Registry
