import Registry.Output
import Registry.Proofs.FetcherLog

/-!
# What a loader asks for

All that a loader does to its fetcher is to use it, and only forgetting the run resets it. So in one
run the source is asked for each location once at most.
-/

namespace Registry

section carried

variable {α β σ : Type} {P : σ → Prop}

lemma Table.mapState_carries {f : String → α → σ → β × σ} (hf : ∀ key v s, P s → P (f key v s).2)
    (t : Table α) {s : σ} (hs : P s) : P (t.mapState f s).2 := by
  induction t generalizing s with
  | nil => exact hs
  | cons e t ih =>
    obtain ⟨key, v⟩ := e
    exact ih (hf key v s hs)

lemma Fields.changeAt_carries {change : Fields → σ → Fields × σ}
    (hc : ∀ inner s, P s → P (change inner s).2) (key : String) (fields : Fields) {s : σ}
    (hs : P s) : P (fields.changeAt key change s).2 := by
  unfold Fields.changeAt
  split
  · exact hc _ s hs
  · exact hs

lemma Value.changeMapping_carries {change : Fields → σ → Fields × σ}
    (hc : ∀ inner s, P s → P (change inner s).2) (v : Value) {s : σ} (hs : P s) :
    P (v.changeMapping change s).2 := by
  cases v with
  | mapping fields => exact hc fields s hs
  | _ => exact hs

/-- Changes of a mapping made in turn for each member of a list. -/
lemma Fields.foldl_carries {change : Fields × σ → α → Fields × σ}
    (hc : ∀ p a, P p.2 → P (change p a).2) (as : List α) {p : Fields × σ} (hp : P p.2) :
    P (as.foldl change p).2 := by
  induction as generalizing p with
  | nil => exact hp
  | cons a as ih => exact ih (hc p a hp)

end carried

open Fetcher

variable {f g : Fetcher} {m : Model} {headers : Headers}

namespace Entry

lemma goesOn_inlineCollection (hg : g.GoesOn f) (type : GroupType) (root : Fields) :
    g.GoesOn (inlineCollection headers type root f).2 := by
  unfold inlineCollection
  dsimp only
  split
  · exact hg
  · split
    · exact hg
    · next url _ =>
      have hfetch := hg.fetch url headers .reuse
      generalize f.fetch url headers .reuse = fetched at hfetch
      obtain ⟨⟨found, document⟩, f'⟩ := fetched
      dsimp only
      split <;> exact hfetch

lemma goesOn_normalize (hg : g.GoesOn f) (root : Fields) :
    g.GoesOn (normalize m headers root f).2 :=
  Fields.foldl_carries (fun p type hp => goesOn_inlineCollection hp type p.1) m.groups
    (p := (root, f)) hg

end Entry

namespace Composition

lemma goesOn_enter (hg : g.GoesOn f) (location : String) (d : Dependencies) :
    g.GoesOn (enter m headers location d f).2.1 := by
  have hfetch := hg.fetch location headers .reuse
  unfold enter
  generalize f.fetch location headers .reuse = fetched at hfetch
  obtain ⟨⟨found, document⟩, f'⟩ := fetched
  split
  · split <;> exact hg
  · split
    · exact hg
    · dsimp only
      split <;> exact hfetch

lemma goesOn_walk (hg : g.GoesOn f) (bound : Nat) (visits : List Visit) (d : Dependencies) :
    g.GoesOn (walk m headers bound visits d f).2 := by
  refine walk_preserves (P := fun _ f => g.GoesOn f) (fun _ _ _ hf => hf) ?_ bound visits hg
  exact fun d _ location hf => goesOn_enter hf location d

lemma goesOn_compose (hg : g.GoesOn f) (location : String) (entry : Value) (d : Dependencies) :
    g.GoesOn (compose m headers location entry d f).2.2 :=
  goesOn_walk hg _ _ _

end Composition

namespace Payload

lemma goesOn_load (hg : g.GoesOn f) (form : Form) (v : Value) :
    g.GoesOn (load headers form v f).2 := by
  unfold load
  split
  · exact hg
  · next url =>
    have hfetch := hg.fetch url headers .reuse
    generalize f.fetch url headers .reuse = fetched at hfetch
    obtain ⟨⟨found, document⟩, f'⟩ := fetched
    exact hfetch
  · exact hg
  · exact hg

lemma goesOn_populate (hg : g.GoesOn f) (singular : String) (entity : Fields) :
    g.GoesOn (populate headers singular entity f).2 := by
  unfold populate
  split
  · exact hg
  · split
    · exact hg
    · next form v _ =>
      have hload : g.GoesOn (load headers form v f).2 := goesOn_load hg form v
      split
      · next heq =>
        rw [heq] at hload
        exact hload
      · next heq =>
        rw [heq] at hload
        exact hload

lemma goesOn_populateResource (hg : g.GoesOn f) (singular : String) (resource : Fields) :
    g.GoesOn (populateResource headers singular resource f).2 := by
  have hpopulate : ∀ entity s, g.GoesOn s → g.GoesOn (populate headers singular entity s).2 :=
    fun entity _ hs => goesOn_populate hs singular entity
  unfold populateResource
  split
  · refine Fields.changeAt_carries ?_ _ _ hg
    intro versions s hs
    refine Table.mapState_carries ?_ versions hs
    intro _ version s hs
    exact Value.changeMapping_carries hpopulate version hs
  · exact goesOn_populate hg singular resource

lemma goesOn_populateGroup (hg : g.GoesOn f) (types : List ResourceType) (group : Fields) :
    g.GoesOn (populateGroup headers types group f).2 := by
  refine Fields.foldl_carries ?_ types (p := (group, f)) hg
  rintro ⟨group, s⟩ type hs
  refine Fields.changeAt_carries ?_ _ _ hs
  intro resources s hs
  refine Table.mapState_carries ?_ resources hs
  intro _ resource s hs
  refine Value.changeMapping_carries ?_ resource hs
  exact fun resource _ hs => goesOn_populateResource hs type.singular resource

lemma goesOn_populateAll (hg : g.GoesOn f) (root : Fields) :
    g.GoesOn (populateAll m headers root f).2 := by
  refine Fields.foldl_carries ?_ m.groups (p := (root, f)) hg
  rintro ⟨root, s⟩ type hs
  refine Fields.changeAt_carries ?_ _ _ hs
  intro groups s hs
  refine Table.mapState_carries ?_ groups hs
  intro _ group s hs
  refine Value.changeMapping_carries ?_ group hs
  exact fun group _ hs => goesOn_populateGroup hs type.resources group

end Payload

namespace Loader

variable {l : Loader} {location : String} {options : LoadOptions}

lemma goesOn_settle (hg : g.GoesOn f) (root : Fields) : g.GoesOn (settle m headers root f).2 := by
  have hpopulate : g.GoesOn (Payload.populateAll m headers root f).2 :=
    Payload.goesOn_populateAll hg root
  unfold settle
  dsimp only
  split <;> exact hpopulate

lemma goesOn_process (hg : g.GoesOn l.fetcher) (location : String) (document : Value)
    (headers : Headers) (options : LoadOptions) (composing : Bool) :
    g.GoesOn (l.process location document headers options composing).2.fetcher := by
  unfold process
  split
  · next root =>
    have hentry : g.GoesOn (Entry.normalize l.model headers root l.fetcher).2 :=
      Entry.goesOn_normalize hg root
    dsimp only
    cases composing with
    | true =>
      rw [if_pos rfl]
      exact goesOn_settle (Composition.goesOn_compose hentry _ _ _) _
    | false =>
      rw [if_neg (by decide)]
      exact goesOn_settle hentry _
  · exact hg

lemma goesOn_loadOne (hg : g.GoesOn l.fetcher) (location : String) (headers : Headers)
    (options : LoadOptions) (composing : Bool) :
    g.GoesOn (l.loadOne location headers options composing).2.fetcher := by
  have hfetch := hg.fetch location headers .once
  unfold loadOne
  dsimp only
  split
  · exact hfetch
  · split
    · exact hfetch
    · exact goesOn_process (l := { l with fetcher := _ }) hfetch _ _ _ _ _

lemma goesOn_stack (hg : g.GoesOn l.fetcher) (headers : Headers) (locations : List String)
    (lower : Option (String × Fields)) :
    g.GoesOn (stack headers locations lower l).2.fetcher := by
  induction locations generalizing lower l with
  | nil => exact hg
  | cons location locations ih =>
    have hfetch := hg.fetch location headers .once
    unfold stack
    dsimp only
    split
    · exact hfetch
    · next root _ =>
      exact ih (l := { l with fetcher := _ }) (Entry.goesOn_normalize hfetch root) _
    · exact hfetch

lemma goesOn_loadStacked (hg : g.GoesOn l.fetcher) (locations : List String) (headers : Headers)
    (options : LoadOptions) : g.GoesOn (l.loadStacked locations headers options).2.fetcher := by
  have hstack := goesOn_stack hg headers locations none
  unfold loadStacked
  split
  · next heq =>
    rw [heq] at hstack
    exact hstack
  · next heq =>
    rw [heq] at hstack
    exact hstack
  · next heq =>
    rw [heq] at hstack
    exact goesOn_process hstack _ _ _ _ _

@[simp] lemma fetcher_addSchemaFile : (l.addSchemaFile location).fetcher = l.fetcher := by
  unfold addSchemaFile
  split <;> rfl

@[simp] lemma fetcher_addSchemaReference (reference : String) :
    (l.addSchemaReference reference).fetcher = l.fetcher := by
  unfold addSchemaReference
  split <;> rfl

lemma fetcher_loadSchemaDocument (l : Loader) (location : String) (headers : Headers) :
    (l.loadSchemaDocument location headers).2.fetcher =
      (l.fetcher.fetch location headers .reuse).2 := by
  unfold loadSchemaDocument
  generalize l.fetcher.fetch location headers .reuse = fetched
  obtain ⟨⟨found, document⟩, f⟩ := fetched
  dsimp only
  split
  · rw [fetcher_addSchemaFile]
  · rfl

lemma goesOn_loadSchemaDocument (hg : g.GoesOn l.fetcher) (location : String) (headers : Headers) :
    g.GoesOn (l.loadSchemaDocument location headers).2.fetcher := by
  rw [fetcher_loadSchemaDocument]
  exact hg.fetch location headers .reuse

lemma goesOn_find (hg : g.GoesOn l.fetcher) (root : Value) (reference : Reference) :
    g.GoesOn (SchemaClass.find l root reference).2.fetcher := by
  unfold SchemaClass.find
  split
  · rw [fetcher_addSchemaReference]
    exact hg
  · next location _ _ => exact goesOn_loadSchemaDocument hg location []

lemma goesOn_payload (hg : g.GoesOn l.fetcher) (text : String) (version : Value) :
    g.GoesOn (SchemaClass.payload l text version).2.fetcher := by
  unfold SchemaClass.payload
  split
  · next url _ => exact goesOn_loadSchemaDocument hg url []
  · exact hg

lemma goesOn_schemaClass (hg : g.GoesOn l.fetcher) (text project : String) (root : Value)
    (format : String) : g.GoesOn (l.schemaClass text project root format).2.fetcher := by
  have hfind := goesOn_find hg root (.ofText text)
  unfold schemaClass
  dsimp only
  split
  · next heq =>
    rw [heq] at hfind
    exact hfind
  · next schema l' heq =>
    rw [heq] at hfind
    split
    · exact hfind
    · next version _ _ =>
      have hpayload := goesOn_payload hfind text version
      split
      · exact hfind
      · split
        · next heq =>
          rw [heq] at hpayload
          exact hpayload
        · next heq =>
          rw [heq] at hpayload
          exact hpayload

lemma goesOn_index (hg : g.GoesOn l.fetcher) (project : String) (document : Value)
    (messages : List Render.TypedMessage) (types : Fields) :
    g.GoesOn (Render.index project document messages types l).2.fetcher := by
  induction messages generalizing types l with
  | nil => exact hg
  | cons t messages ih =>
    have hclass := goesOn_schemaClass hg t.reference project document t.format
    unfold Render.index
    split
    · next heq =>
      rw [heq] at hclass
      exact hclass
    · next heq =>
      rw [heq] at hclass
      exact ih hclass _

lemma goesOn_renderInto (hg : g.GoesOn l.fetcher) (project : String) (document : Value)
    (directory : String) (d : Disk) :
    g.GoesOn (l.renderInto project document directory d).2.1.fetcher := by
  have hrender : g.GoesOn (l.render project document).2.fetcher := by
    unfold render
    split
    · exact goesOn_index hg project document _ _
    · exact hg
  unfold renderInto
  split
  · next heq =>
    rw [heq] at hrender
    exact hrender
  · next heq =>
    rw [heq] at hrender
    exact hrender
  · next heq =>
    rw [heq] at hrender
    split <;> exact hrender

/-- What a loader can be used for in a run. -/
inductive Use where
  | load (location : String) (headers : Headers) (options : LoadOptions)
  | loadWithDependencies (location : String) (headers : Headers) (options : LoadOptions)
  | loadStacked (locations : List String) (headers : Headers) (options : LoadOptions)
  | loadSchemaDocument (location : String) (headers : Headers)
  | schemaClass (text project : String) (root : Value) (format : String)
  | render (project : String) (document : Value) (directory : String) (disk : Disk)
  | markHandled (location : String)
  | clearHandled
  | setCurrentUrl (location : Option String)

/-- The loader after a use. -/
def after (l : Loader) : Use → Loader
  | .load location headers options => (l.load location headers options).2
  | .loadWithDependencies location headers options =>
    (l.loadWithDependencies location headers options).2
  | .loadStacked locations headers options => (l.loadStacked locations headers options).2
  | .loadSchemaDocument location headers => (l.loadSchemaDocument location headers).2
  | .schemaClass text project root format => (l.schemaClass text project root format).2
  | .render project document directory disk => (l.renderInto project document directory disk).2.1
  | .markHandled location => { l with fetcher := l.fetcher.markHandled location }
  | .clearHandled => { l with fetcher := l.fetcher.clearHandled }
  | .setCurrentUrl location => { l with fetcher := l.fetcher.setCurrentUrl location }

/-- The loader after some uses in turn. -/
def run (l : Loader) (uses : List Use) : Loader := uses.foldl after l

lemma goesOn_after (hg : g.GoesOn l.fetcher) (use : Use) : g.GoesOn (l.after use).fetcher := by
  cases use with
  | load location headers options =>
    rw [after, load]
    exact goesOn_loadOne hg location headers options false
  | loadWithDependencies location headers options =>
    rw [after, loadWithDependencies]
    exact goesOn_loadOne hg location headers options true
  | loadStacked locations headers options =>
    rw [after]
    exact goesOn_loadStacked hg locations headers options
  | loadSchemaDocument location headers =>
    rw [after]
    exact goesOn_loadSchemaDocument hg location headers
  | schemaClass text project root format =>
    rw [after]
    exact goesOn_schemaClass hg text project root format
  | render project document directory disk =>
    rw [after]
    exact goesOn_renderInto hg project document directory disk
  | markHandled location =>
    have huse : Fetcher.Use.markHandled location ≠ .reset := by simp
    exact hg.after huse
  | clearHandled =>
    have huse : Fetcher.Use.clearHandled ≠ .reset := by simp
    exact hg.after huse
  | setCurrentUrl location =>
    have huse : Fetcher.Use.setCurrentUrl location ≠ .reset := by simp
    exact hg.after huse

lemma goesOn_run (hg : g.GoesOn l.fetcher) (uses : List Use) :
    g.GoesOn (l.run uses).fetcher := by
  induction uses generalizing l with
  | nil => exact hg
  | cons use uses ih => exact ih (goesOn_after hg use)

/-- Whatever a loader is used for since it was started or forgot its run, the locations that it asks
its source for are those that it keeps an answer for, each asked for once and without a fragment. The
source may answer as it likes, and differently each time. -/
theorem requests_run_nodup (uses : List Use) :
    (∀ m s policy,
      let f := ((start m s policy).run uses).fetcher
      (f.requests.map (·.location)).Nodup ∧
        (∀ request ∈ f.requests, '#' ∉ request.location.toList) ∧
        f.requests.map (·.location) = f.cache.keys.reverse) ∧
    ∀ l : Loader,
      let f := (l.resetRun.run uses).fetcher
      ∃ made : List Request, f.requests = made ++ l.fetcher.requests ∧
        (made.map (·.location)).Nodup ∧
        (∀ request ∈ made, '#' ∉ request.location.toList) ∧
        made.map (·.location) = f.cache.keys.reverse := by
  have hlogs : ∀ before f, Logs before f → ∃ made : List Request, f.requests = made ++ before ∧
      (made.map (·.location)).Nodup ∧ (∀ request ∈ made, '#' ∉ request.location.toList) ∧
      made.map (·.location) = f.cache.keys.reverse := by
    intro before f hf
    obtain ⟨made, hrequests, hmade⟩ := hf.made
    refine ⟨made, hrequests, ?_, ?_, hmade⟩
    · rw [hmade, List.nodup_reverse]
      exact hf.nodup
    · intro request hm
      have hkey := List.mem_map_of_mem (f := (·.location)) hm
      rw [hmade, List.mem_reverse] at hkey
      exact hf.hash_not_mem _ hkey
  constructor
  · intro m s policy f
    have hgoes : (Fetcher.start s policy).GoesOn f :=
      goesOn_run (l := start m s policy) (.refl _) uses
    obtain ⟨made, hrequests, hmade⟩ := hlogs [] f ((Logs.start s policy).goesOn hgoes)
    rw [List.append_nil] at hrequests
    rwa [hrequests]
  · intro l f
    have hgoes : l.fetcher.reset.GoesOn f := goesOn_run (l := l.resetRun) (.refl _) uses
    exact hlogs _ f ((Logs.reset l.fetcher).goesOn hgoes)

end Loader

end Registry
