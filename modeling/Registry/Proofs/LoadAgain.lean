import Registry.Proofs.Completion
import Registry.Proofs.EntryForm
import Registry.Proofs.Growth
import Registry.Proofs.LonePlaces
import Registry.Proofs.MessageUrls
import Registry.Proofs.PayloadInheritance

/-!
# Loading what was loaded

A loaded document is what the passes of a load leave alone: it is in normal form, its payloads have
been looked for, no message names a base, and its defaults are there. No pass undoes what one of the
others has done, so loading the document again gives it back.
-/

namespace Registry

/-- A mapping has the keys of another one, and the same texts under them. -/
structure Fields.SameTexts (before after : Fields) : Prop where
  keys : after.keys = before.keys
  texts : ∀ key, after.textAt? key = before.textAt? key

namespace Fields.SameTexts

variable {τ α ε : Type} {before between after fields : Fields}

lemma refl (fields : Fields) : SameTexts fields fields := ⟨rfl, fun _ => rfl⟩

lemma trans (h : SameTexts before between) (k : SameTexts between after) : SameTexts before after :=
  ⟨k.keys.trans h.keys, fun key => (k.texts key).trans (h.texts key)⟩

lemma insert {key : String} {inner : Fields} (h : fields.get? key = some (.mapping inner))
    (inner' : Fields) : SameTexts fields (fields.insert key (.mapping inner')) := by
  refine ⟨Table.keys_insert_of_mem (Table.mem_keys_of_get? h) _, fun other => ?_⟩
  rw [textAt?, textAt?, Table.get?_insert]
  split
  · next hk =>
    rw [← hk, h]
    rfl
  · rfl

lemma changeAt {σ : Type} (key : String) (change : Fields → σ → Fields × σ) (fields : Fields) (s : σ) :
    SameTexts fields (fields.changeAt key change s).1 := by
  unfold Fields.changeAt
  split
  · next hinner => exact insert hinner _
  · exact refl fields

lemma alterAt (key : String) (alter : Fields → Fields) (fields : Fields) :
    SameTexts fields (fields.alterAt key alter) := by
  unfold Fields.alterAt
  split
  · next hinner => exact insert hinner _
  · exact refl fields

lemma alterEach (plural : τ → String) (types : List τ) (alter : τ → String → Fields → Fields)
    (fields : Fields) : SameTexts fields (fields.alterEach plural types alter) := by
  induction types generalizing fields with
  | nil => exact refl fields
  | cons t types ih => exact (SameTexts.alterAt _ _ fields).trans (ih _)

lemma attemptAt (key : String) (change : Fields → Fields × Option ε) (fields : Fields) :
    SameTexts fields (fields.attemptAt key change).1 := by
  unfold Fields.attemptAt
  split
  · next hinner => exact insert hinner _
  · exact refl fields

lemma attemptEach {plural : τ → String} {types : List τ}
    {change : τ → String → Fields → Fields × Option ε}
    (h : fields.attemptEach plural types change = (after, none)) : SameTexts fields after := by
  induction types generalizing fields with
  | nil => exact (Prod.mk.inj h).1 ▸ refl fields
  | cons t types ih => exact (SameTexts.attemptAt _ _ fields).trans (ih (attemptEach_cons h).2)

lemma inherit (m : Model) (fields : Fields) : SameTexts fields (Inheritance.inherit m fields) := by
  unfold Inheritance.inherit Inheritance.mapMessages
  generalize (Inheritance.groupCollections m).eraseDups = names
  dsimp only
  generalize Inheritance.Lineage.ofDocument m (Value.mapping fields) = l
  induction names generalizing fields with
  | nil => exact refl fields
  | cons name names ih => exact (SameTexts.changeAt name _ fields ()).trans (ih _)

end Fields.SameTexts

namespace Entry.Normal

open Registry.Composition

variable {m : Model} {root whole : Fields} {key location : String}

lemma of_sameTexts (h : Normal m root) (hsame : Fields.SameTexts root whole) : Normal m whole where
  collections type ht := by
    rw [Inlined, hsame.keys, hsame.texts]
    exact h.collections type ht
  group := by
    rw [groupOf?_eq_none_iff]
    simp only [hsame.keys, hsame.texts]
    rw [← groupOf?_eq_none_iff]
    exact h.group

lemma nil (m : Model) : Normal m [] :=
  ⟨fun _ _ => .inr rfl, .inr (groupOf?_eq_none_iff.2 fun _ _ => rfl)⟩

lemma insert (h : Normal m root) (hkey : m.isGroupCollection key = true) (inner : Fields) :
    Normal m (root.insert key (.mapping inner)) where
  collections type ht := (h.collections type ht).insert_mapping key inner
  group := by
    obtain ⟨type, ht, hname⟩ := List.any_eq_true.1 hkey
    refine .inl ⟨type, ht, ?_⟩
    rw [beq_iff_eq.1 hname]
    exact Table.mem_keys_of_get? (Table.get?_insert_self _ _ _)

lemma mergeAt {a : Address} (h : Normal m root)
    (ha : ∀ first rest, a.inner = first :: rest → m.isGroupCollection first = true)
    (document : Value) : Normal m (mergeAt m a document root) := by
  unfold Composition.mergeAt
  split
  · split
    · next groups hgroups =>
      clear hgroups
      induction groups generalizing root with
      | nil => exact h
      | cons e groups ih =>
        rw [List.foldl_cons]
        refine ih ?_
        split
        · next hkey => exact h.insert hkey _
        · exact h
    · exact h
  all_goals first
    | exact h
    | next hinner => exact h.insert (ha _ _ hinner) _

lemma mergeAll (h : Normal m root) (resolved : Table Value) (locations : List String) :
    Normal m (mergeAll m resolved root locations) := by
  unfold Composition.mergeAll
  induction locations generalizing root with
  | nil => exact h
  | cons location locations ih =>
    rw [List.foldl_cons]
    refine ih ?_
    split
    · next document _ =>
      exact h.mergeAt (fun _ _ => Address.isGroupCollection_of_inner) document
    · exact h

lemma seed (h : Normal m root) (location : String) :
    Normal m (seed m (Address.inModel m location) (.mapping root)) := by
  have hfirst : ∀ first, (Address.inModel m location).groupType? = some first →
      m.isGroupCollection first = true := by
    intro first hg
    rw [Address.groupType?, ← List.head?_eq_getElem?] at hg
    obtain ⟨rest, hinner⟩ := List.head?_eq_some_iff.1 hg
    exact Address.isGroupCollection_of_inner hinner
  unfold Composition.seed
  split
  · exact h
  · split
    · exact h
    · next first hg _ => exact (nil m).insert (hfirst first hg) root
    · next first _ hg _ => exact (nil m).insert (hfirst first hg) _

/-- Composing an entry keeps its form. -/
theorem compose (h : Normal m root) (headers : Headers) (location : String) (d : Dependencies)
    (f : Fetcher) : Normal m (compose m headers location (.mapping root) d f).1 :=
  (h.seed location).mergeAll _ _

end Entry.Normal

/-- A model whose collections are not shared, whose messages are called so, and whose ids take no
part in finding payloads or bases. -/
structure Model.Orderly (m : Model) : Prop where
  urls : m.UrlKeysApart
  groups : (m.groups.map (·.plural)).Nodup
  resources : ∀ g ∈ m.groups, (g.resources.map (·.plural)).Nodup
  messages : ∀ g ∈ m.groups, ∀ r ∈ g.resources,
    r.plural = Inheritance.collection → r.singular = "message"
  versions : ∀ g ∈ m.groups, ∀ r ∈ g.resources, r.singular ≠ "versions"
  ids : ∀ g ∈ m.groups, ∀ r ∈ g.resources,
    ¬Payload.Watches r.singular r.idAttribute ∧ r.idAttribute ≠ Inheritance.baseAttribute

lemma Model.orderly_standard : Model.standard.Orderly := by
  constructor <;> decide

namespace Loader

open Payload Inheritance Defaults

variable {m : Model} {reads : String → CachedRead} {root whole : Fields}

lemma not_watches_metadata : ∀ key ∈ metadataKeys, ¬Watches "message" key := by decide

/-- Completing adds ids and metadata, which take no part in finding payloads. -/
lemma atRest_of_complete (hm : m.Orderly) (h : complete m root = (whole, none)) {g : GroupType}
    (hg : g ∈ m.groups) {r : ResourceType} (hr : r ∈ g.resources) {groupId id : String}
    (hrest : ∀ resource, (Value.mapping root).under [g.plural, groupId, r.plural, id] =
      some (.mapping resource) → AtRest reads r.singular resource)
    {resource : Fields} (hx : (Value.mapping whole).under [g.plural, groupId, r.plural, id] =
      some (.mapping resource)) : AtRest reads r.singular resource := by
  obtain ⟨before, hbefore, hcompleted⟩ := of_complete hm.groups hg (hm.resources g hg) hr h hx
  refine (hrest before hbefore).congr fun key hkey => ?_
  have hids : r.idAttribute ≠ key := fun he => (hm.ids g hg r hr).1 (he ▸ hkey)
  have hkept := get?_completeResource_of_ne id before hids
    fun hmessage hmem => not_watches_metadata key hmem (hmessage ▸ hkey)
  rwa [hcompleted] at hkept

lemma get?_base_of_complete (hm : m.Orderly) (h : complete m root = (whole, none))
    (hbaseless : ∀ p message, MessageAt m (.mapping root) p message →
      message.get? baseAttribute = none) {p : Inheritance.Place} {message : Fields}
    (hp : MessageAt m (.mapping whole) p message) : message.get? baseAttribute = none := by
  obtain ⟨g, hg, r, hr, hplural, hname⟩ := mem_groupCollections.1 hp.1
  have hx : (Value.mapping whole).under [g.plural, p.groupId, r.plural, p.messageId] =
      some (.mapping message) := by
    rw [hplural, hname]
    exact hp.2
  obtain ⟨before, hbefore, hcompleted⟩ := of_complete hm.groups hg (hm.resources g hg) hr h hx
  have hat : MessageAt m (.mapping root) p before :=
    ⟨hp.1, by rw [← hbefore, hplural, hname]; rfl⟩
  have hkept := get?_completeResource_of_ne p.messageId before (hm.ids g hg r hr).2
    fun _ => by decide
  rw [hcompleted] at hkept
  exact hkept.trans (hbaseless p before hat)

/-- What the passes that follow a composition give is left alone by all of them. -/
theorem settled_again (hm : m.Orderly) (hn : Entry.Normal m root)
    (hk : (populatedAll m reads root).WellKeyed)
    (hplain : InheritsPlainly m (.mapping (populatedAll m reads root)))
    (h : complete m (inherit m (populatedAll m reads root)) = (whole, none)) :
    Entry.Normal m whole ∧ populatedAll m reads whole = whole ∧ inherit m whole = whole ∧
      complete m whole = (whole, none) := by
  have hdocument : Value.WellKeyed (.mapping (populatedAll m reads root)) := hk
  have hwell : whole.WellKeyed := by
    have hgrows := (addsUpTo_complete m _ (wellKeyed_inherit hdocument m)).1
    rw [h] at hgrows
    exact hgrows
  have hnormal : Entry.Normal m whole := by
    have hpopulated : Fields.SameTexts root (populatedAll m reads root) := .alterEach _ _ _ root
    have hcompleted : Fields.SameTexts (inherit m (populatedAll m reads root)) whole :=
      .attemptEach h
    exact hn.of_sameTexts ((hpopulated.trans (.inherit m _)).trans hcompleted)
  have hpayloads : populatedAll m reads whole = whole := by
    refine populatedAll_eq_self hwell fun g hg r hr groupId id resource hx => ?_
    refine atRest_of_complete hm h hg hr (fun before hbefore => ?_) hx
    refine atRest_inherit hdocument hplain hm.messages ?_ hg hr hbefore
    exact fun g hg r hr _ _ _ => atRest_of_populatedAll hm.groups hg (hm.resources g hg) hr
      (hm.versions g hg r hr)
  have hbases : inherit m whole = whole := by
    have hwhole : Value.WellKeyed (.mapping whole) := hwell
    exact Value.mapping.inj (inherit_eq_self hwhole fun p message hp =>
      get?_base_of_complete hm h (fun _ _ => get?_base_of_messageAt_inherit hdocument) hp)
  exact ⟨hnormal, hpayloads, hbases, complete_twice hm.groups hm.resources h hwell⟩

/-- The document in which a load looks for the bases of messages: the entry in its normal form, perhaps
composed, with its payloads. -/
def beforeInheritance (l : Loader) (location : String) (root : Fields) (headers : Headers)
    (composing : Bool) : Fields :=
  let (root, f) := Entry.normalize l.model headers root l.fetcher
  let (root, _, f) := if composing then
      Composition.compose l.model headers location (.mapping root) l.dependencies f
    else (root, l.dependencies, f)
  (populateAll l.model headers root f).1

variable {l : Loader} {location : String} {headers : Headers} {options : LoadOptions}
  {composing : Bool}

/-- A document that comes out of processing is the complete one, but for the filters. -/
lemma complete_of_process {v : Value}
    (h : (l.process location (.mapping root) headers options composing).1 = .ok v) :
    ∃ whole, complete l.model (inherit l.model (l.beforeInheritance location root headers composing)) =
      (whole, none) ∧ v = .mapping (applyFilters options whole) := by
  unfold process settle at h
  unfold beforeInheritance
  dsimp only at h ⊢
  generalize complete l.model _ = completed at h ⊢
  obtain ⟨whole, fault⟩ := completed
  cases fault with
  | none => exact ⟨whole, rfl, (Except.ok.inj h).symm⟩
  | some fault => cases h

/-- A document that a load gives is the mapping that was read, processed. -/
lemma process_of_loadOne {found : String} {document : Value} (hstyle : options.schemaStyle = false)
    (h : (l.loadOne location headers options composing).1 = .ok (found, some document)) :
    ∃ root, (l.fetcher.fetch location headers .once).1 = (found, some (.mapping root)) ∧
      (process { l with fetcher := (l.fetcher.fetch location headers .once).2 } found (.mapping root)
        headers options composing).1 = .ok document := by
  unfold loadOne at h
  generalize l.fetcher.fetch location headers .once = fetched at h ⊢
  obtain ⟨⟨found', read⟩, f⟩ := fetched
  cases read with
  | none => cases h
  | some v =>
    dsimp only at h
    rw [if_neg (by simp [hstyle])] at h
    dsimp only at h
    generalize hprocessed : process { l with fetcher := f } found' v headers options composing =
      processed at h
    obtain ⟨result, l'⟩ := processed
    cases result with
    | error fault => cases h
    | ok whole =>
      obtain ⟨rfl, hwhole⟩ := Prod.mk.inj (Except.ok.inj h)
      obtain rfl := Option.some.inj hwhole
      cases v with
      | mapping root => exact ⟨root, rfl, congrArg Prod.fst hprocessed⟩
      | _ => cases hprocessed

section stable

open Registry.Composition (Reading)

variable {s : Source} {policy : ParsePolicy}

/-- What payloads are looked for in is in normal form and repeats no key. -/
lemma exists_composed (hs : s.Stable) (hm : m.Orderly) (h : HasLearnt m s policy l)
    (hr : root.WellKeyed) (location : String) (headers : Headers) (composing : Bool) :
    ∃ (composed : Fields) (f : Fetcher),
      l.beforeInheritance location root headers composing = (populateAll m headers composed f).1 ∧
      Reading s policy f ∧ composed.WellKeyed ∧ Entry.Normal m composed := by
  let entry := Entry.normalize m headers root l.fetcher
  have hlearnt : Composition.Learnt s policy l.dependencies entry.2 :=
    h.learnt.goesOn (Entry.goesOn_normalize (.refl _) root)
  have hwell : entry.1.WellKeyed := Entry.wellKeyed_normalize m headers h.learnt.reading.faithful hr
  have hnormal : Entry.Normal m entry.1 := Entry.normal_normalize hm.urls headers l.fetcher hr.nodup
  unfold beforeInheritance
  rw [h.model]
  cases composing with
  | false => exact ⟨entry.1, entry.2, rfl, hlearnt.reading, hwell, hnormal⟩
  | true =>
    have hdocument : Value.WellKeyed (.mapping entry.1) := hwell
    exact ⟨_, _, rfl, (hlearnt.compose hs m headers location _).reading,
      hlearnt.wellKeyed_compose hs m headers location hdocument,
      hnormal.compose headers location l.dependencies entry.2⟩

/-- A processed document is processed into itself. -/
lemma process_again (hs : s.Stable) (hm : m.Orderly) (h : HasLearnt m s policy l) {again : Loader}
    (ha : HasLearnt m s policy again) (hr : root.WellKeyed)
    (hplain : InheritsPlainly m (.mapping (l.beforeInheritance location root headers composing)))
    {document : Value}
    (hresult : (l.process location (.mapping root) headers {} composing).1 = .ok document)
    (location' : String) (headers' : Headers) :
    (again.process location' document headers' {} false).1 = .ok document := by
  obtain ⟨whole, hcomplete, rfl⟩ := complete_of_process hresult
  obtain ⟨composed, f, hbefore, hf, hk, hn⟩ :=
    exists_composed hs hm h hr location headers composing
  have hpopulated : Fields.WellKeyed (populateAll m headers composed f).1 :=
    ((adds_populateAll m headers composed f hf.faithful).1 hk).1
  have hcomputed := (computes_populateAll hs m headers composed f hf).1
  rw [hbefore, hcomputed] at hplain hcomplete
  rw [h.model] at hcomplete
  obtain ⟨hnormal, hpayloads, hbases, hdefaults⟩ :=
    settled_again hm hn (hcomputed ▸ hpopulated) hplain hcomplete
  have hagain := (computes_populateAll hs m headers' whole again.fetcher ha.learnt.reading).1
  have hfilters : ∀ fields : Fields, applyFilters {} fields = fields := fun _ => rfl
  rw [hfilters]
  unfold process
  dsimp only
  rw [ha.model, hnormal.normalize, if_neg (by decide)]
  unfold settle
  dsimp only
  rw [hagain, hpayloads, hbases, hdefaults]
  exact congrArg (fun fields => Except.ok (Value.mapping fields)) (hfilters whole)

end stable

/-- **A loaded document is loaded as it is.** Over a stable source, take a document that a load without
filters gives, composed or not. If every base that a message names on the way is a message or nothing,
and no message that takes part has versions, then processing the document again gives it back, the
order of its keys included, whatever the loader was used for before. -/
theorem load_again {s : Source} (hs : s.Stable) (policy : ParsePolicy) (uses : List Use)
    (location : String) (headers : Headers) (composing : Bool) {found : String} {document : Value} :
    let l := (start Model.standard s policy).run uses
    let fetched := l.fetcher.fetch location headers .once
    (if composing then l.loadWithDependencies location headers {}
      else l.load location headers {}).1 = .ok (found, some document) →
    (∀ root, fetched.1 = (found, some (.mapping root)) →
      InheritsPlainly Model.standard (.mapping
        (beforeInheritance { l with fetcher := fetched.2 } found root headers composing))) →
    ∀ uses' location' headers',
      (((start Model.standard s policy).run uses').process location' document headers' {} false).1 =
        .ok document := by
  intro l fetched hresult hplain uses' location' headers'
  have hlearnt : HasLearnt Model.standard s policy l :=
    (HasLearnt.start Model.standard s policy).run hs uses
  have hfetched := hlearnt.fetch location headers .once
  have hagain : HasLearnt Model.standard s policy ((start Model.standard s policy).run uses') :=
    (HasLearnt.start Model.standard s policy).run hs uses'
  have hloaded : (l.loadOne location headers {} composing).1 = .ok (found, some document) := by
    cases composing <;> exact hresult
  obtain ⟨root, hread, hprocessed⟩ := process_of_loadOne rfl hloaded
  exact process_again hs Model.orderly_standard hfetched hagain
    (wellKeyed_of_fetch_once hlearnt.learnt.reading.faithful _ _ _ _ hread) (hplain root hread)
    hprocessed location' headers'

/-- A message that takes over from another one a payload which cannot be read. -/
def unread : Source := .ofDocuments [("http://h/r", ⟨"http://h/r", "\x7b\"messagegroups\": \x7b\"g\":
  \x7b\"messages\": \x7b\"a\": \x7b\"basemessageurl\": \"#/messagegroups/g/messages/b\"\x7d,
    \"b\": \x7b\"messageurl\": \"http://h/gone\"\x7d\x7d\x7d\x7d\x7d", []⟩)]

theorem load_again_unread :
    let location := "http://h/r"
    let document : Value := .mapping [("messagegroups", .mapping [("g", .mapping [
      ("messages", .mapping [
        ("a", .mapping [("messageurl", .string "http://h/gone"), ("messageid", .string "a")]),
        ("b", .mapping [("messageurl", .string "http://h/gone"), ("messageid", .string "b")])]),
      ("messagegroupid", .string "g")])])]
    let l := start Model.standard unread .strict
    unread.Stable ∧ (l.load location [] {}).1 = .ok (location, some document) ∧
      (l.process location document [] {} false).1 = .ok document := by
  intro location document l
  have hs : unread.Stable := Source.stable_ofDocuments _
  have hload : (l.load location [] {}).1 = .ok (location, some document) := by decide +kernel
  let root : Fields := [("messagegroups", .mapping [("g", .mapping [("messages", .mapping [
    ("a", .mapping [("basemessageurl", .string "#/messagegroups/g/messages/b")]),
    ("b", .mapping [("messageurl", .string "http://h/gone")])])])])]
  have hread : (l.fetcher.fetch location [] .once).1 = (location, some (.mapping root)) := by
    decide +kernel
  have hbefore : beforeInheritance { l with fetcher := (l.fetcher.fetch location [] .once).2 } location
      root [] false = root := by decide +kernel
  have hresult : (if (false : Bool) then l.loadWithDependencies location [] {}
      else l.load location [] {}).1 = .ok (location, some document) := by
    rw [if_neg (by decide)]
    exact hload
  refine ⟨hs, hload, load_again hs .strict [] location [] false hresult (fun root' hroot => ?_) []
    location []⟩
  obtain rfl : root = root' :=
    Value.mapping.inj (Option.some.inj (Prod.mk.inj (hread.symm.trans hroot)).2)
  have hroot : Value.WellKeyed (.mapping root) := by
    simp [root, Value.WellKeyed, Value.WellKeyedFields]
  have hplain : InheritsPlainly Model.standard (.mapping root) :=
    (inheritsPlainly_iff hroot).2 (by decide +kernel)
  exact hbefore.symm ▸ hplain

end Loader

end Registry
