import Registry.Proofs.FetcherDelivery
import Registry.Proofs.Growth
import Registry.Proofs.InheritanceCycles
import Registry.Proofs.LoaderHistory
import Registry.Proofs.LonePlaces

/-!
# Inheritance from a URL

A message may name its base by a URL. The document of the URL is composed with the entry and has
nothing but its place to be found by, so what the message takes over depends on whether the pointer
that the URL spells leads there.
-/

namespace Registry

open Value (Grows)

namespace Inheritance

variable {m : Model} {document : Value} {p : Place} {own base : Fields} {tokens : List String}

/-- A message names by a pointer a mapping elsewhere that has neither versions nor a base. -/
structure TakesFrom (m : Model) (document : Value) (p : Place) (own : Fields)
    (tokens : List String) (base : Fields) : Prop where
  message : MessageAt m document p own
  pointer : (own.textAt? baseAttribute).bind (basePointer? m document) =
    some (Pointer.ofTokens tokens)
  leads : document.under tokens = some (.mapping base)
  nonempty : tokens ≠ []
  elsewhere : tokens ≠ p.tokens
  versionless : base.get? "versions" = none
  baseless : base.get? baseAttribute = none

namespace TakesFrom

lemma get?_bases (hd : document.WellKeyed) (h : TakesFrom m document p own tokens base) :
    (lineage m document).bases.get? p.pointer = some (Pointer.ofTokens tokens) :=
  (Inheritance.get?_bases hd h.message).trans h.pointer

lemma message_base (hd : document.WellKeyed) (h : TakesFrom m document p own tokens base)
    (hhas : (lineage m document).messages.has (Pointer.ofTokens tokens) = true) :
    ∃ q : Place, q.pointer = Pointer.ofTokens tokens ∧ MessageAt m document q base := by
  obtain ⟨⟨pointer, other⟩, he, rfl⟩ := List.mem_map.1 ((Table.has_iff_mem_keys _ _).1 hhas)
  obtain ⟨q, other, hq, heq⟩ := (mem_messages hd).1 he
  rw [Prod.mk.injEq] at heq
  have htokens : q.tokens = tokens := Pointer.ofTokens_injective heq.1.symm
  exact ⟨q, heq.1.symm, hq.1, htokens ▸ h.leads⟩

lemma not_isCyclic (hd : document.WellKeyed) (h : TakesFrom m document p own tokens base) :
    (lineage m document).isCyclic p.pointer = false := by
  by_contra hc
  have hcycle := Lineage.isCyclic_iff.1 (by simpa using hc)
  -- The way back would go on from the base, which names none.
  obtain ⟨next, hnext, hback⟩ := Relation.TransGen.head'_iff.1 hcycle
  obtain ⟨hbase, hhas⟩ := Lineage.parent?_eq_some.1 hnext
  rw [h.get?_bases hd, Option.some.injEq] at hbase
  subst hbase
  obtain ⟨q, hq, hmessage⟩ := h.message_base hd hhas
  have hnone := get?_bases_of_get?_base hd hmessage h.baseless
  rw [← hq] at hback
  rcases Relation.reflTransGen_iff_eq_or_transGen.1 hback with heq | htrans
  · exact h.elsewhere (Pointer.ofTokens_injective (hq.symm.trans heq.symm))
  · obtain ⟨other, hother, -⟩ := Relation.TransGen.head'_iff.1 htrans
    have hsome := (Lineage.parent?_eq_some.1 hother).1
    rw [hnone] at hsome
    cases hsome

/-- The message takes over all of the base but its id. -/
theorem resolved (hd : document.WellKeyed) (h : TakesFrom m document p own tokens base) :
    (lineage m document).resolved p.pointer =
      (own.merge (base.swapErase idAttribute)).swapErase baseAttribute := by
  have hplain : base.swapErase baseAttribute = base :=
    Table.swapErase_of_not_mem (Table.get?_eq_none_iff.1 h.baseless)
  have htaken : (lineage m document).taken? (lineage m document).resolved p.pointer =
      some (base.swapErase idAttribute) := by
    have hfound : (if (lineage m document).messages.has (Pointer.ofTokens tokens) then
        some (.mapping ((lineage m document).resolved (Pointer.ofTokens tokens)))
          else (lineage m document).document.lookup (Pointer.ofTokens tokens)) =
        some (.mapping base) := by
      by_cases hhas : (lineage m document).messages.has (Pointer.ofTokens tokens) = true
      · obtain ⟨q, hq, hmessage⟩ := h.message_base hd hhas
        rw [if_pos hhas, ← hq, resolved_of_get?_base hd hmessage h.baseless]
      · rw [if_neg hhas]
        exact (Value.lookup_ofTokens document h.nonempty).trans (Value.at?_of_under h.leads)
    rw [Lineage.taken?, h.not_isCyclic hd, if_neg (by decide), h.get?_bases hd, Option.bind_some,
      hfound, Option.bind_some, inheritable_mapping h.versionless, hplain]
  rw [Lineage.resolved_eq (has_lineage hd h.message), htaken, own_lineage hd h.message]
  rfl

end TakesFrom

/-- A message has all that a base has but the id. Where neither it nor a payload was before, it has
what the base has, perhaps with more in it. -/
def CarriesOver (m : Model) (own base full : Fields) : Prop :=
  ∀ key v, base.get? key = some v → key ≠ idAttribute → ∃ w, full.get? key = some w ∧
    (own.get? key = none → ¬Payload.NamesSingle m key → Grows Defaults.Anything v w)

/-- What a message takes over is there whatever is added before and after. -/
lemma carriesOver {own' base' full : Fields} (hbaseless : base.get? baseAttribute = none)
    (hown' : own'.WellKeyed) (hbase' : base'.WellKeyed)
    (hown : Grows (Payload.NamesSingle m) (.mapping own) (.mapping own'))
    (hbase : Grows (Payload.NamesSingle m) (.mapping base) (.mapping base'))
    (hfull : Grows Defaults.Anything
      (.mapping ((own'.merge (base'.swapErase idAttribute)).swapErase baseAttribute))
      (.mapping full)) : CarriesOver m own base full := by
  intro key v hv hid
  have hkey : key ≠ baseAttribute := by
    rintro rfl
    rw [hbaseless] at hv
    cases hv
  have herased := hbase'.swapErase idAttribute
  obtain ⟨v', hv', hgrows⟩ := hbase.get? hv
  have htaken : ∃ x, Table.get? ((own'.merge (base'.swapErase idAttribute)).swapErase
      baseAttribute) key = some x ∧ (own'.get? key = none → x = v') := by
    rw [Table.get?_swapErase (hown'.merge herased).nodup, if_neg hkey, Fields.get?_merge,
      Table.get?_swapErase hbase'.nodup, if_neg hid, hv']
    cases own'.get? key with
    | none => exact ⟨v', rfl, fun _ => rfl⟩
    | some o => exact ⟨o.merge v', rfl, fun h => by cases h⟩
  obtain ⟨x, hx, hx'⟩ := htaken
  obtain ⟨w, hw, hmore⟩ := hfull.get? hx
  refine ⟨w, hw, fun hnone hsingle => ?_⟩
  rw [hx' (hown.get?_eq_none hsingle hnone)] at hmore
  exact (hgrows.mono fun _ _ => trivial).trans hmore

section composed

open Registry.Composition

variable {headers : Headers} {f : Fetcher} {root : Fields} {u : String}

/-- A document has a message, and at the place of the URL that it names as its base a mapping that
has neither versions nor a base. -/
structure Composed (m : Model) (root : Fields) (p : Place) (own : Fields) (u : String)
    (base : Fields) : Prop where
  message : MessageAt m (.mapping root) p own
  names : own.textAt? baseAttribute = some u
  leads : (Value.mapping root).under (Address.inModel m u).inner = some (.mapping base)
  elsewhere : (Address.inModel m u).inner ≠ p.tokens
  versionless : base.get? "versions" = none
  baseless : base.get? baseAttribute = none

/-- Payloads are put neither where versions are nor where a base is named. -/
structure Separate (m : Model) : Prop where
  versions : ¬Payload.NamesSingle m "versions"
  base : ¬Payload.NamesSingle m baseAttribute

namespace Composed

lemma takesFrom (hu : NamesResource m u) (hs : SpelledOut m u)
    (h : Composed m root p own u base) :
    TakesFrom m (.mapping root) p own (Address.inModel m u).inner base where
  message := h.message
  pointer := by
    rw [h.names, Option.bind_some]
    exact basePointer?_of_spelledOut m _ hu.plain hu.trimmed hu.inner_ne_nil hs
  leads := h.leads
  nonempty := hu.inner_ne_nil
  elsewhere := h.elsewhere
  versionless := h.versionless
  baseless := h.baseless

lemma populated (hm : Separate m) (h : Composed m root p own u base) {root' : Fields}
    (hgrows : Grows (Payload.NamesSingle m) (.mapping root) (.mapping root')) :
    ∃ own' base' : Fields, Composed m root' p own' u base' ∧
      Grows (Payload.NamesSingle m) (.mapping own) (.mapping own') ∧
      Grows (Payload.NamesSingle m) (.mapping base) (.mapping base') := by
  obtain ⟨own', hown', hown⟩ := hgrows.under_mapping h.message.2
  obtain ⟨base', hbase', hbase⟩ := hgrows.under_mapping h.leads
  refine ⟨own', base', ?_, hown, hbase⟩
  constructor
  case message => exact ⟨h.message.1, hown'⟩
  case names =>
    have hentry : (Value.mapping own).under [baseAttribute] = some (.string u) := by
      rw [Value.under_mapping_cons, Fields.textAt?_eq_some.1 h.names]
      rfl
    have hentry' := hown.others _ _ hentry rfl
    rw [Value.under_mapping_cons] at hentry'
    obtain ⟨v, hv, hu⟩ := Option.bind_eq_some_iff.1 hentry'
    exact Fields.textAt?_eq_some.2 (hv.trans hu)
  case leads => exact hbase'
  case elsewhere => exact h.elsewhere
  case versionless => exact hbase.get?_eq_none hm.versions h.versionless
  case baseless => exact hbase.get?_eq_none hm.base h.baseless

/-- What follows a composition gives the message all of its base, unless it ends with a fault. -/
theorem settled (hu : NamesResource m u) (hs : SpelledOut m u) (hm : Separate m)
    (hf : f.Faithful) (hr : root.WellKeyed) (h : Composed m root p own u base) {whole : Fields}
    (hw : (Loader.settle m headers root f).1 = .ok whole) :
    ∃ full, MessageAt m (.mapping whole) p full ∧ CarriesOver m own base full := by
  obtain ⟨hpopulated, -⟩ := Payload.adds_populateAll m headers root f hf
  obtain ⟨hwell, hgrows⟩ := hpopulated hr
  unfold Loader.settle at hw
  dsimp only at hw
  generalize (Payload.populateAll m headers root f).1 = root' at hwell hgrows hw
  obtain ⟨own', base', h', hown, hbase⟩ := h.populated hm hgrows
  have htaken := h'.takesFrom hu hs
  have hinherited := h'.message.inherit hwell (htaken.resolved hwell)
  have hdocument : Value.WellKeyed (.mapping root') := hwell
  have hcompleted := (Defaults.addsUpTo_complete m (inherit m root')
    (wellKeyed_inherit hdocument m)).2
  have hwhole : (Defaults.complete m (inherit m root')).1 = whole := by
    split at hw
    · next heq =>
      rw [heq]
      exact Except.ok.inj hw
    · cases hw
  rw [hwhole] at hcompleted
  obtain ⟨full, hfull, hmore⟩ := hcompleted.under_mapping hinherited.2
  refine ⟨full, ⟨h.message.1, hfull⟩, ?_⟩
  exact carriesOver h.baseless (h'.message.wellKeyed hwell) (Value.wellKeyed_at? hwell
    (Value.at?_of_under h'.leads)) hown hbase hmore

end Composed

/-- What a location loads as is not put at a path. -/
def Spares (m : Model) (load : String → CachedRead) (v : String) (path : List String) : Prop :=
  ∀ document, (load v).document = some document →
    (Value.mapping (embed m (Address.inModel m v) document)).under path = none

/-- A message of an entry names as its base a document at a URL where nothing else is put. -/
structure NamesLone (m : Model) (load : String → CachedRead) (found : String) (seeded : Fields)
    (reached : List String) (p : Place) (own : Fields) (u : String) (base : Fields) : Prop where
  message : MessageAt m (.mapping seeded) p own
  names : own.textAt? baseAttribute = some u
  elsewhere : u ≠ Location.stripFragment found
  loads : (load u).document = some (.mapping base)
  versionless : base.get? "versions" = none
  baseless : base.get? baseAttribute = none
  free : (Value.mapping seeded).under (Address.inModel m u).inner = none
  alone : ∀ v ∈ reached, v ≠ u → Spares m load v (Address.inModel m u).inner

/-- The composition finds the base by its URL and has it at its place. The message is as it was if
nothing is put there. -/
theorem NamesLone.composed {s : Source} (hs : s.Stable) (hb : s.Bounded) {policy : ParsePolicy}
    {d : Dependencies} (hl : Learnt s policy d f) (hu : NamesResource m u)
    (hcandidate : Discovery.isCandidate m u = true) {found : String} {entry : Value} (he : entry.WellKeyed)
    (h : NamesLone m (s.load policy) found (seed m (Address.inModel m found) entry)
      (compose m headers found entry d f).2.1.reached p own u base) :
    (compose m headers found entry d f).1.WellKeyed ∧
      ∃ own', Composed m (compose m headers found entry d f).1 p own' u base ∧
        own.keys <+: own'.keys ∧
        ((∀ v ∈ (compose m headers found entry d f).2.1.reached,
          Spares m (s.load policy) v p.tokens) → own' = own) := by
  obtain ⟨documents, hkeys, hnodup, hdocuments, hcomposed, hroots⟩ :=
    hl.compose_merges hs hb m headers found he
  have hwell : ∀ e ∈ documents, e.2.WellKeyed := fun e hm => (hdocuments e hm).2
  have hseeded := wellKeyed_seed m (Address.inModel m found) he
  have hreference : u ∈ Discovery.references m (.mapping (seed m (Address.inModel m found) entry)) :=
    Discovery.mem_references h.message.2 (Fields.textAt?_eq_some.1 h.names) (by decide) hcandidate
  have habsent : isPresent m (seed m (Address.inModel m found) entry) u = false := by
    rw [hu.isPresent_eq, h.free]
    rfl
  have hbase : (u, .mapping base) ∈ documents := by
    refine hroots u (mem_roots.2 ?_) _ h.loads
    exact ⟨u, hreference, hu.locate?_eq _, h.elsewhere, habsent⟩
  have hleads := hu.under_foldl_settle hnodup hwell hseeded hbase h.free fun e hm hne =>
    h.alone e.1 (hkeys ▸ Table.mem_keys_of_mem hm) hne e.2 (hdocuments e hm).1
  have hlength : p.tokens.length = 4 := rfl
  obtain ⟨own', hown', hprefix, hkept⟩ :=
    exists_under_foldl_settle m documents hlength h.message.2
  rw [hcomposed]
  have hsame : (∀ v ∈ (compose m headers found entry d f).2.1.reached,
      Spares m (s.load policy) v p.tokens) → own' = own := by
    intro hspares
    have hstays := under_foldl_settle_of_none (seed m (Address.inModel m found) entry)
      fun e hm => hspares e.1 (hkeys ▸ Table.mem_keys_of_mem hm) e.2 (hdocuments e hm).1
    rw [hown', h.message.2] at hstays
    exact Value.mapping.inj (Option.some.inj hstays)
  refine ⟨wellKeyed_foldl_settle hwell hseeded, own', ?_, hprefix, hsame⟩
  constructor
  case message => exact ⟨h.message.1, hown'⟩
  case names =>
    exact Fields.textAt?_eq_some.2 (hkept _ _ (Fields.textAt?_eq_some.1 h.names) rfl (by decide))
  case leads => exact hleads
  case elsewhere =>
    intro hplace
    have hfree := h.free
    rw [hplace, h.message.2] at hfree
    cases hfree
  case versionless => exact h.versionless
  case baseless => exact h.baseless

end composed

end Inheritance

namespace Loader

variable {root : Fields} {key id : String} {rest : List String} {v : Value}

lemma get?_filter_keys {α : Type} (keep : String → Bool) (t : Table α) (key : String) :
    Table.get? (t.filter fun e => keep e.1) key = if keep key then t.get? key else none := by
  induction t with
  | nil => simp
  | cons e t ih =>
    obtain ⟨k, w⟩ := e
    rw [List.filter_cons, Table.get?_cons]
    by_cases hk : k = key
    · subst hk
      cases hkeep : keep k <;> simp [hkeep, ih, Table.get?_cons]
    · cases hkeep : keep k <;> simp [ih, Table.get?_cons, hk]

lemma under_keepGroups {collection : String} {part : Option String}
    (h : (Value.mapping (keepGroups collection part root)).under (key :: id :: rest) = some v) :
    (Value.mapping root).under (key :: id :: rest) = some v := by
  unfold keepGroups at h
  split at h
  · next part groups hgroups =>
    rw [Value.under_mapping_cons, Table.get?_insert] at h
    rw [Value.under_mapping_cons]
    by_cases hk : collection = key
    · subst hk
      rw [if_pos rfl, Option.bind_some, Value.under_mapping_cons,
        get?_filter_keys (fun id => Text.contains id part)] at h
      rw [hgroups, Option.bind_some, Value.under_mapping_cons]
      split at h
      · exact h
      · cases h
    · rwa [if_neg hk] at h
  · exact h

/-- What the filters of a load leave is as it was. -/
lemma under_applyFilters {options : LoadOptions}
    (h : (Value.mapping (applyFilters options root)).under (key :: id :: rest) = some v) :
    (Value.mapping root).under (key :: id :: rest) = some v :=
  under_keepGroups (under_keepGroups h)

/-- Only completing the defaults can end what follows a composition with a fault. -/
lemma fault_of_settle {m : Model} {headers : Headers} {f : Fetcher} {fault : Fault}
    (h : (settle m headers root f).1 = .error fault) :
    (Defaults.complete m (Inheritance.inherit m (Payload.populateAll m headers root f).1)).2 =
      some fault := by
  unfold settle at h
  dsimp only at h
  split at h
  · cases h
  · next heq =>
    rw [heq]
    exact congrArg some (Except.error.inj h)

lemma loadWithDependencies_eq {l : Loader} {location found : String} {headers : Headers}
    {options : LoadOptions}
    (hfetched : (l.fetcher.fetch location headers .once).1 = (found, some (.mapping root)))
    (hoptions : options.schemaStyle = false) :
    let entry := Entry.normalize l.model headers root (l.fetcher.fetch location headers .once).2
    let composition :=
      Composition.compose l.model headers found (.mapping entry.1) l.dependencies entry.2
    (l.loadWithDependencies location headers options).1 =
      (settle l.model headers composition.1 composition.2.2).1.map fun whole =>
        (found, some (.mapping (applyFilters options whole))) := by
  unfold loadWithDependencies loadOne
  generalize l.fetcher.fetch location headers .once = fetched at hfetched ⊢
  obtain ⟨⟨found', document⟩, f⟩ := fetched
  obtain ⟨rfl, rfl⟩ := Prod.mk.inj hfetched
  intro entry composition
  dsimp only
  rw [if_neg (by simp [hoptions])]
  unfold process
  dsimp only
  rw [if_pos rfl]
  cases (settle l.model headers composition.1 composition.2.2).1 <;> rfl

end Loader

open Registry.Composition Inheritance Loader in
/-- The document of a resource's URL is put where the segments of the URL say, over what is there, and
nothing apart from that place changes. The pointer that a message spells by the URL leads to that
place if and only if the URL is spelled out without escapes. If it is, then in every run over a stable
source a load gives a message that names the URL all that the document there has but its id, as long
as the document stands for itself and has its place for itself, unless the defaults cannot be
completed. -/
theorem message_url_agrees (m : Model) {u : String} (hu : NamesResource m u) :
    let place := (Address.inModel m u).inner
    (∀ (composed : Fields) (document : Value),
      (Value.mapping (mergeAtLocation m composed u document)).under place =
          some (mergedOver ((Value.mapping composed).under place) document) ∧
        ∀ q, ¬q <+: place → ¬place <+: q →
          (Value.mapping (mergeAtLocation m composed u document)).under q =
            (Value.mapping composed).under q) ∧
    (∀ document, (∃ pointer, basePointer? m document u = some pointer ∧
      Value.fragmentTokens? pointer = some place) ↔ SpelledOut m u) ∧
    (SpelledOut m u → Discovery.isCandidate m u = true → Separate m →
      ∀ s : Source, s.Stable → s.Bounded →
      ∀ (policy : ParsePolicy) (uses : List Loader.Use) (location : String) (headers : Headers)
        (options : LoadOptions) (found : String) (root : Fields),
      let l := (Loader.start m s policy).run uses
      let entry := Entry.normalize m headers root (l.fetcher.fetch location headers .once).2
      let seeded := seed m (Address.inModel m found) (.mapping entry.1)
      let composition := compose m headers found (.mapping entry.1) l.dependencies entry.2
      (l.fetcher.fetch location headers .once).1 = (found, some (.mapping root)) →
      options.schemaStyle = false →
      ∀ (p : Inheritance.Place) (own base : Fields),
      NamesLone m (s.load policy) found seeded composition.2.1.reached p own u base →
      let result := (l.loadWithDependencies location headers options).1
      let populated := (Payload.populateAll m headers composition.1 composition.2.2).1
      (∃ fault, result = .error fault ∧
        (Defaults.complete m (inherit m populated)).2 = some fault) ∨
        ∃ whole own' full : Fields,
          result = .ok (found, some (.mapping (applyFilters options whole))) ∧
          MessageAt m (.mapping composition.1) p own' ∧ own.keys <+: own'.keys ∧
          ((∀ v ∈ composition.2.1.reached, Spares m (s.load policy) v p.tokens) → own' = own) ∧
          MessageAt m (.mapping whole) p full ∧ CarriesOver m own' base full ∧
          ∀ v, (Value.mapping (applyFilters options whole)).under p.tokens = some v →
            v = .mapping full) := by
  intro place
  refine ⟨hu.under_mergeAtLocation, fun document =>
    basePointer?_leads_iff m document hu.plain hu.trimmed hu.inner_ne_nil, ?_⟩
  intro hs hcandidate hm s hstable hbounded policy uses location headers options found root l entry
    seeded composition hfetched hoptions p own base hlone result populated
  have hl : HasLearnt m s policy l := (HasLearnt.start m s policy).run hstable uses
  have hf : l.fetcher.Faithful := hl.learnt.reading.faithful
  have hroot : root.WellKeyed := by
    have hreuse := (Fetcher.fetch_once_eq_some_iff.1 hfetched).1
    exact Fetcher.wellKeyed_of_fetch hf (congrArg Prod.snd hreuse)
  have hentry : entry.1.WellKeyed :=
    Entry.wellKeyed_normalize m headers (hf.fetch location headers .once) hroot
  have hlearnt : Learnt s policy l.dependencies entry.2 :=
    hl.learnt.goesOn (Entry.goesOn_normalize ((Fetcher.GoesOn.refl _).fetch location headers .once)
      root)
  obtain ⟨hwell, own', hcomposed, hprefix, hsame⟩ :=
    hlone.composed hstable hbounded hlearnt hu hcandidate hentry
  have hfaithful : composition.2.2.Faithful :=
    (hlearnt.compose hstable m headers found (.mapping entry.1)).reading.faithful
  have hresult : result = (settle m headers composition.1 composition.2.2).1.map fun whole =>
      (found, some (.mapping (applyFilters options whole))) := by
    have hload := loadWithDependencies_eq hfetched hoptions
    rw [hl.model] at hload
    exact hload
  cases hsettled : (settle m headers composition.1 composition.2.2).1 with
  | error fault =>
    rw [hsettled] at hresult
    exact .inl ⟨fault, hresult, fault_of_settle hsettled⟩
  | ok whole =>
    rw [hsettled] at hresult
    obtain ⟨full, hfull, hcarries⟩ := hcomposed.settled hu hs hm hfaithful hwell hsettled
    refine .inr ⟨whole, own', full, hresult, hcomposed.message, hprefix, hsame, hfull, hcarries,
      ?_⟩
    intro v hv
    exact Option.some.inj ((under_applyFilters hv).symm.trans hfull.2)

/-- An entry with a message that names another registry's one. -/
def lent : Source := .ofDocuments [
  ("http://h/", ⟨"http://h/", "\x7b\"messagegroups\": \x7b\"g\": \x7b\"messages\": \x7b\"m\": \x7b
    \"basemessageurl\": \"http://k/messagegroups/g/messages/b\"\x7d\x7d\x7d\x7d\x7d", []⟩),
  ("http://k/messagegroups/g/messages/b",
    ⟨"http://k/messagegroups/g/messages/b", "\x7b\"protocol\": \"AMQP\"\x7d", []⟩)]

open Registry.Composition Inheritance Loader in
theorem message_url_agrees_lent :
    let m := Model.standard
    let u := "http://k/messagegroups/g/messages/b"
    let place := ["messagegroups", "g", "messages", "b"]
    let l := Loader.start m lent .strict
    let p : Inheritance.Place := ⟨"messagegroups", "g", "m"⟩
    let result := (l.loadWithDependencies "http://h/" [] {}).1
    lent.Stable ∧ lent.Bounded ∧
      (Value.mapping (mergeAtLocation m [] u .null)).under place = some .null ∧
      (∃ pointer, basePointer? m .null u = some pointer ∧
        Value.fragmentTokens? pointer = some place) ∧
      ((∃ fault, result = .error fault) ∨
        ∃ whole full : Fields, result = .ok ("http://h/", some (.mapping whole)) ∧
          MessageAt m (.mapping whole) p full ∧
          full.get? "protocol" = some (.string "AMQP")) := by
  intro m u place l p result
  let message : Fields := [("basemessageurl", .string u)]
  let base : Fields := [("protocol", .string "AMQP")]
  let root : Fields := [("messagegroups", .mapping [("g", .mapping [("messages", .mapping [
    ("m", .mapping message)])])])]
  have hs : lent.Stable := Source.stable_ofDocuments _
  have hb : lent.Bounded := Source.bounded_ofDocuments _
  have hplace : (Address.inModel m u).inner = place := by decide +kernel
  have hu : NamesResource m u :=
    ⟨by decide, by decide +kernel, by decide +kernel, "messages", by decide +kernel, by decide⟩
  have hspelled : SpelledOut m u := by decide +kernel
  have hseparate : Separate m := by
    constructor <;> simp [Payload.NamesSingle, m, Model.standard, Model.message, baseAttribute]
  have hcandidate : Discovery.isCandidate m u = true := by decide +kernel
  let f := (l.fetcher.fetch "http://h/" [] .once).2
  have hfetched : (l.fetcher.fetch "http://h/" [] .once).1 = ("http://h/", some (.mapping root)) := by
    decide +kernel
  have hentry : (Entry.normalize m [] root f).1 = root := by decide +kernel
  have hseeded : seed m (Address.inModel m "http://h/") (.mapping root) = root := by decide +kernel
  have hlearnt : Learnt lent .strict l.dependencies (Entry.normalize m [] root f).2 :=
    (HasLearnt.start m lent .strict).learnt.goesOn
      (Entry.goesOn_normalize ((Fetcher.GoesOn.refl _).fetch "http://h/" [] .once) root)
  have hreached : (compose m [] "http://h/" (.mapping root) l.dependencies
      (Entry.normalize m [] root f).2).2.1.reached = [u] := by
    have hroots : roots m "http://h/" (seed m (Address.inModel m "http://h/") (.mapping root)) =
        [u] := by
      decide +kernel
    have hnext : successors m (lent.load .strict) [] u = some [] := by decide +kernel
    have htour : Tour (successors m (lent.load .strict) [])
        (roots m "http://h/" (seed m (Address.inModel m "http://h/") (.mapping root))) [] [u] := by
      rw [hroots]
      exact .enter List.not_mem_nil hnext .done
    exact (hlearnt.compose_along_tour hs [] htour (by decide)).1
  have hlone : NamesLone m (lent.load .strict) "http://h/"
      (seed m (Address.inModel m "http://h/") (.mapping (Entry.normalize m [] root f).1))
      (compose m [] "http://h/" (.mapping (Entry.normalize m [] root f).1)
        l.dependencies (Entry.normalize m [] root f).2).2.1.reached p message u
      base := by
    rw [hentry, hseeded, hreached]
    constructor
    case message => exact ⟨by decide, by decide⟩
    case names => rfl
    case elsewhere => decide +kernel
    case loads => decide +kernel
    case versionless => rfl
    case baseless => decide
    case free => decide +kernel
    case alone =>
      intro v hv hne
      exact absurd (List.mem_singleton.1 hv) hne
  obtain ⟨hmerge, hpointer, hload⟩ := message_url_agrees m hu
  have hresult := hload hspelled hcandidate hseparate lent hs hb .strict [] "http://h/" [] {}
    "http://h/" root hfetched rfl p message base hlone
  rw [hplace] at hmerge hpointer
  refine ⟨hs, hb, (hmerge [] .null).1, (hpointer .null).2 hspelled, hresult.imp ?_ ?_⟩
  · rintro ⟨fault, hfault, -⟩
    exact ⟨fault, hfault⟩
  rintro ⟨whole, own', full, hok, -, -, hsame, hfull, hcarries, -⟩
  obtain ⟨w, hw, hgrows⟩ := hcarries "protocol" (.string "AMQP") (by decide) (by decide)
  have hspares : Spares m (lent.load .strict) u p.tokens := by
    intro document hd
    have hbase : (lent.load .strict u).document = some (.mapping base) := by decide +kernel
    rw [← Option.some.inj (hbase.symm.trans hd)]
    decide +kernel
  rw [hsame fun v hv => List.mem_singleton.1 (hreached ▸ hentry ▸ hv) ▸ hspares] at hgrows
  have hsingle : ¬Payload.NamesSingle m "protocol" := by
    simp [Payload.NamesSingle, m, Model.standard, Model.message]
  have hvalue := (hgrows (by decide) hsingle).others [] _ rfl rfl
  exact ⟨whole, full, hok, hfull, hw.trans hvalue⟩

open Registry.Composition Inheritance in
/-- A URL with an escaped blank: its document is put under the escaped name, and looked for under the
other one, so the message that names it takes over nothing. -/
theorem message_url_escaped :
    let m := Model.standard
    let u := "http://k/messagegroups/g/messages/b%20c"
    let base : Value := .mapping [("protocol", .string "AMQP")]
    let entry : Fields := [("messagegroups", .mapping [("g", .mapping [("messages", .mapping [
      ("m", .mapping [("basemessageurl", .string u)])])])])]
    let composed := mergeAtLocation m entry u base
    NamesResource m u ∧ ¬SpelledOut m u ∧
      (Value.mapping composed).under ["messagegroups", "g", "messages", "b%20c"] = some base ∧
      basePointer? m (.mapping composed) u = some "/messagegroups/g/messages/b c" ∧
      (Value.mapping composed).lookup "/messagegroups/g/messages/b c" = none ∧
      (Value.mapping (inherit m composed)).under ["messagegroups", "g", "messages", "m"] =
        some (.mapping []) := by
  intro m u base entry composed
  have hu : NamesResource m u :=
    ⟨by decide, by decide +kernel, by decide +kernel, "messages", by decide +kernel, by decide⟩
  exact ⟨hu, by decide +kernel, by decide +kernel, by decide +kernel, by decide +kernel,
    by decide +kernel⟩

end Registry
