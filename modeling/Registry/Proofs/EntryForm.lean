import Registry.Proofs.FetcherDelivery
import Registry.Proofs.LoaderHistory
import Registry.Proofs.Stacking

/-!
# The form of an entry

Normalizing brings a document into a form that it is left in: no collection is given by URL alone, and
what stands alone as a group is under its id. A stack of documents in this form is in it, so a stack
of one document is loaded as the document is.
-/

namespace Registry

open Fetcher

/-- No group collection has the name under which another one is given by URL. -/
def Model.UrlKeysApart (m : Model) : Prop :=
  ∀ g ∈ m.groups, ∀ g' ∈ m.groups, g.plural ≠ g'.plural ++ "url"

instance (m : Model) : Decidable m.UrlKeysApart :=
  inferInstanceAs (Decidable (∀ g ∈ m.groups, ∀ g' ∈ m.groups, g.plural ≠ g'.plural ++ "url"))

namespace Entry

variable {m : Model} {headers : Headers} {type other : GroupType} {root : Fields} {f : Fetcher}
  {key : String}

/-- Nothing is left to be read for a group collection: the document has it, or gives no URL for it. -/
def Inlined (root : Fields) (type : GroupType) : Prop :=
  type.plural ∈ root.keys ∨ root.textAt? (type.plural ++ "url") = none

/-- The form of a registry: all collections are inlined, and a document that has none of them is no
single group. -/
structure Normal (m : Model) (root : Fields) : Prop where
  collections : ∀ type ∈ m.groups, Inlined root type
  group : (∃ type ∈ m.groups, type.plural ∈ root.keys) ∨ groupOf? m root = none

lemma any_isGroupCollection_iff :
    root.keys.any m.isGroupCollection = true ↔ ∃ type ∈ m.groups, type.plural ∈ root.keys := by
  simp only [List.any_eq_true, Model.isGroupCollection, beq_iff_eq]
  constructor
  · rintro ⟨key, hkey, type, ht, rfl⟩
    exact ⟨type, ht, hkey⟩
  · rintro ⟨type, ht, hkey⟩
    exact ⟨type.plural, hkey, type, ht, rfl⟩

lemma groupOf?_eq_none_iff :
    groupOf? m root = none ↔ ∀ type ∈ m.groups, root.textAt? type.idAttribute = none := by
  simp [groupOf?]

lemma Normal.wrap (h : Normal m root) : wrap m root = root := by
  unfold Entry.wrap
  rcases h.group with hany | hnone
  · rw [if_pos (any_isGroupCollection_iff.2 hany)]
  · rw [hnone, ite_self]

lemma Inlined.inlineCollection (h : Inlined root type) (f : Fetcher) :
    inlineCollection headers type root f = (root, f) := by
  unfold Entry.inlineCollection
  dsimp only
  rcases h with hkey | hurl
  · rw [if_pos ((Table.has_iff_mem_keys _ _).2 hkey)]
  · rw [hurl, ite_self]

lemma inlineCollections_eq (m : Model) (headers : Headers) (root : Fields) (f : Fetcher) :
    inlineCollections m headers root f =
      m.groups.foldl (fun p type => inlineCollection headers type p.1 p.2) (root, f) := rfl

/-- Where nothing is left to be read the source is asked for nothing. -/
lemma inlineCollections_eq_self (h : ∀ type ∈ m.groups, Inlined root type) (headers : Headers)
    (f : Fetcher) : inlineCollections m headers root f = (root, f) := by
  rw [inlineCollections_eq]
  generalize m.groups = types at h
  induction types with
  | nil => rfl
  | cons type types ih =>
    obtain ⟨htype, hrest⟩ := List.forall_mem_cons.1 h
    rw [List.foldl_cons, htype.inlineCollection f, ih hrest]

/-- A document in normal form is left as it is, and the source is asked for nothing. -/
theorem Normal.normalize (h : Normal m root) (headers : Headers) (f : Fetcher) :
    normalize m headers root f = (root, f) := by
  rw [Entry.normalize, inlineCollections_eq_self h.collections]
  exact congrArg (·, f) h.wrap

/-- What is tried for one group type: its URL is gone, and its collection may be there. -/
lemma inlineCollection_cases (headers : Headers) (type : GroupType) (root : Fields) (f : Fetcher) :
    (Inlined root type ∧ (inlineCollection headers type root f).1 = root) ∨
    (inlineCollection headers type root f).1 = root.swapErase (type.plural ++ "url") ∨
    ∃ inner, (inlineCollection headers type root f).1 =
      (root.swapErase (type.plural ++ "url")).insert type.plural (.mapping inner) := by
  unfold inlineCollection
  dsimp only
  split
  · next hkey => exact .inl ⟨.inl ((Table.has_iff_mem_keys _ _).1 hkey), rfl⟩
  · split
    · next hurl => exact .inl ⟨.inr hurl, rfl⟩
    · split
      · exact .inr (.inr ⟨_, rfl⟩)
      · exact .inr (.inl rfl)

lemma nodup_keys_inlineCollection (hr : root.keys.Nodup) :
    (inlineCollection headers type root f).1.keys.Nodup := by
  rcases inlineCollection_cases headers type root f with ⟨-, h⟩ | h | ⟨inner, h⟩ <;> rw [h]
  · exact hr
  · exact Table.nodup_keys_swapErase hr _
  · exact Table.nodup_keys_insert (Table.nodup_keys_swapErase hr _) _ _

lemma textAt?_swapErase_of_none (hr : root.keys.Nodup) (erased : String)
    (h : root.textAt? key = none) : Fields.textAt? (root.swapErase erased) key = none := by
  rw [Fields.textAt?, Table.get?_swapErase hr]
  split
  · rfl
  · exact h

lemma textAt?_insert_mapping_of_none (inner : Fields) (inserted : String)
    (h : root.textAt? key = none) :
    Fields.textAt? (root.insert inserted (.mapping inner)) key = none := by
  rw [Fields.textAt?, Table.get?_insert]
  split
  · rfl
  · exact h

lemma mem_keys_swapErase_of_ne (hr : root.keys.Nodup) {erased : String} (hne : key ≠ erased)
    (h : key ∈ root.keys) : key ∈ (root.swapErase erased).keys := by
  rw [← Table.has_iff_mem_keys, Table.has, Table.get?_swapErase hr, if_neg hne]
  exact (Table.has_iff_mem_keys _ _).2 h

lemma Inlined.insert_mapping (h : Inlined root type) (key : String) (inner : Fields) :
    Inlined (root.insert key (.mapping inner)) type := by
  refine h.imp (fun hkey => ?_) (textAt?_insert_mapping_of_none inner key)
  rw [Table.keys_insert]
  split
  · exact hkey
  · exact List.mem_append_left _ hkey

/-- What is inlined stays so while another collection is put in. -/
lemma Inlined.after (hm : m.UrlKeysApart) (hr : root.keys.Nodup) (ho : other ∈ m.groups)
    (ht : type ∈ m.groups) (h : Inlined root other) :
    Inlined (Entry.inlineCollection headers type root f).1 other := by
  -- what goes is the URL of a collection, which is no collection itself
  have herased : Inlined (root.swapErase (type.plural ++ "url")) other :=
    h.imp (mem_keys_swapErase_of_ne hr (hm other ho type ht)) (textAt?_swapErase_of_none hr _)
  rcases inlineCollection_cases headers type root f with ⟨-, hc⟩ | hc | ⟨inner, hc⟩ <;> rw [hc]
  · exact h
  · exact herased
  · exact herased.insert_mapping _ _

lemma inlined_inlineCollection (hr : root.keys.Nodup) :
    Inlined (inlineCollection headers type root f).1 type := by
  rcases inlineCollection_cases headers type root f with ⟨h, hc⟩ | hc | ⟨inner, hc⟩ <;> rw [hc]
  · exact h
  · right
    rw [Fields.textAt?, Table.get?_swapErase hr, if_pos rfl]
    rfl
  · left
    exact Table.mem_keys_of_get? (Table.get?_insert_self _ _ _)

lemma inlined_inlineCollections (hm : m.UrlKeysApart) (hr : root.keys.Nodup) :
    (inlineCollections m headers root f).1.keys.Nodup ∧
      ∀ type ∈ m.groups, Inlined (inlineCollections m headers root f).1 type := by
  -- the types that the fold has passed are inlined, and stay so
  have hfold : ∀ (rest : List GroupType) (p : Fields × Fetcher), (∀ type ∈ rest, type ∈ m.groups) →
      p.1.keys.Nodup →
      let result := rest.foldl (fun p type => inlineCollection headers type p.1 p.2) p
      result.1.keys.Nodup ∧ ∀ type ∈ m.groups, type ∈ rest ∨ Inlined p.1 type →
        Inlined result.1 type := by
    intro rest p hrest hp
    induction rest generalizing p with
    | nil => exact ⟨hp, fun type _ h => h.resolve_left List.not_mem_nil⟩
    | cons next rest ih =>
      obtain ⟨hnext, hrest⟩ := List.forall_mem_cons.1 hrest
      obtain ⟨hn, hinlined⟩ := ih (inlineCollection headers next p.1 p.2) hrest
        (nodup_keys_inlineCollection hp)
      refine ⟨hn, fun type ht h => hinlined type ht ?_⟩
      rw [List.mem_cons] at h
      rcases h with (rfl | h) | h
      · exact .inr (inlined_inlineCollection hp)
      · exact .inl h
      · exact .inr (h.after hm hp ht hnext)
  obtain ⟨hn, hinlined⟩ := hfold m.groups (root, f) (fun _ ht => ht) hr
  exact ⟨hn, fun type ht => hinlined type ht (.inl ht)⟩

lemma nodup_keys_wrap (hr : root.keys.Nodup) : (wrap m root).keys.Nodup := by
  unfold wrap
  split
  · exact hr
  · split
    · exact List.nodup_singleton _
    · exact hr

lemma normal_wrap (h : ∀ type ∈ m.groups, Inlined root type) : Normal m (wrap m root) := by
  unfold wrap
  split
  · next hany => exact ⟨h, .inl (any_isGroupCollection_iff.1 hany)⟩
  · split
    · next type id hgroup =>
      obtain ⟨type', ht, hid⟩ := List.exists_of_findSome?_eq_some hgroup
      obtain ⟨_, -, hpair⟩ := Option.map_eq_some_iff.1 hid
      obtain ⟨rfl, rfl⟩ := Prod.mk.inj hpair
      refine ⟨fun other _ => .inr ?_, .inl ⟨type', ht, List.mem_singleton.2 rfl⟩⟩
      have hempty : Fields.textAt? [] (other.plural ++ "url") = none := rfl
      exact textAt?_insert_mapping_of_none _ _ hempty
    · next hgroup => exact ⟨h, .inr hgroup⟩

lemma nodup_keys_normalize (hm : m.UrlKeysApart) (headers : Headers) (f : Fetcher)
    (hr : root.keys.Nodup) :
    (normalize m headers root f).1.keys.Nodup :=
  nodup_keys_wrap (inlined_inlineCollections hm hr).1

/-- Whether the collections given by URL can be read or not, normalizing reaches the normal form. -/
theorem normal_normalize (hm : m.UrlKeysApart) (headers : Headers) (f : Fetcher)
    (hr : root.keys.Nodup) :
    Normal m (normalize m headers root f).1 :=
  normal_wrap (inlined_inlineCollections hm hr).2

variable {base top : Fields}

lemma textAt?_overlay_of_none (ht : top.keys.Nodup) (hb : base.textAt? key = none)
    (h : top.textAt? key = none) : Fields.textAt? (Stack.overlay m base top) key = none := by
  rw [Fields.textAt?] at h
  rw [Fields.textAt?, Stack.overlay_eq, Table.get?_putEach ht]
  cases hg : top.get? key with
  | none => exact hb
  | some v =>
    rw [hg] at h
    rw [Option.bind_some] at h ⊢
    unfold Stack.entryOver
    split
    · rfl
    · exact h

lemma mem_keys_overlay (ht : top.keys.Nodup) :
    key ∈ (Stack.overlay m base top).keys ↔ key ∈ base.keys ∨ key ∈ top.keys := by
  simp only [← Table.has_iff_mem_keys, Table.has]
  rw [Stack.overlay_eq, Table.isSome_get?_putEach ht, Bool.or_eq_true]

lemma Normal.overlay (hb : Normal m base) (h : Normal m top) (ht : top.keys.Nodup) :
    Normal m (Stack.overlay m base top) := by
  constructor
  case collections =>
    intro type htype
    rw [Inlined, mem_keys_overlay ht]
    rcases hb.collections type htype with hkey | hlower
    · exact .inl (.inl hkey)
    rcases h.collections type htype with hkey | hupper
    · exact .inl (.inr hkey)
    exact .inr (textAt?_overlay_of_none ht hlower hupper)
  case group =>
    simp only [mem_keys_overlay ht]
    rcases hb.group with ⟨type, htype, hkey⟩ | hlower
    · exact .inl ⟨type, htype, .inl hkey⟩
    rcases h.group with ⟨type, htype, hkey⟩ | hupper
    · exact .inl ⟨type, htype, .inr hkey⟩
    rw [groupOf?_eq_none_iff] at hlower hupper
    exact .inr (groupOf?_eq_none_iff.2 fun type htype =>
      textAt?_overlay_of_none ht (hlower type htype) (hupper type htype))

lemma normal_foldl_overlay {documents : List Fields} (hb : Normal m base)
    (h : ∀ document ∈ documents, Normal m document ∧ document.keys.Nodup) :
    Normal m (documents.foldl (Stack.overlay m) base) := by
  induction documents generalizing base with
  | nil => exact hb
  | cons document documents ih =>
    obtain ⟨⟨hdocument, hn⟩, hrest⟩ := List.forall_mem_cons.1 h
    exact ih (hb.overlay hdocument hn) hrest

end Entry

namespace Loader

variable {m : Model} {l : Loader} {location found : String} {headers : Headers} {root : Fields}

lemma wellKeyed_of_fetch_once (hf : l.fetcher.Faithful) (location : String) (headers : Headers)
    (found : String) (root : Fields)
    (h : (l.fetcher.fetch location headers .once).1 = (found, some (.mapping root))) :
    root.WellKeyed := by
  have hreuse := (fetch_once_eq_some_iff.1 h).1
  have hk : (Value.mapping root).WellKeyed := wellKeyed_of_fetch hf (by rw [hreuse])
  exact hk

/-- What a stack is put together to is in normal form. -/
lemma normal_stack (hm : l.model.UrlKeysApart) (hf : l.fetcher.Faithful) (headers : Headers)
    (locations : List String) {lower : Option (String × Fields)}
    (hlower : ∀ e ∈ lower, Entry.Normal l.model e.2)
    (h : (stack headers locations lower l).1 = .ok (found, some root)) :
    Entry.Normal l.model root := by
  induction locations generalizing lower l with
  | nil =>
    cases lower with
    | none => simp [stack] at h
    | some e =>
      obtain ⟨-, hroot⟩ := Prod.mk.inj (Except.ok.inj h)
      exact Option.some.inj hroot ▸ hlower e rfl
  | cons location locations ih =>
    have hread := wellKeyed_of_fetch_once hf location headers
    have hfetch := hf.fetch location headers .once
    rw [stack] at h
    generalize l.fetcher.fetch location headers .once = fetched at hread hfetch h
    obtain ⟨⟨found', document⟩, f⟩ := fetched
    dsimp only at hread hfetch h
    split at h
    · simp at h
    · next entry =>
      have hentry : (Table.keys entry).Nodup := (hread found' entry rfl).nodup
      have hnormal := Entry.normal_normalize hm headers f hentry
      have hn := Entry.nodup_keys_normalize hm headers f hentry
      have hgoes : f.GoesOn (Entry.normalize l.model headers entry f).2 :=
        Entry.goesOn_normalize (.refl f) entry
      refine ih (l := { l with fetcher := (Entry.normalize l.model headers entry f).2 }) hm
        (hgoes.faithful hfetch) ?_ h
      intro e he
      rw [← Option.some.inj he]
      cases lower with
      | none => exact hnormal
      | some e => exact (hlower e rfl).overlay hnormal hn
    · simp at h

/-- A stack of one document is loaded as the document is, composed with what it refers to. Only where
there is no document may the locations differ. -/
lemma loadStacked_singleton (hm : l.model.UrlKeysApart) (hf : l.fetcher.Faithful)
    (location : String) (headers : Headers) {options : LoadOptions}
    (ho : options.schemaStyle = false) :
    (l.loadStacked [location] headers options).2 =
        (l.loadWithDependencies location headers options).2 ∧
      ((l.loadStacked [location] headers options).1 =
          (l.loadWithDependencies location headers options).1 ∨
        (l.loadStacked [location] headers options).1 = .ok (location, none) ∧
          ∃ found, (l.loadWithDependencies location headers options).1 = .ok (found, none)) := by
  have hread := wellKeyed_of_fetch_once hf location headers
  unfold loadStacked loadWithDependencies loadOne
  rw [stack, ho]
  generalize l.fetcher.fetch location headers .once = fetched at hread
  obtain ⟨⟨found, document⟩, f⟩ := fetched
  cases document with
  | none => exact ⟨rfl, .inr ⟨rfl, found, rfl⟩⟩
  | some v =>
    cases v with
    | mapping entry =>
      have hnormal := Entry.normal_normalize hm headers f (hread found entry rfl).nodup
      -- processing the stack normalizes once more, and has nothing left to do
      dsimp only [stack, process]
      rw [hnormal.normalize]
      exact ⟨rfl, .inl rfl⟩
    | _ => exact ⟨rfl, .inl rfl⟩

/-- **Normalizing once is enough.** A normalized document, and a stack of normalized documents, is
left as it is by normalizing, and nothing is asked for; so is what a loader puts a stack together to.
Hence loading a stack of one document does what loading the document with its dependencies does: the
same requests, the same fault or the same document. The source may answer as it likes. -/
theorem normalize_once (hm : m.UrlKeysApart) :
    (∀ headers headers' (f f' : Fetcher) (root : Fields), root.keys.Nodup →
      let whole := (Entry.normalize m headers root f).1
      Entry.normalize m headers' whole f' = (whole, f')) ∧
    (∀ headers (f : Fetcher) (base : Fields) (documents : List Fields),
      (∀ document ∈ base :: documents, ∃ headers f, ∃ root : Fields,
        root.keys.Nodup ∧ document = (Entry.normalize m headers root f).1) →
      let whole := documents.foldl (Stack.overlay m) base
      Entry.normalize m headers whole f = (whole, f)) ∧
    (∀ (l l' : Loader) headers locations found whole, l.model = m → l.fetcher.Faithful →
      stack headers locations none l = (.ok (found, some whole), l') →
      Entry.normalize m headers whole l'.fetcher = (whole, l'.fetcher)) ∧
    ∀ s policy location headers (options : LoadOptions), options.schemaStyle = false →
      let l := start m s policy
      let stacked := l.loadStacked [location] headers options
      let single := l.loadWithDependencies location headers options
      stacked.2 = single.2 ∧ (stacked.1 = single.1 ∨
        stacked.1 = .ok (location, none) ∧ ∃ found, single.1 = .ok (found, none)) := by
  refine ⟨?_, ?_, ?_, ?_⟩
  · intro headers headers' f f' root hr whole
    exact (Entry.normal_normalize hm headers f hr).normalize headers' f'
  · intro headers f base documents h whole
    have hnormal : ∀ document ∈ base :: documents,
        Entry.Normal m document ∧ document.keys.Nodup := by
      intro document hd
      obtain ⟨headers, f, root, hr, rfl⟩ := h document hd
      exact ⟨Entry.normal_normalize hm headers f hr, Entry.nodup_keys_normalize hm headers f hr⟩
    obtain ⟨⟨hb, -⟩, hrest⟩ := List.forall_mem_cons.1 hnormal
    exact (Entry.normal_foldl_overlay hb hrest).normalize headers f
  · rintro l l' headers locations found whole rfl hf hstack
    have hwhole : (stack headers locations none l).1 = .ok (found, some whole) := by rw [hstack]
    have hnone : ∀ e ∈ (none : Option (String × Fields)), Entry.Normal l.model e.2 := by simp
    exact (normal_stack hm hf headers locations hnone hwhole).normalize headers _
  · intro s policy location headers options ho l
    exact loadStacked_singleton (l := l) hm (faithful_start s policy) location headers ho

/-- A single group that gives its schema groups by a URL where nothing can be read: the URL goes, the
group is put under its id, and there it stays. -/
theorem normalize_once_group :
    let m := Model.standard
    let root : Fields := [("messagegroupid", .string "g"), ("schemagroupsurl", .string "http://h/s"),
      ("messages", .mapping [("a", .mapping [])])]
    let whole : Fields := [("messagegroups", .mapping [("g", .mapping [
      ("messagegroupid", .string "g"), ("messages", .mapping [("a", .mapping [])])])])]
    let f := Fetcher.start (.ofDocuments []) .strict
    m.UrlKeysApart ∧ root.keys.Nodup ∧ (Entry.normalize m [] root f).1 = whole ∧
      Entry.normalize m [] whole f = (whole, f) := by
  intro m root whole f
  have hm : m.UrlKeysApart := by decide
  have hr : root.keys.Nodup := by decide
  have hwhole : (Entry.normalize m [] root f).1 = whole := by decide +kernel
  refine ⟨hm, hr, hwhole, ?_⟩
  have htwice := (normalize_once hm).1 [] [] f f root hr
  rwa [hwhole] at htwice

end Loader

end Registry
