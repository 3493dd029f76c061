import Registry.Proofs.LintViolations
import Registry.Proofs.MessageIndex
import Registry.Proofs.SchemaPayload

/-!
# Renderings as a whole

A rendering asks for the classes of all messages before it touches the disk. If the document has no
groups, or a class is refused, however many were given before, the disk stays as it is. Otherwise the
document is written first, and then the index if there is one.
-/

namespace Registry

open Fetcher
open Registry.Composition (Reading)

section stable

variable {s : Source} {policy : ParsePolicy} {l k : Loader} {text project format : String}
  {root : Value}

lemma Loader.schemaClass_congr_of
    (hfind : (SchemaClass.find k root (.ofText text)).1 = (SchemaClass.find l root (.ofText text)).1)
    (hpayload : ∀ version,
      (SchemaClass.payload (SchemaClass.find k root (.ofText text)).2 text version).1 =
        (SchemaClass.payload (SchemaClass.find l root (.ofText text)).2 text version).1) :
    (k.schemaClass text project root format).1 = (l.schemaClass text project root format).1 := by
  unfold schemaClass
  dsimp only
  generalize SchemaClass.find k root (.ofText text) = foundK at hfind hpayload
  generalize SchemaClass.find l root (.ofText text) = foundL at hfind hpayload
  obtain ⟨found, k'⟩ := foundK
  obtain ⟨found', l'⟩ := foundL
  obtain rfl : found = found' := hfind
  cases found with
  | error defect => rfl
  | ok schema =>
    dsimp only
    split
    · rfl
    · next version name _ =>
      split
      · rfl
      · have hversion := hpayload version
        dsimp only at hversion
        generalize SchemaClass.payload k' text version = heldK at hversion
        generalize SchemaClass.payload l' text version = heldL at hversion
        obtain ⟨held, k''⟩ := heldK
        obtain ⟨held', l''⟩ := heldL
        obtain rfl : held = held' := hversion
        cases held <;> rfl

/-- Over a stable source a class does not depend on what was asked for before. -/
theorem Loader.schemaClass_of_reading (hs : s.Stable) (hl : Reading s policy l.fetcher)
    (hk : Reading s policy k.fetcher) (text project : String) (root : Value) (format : String) :
    (k.schemaClass text project root format).1 = (l.schemaClass text project root format).1 := by
  have hload : ∀ {l k : Loader}, Reading s policy l.fetcher → Reading s policy k.fetcher →
      ∀ location, (k.loadSchemaDocument location []).1 = (l.loadSchemaDocument location []).1 := by
    intro l k hl hk location
    rw [loadSchemaDocument_fst hs hl, loadSchemaDocument_fst hs hk]
  apply schemaClass_congr_of
  · cases Reference.ofText text with
    | fragment path typeName => rfl
    | external location fragment typeName => simp only [SchemaClass.find, hload hl hk location]
  · intro version
    have hl' := hl.goesOn (goesOn_find (.refl _) root (.ofText text))
    have hk' := hk.goesOn (goesOn_find (.refl _) root (.ofText text))
    unfold SchemaClass.payload
    split
    · next url _ => simp only [hload hl' hk' url]
    · rfl

end stable

namespace Disk

variable {directory : String} {files : List (String × String)} {d made d' : Disk}

/-- Writes some files in turn into a directory that is there. -/
def writeInTurn (directory : String) (files : List (String × String)) (d : Disk) : Option Disk :=
  files.foldlM (fun d e => d.write (join directory e.1) (Text.Utf8.encode e.2.toList)) d

lemma writeInTurn_cons (directory : String) (e : String × String) (files : List (String × String))
    (d : Disk) : writeInTurn directory (e :: files) d =
      (d.write (join directory e.1) (Text.Utf8.encode e.2.toList)).bind
        (writeInTurn directory files) := by
  unfold writeInTurn
  rw [List.foldlM_cons, Option.bind_eq_bind]

lemma go_of_writeInTurn (h : writeInTurn directory files d = some d') :
    writeAll.go directory files d = (some (files.map fun e => join directory e.1), d') := by
  induction files generalizing d with
  | nil =>
    obtain rfl := Option.some.inj h
    rfl
  | cons e files ih =>
    obtain ⟨name, text⟩ := e
    rw [writeInTurn_cons] at h
    obtain ⟨between, hbetween, hrest⟩ := Option.bind_eq_some_iff.1 h
    have hgo := ih hrest
    dsimp only at hbetween
    rw [go_cons, hbetween]
    dsimp only
    rw [hgo]
    rfl

/-- Each file that could be written has a place. -/
lemma exists_place_of_writeInTurn (h : writeInTurn directory files d = some d') :
    ∀ e ∈ files, ∃ p, d'.filePlace? (join directory e.1) = some p := by
  induction files generalizing d with
  | nil => simp
  | cons e files ih =>
    rw [writeInTurn_cons] at h
    obtain ⟨between, hbetween, hrest⟩ := Option.bind_eq_some_iff.1 h
    refine List.forall_mem_cons.2 ⟨?_, ih hrest⟩
    obtain ⟨p, hp, rfl⟩ := write_eq_some hbetween
    have hplaces := (wrote_go (go_of_writeInTurn hrest)).2 (join directory e.1)
    rw [filePlace?_putFile, hp] at hplaces
    exact ⟨p, hplaces⟩

lemma writeAll_of_writeInTurn (hmade : d.makeDirectories directory = some made)
    (h : writeInTurn directory files made = some d') :
    d.writeAll directory files = (some (files.map fun e => join directory e.1), d') := by
  rw [writeAll, hmade]
  exact go_of_writeInTurn h

end Disk

namespace Render

variable {l l' : Loader} {project : String} {document : Value} {types : Fields}
  {messages before : List TypedMessage} {t : TypedMessage} {fault : Fault}

/-- The keys that lead to a message. -/
def TypedMessage.keys (t : TypedMessage) : List String :=
  [t.collection, t.groupId, "messages", t.messageId]

/-- The keys of the mapping at a path, in the order of the document. -/
def keysUnder (document : Value) (path : List String) : List String :=
  (((document.under path).bind Value.fields?).map Table.keys).getD []

/-- A message comes before another one in the document. -/
def Before (document : Value) (t u : TypedMessage) : Prop :=
  Lint.position (keysUnder document) [] t.keys < Lint.position (keysUnder document) [] u.keys

/-- What is listed for each key of a mapping at a path, in their order, is in the order of the
document. -/
lemma pairwise_entries {path : List String} {fields : Fields} {f : String × Value → List TypedMessage}
    (hpath : document.under path = some (.mapping fields)) (hn : fields.keys.Nodup)
    (hstart : ∀ e ∈ fields, ∀ t ∈ f e, path ++ [e.1] <+: t.keys)
    (hf : ∀ e ∈ fields, (f e).Pairwise (Before document)) :
    (fields.flatMap f).Pairwise (Before document) := by
  rw [List.pairwise_flatMap]
  refine ⟨hf, ?_⟩
  have hkeys : keysUnder document path = fields.map Prod.fst := by
    rw [keysUnder, hpath]
    rfl
  have hidx : (fields.map Prod.fst).Pairwise fun k k' =>
      (keysUnder document path).idxOf k < (keysUnder document path).idxOf k' := by
    rw [hkeys]
    exact Lint.pairwise_idxOf hn
  refine (List.pairwise_map.1 hidx).imp_of_mem ?_
  intro e e' he he' hlt t ht u hu
  obtain ⟨rest, hrest⟩ := hstart e he t ht
  obtain ⟨rest', hrest'⟩ := hstart e' he' u hu
  rw [Before, ← hrest, ← hrest', List.append_assoc, List.append_assoc]
  exact Lint.position_lt hlt rest rest'

lemma mem_typedInGroup {collection groupId : String} {group : Value}
    (h : t ∈ typedInGroup collection groupId group) :
    [collection, groupId, "messages"] <+: t.keys := by
  unfold typedInGroup at h
  split at h
  · cases h
  · obtain ⟨⟨id, message⟩, -, htyped⟩ := List.mem_filterMap.1 h
    simp only [Option.bind_eq_bind, Option.bind_eq_some_iff, Option.some.injEq] at htyped
    obtain ⟨reference, -, format, -, rfl⟩ := htyped
    exact List.prefix_append _ [id]

lemma pairwise_typedInGroup {collection groupId : String} {group : Value}
    (hdocument : document.WellKeyed) (hgroup : document.under [collection, groupId] = some group) :
    (typedInGroup collection groupId group).Pairwise (Before document) := by
  unfold typedInGroup
  split
  · exact .nil
  · next messages hmessages =>
    obtain ⟨v, hv, hfields⟩ := Option.bind_eq_some_iff.1 hmessages
    obtain rfl := Value.fields?_eq_some.1 hfields
    have hunder : document.under [collection, groupId, "messages"] = some (.mapping messages) := by
      have hpath : [collection, groupId, "messages"] = [collection, groupId] ++ ["messages"] := rfl
      rw [hpath, Value.under_append, hgroup, Option.bind_some, Value.under, hv]
      rfl
    have hwell : Fields.WellKeyed messages :=
      Value.wellKeyed_at? hdocument (Value.at?_of_under hunder)
    rw [List.filterMap_eq_flatMap_toList]
    refine pairwise_entries hunder hwell.nodup ?_ ?_
    · rintro ⟨id, message⟩ - t ht
      simp only [Option.mem_toList, Option.bind_eq_bind, Option.bind_eq_some_iff,
        Option.some.injEq] at ht
      obtain ⟨reference, -, format, -, rfl⟩ := ht
      exact List.prefix_rfl
    · rintro e -
      generalize (do
        let reference ← e.2.textAt? "dataschemauri"
        let format ← e.2.textAt? "dataschemaformat"
        some (⟨collection, groupId, e.1, reference, format⟩ : TypedMessage)) = found
      cases found <;> simp

/-- The messages of a document are listed in its order. -/
lemma pairwise_typedMessages (hdocument : document.WellKeyed) :
    (typedMessages document).Pairwise (Before document) := by
  unfold typedMessages
  split
  · next root =>
    have hroot : Fields.WellKeyed root := hdocument
    have hunder : (Value.mapping root).under [] = some (.mapping root) := rfl
    refine pairwise_entries hunder hroot.nodup ?_ ?_
    · rintro ⟨collection, groups⟩ - t ht
      dsimp only at ht
      split at ht
      · obtain ⟨⟨id, group⟩, -, ht⟩ := List.mem_flatMap.1 ht
        exact (List.prefix_append [collection] [id, "messages"]).trans (mem_typedInGroup ht)
      · cases ht
    · rintro ⟨collection, groups⟩ he
      dsimp only
      split
      · next groups =>
        have hunder : (Value.mapping root).under [collection] = some (.mapping groups) := by
          rw [Value.under_mapping_cons, Table.get?_of_mem hroot.nodup he]
          rfl
        have hgroups : Fields.WellKeyed groups := hroot.of_mem he
        refine pairwise_entries hunder hgroups.nodup ?_ ?_
        · rintro ⟨id, group⟩ - t ht
          exact (List.prefix_append [collection, id] ["messages"]).trans (mem_typedInGroup ht)
        · rintro ⟨id, group⟩ hgroup
          refine pairwise_typedInGroup hdocument ?_
          have hpath : [collection, id] = [collection] ++ [id] := rfl
          rw [hpath, Value.under_append, hunder, Option.bind_some, Value.under_mapping_cons,
            Table.get?_of_mem hgroups.nodup hgroup]
          rfl
      · exact .nil
  · exact .nil

/-- There is only one list of all messages in the order of the document. -/
lemma eq_typedMessages (hdocument : document.WellKeyed)
    (hmem : ∀ t, t ∈ messages ↔ TypedAt document t) (horder : messages.Pairwise (Before document)) :
    messages = typedMessages document := by
  have hlisted := pairwise_typedMessages hdocument
  have hnodup : ∀ {ts : List TypedMessage}, ts.Pairwise (Before document) → ts.Nodup := by
    intro ts hts
    refine hts.imp ?_
    rintro t _ hlt rfl
    exact List.lt_irrefl _ hlt
  have hperm : messages.Perm (typedMessages document) :=
    (List.perm_ext_iff_of_nodup (hnodup horder) (hnodup hlisted)).2 fun t =>
      (hmem t).trans (mem_typedMessages hdocument).symm
  refine hperm.eq_of_pairwise (fun t u _ _ htu hut => ?_) horder hlisted
  exact absurd hut (List.lt_asymm htu)

/-- The loader once the classes of some messages were asked for in turn. -/
def asked (project : String) (document : Value) (l : Loader) (messages : List TypedMessage) :
    Loader :=
  messages.foldl (fun l t => (l.schemaClass t.reference project document t.format).2) l

/-- What is said to the class of a message behind those of some others. -/
def answer (project : String) (document : Value) (l : Loader) (before : List TypedMessage)
    (t : TypedMessage) : Except Fault String :=
  ((asked project document l before).schemaClass t.reference project document t.format).1

/-- Every message is given a class when they are asked for in turn. -/
def Answered (project : String) (document : Value) (l : Loader) (messages : List TypedMessage) :
    Prop :=
  ∀ before t after, messages = before ++ t :: after →
    ∃ name, answer project document l before t = .ok name

lemma asked_singleton (l : Loader) (t : TypedMessage) : asked project document l [t] =
    (l.schemaClass t.reference project document t.format).2 := by
  rw [asked, List.foldl_cons, List.foldl_nil]

lemma answer_nil (l : Loader) (t : TypedMessage) : answer project document l [] t =
    (l.schemaClass t.reference project document t.format).1 := by
  rw [answer, asked, List.foldl_nil]

lemma answer_cons (l : Loader) (t : TypedMessage) (before : List TypedMessage) (u : TypedMessage) :
    answer project document l (t :: before) u =
      answer project document (asked project document l [t]) before u := by
  rw [asked_singleton, answer, answer, asked, List.foldl_cons, asked]

lemma asked_append (project : String) (document : Value) (l : Loader)
    (before after : List TypedMessage) : asked project document l (before ++ after) =
      asked project document (asked project document l before) after :=
  List.foldl_append

lemma goesOn_asked (project : String) (document : Value) (l : Loader)
    (messages : List TypedMessage) :
    l.fetcher.GoesOn (asked project document l messages).fetcher := by
  induction messages using List.reverseRecOn with
  | nil => exact .refl _
  | append_singleton messages t ih =>
    rw [asked_append, asked_singleton]
    exact Loader.goesOn_schemaClass ih t.reference project document t.format

/-- Over a stable source a message is given what it is given alone. -/
lemma answer_of_stable (hf : l.fetcher.Faithful) (hs : l.fetcher.source.Stable)
    (before : List TypedMessage) (t : TypedMessage) : answer project document l before t =
      (l.schemaClass t.reference project document t.format).1 := by
  have hl : Reading l.fetcher.source l.fetcher.policy l.fetcher := ⟨rfl, rfl, hf⟩
  exact Loader.schemaClass_of_reading hs hl (hl.goesOn (goesOn_asked project document l before))
    t.reference project document t.format

/-- Over a stable source every message is given a class if each of them is given one alone. -/
lemma answered_iff (hf : l.fetcher.Faithful) (hs : l.fetcher.source.Stable) :
    Answered project document l messages ↔ ∀ t ∈ messages, ∃ name,
      (l.schemaClass t.reference project document t.format).1 = .ok name := by
  simp only [Answered, answer_of_stable hf hs]
  constructor
  · intro h t ht
    obtain ⟨before, after, hsplit⟩ := List.append_of_mem ht
    exact h before t after hsplit
  · rintro h before t after rfl
    exact h t (by simp)

/-- Over a stable source the entries of an index are those of the classes that are given alone. -/
lemma map_entry_of_stable {className alone : TypedMessage → String} (hf : l.fetcher.Faithful)
    (hs : l.fetcher.source.Stable)
    (hgiven : ∀ before t after, messages = before ++ t :: after →
      answer project document l before t = .ok (className t))
    (halone : ∀ t ∈ messages,
      (l.schemaClass t.reference project document t.format).1 = .ok (alone t)) :
    messages.map (TypedMessage.entry className) = messages.map (TypedMessage.entry alone) := by
  refine List.map_congr_left fun t ht => ?_
  obtain ⟨before, after, hsplit⟩ := List.append_of_mem ht
  have hname := hgiven before t after hsplit
  rw [answer_of_stable hf hs, halone t ht] at hname
  rw [TypedMessage.entry, TypedMessage.entry, Except.ok.inj hname]

/-- What a message was given it is given again, once all of them were asked for. -/
lemma schemaClass_asked (l : Loader) (before : List TypedMessage) (t : TypedMessage)
    (after : List TypedMessage) :
    ((asked project document l (before ++ t :: after)).schemaClass t.reference project document
      t.format).1 = answer project document l before t := by
  have hlater := goesOn_asked project document (asked project document l (before ++ [t])) after
  rw [← asked_append, List.append_assoc, List.singleton_append] at hlater
  rw [answer]
  apply Loader.schemaClass_again
  rw [← asked_singleton, ← asked_append]
  exact hlater.keeps_cache

lemma Answered.cons (h : Answered project document l (t :: messages)) :
    ∃ name, l.schemaClass t.reference project document t.format =
        (.ok name, asked project document l [t]) ∧
      Answered project document (asked project document l [t]) messages := by
  obtain ⟨name, hname⟩ := h [] t messages rfl
  rw [answer_nil] at hname
  rw [asked_singleton]
  refine ⟨name, ?_, ?_⟩
  · rw [← hname]
  · rintro before u after rfl
    rw [← asked_singleton, ← answer_cons]
    exact h (t :: before) u after rfl

lemma Answered.index_eq (h : Answered project document l messages) (types : Fields) :
    ∃ table, index project document messages types l =
      (.ok table, asked project document l messages) := by
  induction messages generalizing l types with
  | nil => exact ⟨types, rfl⟩
  | cons t messages ih =>
    obtain ⟨name, hname, hrest⟩ := h.cons
    obtain ⟨table, htable⟩ := ih hrest (types.insert t.key (.string name))
    rw [index, hname]
    dsimp only
    rw [htable, ← asked_append]
    exact ⟨table, rfl⟩

/-- The first message that is refused ends the index. -/
lemma Answered.index_of_refused (h : Answered project document l before)
    (ht : answer project document l before t = .error fault) (after : List TypedMessage)
    (types : Fields) : index project document (before ++ t :: after) types l =
      (.error fault, asked project document l (before ++ [t])) := by
  induction before generalizing l types with
  | nil =>
    rw [answer_nil] at ht
    rw [List.nil_append, List.nil_append, asked_singleton, index]
    generalize l.schemaClass t.reference project document t.format = given at ht ⊢
    obtain ⟨result, l'⟩ := given
    obtain rfl : result = .error fault := ht
    rfl
  | cons u before ih =>
    obtain ⟨name, hname, hrest⟩ := h.cons
    rw [answer_cons] at ht
    rw [List.cons_append, List.cons_append, index, hname]
    dsimp only
    rw [ih hrest ht, ← asked_append]
    rfl

/-- If not every message is given a class, there is a first one that is refused. -/
lemma exists_refused (h : ¬Answered project document l messages) :
    ∃ before t after fault, messages = before ++ t :: after ∧
      Answered project document l before ∧ answer project document l before t = .error fault := by
  induction messages using List.reverseRecOn with
  | nil =>
    refine absurd ?_ h
    rintro before t after hnil
    simp at hnil
  | append_singleton messages u ih =>
    by_cases hmessages : Answered project document l messages
    · cases hu : answer project document l messages u with
      | error fault => exact ⟨messages, u, [], fault, rfl, hmessages, hu⟩
      | ok name =>
        refine absurd ?_ h
        intro before t after hsplit
        cases after using List.reverseRecOn with
        | nil =>
          obtain ⟨rfl, hlast⟩ := List.append_inj' hsplit rfl
          obtain rfl := List.singleton_inj.1 hlast
          exact ⟨name, hu⟩
        | append_singleton after v =>
          rw [← List.cons_append, ← List.append_assoc] at hsplit
          exact hmessages before t after (List.append_inj' hsplit rfl).1
    · obtain ⟨before, t, after, fault, rfl, hbefore, ht⟩ := ih hmessages
      exact ⟨before, t, after ++ [u], fault, by simp, hbefore, ht⟩

/-- A document has a group of the model. -/
def HasGroup (m : Model) (document : Value) : Prop :=
  ∃ type ∈ m.groups, ∃ groups : Fields, document.get? type.plural = some (.mapping groups) ∧
    groups ≠ []

lemma hasGroups_iff {m : Model} : hasGroups m document = true ↔ HasGroup m document := by
  have hone : ∀ v : Option Value, (v.bind Value.fields?).any (!·.isEmpty) = true ↔
      ∃ groups : Fields, v = some (.mapping groups) ∧ groups ≠ [] := by
    intro v
    cases v with
    | none => simp
    | some v => cases v <;> simp [Value.fields?]
  simp only [hasGroups, List.any_eq_true, hone, HasGroup]

/-- The files of a document and its index are in different places, so that all of them are read
back. -/
lemma readBytes_filesOf {directory : String} {d made d' : Disk}
    (hmade : d.makeDirectories directory = some made)
    (h : Disk.writeInTurn directory (filesOf project document types) made = some d') :
    ∀ e ∈ filesOf project document types, d'.readBytes (Disk.join directory e.1) =
      some (Text.Utf8.encode e.2.toList) := by
  have hwrote := Disk.wrote_writeAll (Disk.writeAll_of_writeInTurn hmade h)
  have hplace := Disk.exists_place_of_writeInTurn h
  have hne : ∀ e ∈ (if types.isEmpty then []
        else [(project ++ ".types.json", Json.pretty (.mapping types))]),
      d'.filePlace? (Disk.join directory e.1) ≠
        d'.filePlace? (Disk.join directory (project ++ ".json")) := by
    intro e he hsame
    obtain ⟨p, hp⟩ := hplace e (List.mem_cons_of_mem _ he)
    have hindex : e.1 = project ++ ".types.json" := by
      split at he
      · cases he
      · rw [List.mem_singleton.1 he]
    rw [hindex] at hp hsame
    exact Disk.ne_of_filePlace?_join (by decide) (by decide) (by decide) hp
      (hsame.symm.trans hp) rfl
  rintro ⟨name, text⟩ he
  rw [filesOf, List.mem_cons] at he
  rcases he with he | he
  · obtain ⟨rfl, rfl⟩ := Prod.mk.inj he
    exact hwrote.readBytes [] _ _ _ rfl hne
  · split at he
    · cases he
    · next hfilled =>
      obtain ⟨rfl, rfl⟩ := Prod.mk.inj (List.mem_singleton.1 he)
      refine hwrote.readBytes [(project ++ ".json", Json.pretty document)] _ _ [] ?_ (by simp)
      rw [filesOf, if_neg hfilled]
      rfl

/-- **A rendering is written as a whole or not at all.** The messages that name a data schema are asked
for in the order of the document. Without a group of the model, or with a message that is refused, the
disk stays as it is, and the result is that the engine declines or the fault of the first message that
is refused. Otherwise the document is written and then the index, unless it is empty, where these
writes can be made. Over a stable source the messages are given what each of them is given alone. -/
theorem renderInto_whole (l : Loader) (project : String) (document : Value) (directory : String)
    (d : Disk) (hdocument : document.WellKeyed) :
    let rendered := l.renderInto project document directory d
    ∃ typed : List TypedMessage, (∀ t, t ∈ typed ↔ TypedAt document t) ∧
      typed.Pairwise (Before document) ∧
      (¬HasGroup l.model document →
        rendered = (.ok (.aborted "document has no groups"), l, d)) ∧
      (HasGroup l.model document → ¬Answered project document l typed →
        ∃ before t after fault, typed = before ++ t :: after ∧
          Answered project document l before ∧ answer project document l before t = .error fault ∧
          rendered = (.error fault, asked project document l (before ++ [t]), d)) ∧
      (HasGroup l.model document → Answered project document l typed →
        ∃ className : TypedMessage → String,
          (∀ before t after, typed = before ++ t :: after →
            answer project document l before t = .ok (className t)) ∧
          let types := Table.ofEntries (typed.map (TypedMessage.entry className))
          let files := (project ++ ".json", Json.pretty document) ::
            if types = [] then [] else [(project ++ ".types.json", Json.pretty (.mapping types))]
          ∀ made d', d.makeDirectories directory = some made →
            Disk.writeInTurn directory files made = some d' →
            rendered = (.ok (.completed (files.map fun e => Disk.join directory e.1)),
              asked project document l typed, d') ∧
            (∀ e ∈ files, d'.readBytes (Disk.join directory e.1) =
              some (Text.Utf8.encode e.2.toList)) ∧
            ∀ q, (∀ e ∈ files, d'.filePlace? (Disk.join directory e.1) ≠ some q) →
              d'.file? q = d.file? q) ∧
      (l.fetcher.Faithful → l.fetcher.source.Stable → ∀ before t,
        answer project document l before t =
          (l.schemaClass t.reference project document t.format).1) := by
  intro rendered
  refine ⟨typedMessages document, fun t => mem_typedMessages hdocument,
    pairwise_typedMessages hdocument, ?_, ?_, ?_, answer_of_stable⟩
  · intro hnone
    have hrender : l.render project document = (.ok (.aborted "document has no groups"), l) := by
      rw [Loader.render, if_neg (mt hasGroups_iff.1 hnone)]
    simp only [rendered, Loader.renderInto, hrender]
  · intro hgroup hnot
    obtain ⟨before, t, after, fault, hsplit, hbefore, ht⟩ := exists_refused hnot
    have hindex := hbefore.index_of_refused ht after []
    rw [← hsplit] at hindex
    refine ⟨before, t, after, fault, hsplit, hbefore, ht, ?_⟩
    simp only [rendered, Loader.renderInto, Loader.render, hasGroups_iff.2 hgroup, if_true, hindex]
    rfl
  · intro hgroup hanswered
    obtain ⟨table, hindex⟩ := hanswered.index_eq []
    have htable := (index_eq_ok hindex).2
    refine ⟨classGiven (asked project document l (typedMessages document)) project document,
      ?_, ?_⟩
    · intro before t after hsplit
      have hgiven := (index_eq_ok hindex).1 t (by rw [hsplit]; simp)
      rw [← hgiven, hsplit, schemaClass_asked]
    · intro types files made d' hmade hwritten
      have hfiles : files = filesOf project document table := by
        rw [htable, filesOf]
        exact congrArg _ (if_congr List.isEmpty_iff.symm rfl rfl)
      rw [hfiles] at hwritten ⊢
      have hall := Disk.writeAll_of_writeInTurn hmade hwritten
      refine ⟨?_, readBytes_filesOf hmade hwritten, ?_⟩
      · simp only [rendered, Loader.renderInto, Loader.render, hasGroups_iff.2 hgroup, if_true, hindex,
          Except.map, hall]
      · intro q hq
        refine (Disk.wrote_writeAll hall).file?_of_ne q ?_
        rwa [List.forall_mem_map]

/-- A message whose class is given, and one behind it. If that asks for another format than its schema
has, nothing is written, and the directory is not made. Otherwise the document is written, and the
index with the classes of both. -/
theorem renderInto_whole_of_formats :
    let message (format : String) : Value := .mapping [
      ("dataschemauri", .string "#/schemagroups/s/schemas/x"), ("dataschemaformat", .string format)]
    let schema : Value := .mapping [("format", .string "JsonSchema/draft-07"),
      ("schema", .mapping [("type", .string "object")])]
    let document (format : String) : Value := .mapping [
      ("messagegroups", .mapping [("g", .mapping [("messages", .mapping [
        ("a", message "JsonSchema/draft-07"), ("b", message format)])])]),
      ("schemagroups", .mapping [("s", .mapping [("schemas", .mapping [("x", schema)])])])]
    let l := Loader.start Model.standard (.ofDocuments []) .strict
    let disk := Disk.empty ["w"]
    let rendered (format : String) := l.renderInto "App" (document format) "out" disk
    (∀ format, (document format).WellKeyed ∧ HasGroup l.model (document format)) ∧
      (∃ l', rendered "Avro/1.11.3" =
        (.error (.formatMismatch "Avro/1.11.3" "JsonSchema/draft-07"), l', disk)) ∧
      ∃ l' disk', rendered "JsonSchema/draft-07" =
          (.ok (.completed ["out/App.json", "out/App.types.json"]), l', disk') ∧
        disk'.readBytes "out/App.json" =
          some (Text.Utf8.encode (Json.pretty (document "JsonSchema/draft-07")).toList) ∧
        disk'.readBytes "out/App.types.json" = some (Text.Utf8.encode
          ("\x7b\n  \"messagegroups/g/a\": \"App.s.x\",\n" ++
            "  \"messagegroups/g/b\": \"App.s.x\"\n\x7d").toList) := by
  intro message schema document l disk rendered
  have hdocument : ∀ format, (document format).WellKeyed := by
    simp [document, message, schema, Value.WellKeyed, Value.WellKeyedFields, Table.keys]
  have hgroup : ∀ format, HasGroup l.model (document format) :=
    fun format => hasGroups_iff.1 rfl
  have hfaithful : l.fetcher.Faithful := faithful_start _ _
  have hstable : l.fetcher.source.Stable := Source.stable_ofDocuments _
  refine ⟨fun format => ⟨hdocument format, hgroup format⟩, ?_, ?_⟩
  · obtain ⟨typed, hmem, -, -, hrefused, -, -⟩ :=
      renderInto_whole l "App" (document "Avro/1.11.3") "out" disk (hdocument _)
    have hnot : ¬Answered "App" (document "Avro/1.11.3") l typed := by
      have hlast : TypedAt (document "Avro/1.11.3")
          ⟨"messagegroups", "g", "b", "#/schemagroups/s/schemas/x", "Avro/1.11.3"⟩ :=
        ⟨message "Avro/1.11.3", rfl, by decide, by decide⟩
      rw [answered_iff hfaithful hstable]
      intro h
      obtain ⟨name, hname⟩ := h _ ((hmem _).2 hlast)
      have hclass : (l.schemaClass "#/schemagroups/s/schemas/x" "App" (document "Avro/1.11.3")
          "Avro/1.11.3").1 = .error (.formatMismatch "Avro/1.11.3" "JsonSchema/draft-07") := by
        decide +kernel
      rw [hclass] at hname
      cases hname
    obtain ⟨before, t, after, fault, -, -, -, hrendered⟩ := hrefused (hgroup _) hnot
    have hfault : (l.renderInto "App" (document "Avro/1.11.3") "out" disk).1 =
        .error (.formatMismatch "Avro/1.11.3" "JsonSchema/draft-07") := by decide +kernel
    rw [hrendered] at hfault
    obtain rfl := Except.error.inj hfault
    exact ⟨_, hrendered⟩
  · obtain ⟨typed, hmem, horder, -, -, hwritten, -⟩ :=
      renderInto_whole l "App" (document "JsonSchema/draft-07") "out" disk (hdocument _)
    have htyped : typed = ["a", "b"].map fun id => (⟨"messagegroups", "g", id,
        "#/schemagroups/s/schemas/x", "JsonSchema/draft-07"⟩ : TypedMessage) := by
      rw [eq_typedMessages (hdocument _) hmem horder]
      decide +kernel
    have hclass : ∀ t ∈ typed, (l.schemaClass t.reference "App" (document "JsonSchema/draft-07")
        t.format).1 = .ok "App.s.x" := by
      rw [htyped]
      decide +kernel
    obtain ⟨className, hgiven, hwritten⟩ := hwritten (hgroup _)
      ((answered_iff hfaithful hstable).2 fun t ht => ⟨_, hclass t ht⟩)
    let types : Fields := [("messagegroups/g/a", .string "App.s.x"),
      ("messagegroups/g/b", .string "App.s.x")]
    have htypes : Table.ofEntries (typed.map (TypedMessage.entry className)) = types := by
      rw [map_entry_of_stable hfaithful hstable hgiven hclass, htyped]
      decide +kernel
    let files := [("App.json", Json.pretty (document "JsonSchema/draft-07")),
      ("App.types.json", Json.pretty (.mapping types))]
    have hplaces : ((disk.makeDirectories "out").bind (Disk.writeInTurn "out" files)).isSome := by
      decide +kernel
    obtain ⟨disk', hplaces⟩ := Option.isSome_iff_exists.1 hplaces
    obtain ⟨made, hmade, hfiles⟩ := Option.bind_eq_some_iff.1 hplaces
    have hname : "App" ++ ".json" = "App.json" := by decide
    have hindex : "App" ++ ".types.json" = "App.types.json" := by decide
    dsimp only at hwritten
    rw [htypes, if_neg (List.cons_ne_nil _ _), hname, hindex] at hwritten
    obtain ⟨hrendered, hbytes, -⟩ := hwritten made disk' hmade hfiles
    rw [List.forall_mem_cons, List.forall_mem_singleton] at hbytes
    have hjoin : Disk.join "out" "App.json" = "out/App.json" := by decide
    have hjoin' : Disk.join "out" "App.types.json" = "out/App.types.json" := by decide
    have htext : Json.pretty (.mapping types) = "\x7b\n  \"messagegroups/g/a\": \"App.s.x\",\n" ++
        "  \"messagegroups/g/b\": \"App.s.x\"\n\x7d" := by decide +kernel
    simp only [List.map_cons, List.map_nil, hjoin, hjoin', htext] at hrendered hbytes
    exact ⟨_, disk', hrendered, hbytes⟩

end Render

end Registry
