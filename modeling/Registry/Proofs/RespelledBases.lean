import Registry.Proofs.BaseSpellings
import Registry.Proofs.BlottedBases
import Registry.Proofs.VersionedBases

/-!
# Bases that are spelled differently

How a message spells the place of its base makes no difference to what any message takes over. What
can differ is the text itself: it is still there in a message that takes over a mapping around the one
that holds it. A URL with nothing behind its `#` spells no place: the message takes over the whole
document.
-/

namespace Registry.Inheritance

variable {α : Type} {m : Model} {document other : Value} {p q : Place} {own base : Fields}
  {text text' : String} {view : Fields → α}

/-- Two documents have messages in the same places, which name the same bases, and what a message has
of its own and what its base gives look alike. -/
structure Alike (view : Fields → α) (m : Model) (document other : Value) : Prop where
  has : ∀ pointer, (lineage m other).messages.has pointer = (lineage m document).messages.has pointer
  bases : ∀ pointer,
    (lineage m other).bases.get? pointer = (lineage m document).bases.get? pointer
  completed : ∀ pointer given given', (∀ fields ∈ given, Fields.WellKeyed fields) →
    (∀ fields ∈ given', Fields.WellKeyed fields) → given'.map view = given.map view →
    view (Lineage.completed ((lineage m other).own pointer) given') =
      view (Lineage.completed ((lineage m document).own pointer) given)
  message : ∀ full full', view full' = view full →
    (Lineage.inheritable (.mapping full')).map view = (Lineage.inheritable (.mapping full)).map view
  elsewhere : ∀ pointer place, (lineage m document).bases.get? pointer = some place →
    ((other.lookup place).bind Lineage.inheritable).map view =
      ((document.lookup place).bind Lineage.inheritable).map view

namespace Alike

lemma isParent (h : Alike view m document other) :
    (lineage m other).IsParent = (lineage m document).IsParent := by
  funext pointer base
  rw [Lineage.IsParent, Lineage.IsParent, Lineage.parent?, Lineage.parent?, h.bases, funext h.has]

lemma isCyclic (h : Alike view m document other) (pointer : String) :
    (lineage m other).isCyclic pointer = (lineage m document).isCyclic pointer := by
  rw [Bool.eq_iff_iff, Lineage.isCyclic_iff, Lineage.isCyclic_iff, h.isParent]

/-- In the end the messages look alike. -/
theorem resolved (hd : document.WellKeyed) (ho : other.WellKeyed) (h : Alike view m document other)
    {pointer : String} (hp : (lineage m document).messages.has pointer = true) :
    view ((lineage m other).resolved pointer) = view ((lineage m document).resolved pointer) := by
  -- along the bases, which are the same in both documents
  induction pointer using (lineage m document).wellFounded_asks.induction with
  | _ pointer ih =>
    rw [Lineage.resolved_eq hp, Lineage.resolved_eq ((h.has pointer).trans hp)]
    refine h.completed pointer _ _
      (fun _ ht => wellKeyed_taken? hd (fun _ => (wellKeyed_resolve hd _ _).1) ht)
      (fun _ ht => wellKeyed_taken? ho (fun _ => (wellKeyed_resolve ho _ _).1) ht) ?_
    unfold Lineage.taken?
    rw [h.isCyclic, h.bases]
    split
    · rfl
    next hc =>
    cases hb : (lineage m document).bases.get? pointer with
    | none => rfl
    | some base =>
      rw [Option.bind_some, Option.bind_some, h.has]
      split
      · next hm => exact h.message _ _ (ih base (Lineage.asks_of_get? hc hb hm) hm)
      · exact h.elsewhere pointer base hb

lemma inherit_eq (hd : document.WellKeyed) (ho : other.WellKeyed) (h : Alike id m document other) :
    document.onMapping (mapMessages m fun pointer _ => (lineage m other).resolved pointer) =
      document.onMapping (inherit m) := by
  rw [onMapping_inherit]
  exact onMapping_mapMessages_congr hd fun _ _ hp => h.resolved hd ho (has_lineage hd hp)

lemma blot_inherit (hd : document.WellKeyed) (ho : other.WellKeyed)
    (h : Alike Fields.blot m document other) :
    (document.onMapping (mapMessages m fun pointer _ => (lineage m other).resolved pointer)).blot =
      (document.onMapping (inherit m)).blot := by
  rw [onMapping_inherit, onMapping_mapMessages _ hd, onMapping_mapMessages _ hd]
  refine Value.blot_mapAlong_congr hd fun path v hpath hv => ?_
  obtain ⟨r, hr, rfl⟩ := selected_iff.1 hpath
  cases v with
  | mapping message =>
    have hlook := h.resolved hd ho (has_lineage hd (⟨hr, hv⟩ : MessageAt m document r message))
    change (Value.mapping _).blot = (Value.mapping _).blot
    rw [Value.blot_mapping, Value.blot_mapping]
    exact congrArg Value.mapping hlook
  | _ => rfl

end Alike

/-- A message that names its base by a given text. -/
def naming (text : String) (message : Fields) : Fields := message.insert baseAttribute (.string text)

section naming

variable (hk : own.WellKeyed) (hown : own.textAt? baseAttribute = some text)
include hown

lemma keys_naming (text' : String) : (naming text' own).keys = own.keys :=
  Table.keys_insert_of_mem (Table.mem_keys_of_get? (Fields.textAt?_eq_some.1 hown)) _

lemma blot_naming (text' : String) : (naming text' own).blot = own.blot :=
  Fields.blot_insert_base (Fields.textAt?_eq_some.1 hown) text'

omit hown in
lemma textAt?_naming (text' : String) : (naming text' own).textAt? baseAttribute = some text' :=
  Fields.textAt?_eq_some.2 (Table.get?_insert_self _ _ _)

omit hown in
lemma get?_naming (text' : String) {key : String} (h : key ≠ baseAttribute) :
    Table.get? (naming text' own) key = own.get? key :=
  Table.get?_insert_of_ne _ _ h.symm

include hk

/-- However a message names its base, with what it takes over it is the same. -/
lemma completed_naming (text' : String) {given : Option Fields}
    (hgiven : ∀ fields ∈ given, Fields.WellKeyed fields) :
    Lineage.completed (naming text' own) given = Lineage.completed own given := by
  have hkeys := keys_naming hown text'
  have hn : (Table.keys (naming text' own)).Nodup := hkeys ▸ hk.nodup
  unfold Lineage.completed
  cases given with
  | none => exact Table.swapErase_congr hn hkeys fun key hne => get?_naming text' hne
  | some fields =>
    have hhas : ∀ key, Table.has (naming text' own) key = own.has key := Table.has_of_keys_eq hkeys
    rw [Option.map_some, Option.map_some, Option.getD_some, Option.getD_some]
    refine Table.swapErase_congr (Fields.nodup_keys_merge hn (hgiven fields rfl).nodup) ?_
      fun key hne => ?_
    · simp only [Fields.keys_merge, hkeys, hhas]
    · rw [Fields.get?_merge, Fields.get?_merge, get?_naming text' hne]

/-- However a base names its own base, it gives the same. -/
lemma inheritable_naming (text' : String) :
    Lineage.inheritable (.mapping (naming text' own)) = Lineage.inheritable (.mapping own) := by
  have hlatest : (Value.mapping (naming text' own)).latestVersion? =
      (Value.mapping own).latestVersion? :=
    Value.latestVersion?_congr (get?_naming text' (by decide))
      (congrArg (·.bind Value.text?) (get?_naming text' (by decide)))
  have herase : Lineage.completed (naming text' own) none = Lineage.completed own none :=
    completed_naming hk hown text' fun _ h => nomatch h
  unfold Lineage.inheritable
  rw [hlatest]
  cases (Value.mapping own).latestVersion? with
  | some counted => rfl
  | none => exact congrArg (fun fields : Fields => some (fields.swapErase idAttribute)) herase

end naming

/-- A document in which the message at a place names its base by a given text. -/
def respelled (document : Value) (p : Place) (text : String) : Value :=
  document.modifyAt (·.onMapping (naming text)) p.tokens

lemma respelled_eq (hd : document.WellKeyed) (hp : MessageAt m document p own) (text : String) :
    respelled document p text = document.onMapping (mapMessages m fun pointer message =>
      if pointer = p.pointer then naming text message else message) := by
  calc respelled document p text
    _ = (document.onMapping (mapMessages m fun _ message => message)).modify p.pointer
          (·.onMapping (naming text)) := by
      rw [onMapping_mapMessages_id hd, respelled, Value.modify, Place.pointer_eq,
        Value.fragmentTokens?_ofTokens (by simp [Place.tokens])]
    _ = _ := modify_onMapping_mapMessages hd hp (naming text) fun _ => rfl

lemma wellKeyed_respelled (hd : document.WellKeyed) (hp : MessageAt m document p own)
    (text : String) : (respelled document p text).WellKeyed := by
  rw [respelled_eq hd hp]
  refine wellKeyed_mapMessages hd fun pointer message hmessage => ?_
  split
  · exact hmessage.insert trivial
  · exact hmessage

lemma get?_messages_respelled (hd : document.WellKeyed) (hp : MessageAt m document p own)
    (text : String) (pointer : String) :
    (lineage m (respelled document p text)).messages.get? pointer =
      ((lineage m document).messages.get? pointer).map fun message =>
        if pointer = p.pointer then naming text message else message := by
  have hwell := wellKeyed_respelled hd hp text
  rw [respelled_eq hd hp] at hwell ⊢
  exact get?_messages_mapMessages hd hwell pointer

lemma messageAt_respelled (hd : document.WellKeyed) (hp : MessageAt m document p own) (text : String)
    {message : Fields} (hq : MessageAt m document q message) :
    MessageAt m (respelled document p text) q
      (if q.pointer = p.pointer then naming text message else message) := by
  rw [respelled_eq hd hp]
  exact hq.altered _ hd

/-- What a path leads to in two documents that differ in the text at one place: the same, the message
there, its text, or a mapping around it. -/
inductive Changed (p : Place) (own : Fields) (text text' : String) (path : List String) :
    Option Value → Option Value → Prop
  | same (found : Option Value) : Changed p own text text' path found found
  | message : Changed p own text text' path (some (.mapping own)) (some (.mapping (naming text' own)))
  | text : Changed p own text text' path (some (.string text)) (some (.string text'))
  | around {rest : List String} {v : Value} (hpath : p.tokens = path ++ rest) (hne : rest ≠ [])
      (hleads : v.under rest = some (.mapping own)) :
      Changed p own text text' path (some v) (some (v.modifyAt (·.onMapping (naming text')) rest))

lemma changed_at? (hp : MessageAt m document p own) (hown : own.textAt? baseAttribute = some text)
    (text' : String) (path : List String) :
    Changed p own text text' path (document.at? path) ((respelled document p text').at? path) := by
  rw [respelled]
  rcases Value.at?_modifyAt (·.onMapping (naming text')) hp.2 path with
    ⟨rest, rfl, hbefore, hafter⟩ | ⟨rest, v, hpath, hne, hbefore, hleads, hafter⟩ | hsame
  · rw [hbefore, hafter]
    cases rest with
    | nil => exact .message
    | cons key rest =>
      rw [Value.at?_mapping_cons]
      change Changed p own text text' _ _ ((Table.get? (naming text' own) key).bind _)
      by_cases hkey : baseAttribute = key
      · subst hkey
        rw [Fields.textAt?_eq_some.1 hown, naming, Table.get?_insert_self]
        cases rest with
        | nil => exact .text
        | cons => exact .same none
      · rw [naming, Table.get?_insert_of_ne _ _ hkey]
        exact .same _
  · rw [hbefore, hafter]
    exact .around hpath hne hleads
  · rw [hsame]
    exact .same _

lemma Changed.isSome_eq {path : List String} {before after : Option Value}
    (h : Changed p own text text' path before after) : after.isSome = before.isSome := by
  cases h <;> rfl

/-- What a mapping gives is the same but for texts that name bases. -/
lemma Changed.map_blot (hown : own.textAt? baseAttribute = some text) {path : List String}
    {before after : Option Value} (h : Changed p own text text' path before after) :
    (after.bind Lineage.inheritable).map Fields.blot =
      (before.bind Lineage.inheritable).map Fields.blot := by
  have hnaming : (Value.mapping (naming text' own)).blot = (Value.mapping own).blot := by
    rw [Value.blot_mapping, Value.blot_mapping, blot_naming hown]
  have hgives : ∀ v w : Value, w.blot = v.blot →
      (Lineage.inheritable w).map Fields.blot = (Lineage.inheritable v).map Fields.blot := by
    intro v w h
    rw [← inheritable_blot, ← inheritable_blot, h]
  cases h with
  | same => rfl
  | message => exact hgives _ _ hnaming
  | text => rfl
  | around hpath hne hleads =>
    refine hgives _ _ (Value.blot_modifyAt ?_ hleads)
    exact hnaming

/-- What a mapping gives is the same unless it is around the message. -/
lemma Changed.eq_of_not_around (hk : own.WellKeyed) (hown : own.textAt? baseAttribute = some text)
    {path : List String} {before after : Option Value}
    (hfree : ¬(path <+: p.tokens ∧ path ≠ p.tokens))
    (h : Changed p own text text' path before after) :
    after.bind Lineage.inheritable = before.bind Lineage.inheritable := by
  cases h with
  | same => rfl
  | message => exact inheritable_naming hk hown text'
  | text => rfl
  | around hpath hne hleads =>
    refine absurd ⟨⟨_, hpath.symm⟩, ?_⟩ hfree
    rintro rfl
    exact hne (List.append_right_eq_self.1 hpath.symm)

lemma basePointer?_congr
    (h : ∀ pointer, (other.lookup pointer).isSome = (document.lookup pointer).isSome)
    (text : String) : basePointer? m other text = basePointer? m document text := by
  unfold basePointer? wholeFragment?
  simp only [h]

lemma own_respelled (hd : document.WellKeyed) (hp : MessageAt m document p own) (text' : String)
    (pointer : String) : (lineage m (respelled document p text')).own pointer =
      if pointer = p.pointer then naming text' own else (lineage m document).own pointer := by
  rw [Lineage.own, get?_messages_respelled hd hp]
  split
  · next he =>
    have hget : (lineage m document).messages.get? pointer = some own := he ▸ (get?_messages hd).2 hp
    rw [hget]
    rfl
  · rw [Option.map_id']
    rfl

lemma has_respelled (hd : document.WellKeyed) (hp : MessageAt m document p own) (text' : String)
    (pointer : String) : (lineage m (respelled document p text')).messages.has pointer =
      (lineage m document).messages.has pointer := by
  rw [Table.has, get?_messages_respelled hd hp, Option.isSome_map, Table.has]

lemma basePointer?_respelled (hp : MessageAt m document p own)
    (hown : own.textAt? baseAttribute = some text) (text' : String) :
    basePointer? m (respelled document p text') = basePointer? m document := by
  refine funext (basePointer?_congr fun pointer => ?_)
  rw [Value.lookup, Value.lookup]
  cases Value.fragmentTokens? pointer with
  | none => rfl
  | some path => exact (changed_at? hp hown text' path).isSome_eq

/-- The base of each message is the same, given that it is for the one that spells it differently. -/
lemma get?_bases_respelled (hd : document.WellKeyed) (hp : MessageAt m document p own)
    (hown : own.textAt? baseAttribute = some text)
    (hsame : basePointer? m document text' = basePointer? m document text) (pointer : String) :
    (lineage m (respelled document p text')).bases.get? pointer =
      (lineage m document).bases.get? pointer := by
  have ho := wellKeyed_respelled hd hp text'
  cases hget : (lineage m document).messages.get? pointer with
  | none =>
    rw [get?_bases_of_get?_messages hget, get?_bases_of_get?_messages]
    rw [get?_messages_respelled hd hp, hget, Option.map_none]
  | some message =>
    obtain ⟨r, rfl, hr⟩ := exists_messageAt_of_get? hd hget
    rw [get?_bases hd hr, get?_bases ho (messageAt_respelled hd hp text' hr),
      basePointer?_respelled hp hown text']
    split
    · next he =>
      obtain rfl := Place.pointer_injective he
      obtain rfl := hp.unique hr
      rw [textAt?_naming, hown, Option.bind_some, Option.bind_some, hsame]
    · rfl

/-- A message names as its base a mapping around a place. -/
def NamesAround (m : Model) (document : Value) (p : Place) : Prop :=
  ∃ q message pointer path, MessageAt m document q message ∧
    (message.textAt? baseAttribute).bind (basePointer? m document) = some pointer ∧
    Value.fragmentTokens? pointer = some path ∧ path <+: p.tokens ∧ path ≠ p.tokens

/-- Whether a message does so, read off the table of messages. -/
lemma namesAround_iff (hd : document.WellKeyed) : NamesAround m document p ↔
    ∃ e ∈ messages m document, ∃ text ∈ e.2.textAt? baseAttribute,
      ∃ pointer ∈ basePointer? m document text, ∃ path ∈ Value.fragmentTokens? pointer,
        path <+: p.tokens ∧ path ≠ p.tokens := by
  constructor
  · rintro ⟨q, message, pointer, path, hq, hbase, hpath, haround⟩
    obtain ⟨text, htext, hpointer⟩ := Option.bind_eq_some_iff.1 hbase
    exact ⟨_, (mem_messages hd).2 ⟨q, message, hq, rfl⟩, text, htext, pointer, hpointer, path, hpath,
      haround⟩
  · rintro ⟨e, he, text, htext, pointer, hpointer, path, hpath, haround⟩
    obtain ⟨q, message, hq, rfl⟩ := (mem_messages hd).1 he
    exact ⟨q, message, pointer, path, hq, Option.bind_eq_some_iff.2 ⟨text, htext, hpointer⟩, hpath,
      haround⟩

section alike

variable (hd : document.WellKeyed) (hp : MessageAt m document p own)
  (hown : own.textAt? baseAttribute = some text)
  (hsame : basePointer? m document text' = basePointer? m document text)
include hd hp hown hsame

/-- Another spelling leaves all messages alike but for texts that name bases. -/
lemma alike_blot : Alike Fields.blot m document (respelled document p text') where
  has := has_respelled hd hp text'
  bases := get?_bases_respelled hd hp hown hsame
  completed pointer given given' _ _ hgiven := by
    have hblot : ((lineage m (respelled document p text')).own pointer).blot =
        ((lineage m document).own pointer).blot := by
      rw [own_respelled hd hp]
      split
      · next he => rw [he, own_lineage hd hp, blot_naming hown]
      · rfl
    rw [completed_blot, completed_blot, hblot, hgiven]
  message full full' hfull := by
    rw [← inheritable_blot, ← inheritable_blot, Value.blot_mapping, Value.blot_mapping, hfull]
  elsewhere pointer place _ := by
    rw [Value.lookup, Value.lookup]
    cases Value.fragmentTokens? place with
    | none => rfl
    | some path => exact (changed_at? hp hown text' path).map_blot hown

/-- Another spelling leaves all messages as they are unless one takes over what is around it. -/
lemma alike_id (hfree : ¬NamesAround m document p) :
    Alike id m document (respelled document p text') where
  has := has_respelled hd hp text'
  bases := get?_bases_respelled hd hp hown hsame
  completed pointer given given' hwell _ hgiven := by
    rw [Option.map_id, id_eq, id_eq] at hgiven
    rw [hgiven, own_respelled hd hp]
    split
    · next he => rw [he, own_lineage hd hp, completed_naming (hp.wellKeyed hd) hown text' hwell]
    · rfl
  message full full' hfull := by rw [show full' = full from hfull]
  elsewhere pointer place hplace := by
    rw [Value.lookup, Value.lookup]
    cases htokens : Value.fragmentTokens? place with
    | none => rfl
    | some path =>
      refine congrArg _ ((changed_at? hp hown text' path).eq_of_not_around (hp.wellKeyed hd) hown ?_)
      rintro ⟨hbefore, hne⟩
      obtain ⟨q, message, -, hq, hbase⟩ := exists_messageAt_of_get?_bases hd hplace
      exact hfree ⟨q, message, place, path, hq, hbase, htokens, hbefore, hne⟩

end alike

/-- All that a document with another spelling becomes is what its messages become. -/
lemma inherit_respelled_eq (hd : document.WellKeyed) (hp : MessageAt m document p own)
    (text' : String) : (respelled document p text').onMapping (inherit m) =
      document.onMapping (mapMessages m fun pointer _ =>
        (lineage m (respelled document p text')).resolved pointer) := by
  have ho := wellKeyed_respelled hd hp text'
  rw [onMapping_inherit]
  generalize (lineage m (respelled document p text')).resolved = resolved
  rw [respelled_eq hd hp] at ho ⊢
  exact onMapping_mapMessages_twice _ _ hd ho

/-- Two documents differ in how one message spells the place of its base. What becomes of them differs
in texts that name bases at most, and in nothing at all if no message names as its base a mapping around
the one that is spelled differently. -/
theorem inherit_respelled (m : Model) {document : Value} (hd : document.WellKeyed) {p q : Place}
    {own base : Fields} {text text' : String} (hp : MessageAt m document p own)
    (hq : MessageAt m document q base) (hplain : q.Plain)
    (hown : own.textAt? baseAttribute = some text) (h : Spells m document q text)
    (h' : Spells m document q text') :
    let after := document.onMapping (inherit m)
    let after' := (respelled document p text').onMapping (inherit m)
    after'.blot = after.blot ∧ (¬NamesAround m document p → after' = after) := by
  intro after after'
  have hsame : basePointer? m document text' = basePointer? m document text :=
    (h'.basePointer? hq hplain).trans (h.basePointer? hq hplain).symm
  have ho := wellKeyed_respelled hd hp text'
  have hafter' : after' = document.onMapping (mapMessages m fun pointer _ =>
      (lineage m (respelled document p text')).resolved pointer) := inherit_respelled_eq hd hp text'
  rw [hafter']
  exact ⟨(alike_blot hd hp hown hsame).blot_inherit hd ho,
    fun hfree => (alike_id hd hp hown hsame hfree).inherit_eq hd ho⟩

/-- A fragment with the name of a type, and the URL of a registry below a path. -/
theorem inherit_respelled_below_path :
    let m : Model := ⟨[⟨"messagegroups", "messagegroup", [⟨"messages", "message"⟩]⟩], .null⟩
    let p : Place := ⟨"messagegroups", "g", "d"⟩
    let base : Fields := [("protocol", .string "HTTP")]
    let own : Fields := [("basemessageurl", .string "#/messagegroups/g/messages/b:T.1")]
    let document : Value := .mapping [("messagegroups", .mapping [("g", .mapping [("messages",
      .mapping [("b", .mapping base), ("d", .mapping own)])])])]
    let url := "https://host/api/messagegroups/g/messages/b"
    document.WellKeyed ∧ MessageAt m (document.onMapping (inherit m)) p base ∧
      (respelled document p url).onMapping (inherit m) = document.onMapping (inherit m) := by
  intro m p base own document url
  let q : Place := ⟨"messagegroups", "g", "b"⟩
  have hd : document.WellKeyed := by
    simp [document, own, base, Value.WellKeyed, Value.WellKeyedFields, Table.keys]
  have hp : MessageAt m document p own := ⟨by decide, rfl⟩
  have hq : MessageAt m document q base := ⟨by decide, rfl⟩
  have hhost : Url.IsHost "host" ⟨"https", "", some "host", none, .segments [""], none, none⟩ :=
    ⟨by decide, by decide, by decide +kernel⟩
  have htyped : Spells m document q ("#/" ++ q.path ++ ":" ++ "T.1") :=
    .typed (by decide) (by decide : PlainName "T.1").chars rfl
  have hurl : Spells m document q (Url.hosted "host" (["api"] ++ q.tokens)) :=
    .url hhost (by decide) (by decide)
  have htext : "#/" ++ q.path ++ ":" ++ "T.1" = "#/messagegroups/g/messages/b:T.1" := by decide
  have hhosted : Url.hosted "host" (["api"] ++ q.tokens) = url := by decide
  rw [htext] at htyped
  rw [hhosted] at hurl
  have hfree : ¬NamesAround m document p := by
    rw [namesAround_iff hd]
    decide
  exact ⟨hd, ⟨by decide, by decide⟩,
    (inherit_respelled m hd hp hq (by decide) rfl htyped hurl).2 hfree⟩

/-- A message that takes over the mapping of all messages has in it what the others are written as:
where one of these spells its base differently, so does the copy. And a message that names its base by a
URL with a `#` behind it has the whole document instead of what the base has. -/
theorem inherit_not_respelled :
    let m := Model.standard
    let p : Place := ⟨"messagegroups", "g", "D"⟩
    let q : Place := ⟨"messagegroups", "g", "B"⟩
    let base : Fields := [("protocol", .string "HTTP")]
    let around : Fields := [("basemessageurl", .string "#/messagegroups/g/messages")]
    let spelled (text : String) : Fields := [("basemessageurl", .string text)]
    let document (others : Fields) (text : String) : Value := .mapping [("messagegroups", .mapping
      [("g", .mapping [("messages", .mapping
        ([("B", .mapping base), ("D", .mapping (spelled text))] ++ others))])])]
    let more := document [("E", .mapping around)]
    let fragment := "#/messagegroups/g/messages/B"
    let rooted := "/messagegroups/g/messages/B"
    let url := "https://r.example.com/messagegroups/g/messages/B"
    q.Plain ∧ MessageAt m (more fragment) q base ∧ MessageAt m (more fragment) p (spelled fragment) ∧
      Spells m (more fragment) q fragment ∧ Spells m (more fragment) q rooted ∧
      respelled (more fragment) p rooted = more rooted ∧
      (more rooted).onMapping (inherit m) ≠ (more fragment).onMapping (inherit m) ∧
      MessageAt m ((document [] url).onMapping (inherit m)) p base ∧
      MessageAt m ((document [] (url ++ "#")).onMapping (inherit m)) p
        (document [] (url ++ "#")).entries := by
  intro m p q base around spelled document more fragment rooted url
  have hfragment : "#/" ++ q.path = fragment := by decide
  have hrooted : "/" ++ q.path = rooted := by decide
  have hdiffer : (more rooted).onMapping (inherit m) ≠ (more fragment).onMapping (inherit m) := by
    decide +kernel
  have hurl : MessageAt m ((document [] url).onMapping (inherit m)) p base :=
    ⟨by decide, by decide +kernel⟩
  have hhash : MessageAt m ((document [] (url ++ "#")).onMapping (inherit m)) p
      (document [] (url ++ "#")).entries := ⟨by decide, by decide +kernel⟩
  exact ⟨by decide, ⟨by decide, rfl⟩, ⟨by decide, rfl⟩, hfragment ▸ .pointer, hrooted ▸ .rooted,
    by decide +kernel, hdiffer, hurl, hhash⟩

end Registry.Inheritance
