import Registry.Inheritance
import Registry.Proofs.SelectedChanges

/-!
# The places of messages

Where a document has messages, the pointers under which they are known, and what a change of every
message does to the document.
-/

namespace Registry.Inheritance

/-- Where a message can be: a group collection, a group in it, and the id of the message. -/
structure Place where
  plural : String
  groupId : String
  messageId : String
  deriving DecidableEq

namespace Place

def tokens (p : Place) : List String := [p.plural, p.groupId, collection, p.messageId]

/-- The pointer of a message at the place. -/
def pointer (p : Place) : String := pointerOf p.plural p.groupId p.messageId

lemma pointer_eq (p : Place) : p.pointer = Pointer.ofTokens p.tokens := rfl

lemma tokens_injective {p q : Place} (h : p.tokens = q.tokens) : p = q := by
  obtain ⟨plural, groupId, messageId⟩ := p
  simp only [tokens, List.cons.injEq] at h
  obtain ⟨rfl, rfl, -, rfl, -⟩ := h
  rfl

lemma pointer_injective {p q : Place} (h : p.pointer = q.pointer) : p = q :=
  tokens_injective (Pointer.ofTokens_injective h)

end Place

/-- A document has a message at a place: the group collection is one whose groups declare messages,
and there is a mapping. -/
def MessageAt (m : Model) (document : Value) (p : Place) (message : Fields) : Prop :=
  p.plural ∈ groupCollections m ∧ document.under p.tokens = some (.mapping message)

variable {m : Model} {document : Value} {p q : Place} {message : Fields}

lemma mem_groupCollections {plural : String} : plural ∈ groupCollections m ↔
    ∃ g ∈ m.groups, ∃ r ∈ g.resources, g.plural = plural ∧ r.plural = collection := by
  simp only [groupCollections, List.mem_map, List.mem_filter, GroupType.resource?,
    List.find?_isSome, beq_iff_eq]
  constructor
  · rintro ⟨g, ⟨hg, r, hr, hname⟩, rfl⟩
    exact ⟨g, hg, r, hr, rfl, hname⟩
  · rintro ⟨g, hg, r, hr, rfl, hname⟩
    exact ⟨g, ⟨hg, r, hr, hname⟩, rfl⟩

lemma MessageAt.unique {other : Fields} (h : MessageAt m document p message)
    (k : MessageAt m document p other) : message = other := by
  have he := h.2.symm.trans k.2
  exact Value.mapping.inj (Option.some.inj he)

lemma MessageAt.wellKeyed (h : MessageAt m document p message) (hd : document.WellKeyed) :
    message.WellKeyed :=
  Value.wellKeyed_at? hd (Value.at?_of_under h.2)

lemma MessageAt.lookup (h : MessageAt m document p message) :
    document.lookup p.pointer = some (.mapping message) := by
  rw [Place.pointer_eq, Value.lookup_ofTokens _ (by simp [Place.tokens])]
  exact Value.at?_of_under h.2

lemma mem_messagesOfGroup {plural groupId : String} {group : Value} (hg : group.WellKeyed)
    {e : String × Fields} :
    e ∈ messagesOfGroup plural groupId group ↔ ∃ id message,
      group.under [collection, id] = some (.mapping message) ∧
        e = (pointerOf plural groupId id, message) := by
  unfold messagesOfGroup
  constructor
  · intro he
    split at he
    · simp at he
    · next entries hentries =>
      obtain ⟨v, hv, hfields⟩ := Option.bind_eq_some_iff.1 hentries
      obtain rfl := Value.fields?_eq_some.1 hfields
      obtain ⟨⟨id, w⟩, hw, hmap⟩ := List.mem_filterMap.1 he
      obtain ⟨message, hmessage, rfl⟩ := Option.map_eq_some_iff.1 hmap
      obtain rfl := Value.fields?_eq_some.1 hmessage
      obtain ⟨fields, rfl, hget⟩ := Value.get?_eq_some.1 hv
      have hn : (Table.keys entries).Nodup := (Fields.WellKeyed.of_get? hg hget).1
      refine ⟨id, message, ?_, rfl⟩
      refine Value.under_cons_eq_some.2 ⟨fields, rfl, _, hget, ?_⟩
      exact Value.under_cons_eq_some.2 ⟨entries, rfl, _, Table.get?_of_mem hn hw, rfl⟩
  · rintro ⟨id, message, hunder, rfl⟩
    obtain ⟨fields, rfl, v, hv, hrest⟩ := Value.under_cons_eq_some.1 hunder
    obtain ⟨entries, rfl, w, hw, hend⟩ := Value.under_cons_eq_some.1 hrest
    obtain rfl := Option.some.inj hend
    have hentries : ((Value.mapping fields).get? collection).bind Value.fields? = some entries := by
      rw [Value.get?_eq_some.2 ⟨fields, rfl, hv⟩]
      rfl
    rw [hentries]
    exact List.mem_filterMap.2 ⟨(id, .mapping message), Table.mem_of_get? hw, rfl⟩

/-- The messages of a document are listed with the pointers of their places. -/
lemma mem_messages (hd : document.WellKeyed) {e : String × Fields} :
    e ∈ messages m document ↔ ∃ p message, MessageAt m document p message ∧
      e = (p.pointer, message) := by
  unfold messages
  rw [List.mem_flatMap]
  constructor
  · rintro ⟨plural, hplural, he⟩
    split at he
    · simp at he
    · next groups hgroups =>
      obtain ⟨v, hv, hfields⟩ := Option.bind_eq_some_iff.1 hgroups
      obtain rfl := Value.fields?_eq_some.1 hfields
      obtain ⟨fields, rfl, hget⟩ := Value.get?_eq_some.1 hv
      have hgroups : Fields.WellKeyed groups := Fields.WellKeyed.of_get? hd hget
      obtain ⟨⟨groupId, group⟩, hgroup, he⟩ := List.mem_flatMap.1 he
      obtain ⟨id, message, hunder, rfl⟩ := (mem_messagesOfGroup (hgroups.of_mem hgroup)).1 he
      refine ⟨⟨plural, groupId, id⟩, message, ⟨hplural, ?_⟩, rfl⟩
      refine Value.under_cons_eq_some.2 ⟨fields, rfl, _, hget, ?_⟩
      exact Value.under_cons_eq_some.2
        ⟨groups, rfl, _, Table.get?_of_mem hgroups.nodup hgroup, hunder⟩
  · rintro ⟨p, message, ⟨hplural, hunder⟩, rfl⟩
    refine ⟨p.plural, hplural, ?_⟩
    obtain ⟨fields, rfl, v, hv, hrest⟩ := Value.under_cons_eq_some.1 hunder
    obtain ⟨groups, rfl, group, hgroup, hrest⟩ := Value.under_cons_eq_some.1 hrest
    have hgroups : Fields.WellKeyed groups := Fields.WellKeyed.of_get? hd hv
    have hentries : ((Value.mapping fields).get? p.plural).bind Value.fields? = some groups := by
      rw [Value.get?_eq_some.2 ⟨fields, rfl, hv⟩]
      rfl
    rw [hentries]
    refine List.mem_flatMap.2 ⟨(p.groupId, group), Table.mem_of_get? hgroup, ?_⟩
    exact (mem_messagesOfGroup (hgroups.of_get? hgroup)).2 ⟨p.messageId, message, hrest, rfl⟩

/-- The message under a pointer is the one at its place. -/
theorem get?_messages (hd : document.WellKeyed) :
    (messages m document).get? p.pointer = some message ↔ MessageAt m document p message := by
  have hat : ∀ message, (p.pointer, message) ∈ messages m document ↔
      MessageAt m document p message := by
    intro message
    rw [mem_messages hd]
    constructor
    · rintro ⟨q, other, hq, he⟩
      rw [Prod.mk.injEq] at he
      rw [Place.pointer_injective he.1, he.2]
      exact hq
    · exact fun h => ⟨p, message, h, rfl⟩
  constructor
  · exact fun h => (hat message).1 (Table.mem_of_get? h)
  · intro h
    exact Table.get?_of_mem_of_unique ((hat message).2 h)
      fun other hother => ((hat other).1 hother).unique h

/-- What is listed under a pointer is a message at a place. -/
lemma exists_messageAt_of_get? (hd : document.WellKeyed) {pointer : String}
    (h : (messages m document).get? pointer = some message) :
    ∃ p : Place, pointer = p.pointer ∧ MessageAt m document p message := by
  obtain ⟨p, other, hp, he⟩ := (mem_messages hd).1 (Table.mem_of_get? h)
  rw [Prod.mk.injEq] at he
  exact ⟨p, he.1, he.2 ▸ hp⟩

lemma changeAt_eq_mapValues {fields : Fields} (hn : fields.keys.Nodup) (key : String)
    (alter : Fields → Fields) :
    (fields.changeAt key (fun inner (_ : Unit) => (alter inner, ())) ()).1 =
      fields.mapValues fun k v => if key = k then v.onMapping alter else v := by
  unfold Fields.changeAt
  split
  · next inner hget =>
    change fields.insert key (.mapping (alter inner)) = _
    rw [Table.insert_eq_mapValues hn (Table.mem_keys_of_get? hget)]
    refine Table.mapValues_congr fun e he => ?_
    split
    · next hk =>
      have hv := Table.get?_of_mem hn (show (e.1, e.2) ∈ fields from he)
      rw [← hk, hget, Option.some.injEq] at hv
      rw [← hv]
      rfl
    · rfl
  · next hother =>
    symm
    refine Table.mapValues_eq_self fun e he => ?_
    split
    · next hk =>
      have hv := Table.get?_of_mem hn (show (e.1, e.2) ∈ fields from he)
      rw [← hk] at hv
      cases hm : e.2 with
      | mapping inner => exact absurd (hm ▸ hv) (hother inner)
      | _ => rfl
    · rfl

lemma nodup_eraseDups (names : List String) : names.eraseDups.Nodup := by
  induction hn : names.length using Nat.strongRecOn generalizing names with
  | _ n ih =>
    cases names with
    | nil => simp
    | cons name names =>
      rw [List.eraseDups_cons, List.nodup_cons, List.mem_eraseDups]
      refine ⟨by simp, ih _ ?_ _ rfl⟩
      rw [← hn]
      exact Nat.lt_succ_of_le (List.length_filter_le _ _)

lemma foldl_changeAt {names : List String} (hnames : names.Nodup) {fields : Fields}
    (hn : fields.keys.Nodup) (alter : String → Fields → Fields) :
    names.foldl (fun fields name =>
        (fields.changeAt name (fun inner (_ : Unit) => (alter name inner, ())) ()).1) fields =
      fields.mapValues fun k v => if names.contains k then v.onMapping (alter k) else v := by
  induction names generalizing fields with
  | nil => exact (Table.mapValues_eq_self fun _ _ => by simp).symm
  | cons name names ih =>
    obtain ⟨hname, hnames⟩ := List.nodup_cons.1 hnames
    rw [List.foldl_cons, changeAt_eq_mapValues hn, ih hnames (by rwa [Table.keys_mapValues])]
    simp only [Table.mapValues, List.map_map]
    refine List.map_congr_left fun e _ => ?_
    by_cases hk : name = e.1
    · subst hk
      simp [hname]
    · simp [hk, Ne.symm hk]

/-- The keys on the way to a message, level by level. -/
def selections (m : Model) : List (String → Bool) :=
  [(groupCollections m).contains, fun _ => true, (collection == ·), fun _ => true]

lemma selected_iff {path : List String} :
    Value.Selected (selections m) path ↔ ∃ p : Place, p.plural ∈ groupCollections m ∧
      path = p.tokens := by
  constructor
  · intro h
    rcases h with _ | ⟨h₁, _ | ⟨-, _ | ⟨h₂, _ | ⟨-, _ | _⟩⟩⟩⟩
    next plural groupId key messageId =>
    refine ⟨⟨plural, groupId, messageId⟩, by simpa using h₁, ?_⟩
    rw [Place.tokens, beq_iff_eq.1 h₂]
  · rintro ⟨p, hp, rfl⟩
    simp [Value.Selected, selections, Place.tokens, hp]

/-- Changing every message is changing what the paths of selected keys lead to. -/
lemma mapMessages_eq_mapAlong (alter : String → Fields → Fields) {root : Fields}
    (hr : root.WellKeyed) :
    Value.mapping (mapMessages m alter root) = Value.mapAlong (selections m)
      (fun path v => v.onMapping (alter (Pointer.ofTokens path))) (.mapping root) := by
  unfold mapMessages
  rw [foldl_changeAt (nodup_eraseDups _) hr.nodup (fun plural groups =>
    groups.mapValues fun groupId group => group.onMapping fun group =>
      (group.changeAt collection (fun messages (_ : Unit) =>
        (messages.mapValues fun id message =>
          message.onMapping (alter (pointerOf plural groupId id)), ())) ()).1),
    selections, Value.mapAlong_mapping]
  refine congrArg Value.mapping (Table.mapValues_congr fun e he => ?_)
  have hknown : (groupCollections m).eraseDups.contains e.1 = (groupCollections m).contains e.1 := by
    simp
  rw [hknown]
  split
  case isFalse => rfl
  refine Value.onMapping_eq_mapAlong fun groups hgroups => Table.mapValues_congr fun g hg => ?_
  have hgroupsWell : groups.WellKeyed := (hr.of_mem he).fields (Value.fields?_eq_some.2 hgroups)
  rw [if_pos rfl]
  refine Value.onMapping_eq_mapAlong fun group hgroup => ?_
  have hgroupWell : group.WellKeyed :=
    (hgroupsWell.of_mem hg).fields (Value.fields?_eq_some.2 hgroup)
  rw [changeAt_eq_mapValues hgroupWell.nodup collection]
  refine Table.mapValues_congr fun c hc => ?_
  by_cases hk : collection = c.1
  · rw [if_pos hk, if_pos (beq_iff_eq.2 hk), ← hk]
    refine Value.onMapping_eq_mapAlong fun messages _ => Table.mapValues_congr fun e _ => ?_
    rfl
  · rw [if_neg hk, if_neg (by simpa using hk)]

section alter

variable (alter : String → Fields → Fields)

lemma onMapping_mapMessages (hd : document.WellKeyed) :
    document.onMapping (mapMessages m alter) = Value.mapAlong (selections m)
      (fun path v => v.onMapping (alter (Pointer.ofTokens path))) document := by
  cases document with
  | mapping root => exact mapMessages_eq_mapAlong alter hd
  | _ => rfl

lemma under_onMapping_mapMessages (hd : document.WellKeyed) (hp : p.plural ∈ groupCollections m) :
    (document.onMapping (mapMessages m alter)).under p.tokens =
      (document.under p.tokens).map (·.onMapping (alter p.pointer)) := by
  rw [onMapping_mapMessages alter hd, Value.under_mapAlong (selected_iff.2 ⟨p, hp, rfl⟩)]
  rfl

/-- A message is still at its place, changed. -/
theorem MessageAt.altered (hd : document.WellKeyed) (h : MessageAt m document p message) :
    MessageAt m (document.onMapping (mapMessages m alter)) p (alter p.pointer message) := by
  refine ⟨h.1, ?_⟩
  rw [under_onMapping_mapMessages alter hd h.1, h.2]
  rfl

/-- There are no messages but the changed ones. -/
theorem MessageAt.of_altered (hd : document.WellKeyed) {altered : Fields}
    (h : MessageAt m (document.onMapping (mapMessages m alter)) p altered) :
    ∃ message, MessageAt m document p message ∧ altered = alter p.pointer message := by
  have hu := h.2
  rw [under_onMapping_mapMessages alter hd h.1, Option.map_eq_some_iff] at hu
  obtain ⟨v, hv, hmapping⟩ := hu
  cases v with
  | mapping message => exact ⟨message, ⟨h.1, hv⟩, (Value.mapping.inj hmapping).symm⟩
  | _ => simp [Value.onMapping] at hmapping

/-- Outside the messages nothing changes. -/
theorem sameBut_mapMessages (hd : document.WellKeyed) :
    Value.SameBut (fun path => ∃ p message, MessageAt m document p message ∧ path = p.tokens)
      document (document.onMapping (mapMessages m alter)) := by
  have hsame : Value.SameBut _ document (document.onMapping (mapMessages m alter)) :=
    onMapping_mapMessages alter hd ▸ Value.sameBut_mapAlong hd fun path v hv => by
      cases v with
      | mapping => simp [Value.isMapping, Value.fields?] at hv
      | _ => rfl
  have htouched : ∀ path, (∃ p message, MessageAt m document p message ∧ path = p.tokens) ↔
      Value.Selected (selections m) path ∧
        ∃ message, document.under path = some (.mapping message) := by
    intro path
    rw [selected_iff]
    constructor
    · rintro ⟨p, message, ⟨hp, hu⟩, rfl⟩
      exact ⟨⟨p, hp, rfl⟩, message, hu⟩
    · rintro ⟨⟨p, hp, rfl⟩, message, hu⟩
      exact ⟨p, message, ⟨hp, hu⟩, rfl⟩
  rwa [funext fun path => propext (htouched path)]

variable {alter}

/-- A change counts by what it does to the messages. -/
lemma onMapping_mapMessages_congr {alter' : String → Fields → Fields} (hd : document.WellKeyed)
    (h : ∀ p message, MessageAt m document p message →
      alter p.pointer message = alter' p.pointer message) :
    document.onMapping (mapMessages m alter) = document.onMapping (mapMessages m alter') := by
  rw [onMapping_mapMessages alter hd, onMapping_mapMessages alter' hd]
  refine Value.mapAlong_congr hd fun path v hpath hv => ?_
  obtain ⟨p, hp, rfl⟩ := selected_iff.1 hpath
  cases v with
  | mapping message => exact congrArg Value.mapping (h p message ⟨hp, hv⟩)
  | _ => rfl

lemma onMapping_mapMessages_id (hd : document.WellKeyed) :
    document.onMapping (mapMessages m fun _ message => message) = document := by
  rw [onMapping_mapMessages _ hd]
  refine Value.mapAlong_eq_self hd fun path v _ _ => ?_
  cases v <;> rfl

/-- If no message changes, nothing does. -/
lemma onMapping_mapMessages_eq_self (alter : String → Fields → Fields) (hd : document.WellKeyed)
    (h : ∀ p message, MessageAt m document p message → alter p.pointer message = message) :
    document.onMapping (mapMessages m alter) = document :=
  (onMapping_mapMessages_congr hd h).trans (onMapping_mapMessages_id hd)

/-- Changing one message once all of them have been changed is changing that one differently. -/
lemma modify_onMapping_mapMessages (hd : document.WellKeyed) (h : MessageAt m document p message)
    (change : Fields → Fields) {g : Value → Value}
    (hg : ∀ fields, g (.mapping fields) = .mapping (change fields)) :
    (document.onMapping (mapMessages m alter)).modify p.pointer g =
      document.onMapping (mapMessages m fun pointer other =>
        if pointer = p.pointer then change (alter pointer other) else alter pointer other) := by
  rw [Value.modify, Place.pointer_eq, Value.fragmentTokens?_ofTokens (by simp [Place.tokens])]
  change (document.onMapping (mapMessages m alter)).modifyAt _ p.tokens = _
  rw [onMapping_mapMessages _ hd, onMapping_mapMessages _ hd,
    Value.modifyAt_mapAlong _ hd (selected_iff.2 ⟨p, h.1, rfl⟩) h.2]
  refine Value.mapAlong_congr hd fun path v hpath hv => ?_
  obtain ⟨q, -, rfl⟩ := selected_iff.1 hpath
  by_cases hq : q.tokens = p.tokens
  · rw [hq, h.2] at hv
    obtain rfl := Option.some.inj hv
    simp only [hq, if_true]
    exact hg _
  · have hne : ¬Pointer.ofTokens q.tokens = Pointer.ofTokens p.tokens :=
      fun he => hq (Pointer.ofTokens_injective he)
    simp only [hq, hne, if_false]

/-- Changing every message twice is changing every message once. -/
lemma onMapping_mapMessages_twice (alter alter' : String → Fields → Fields) (hd : document.WellKeyed)
    (hd' : (document.onMapping (mapMessages m alter)).WellKeyed) :
    (document.onMapping (mapMessages m alter)).onMapping (mapMessages m alter') =
      document.onMapping (mapMessages m fun pointer message =>
        alter' pointer (alter pointer message)) := by
  rw [onMapping_mapMessages alter' hd', onMapping_mapMessages alter hd, onMapping_mapMessages _ hd,
    Value.mapAlong_mapAlong]
  refine Value.mapAlong_congr hd fun path v _ _ => ?_
  cases v <;> rfl

lemma wellKeyed_mapMessages (hd : document.WellKeyed)
    (h : ∀ pointer message, message.WellKeyed → (alter pointer message).WellKeyed) :
    (document.onMapping (mapMessages m alter)).WellKeyed := by
  rw [onMapping_mapMessages alter hd]
  refine Value.wellKeyed_mapAlong hd fun path v hv => ?_
  cases v with
  | mapping fields => exact h _ fields hv
  | _ => exact hv

/-- The messages that are listed after a change are the changed ones. -/
lemma get?_messages_mapMessages (hd : document.WellKeyed)
    (hd' : (document.onMapping (mapMessages m alter)).WellKeyed) (pointer : String) :
    (messages m (document.onMapping (mapMessages m alter))).get? pointer =
      ((messages m document).get? pointer).map (alter pointer) := by
  cases hget : (messages m document).get? pointer with
  | some message =>
    obtain ⟨p, rfl, hp⟩ := exists_messageAt_of_get? hd hget
    exact (get?_messages hd').2 (hp.altered alter hd)
  | none =>
    refine Option.eq_none_iff_forall_ne_some.2 fun altered haltered => ?_
    obtain ⟨p, rfl, hp⟩ := exists_messageAt_of_get? hd' haltered
    obtain ⟨message, hmessage, -⟩ := hp.of_altered alter hd
    rw [(get?_messages hd).2 hmessage] at hget
    cases hget

end alter

end Registry.Inheritance
