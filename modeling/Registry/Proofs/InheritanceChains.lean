import Registry.Proofs.LineageCycles
import Registry.Proofs.MessagePlaces

/-!
# Inheritance along a chain

A message that names another one by the fragment of its place takes over what that one has in the
end, without its id; so does every message of a chain. What a chain gives depends on nothing but the
messages in it.
-/

namespace Registry.Inheritance

open Text

variable {m : Model} {document : Value} {p q : Place} {message : Fields}

/-- Whether a text ends in a blank, which a reference at its end would lose. -/
def EndsBlank (s : String) : Prop := s.toList.getLast?.any isBlank = true

instance (s : String) : Decidable (EndsBlank s) := inferInstanceAs (Decidable (_ = true))

/-- A message names the one at a place by the fragment of its pointer. -/
def Names (message : Fields) (q : Place) : Prop :=
  message.textAt? baseAttribute = some ("#" ++ q.pointer) ∧ ¬EndsBlank q.messageId

instance (message : Fields) (q : Place) : Decidable (Names message q) :=
  inferInstanceAs (Decidable (_ ∧ _))

/-- Escaping a token that does not end in a blank gives a text that does not. -/
lemma not_isBlank_of_getLast?_escapeChars {cs : List Char} {c : Char}
    (h : (Pointer.escapeChars cs).getLast? = some c)
    (hcs : ∀ c, cs.getLast? = some c → isBlank c = false) : isBlank c = false := by
  induction cs with
  | nil => simp [Pointer.escapeChars] at h
  | cons d cs ih =>
    rw [Pointer.escapeChars, List.getLast?_append] at h
    cases hl : (Pointer.escapeChars cs).getLast? with
    | some e =>
      rw [hl, Option.some_or] at h
      refine ih (hl.trans h) fun c hc => hcs c ?_
      rw [List.getLast?_cons, hc]
      rfl
    | none =>
      have hnil : cs = [] := by
        cases cs with
        | nil => rfl
        | cons e cs =>
          rw [List.getLast?_eq_none_iff, Pointer.escapeChars] at hl
          split at hl
          · simp at hl
          · split at hl <;> simp at hl
      subst hnil
      rw [hl, Option.none_or] at h
      split at h
      · obtain rfl := Option.some.inj h
        decide
      · split at h
        · obtain rfl := Option.some.inj h
          decide
        · obtain rfl := Option.some.inj h
          exact hcs d rfl

lemma toList_pointer (q : Place) : ∃ front : List Char,
    q.pointer.toList = front ++ '/' :: Pointer.escapeChars q.messageId.toList ∧
      ∃ cs, q.pointer.toList = '/' :: cs := by
  refine ⟨("/" ++ Pointer.escape q.plural ++ ("/" ++ Pointer.escape q.groupId ++
    ("/" ++ Pointer.escape collection))).toList, ?_, ?_⟩
  · simp [Place.pointer, pointerOf, Pointer.ofTokens, Pointer.escape]
  · rw [Place.pointer_eq, Place.tokens, Pointer.toList_ofTokens_cons]
    exact ⟨_, rfl⟩

lemma trim_fragment (hq : ¬EndsBlank q.messageId) : trim ("#" ++ q.pointer) = "#" ++ q.pointer := by
  obtain ⟨front, hfront, -⟩ := toList_pointer q
  have hs : ("#" ++ q.pointer).toList = '#' :: q.pointer.toList := by
    rw [String.toList_append]
    rfl
  cases hl : (Pointer.escapeChars q.messageId.toList).getLast? with
  | none =>
    refine trim_of_ends hs (by decide) '/' ?_ (by decide)
    rw [hs, hfront, List.getLast?_eq_none_iff.1 hl, ← List.cons_append, List.getLast?_append]
    rfl
  | some c =>
    refine trim_of_ends hs (by decide) c ?_ ?_
    · rw [hs, hfront, ← List.cons_append, List.getLast?_append, List.getLast?_cons, hl]
      rfl
    · refine not_isBlank_of_getLast?_escapeChars hl fun c hc => ?_
      rw [EndsBlank, hc] at hq
      simpa using hq

lemma cutAt?_hash (fragment : String) : cutAt? '#' ("#" ++ fragment) = some ("", fragment) := by
  have hs : ("#" ++ fragment).toList = '#' :: fragment.toList := by
    rw [String.toList_append]
    rfl
  rw [cutAt?, hs, cut?, if_pos rfl, Option.map_some, String.ofList_toList]

/-- A fragment that names the pointer of a message is read as that pointer. -/
lemma basePointer?_of_ofFragment {fragment : String} (h : MessageAt m document q message)
    (htrim : trim ("#" ++ fragment) = "#" ++ fragment)
    (hread : Pointer.ofFragment fragment = q.pointer) :
    basePointer? m document ("#" ++ fragment) = some q.pointer := by
  have hwhole : wholeFragment? document ("#" ++ fragment) = some q.pointer := by
    unfold wholeFragment?
    rw [htrim, cutAt?_hash]
    simp only [Option.bind_eq_bind, Option.bind_some, hread, h.lookup]
    rfl
  rw [basePointer?, hwhole]

/-- The fragment of a message's place is read as its pointer. -/
theorem basePointer?_fragment (h : MessageAt m document q message)
    (hq : ¬EndsBlank q.messageId) :
    basePointer? m document ("#" ++ q.pointer) = some q.pointer := by
  refine basePointer?_of_ofFragment h (trim_fragment hq) ?_
  rw [Place.pointer_eq]
  exact Pointer.ofFragment_ofTokens (by simp [Place.tokens])

section lineage

variable (m document)

/-- The messages of a document and the bases that they name. -/
abbrev lineage : Lineage := Lineage.ofDocument m document

variable {m document}

lemma own_lineage (hd : document.WellKeyed) (h : MessageAt m document p message) :
    (lineage m document).own p.pointer = message := by
  have hget : (lineage m document).messages.get? p.pointer = some message :=
    (get?_messages hd).2 h
  rw [Lineage.own, hget, Option.getD_some]

lemma has_lineage (hd : document.WellKeyed) (h : MessageAt m document p message) :
    (lineage m document).messages.has p.pointer = true := by
  have hget : (lineage m document).messages.get? p.pointer = some message :=
    (get?_messages hd).2 h
  rw [Table.has, hget]
  rfl

lemma get?_bases (hd : document.WellKeyed) (h : MessageAt m document p message) :
    (lineage m document).bases.get? p.pointer =
      (message.textAt? baseAttribute).bind (basePointer? m document) := by
  have hmem : ∀ base, (p.pointer, base) ∈ (lineage m document).bases ↔
      (message.textAt? baseAttribute).bind (basePointer? m document) = some base := by
    intro base
    have hat : (p.pointer, message) ∈ messages m document := Table.mem_of_get? ((get?_messages hd).2 h)
    constructor
    · intro hb
      obtain ⟨⟨pointer, other⟩, hother, hmap⟩ := List.mem_filterMap.1 hb
      obtain ⟨base', hbase, he⟩ := Option.map_eq_some_iff.1 hmap
      obtain ⟨q, other', hq, he'⟩ := (mem_messages hd).1 hother
      rw [Prod.mk.injEq] at he he'
      obtain rfl := Place.pointer_injective (he'.1.symm.trans he.1)
      rw [h.unique hq, ← he'.2, hbase, he.2]
    · intro hb
      exact List.mem_filterMap.2 ⟨_, hat, by simp only [hb, Option.map_some]⟩
  cases hb : (message.textAt? baseAttribute).bind (basePointer? m document) with
  | some base =>
    refine Table.get?_of_mem_of_unique ((hmem base).2 hb) fun other hother => ?_
    have ho := (hmem other).1 hother
    rw [hb] at ho
    exact (Option.some.inj ho).symm
  | none =>
    rw [Table.get?_eq_none_iff]
    intro hk
    obtain ⟨⟨pointer, base⟩, he, rfl⟩ := List.mem_map.1 hk
    have ho := (hmem base).1 he
    rw [hb] at ho
    exact absurd ho (by simp)

/-- What is no message names no base. -/
lemma get?_bases_of_get?_messages {pointer : String}
    (h : (lineage m document).messages.get? pointer = none) :
    (lineage m document).bases.get? pointer = none := by
  rw [Table.get?_eq_none_iff] at h ⊢
  intro hk
  obtain ⟨⟨_, base⟩, he, rfl⟩ := List.mem_map.1 hk
  obtain ⟨⟨other, message⟩, hm, hmap⟩ := List.mem_filterMap.1 he
  obtain ⟨_, -, heq⟩ := Option.map_eq_some_iff.1 hmap
  obtain ⟨rfl, -⟩ := Prod.mk.inj heq
  exact h (Table.mem_keys_of_mem hm)

lemma exists_messageAt_of_get?_bases (hd : document.WellKeyed) {pointer place : String}
    (h : (lineage m document).bases.get? pointer = some place) :
    ∃ q message, pointer = q.pointer ∧ MessageAt m document q message ∧
      (message.textAt? baseAttribute).bind (basePointer? m document) = some place := by
  cases hget : (lineage m document).messages.get? pointer with
  | none =>
    rw [get?_bases_of_get?_messages hget] at h
    cases h
  | some message =>
    obtain ⟨q, rfl, hq⟩ := exists_messageAt_of_get? hd hget
    exact ⟨q, message, rfl, hq, (get?_bases hd hq).symm.trans h⟩

/-- The reference of a message to its base reads as the pointer of a place, however it is spelled. -/
def Points (m : Model) (document : Value) (message : Fields) (q : Place) : Prop :=
  (message.textAt? baseAttribute).bind (basePointer? m document) = some q.pointer

lemma Names.points (hn : Names message q) {other : Fields} (hq : MessageAt m document q other) :
    Points m document message q := by
  rw [Points, hn.1, Option.bind_some, basePointer?_fragment hq hn.2]

lemma Points.isParent (hd : document.WellKeyed) (hp : MessageAt m document p message)
    (h : Points m document message q) {other : Fields} (hq : MessageAt m document q other) :
    (lineage m document).IsParent p.pointer q.pointer :=
  Lineage.parent?_eq_some.2 ⟨(get?_bases hd hp).trans h, has_lineage hd hq⟩

lemma get?_bases_of_textAt?_eq_none (hd : document.WellKeyed) (h : MessageAt m document p message)
    (hn : message.textAt? baseAttribute = none) :
    (lineage m document).bases.get? p.pointer = none := by
  rw [get?_bases hd h, hn]
  rfl

lemma onMapping_inherit (m : Model) (document : Value) :
    document.onMapping (inherit m) =
      document.onMapping (mapMessages m fun pointer _ => (lineage m document).resolved pointer) := by
  cases document <;> simp only [Value.onMapping, inherit]

end lineage

/-- What the first of some messages has if each one names the next as its base. -/
def inherited : List Fields → Fields
  | [] => []
  | [last] => last.swapErase baseAttribute
  | message :: rest =>
    (message.merge ((inherited rest).swapErase idAttribute)).swapErase baseAttribute

lemma inherited_cons (message : Fields) {rest : List Fields} (h : rest ≠ []) :
    inherited (message :: rest) =
      (message.merge ((inherited rest).swapErase idAttribute)).swapErase baseAttribute := by
  cases rest with
  | nil => exact absurd rfl h
  | cons => rfl

lemma wellKeyed_inherited {line : List Fields} (h : ∀ message ∈ line, message.WellKeyed) :
    (inherited line).WellKeyed := by
  induction line with
  | nil => exact Fields.wellKeyed_nil
  | cons message rest ih =>
    obtain ⟨hm, hr⟩ := List.forall_mem_cons.1 h
    by_cases hrest : rest = []
    · rw [hrest]
      exact hm.swapErase _
    · rw [inherited_cons message hrest]
      exact (hm.merge ((ih hr).swapErase _)).swapErase _

lemma get?_inherited_base {line : List Fields} (h : ∀ message ∈ line, message.WellKeyed) :
    (inherited line).get? baseAttribute = none := by
  cases line with
  | nil => rfl
  | cons message rest =>
    obtain ⟨hm, hr⟩ := List.forall_mem_cons.1 h
    by_cases hrest : rest = []
    · rw [hrest]
      exact (Table.get?_swapErase hm.nodup _ _).trans (if_pos rfl)
    · rw [inherited_cons message hrest]
      have hmerge := hm.merge ((wellKeyed_inherited hr).swapErase idAttribute)
      exact (Table.get?_swapErase hmerge.nodup _ _).trans (if_pos rfl)

lemma swapErase_base_inherited {line : List Fields} (h : ∀ message ∈ line, message.WellKeyed) :
    (inherited line).swapErase baseAttribute = inherited line :=
  Table.swapErase_of_not_mem (Table.get?_eq_none_iff.1 (get?_inherited_base h))

/-- An attribute that no message of a chain has is not there in the end. -/
lemma get?_inherited_eq_none {line : List Fields} (h : ∀ message ∈ line, message.WellKeyed)
    {key : String} (hk : ∀ message ∈ line, message.get? key = none) :
    (inherited line).get? key = none := by
  induction line with
  | nil => rfl
  | cons message rest ih =>
    obtain ⟨hm, hr⟩ := List.forall_mem_cons.1 h
    obtain ⟨hkm, hkr⟩ := List.forall_mem_cons.1 hk
    have herase : ∀ {fields : Fields}, fields.WellKeyed → fields.get? key = none → ∀ other,
        (fields.swapErase other).get? key = none := by
      intro fields hf hn other
      rw [Table.get?_swapErase hf.nodup, hn]
      exact ite_self _
    by_cases hrest : rest = []
    · rw [hrest]
      exact herase hm hkm _
    · rw [inherited_cons message hrest]
      have hbase := (wellKeyed_inherited hr).swapErase idAttribute
      refine herase (hm.merge hbase) ?_ _
      rw [Fields.get?_merge_of_none hkm]
      exact herase (wellKeyed_inherited hr) (ih hr hkr) _

/-- The first message of a chain keeps its id, or has none. -/
lemma get?_inherited_id {message : Fields} {rest : List Fields} (hm : message.WellKeyed)
    (hr : ∀ message ∈ rest, message.WellKeyed) :
    (inherited (message :: rest)).get? idAttribute = message.get? idAttribute := by
  have hne : idAttribute ≠ baseAttribute := by decide
  by_cases hrest : rest = []
  · rw [hrest]
    exact (Table.get?_swapErase hm.nodup _ _).trans (if_neg hne)
  · have hbase := (wellKeyed_inherited hr).swapErase idAttribute
    have hnone : Table.get? ((inherited rest).swapErase idAttribute) idAttribute = none :=
      (Table.get?_swapErase (wellKeyed_inherited hr).nodup _ _).trans (if_pos rfl)
    rw [inherited_cons message hrest, Table.get?_swapErase (hm.merge hbase).nodup, if_neg hne,
      Fields.get?_merge, hnone]
    cases message.get? idAttribute <;> rfl

lemma under_swapErase {fields : Fields} (hf : fields.WellKeyed) {erased key : String}
    (h : key ≠ erased) (path : List String) :
    (Value.mapping (fields.swapErase erased)).under (key :: path) =
      (Value.mapping fields).under (key :: path) := by
  rw [Value.under_mapping_cons, Value.under_mapping_cons, Table.get?_swapErase hf.nodup, if_neg h]

/-- What is no mapping in a message of a chain stands against all messages after it, and is taken
over wherever the messages before it leave room. -/
lemma under_inherited {before after : List Fields} {message : Fields}
    (h : ∀ other ∈ before ++ message :: after, other.WellKeyed) {key : String}
    {path : List String} {x : Value} (hbase : key ≠ baseAttribute)
    (hid : before = [] ∨ key ≠ idAttribute)
    (hx : (Value.mapping message).under (key :: path) = some x) (hm : x.isMapping = false)
    (hopen : ∀ other ∈ before, (Value.mapping other).Open (key :: path)) :
    (Value.mapping (inherited (before ++ message :: after))).under (key :: path) = some x := by
  induction before with
  | nil =>
    obtain ⟨hmessage, hafter⟩ := List.forall_mem_cons.1 h
    by_cases hnil : after = []
    · rw [hnil, List.nil_append, inherited, under_swapErase hmessage hbase, hx]
    · have hrest := (wellKeyed_inherited hafter).swapErase idAttribute
      obtain ⟨b, hb⟩ := Value.under_merge_of_some
        (.mapping ((inherited after).swapErase idAttribute)) hx
      rw [Value.merge_of_not_isMapping hm, Value.merge_mapping] at hb
      rw [List.nil_append, inherited_cons message hnil,
        under_swapErase (hmessage.merge hrest) hbase, hb]
  | cons other before ih =>
    rw [List.cons_append] at h
    obtain ⟨hother, hrest⟩ := List.forall_mem_cons.1 h
    obtain ⟨hroom, hopen⟩ := List.forall_mem_cons.1 hopen
    have hid : key ≠ idAttribute := hid.resolve_left (by simp)
    have hbelow := ih hrest (.inr hid) hopen
    have hwell := wellKeyed_inherited hrest
    rw [← under_swapErase hwell hid] at hbelow
    have hmerge := (Value.under_merge_of_open hroom _).trans hbelow
    rw [Value.merge_mapping] at hmerge
    rw [List.cons_append, inherited_cons other (by simp),
      under_swapErase (hother.merge (hwell.swapErase _)) hbase, hmerge]

/-- Messages at places of a document, each of which names the next one as its base. -/
structure IsLine (m : Model) (document : Value) (line : List (Place × Fields)) : Prop where
  messages : ∀ e ∈ line, MessageAt m document e.1 e.2
  names : line.IsChain fun e next => Names e.2 next.1

variable {first : Place × Fields} {rest : List (Place × Fields)}

lemma IsLine.tail {line : List (Place × Fields)} (h : IsLine m document (first :: line)) :
    IsLine m document line :=
  ⟨fun e he => h.messages e (List.mem_cons_of_mem _ he), h.names.tail⟩

/-- The message at a place names the one at another place. -/
def Links (m : Model) (document : Value) (p q : Place) : Prop :=
  ∃ message other, MessageAt m document p message ∧ Names message q ∧ MessageAt m document q other

lemma isParent_of_links (hd : document.WellKeyed) (h : Links m document p q) :
    (lineage m document).IsParent p.pointer q.pointer := by
  obtain ⟨message, other, hp, hn, hq⟩ := h
  exact (hn.points hq).isParent hd hp hq

lemma IsLine.links {second : Place × Fields} (h : IsLine m document (first :: second :: rest)) :
    Links m document first.1 second.1 :=
  ⟨first.2, second.2, h.messages first List.mem_cons_self, (List.isChain_cons_cons.1 h.names).1,
    h.messages second (List.mem_cons_of_mem _ List.mem_cons_self)⟩

/-- Every message of a line leads to the last one. -/
lemma IsLine.reflTransGen {last : Place × Fields} (h : IsLine m document (first :: rest))
    (hl : (first :: rest).getLast? = some last) {e : Place × Fields} (he : e ∈ first :: rest) :
    Relation.ReflTransGen (Links m document) e.1 last.1 := by
  induction rest generalizing first e with
  | nil =>
    rw [List.getLast?_singleton, Option.some.injEq] at hl
    rw [List.mem_singleton.1 he, hl]
  | cons second rest ih =>
    rw [List.getLast?_cons_cons] at hl
    rcases List.mem_cons.1 he with rfl | he
    · exact .head h.links (ih h.tail hl List.mem_cons_self)
    · exact ih h.tail hl he

lemma inheritable_mapping {fields : Fields} (h : fields.get? "versions" = none) :
    Lineage.inheritable (.mapping fields) =
      some ((fields.swapErase baseAttribute).swapErase idAttribute) := by
  have hversions : (Value.mapping fields).latestVersion? = none := by
    have hget : (Value.mapping fields).get? "versions" = none := h
    rw [Value.latestVersion?, hget]
    rfl
  rw [Lineage.inheritable, hversions]
  rfl

/-- A line whose last message stands for itself gives its first message what the line gives. -/
lemma IsLine.resolved (hd : document.WellKeyed) (h : IsLine m document (first :: rest))
    (hv : ∀ e ∈ first :: rest, e.2.get? "versions" = none)
    (hfree : ∀ e ∈ (first :: rest).dropLast, (lineage m document).isCyclic e.1.pointer = false)
    (hlast : ∀ last, (first :: rest).getLast? = some last →
      (lineage m document).resolved last.1.pointer = last.2.swapErase baseAttribute) :
    (lineage m document).resolved first.1.pointer =
      inherited ((first :: rest).map Prod.snd) := by
  induction rest generalizing first with
  | nil => exact hlast first rfl
  | cons second rest ih =>
    have hfirst := h.messages first List.mem_cons_self
    have hsecond : (lineage m document).resolved second.1.pointer =
        inherited ((second :: rest).map Prod.snd) := by
      refine ih h.tail (fun e he => hv e (List.mem_cons_of_mem _ he)) (fun e he => ?_)
        fun last hl => hlast last (by rwa [List.getLast?_cons_cons])
      exact hfree e (List.mem_cons_of_mem _ he)
    have hwell : ∀ message ∈ (second :: rest).map Prod.snd, message.WellKeyed := by
      intro message hm
      obtain ⟨e, he, rfl⟩ := List.mem_map.1 hm
      exact (h.messages e (List.mem_cons_of_mem _ he)).wellKeyed hd
    have hplain : (inherited ((second :: rest).map Prod.snd)).get? "versions" = none := by
      refine get?_inherited_eq_none hwell fun message hm => ?_
      obtain ⟨e, he, rfl⟩ := List.mem_map.1 hm
      exact hv e (List.mem_cons_of_mem _ he)
    have htaken : (lineage m document).taken? (lineage m document).resolved first.1.pointer =
        some ((inherited ((second :: rest).map Prod.snd)).swapErase idAttribute) := by
      obtain ⟨hbase, hhas⟩ := Lineage.parent?_eq_some.1 (isParent_of_links hd h.links)
      rw [Lineage.taken?, hfree first List.mem_cons_self, if_neg (by decide), hbase,
        Option.bind_some, if_pos hhas, Option.bind_some, hsecond, inheritable_mapping hplain,
        swapErase_base_inherited hwell]
    rw [Lineage.resolved_eq (has_lineage hd hfirst), htaken, own_lineage hd hfirst]
    rfl

/-- What a message takes over is what stands at its place in the end. -/
lemma MessageAt.inherit (hd : document.WellKeyed) (h : MessageAt m document p message)
    {full : Fields} (hf : (lineage m document).resolved p.pointer = full) :
    MessageAt m (document.onMapping (inherit m)) p full := by
  have hat := h.altered (fun pointer _ => (lineage m document).resolved pointer) hd
  rw [onMapping_inherit]
  exact hf ▸ hat

lemma get?_bases_of_get?_base (hd : document.WellKeyed) (h : MessageAt m document p message)
    (hn : message.get? baseAttribute = none) : (lineage m document).bases.get? p.pointer = none := by
  refine get?_bases_of_textAt?_eq_none hd h ?_
  rw [Fields.textAt?, hn]
  rfl

/-- A message that names no base stands for itself. -/
lemma resolved_of_get?_bases (hd : document.WellKeyed) (h : MessageAt m document p message)
    (hbase : (lineage m document).bases.get? p.pointer = none) :
    (lineage m document).resolved p.pointer = message.swapErase baseAttribute := by
  rw [Lineage.resolved_eq (has_lineage hd h), Lineage.taken?, hbase, Option.bind_none, ite_self,
    own_lineage hd h]
  rfl

/-- No message of a line that ends lies on a cycle. -/
lemma IsLine.not_isCyclic (hd : document.WellKeyed) (h : IsLine m document (first :: rest))
    (hbases : ∀ last, (first :: rest).getLast? = some last →
      (lineage m document).bases.get? last.1.pointer = none)
    {e : Place × Fields} (he : e ∈ first :: rest) :
    (lineage m document).isCyclic e.1.pointer = false := by
  obtain ⟨last, hl⟩ : ∃ last, (first :: rest).getLast? = some last :=
    ⟨_, List.getLast?_eq_some_getLast (by simp)⟩
  exact Lineage.isCyclic_eq_false_of_leads
    ((h.reflTransGen hl he).lift Place.pointer fun _ _ => isParent_of_links hd) (hbases last hl)

/-- The first message of a line that ends in one without a base has, in the end, what the line
gives. It keeps its own id; and what is no mapping in a message of the line stands against all
messages after it. -/
theorem inherit_along_line (m : Model) {document : Value} (hd : document.WellKeyed)
    {first : Place × Fields} {rest : List (Place × Fields)}
    (h : IsLine m document (first :: rest))
    (hv : ∀ e ∈ first :: rest, e.2.get? "versions" = none)
    (hend : ∀ last, (first :: rest).getLast? = some last → last.2.get? baseAttribute = none) :
    let message := inherited ((first :: rest).map Prod.snd)
    MessageAt m (document.onMapping (inherit m)) first.1 message ∧
      message.get? idAttribute = first.2.get? idAttribute ∧
      ∀ (before after : List (Place × Fields)) (e : Place × Fields) (key : String)
        (path : List String) (x : Value), first :: rest = before ++ e :: after →
        key ≠ baseAttribute → (before = [] ∨ key ≠ idAttribute) →
        (Value.mapping e.2).under (key :: path) = some x → x.isMapping = false →
        (∀ b ∈ before, (Value.mapping b.2).Open (key :: path)) →
        (Value.mapping message).under (key :: path) = some x := by
  have hwell : ∀ e ∈ first :: rest, e.2.WellKeyed := fun e he => (h.messages e he).wellKeyed hd
  have hbases : ∀ last, (first :: rest).getLast? = some last →
      (lineage m document).bases.get? last.1.pointer = none :=
    fun last hl => get?_bases_of_get?_base hd (h.messages last (List.mem_of_getLast? hl))
      (hend last hl)
  have hfree : ∀ e ∈ (first :: rest).dropLast, (lineage m document).isCyclic e.1.pointer = false :=
    fun e he => h.not_isCyclic hd hbases (List.mem_of_mem_dropLast he)
  have hresolved := h.resolved hd hv hfree fun last hl =>
    resolved_of_get?_bases hd (h.messages last (List.mem_of_getLast? hl)) (hbases last hl)
  refine ⟨(h.messages first List.mem_cons_self).inherit hd hresolved, ?_, ?_⟩
  · exact get?_inherited_id (hwell first List.mem_cons_self) fun message hm => by
      obtain ⟨e, he, rfl⟩ := List.mem_map.1 hm
      exact hwell e (List.mem_cons_of_mem _ he)
  · intro before after e key path x hline hbase hid hx hm hopen
    rw [hline, List.map_append, List.map_cons]
    refine under_inherited ?_ hbase (hid.imp_left fun hb => by rw [hb]; rfl) hx hm ?_
    · intro message hm
      rw [← List.map_cons, ← List.map_append, ← hline] at hm
      obtain ⟨e, he, rfl⟩ := List.mem_map.1 hm
      exact hwell e he
    · intro message hm
      obtain ⟨b, hb, rfl⟩ := List.mem_map.1 hm
      exact hopen b hb

/-- Three messages in two groups, one of which has a slash in its name. -/
theorem inherit_along_three :
    let m : Model := ⟨[⟨"messagegroups", "messagegroup", [⟨"messages", "message"⟩]⟩], .null⟩
    let a : Fields := [("messageid", .string "a"),
      ("basemessageurl", .string "#/messagegroups/g~1x/messages/b"),
      ("data", .mapping [("type", .string "of a")])]
    let b : Fields := [("messageid", .string "b"),
      ("basemessageurl", .string "#/messagegroups/g/messages/c"),
      ("data", .mapping [("source", .string "of b")])]
    let c : Fields := [("messageid", .string "c"), ("data", .mapping [("type", .string "of c")])]
    let document : Value := .mapping [("messagegroups", .mapping [
      ("g", .mapping [("messages", .mapping [("a", .mapping a), ("c", .mapping c)])]),
      ("g/x", .mapping [("messages", .mapping [("b", .mapping b)])])])]
    MessageAt m (document.onMapping (inherit m)) ⟨"messagegroups", "g", "a"⟩
      [("messageid", .string "a"),
        ("data", .mapping [("type", .string "of a"), ("source", .string "of b")])] := by
  intro m a b c document
  have hd : document.WellKeyed := by
    simp [document, a, b, c, Value.WellKeyed, Value.WellKeyedFields, Table.keys]
  have hline : IsLine m document [(⟨"messagegroups", "g", "a"⟩, a),
      (⟨"messagegroups", "g/x", "b"⟩, b), (⟨"messagegroups", "g", "c"⟩, c)] := by
    refine ⟨?_, .cons_cons (by decide) (.cons_cons (by decide) (.singleton _))⟩
    simp only [List.forall_mem_cons]
    exact ⟨⟨by decide, rfl⟩, ⟨by decide, rfl⟩, ⟨by decide, rfl⟩, by simp⟩
  exact (inherit_along_line m hd hline (by decide) (by rintro _ ⟨⟩; rfl)).1

end Registry.Inheritance
