import Registry.Proofs.InheritanceCycles
import Registry.Proofs.PayloadRest

/-!
# Payloads that are inherited

A message takes over the fields that may hold a payload after payloads have been looked for. If the
message and its base are at rest, so is the message with all that it takes over: the field that counts
is one of theirs, and it was tried before.
-/

namespace Registry.Inheritance

open Payload (Rests AtRest Watches)

variable {m : Model} {reads : String → CachedRead} {document : Value} {p : Place}
  {message base : Fields} {key : String}

/-- A message without versions whose payload has been looked for. -/
structure Settled (reads : String → CachedRead) (message : Fields) : Prop where
  versionless : message.get? "versions" = none
  rests : Rests reads "message" message

lemma get?_swapErase_of_watches (hk : message.WellKeyed) (hkey : ¬Watches "message" key)
    {other : String} (h : Watches "message" other) :
    Table.get? (message.swapErase key) other = message.get? other := by
  have hne : other ≠ key := by
    rintro rfl
    exact hkey h
  rw [Table.get?_swapErase hk.nodup, if_neg hne]

lemma Settled.swapErase (hk : message.WellKeyed) (hkey : ¬Watches "message" key)
    (h : Settled reads message) : Settled reads (message.swapErase key) where
  versionless := (get?_swapErase_of_watches hk hkey List.mem_cons_self).trans h.versionless
  rests := h.rests.congr fun _ => get?_swapErase_of_watches hk hkey

lemma Settled.merge (h : Settled reads message) (hb : Settled reads base) :
    Settled reads (message.merge base) where
  versionless := (Fields.get?_merge_of_none h.versionless).trans hb.versionless
  rests := h.rests.merge hb.rests

lemma not_watches_base : ¬Watches "message" baseAttribute := by decide

lemma not_watches_id : ¬Watches "message" idAttribute := by decide

/-- What a message without versions gives to others is settled as it is itself. -/
lemma Settled.of_inheritable (hk : message.WellKeyed) (h : Settled reads message) {fields : Fields}
    (hf : Lineage.inheritable (.mapping message) = some fields) : Settled reads fields := by
  rw [inheritable_mapping h.versionless, Option.some.injEq] at hf
  rw [← hf]
  exact (h.swapErase hk not_watches_base).swapErase (hk.swapErase _) not_watches_id

lemma Settled.atRest (h : Settled reads message) : AtRest reads "message" message :=
  h.rests.atRest h.versionless

/-- A base that a message names is a message or nothing at all. If it is a message, neither of the two
has versions. -/
def InheritsPlainly (m : Model) (document : Value) : Prop :=
  ∀ p own text pointer, MessageAt m document p own → own.textAt? baseAttribute = some text →
    basePointer? m document text = some pointer → document.lookup pointer = none ∨
      ∃ q base, MessageAt m document q base ∧ Value.fragmentTokens? pointer = some q.tokens ∧
        own.get? "versions" = none ∧ base.get? "versions" = none

/-- The condition on bases, read off the table of messages. -/
lemma inheritsPlainly_iff (hd : document.WellKeyed) : InheritsPlainly m document ↔
    ∀ e ∈ messages m document, ∀ text ∈ e.2.textAt? baseAttribute,
      ∀ pointer ∈ basePointer? m document text, document.lookup pointer = none ∨
        e.2.get? "versions" = none ∧ ∃ e' ∈ messages m document,
          Value.fragmentTokens? pointer = Value.fragmentTokens? e'.1 ∧
            e'.2.get? "versions" = none := by
  have htokens : ∀ q : Place, Value.fragmentTokens? q.pointer = some q.tokens := fun q =>
    Value.fragmentTokens?_ofTokens (List.cons_ne_nil _ _)
  constructor
  · intro h e he text htext pointer hpointer
    obtain ⟨p, own, hp, rfl⟩ := (mem_messages hd).1 he
    refine (h p own text pointer hp htext hpointer).imp_right ?_
    rintro ⟨q, base, hq, hsame, hversions, hversions'⟩
    exact ⟨hversions, _, (mem_messages hd).2 ⟨q, base, hq, rfl⟩, hsame.trans (htokens q).symm,
      hversions'⟩
  · intro h p own text pointer hp htext hpointer
    have he := (mem_messages hd).2 ⟨p, own, hp, rfl⟩
    refine (h _ he text htext pointer hpointer).imp_right ?_
    rintro ⟨hversions, e', he', hsame, hversions'⟩
    obtain ⟨q, base, hq, rfl⟩ := (mem_messages hd).1 he'
    exact ⟨q, base, hq, hsame.trans (htokens q), hversions, hversions'⟩

/-- What a message takes over is settled, and the message has no versions itself. -/
lemma settled_taken? (hd : document.WellKeyed) (hplain : InheritsPlainly m document)
    (hrest : ∀ q other, MessageAt m document q other → AtRest reads "message" other)
    (hp : MessageAt m document p message)
    (ih : ∀ q other, (lineage m document).Asks q.pointer p.pointer → MessageAt m document q other →
      other.get? "versions" = none → Settled reads ((lineage m document).resolved q.pointer))
    {fields : Fields}
    (h : (lineage m document).taken? (lineage m document).resolved p.pointer = some fields) :
    message.get? "versions" = none ∧ Settled reads fields := by
  unfold Lineage.taken? at h
  split at h
  · cases h
  next hcyclic =>
  obtain ⟨pointer, hpointer, hfound⟩ := Option.bind_eq_some_iff.1 h
  obtain ⟨v, hv, hfields⟩ := Option.bind_eq_some_iff.1 hfound
  have hbase := hpointer
  rw [get?_bases hd hp] at hbase
  obtain ⟨text, htext, hbase⟩ := Option.bind_eq_some_iff.1 hbase
  have hcases := hplain p message text pointer hp htext hbase
  split at hv
  · next hhas =>
    -- the base is known as a message by this very pointer
    obtain ⟨known, hknown⟩ := Option.isSome_iff_exists.1 hhas
    obtain ⟨q, other, hq, he⟩ := (mem_messages hd).1 (Table.mem_of_get? hknown)
    obtain ⟨rfl, rfl⟩ := Prod.mk.inj he
    rcases hcases with hnone | ⟨q', base, hq', htokens, hversions, hversions'⟩
    · rw [hq.lookup] at hnone
      cases hnone
    rw [Place.pointer_eq, Value.fragmentTokens?_ofTokens (by simp [Place.tokens]),
      Option.some.injEq] at htokens
    obtain rfl := Place.tokens_injective htokens
    obtain rfl := hq.unique hq'
    have hasks : (lineage m document).Asks q.pointer p.pointer :=
      ⟨by simpa using hcyclic, Lineage.parent?_eq_some.2 ⟨hpointer, hhas⟩⟩
    obtain rfl := Option.some.inj hv
    exact ⟨hversions, (ih q known hasks hq hversions').of_inheritable
      (wellKeyed_resolve hd _ _).1 hfields⟩
  · -- the pointer is another spelling of a place, so the message there counts as it is
    change document.lookup pointer = some v at hv
    rcases hcases with hnone | ⟨q, base, hq, htokens, hversions, hversions'⟩
    · rw [hnone] at hv
      cases hv
    have hlookup : document.lookup pointer = some (.mapping base) := by
      rw [Value.lookup, htokens]
      exact Value.at?_of_under hq.2
    obtain rfl := Option.some.inj (hlookup.symm.trans hv)
    have hsettled : Settled reads base := ⟨hversions', (hrest q base hq).rests hversions'⟩
    exact ⟨hversions, hsettled.of_inheritable (hq.wellKeyed hd) hfields⟩

/-- A message without versions is settled with all that it takes over. -/
lemma settled_resolved (hd : document.WellKeyed) (hplain : InheritsPlainly m document)
    (hrest : ∀ q other, MessageAt m document q other → AtRest reads "message" other)
    (hp : MessageAt m document p message) (hv : message.get? "versions" = none) :
    Settled reads ((lineage m document).resolved p.pointer) := by
  -- along the bases; a message on a cycle asks none and takes nothing over
  induction hpointer : p.pointer using (lineage m document).wellFounded_asks.induction
    generalizing p message with
  | _ pointer ih =>
    subst hpointer
    have hk := hp.wellKeyed hd
    have hown : Settled reads message := ⟨hv, (hrest p message hp).rests hv⟩
    rw [Lineage.resolved_eq (has_lineage hd hp), own_lineage hd hp, Lineage.completed]
    cases htaken : (lineage m document).taken? (lineage m document).resolved p.pointer with
    | none => exact hown.swapErase hk not_watches_base
    | some fields =>
      have hfields := (settled_taken? hd hplain hrest hp
        (fun q other hasks hq hversions => ih q.pointer hasks hq hversions rfl) htaken).2
      have hwell := hk.merge (wellKeyed_taken? hd (fun q => (wellKeyed_resolve hd _ q).1) htaken)
      exact (hown.merge hfields).swapErase hwell not_watches_base

/-- If all messages are at rest, they still are with all that they take over. -/
theorem atRest_resolved (hd : document.WellKeyed) (hplain : InheritsPlainly m document)
    (hrest : ∀ q other, MessageAt m document q other → AtRest reads "message" other)
    (hp : MessageAt m document p message) :
    AtRest reads "message" ((lineage m document).resolved p.pointer) := by
  cases htaken : (lineage m document).taken? (lineage m document).resolved p.pointer with
  | none =>
    rw [Lineage.resolved_eq (has_lineage hd hp), own_lineage hd hp, Lineage.completed, htaken]
    exact (hrest p message hp).congr fun _ =>
      get?_swapErase_of_watches (hp.wellKeyed hd) not_watches_base
  | some fields =>
    have hversions := (settled_taken? hd hplain hrest hp
      (fun q other _ hq hv => settled_resolved hd hplain hrest hq hv) htaken).1
    exact (settled_resolved hd hplain hrest hp hversions).atRest

lemma under_inherit_of_ne (hd : document.WellKeyed) {plural groupId collection' id : String}
    (h : collection' ≠ collection) :
    (document.onMapping (inherit m)).under [plural, groupId, collection', id] =
      document.under [plural, groupId, collection', id] := by
  rw [onMapping_inherit, onMapping_mapMessages _ hd]
  refine Value.under_mapAlong_of_not_selected rfl fun hselected => ?_
  obtain ⟨p, -, htokens⟩ := selected_iff.1 hselected
  simp only [Place.tokens, List.cons.injEq] at htokens
  exact h htokens.2.2.1

/-- If all resources of a document are at rest, they still are after inheritance. Messages have to be
resources of the type that the collection of messages declares. -/
theorem atRest_inherit (hd : document.WellKeyed) (hplain : InheritsPlainly m document)
    (hmessage : ∀ g ∈ m.groups, ∀ r ∈ g.resources, r.plural = collection → r.singular = "message")
    (hrest : ∀ g ∈ m.groups, ∀ r ∈ g.resources, ∀ groupId id resource,
      document.under [g.plural, groupId, r.plural, id] = some (.mapping resource) →
        AtRest reads r.singular resource)
    {g : GroupType} (hg : g ∈ m.groups) {r : ResourceType} (hr : r ∈ g.resources)
    {groupId id : String} {resource : Fields}
    (hx : (document.onMapping (inherit m)).under [g.plural, groupId, r.plural, id] =
      some (.mapping resource)) : AtRest reads r.singular resource := by
  by_cases hc : r.plural = collection
  · have hmessages : ∀ q other, MessageAt m document q other → AtRest reads "message" other := by
      intro q other hq
      obtain ⟨g', hg', r', hr', hplural, hname⟩ := mem_groupCollections.1 hq.1
      rw [← hmessage g' hg' r' hr' hname]
      refine hrest g' hg' r' hr' q.groupId q.messageId other ?_
      rw [hplural, hname]
      exact hq.2
    have hplural : g.plural ∈ groupCollections m := mem_groupCollections.2 ⟨g, hg, r, hr, rfl, hc⟩
    have hat : MessageAt m (document.onMapping (inherit m)) ⟨g.plural, groupId, id⟩ resource :=
      ⟨hplural, by rw [← hx, hc]; rfl⟩
    rw [onMapping_inherit] at hat
    obtain ⟨own, hown, rfl⟩ := hat.of_altered _ hd
    rw [hmessage g hg r hr hc]
    exact atRest_resolved hd hplain hmessages hown
  · rw [under_inherit_of_ne hd hc] at hx
    exact hrest g hg r hr groupId id resource hx

end Registry.Inheritance
