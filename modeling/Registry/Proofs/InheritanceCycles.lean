import Registry.Proofs.InheritanceChains

/-!
# Cycles and what inheritance leaves alone

Messages on a cycle keep what is their own, and a chain into a cycle ends with its first message
there. Afterwards no message names a base, nothing but messages has changed, and doing it all again
changes nothing.
-/

namespace Registry.Inheritance

variable {m : Model} {document : Value} {p q : Place} {message : Fields}

lemma wellKeyed_of_latestVersion? {base version : Value} (hb : base.WellKeyed) {id : String}
    (h : base.latestVersion? = some (id, version)) : version.WellKeyed := by
  unfold Value.latestVersion? at h
  simp only [Option.bind_eq_bind, Option.bind_eq_some_iff, Option.some.injEq, Prod.mk.injEq] at h
  obtain ⟨v, hv, versions, hversions, _, -, w, hw, -, rfl⟩ := h
  exact ((hb.of_get? hv).fields hversions).of_get? hw

lemma wellKeyed_inheritable {base : Value} (hb : base.WellKeyed) {fields : Fields}
    (h : Lineage.inheritable base = some fields) : fields.WellKeyed := by
  have herase : ∀ {v : Value} {ds : Fields}, v.WellKeyed →
      (v.fields?.bind fun own => some ((own.swapErase baseAttribute).swapErase idAttribute)) =
        some ds → ds.WellKeyed := by
    intro v ds hv hds
    obtain ⟨own, hown, he⟩ := Option.bind_eq_some_iff.1 hds
    rw [← Option.some.inj he]
    exact ((hv.fields hown).swapErase _).swapErase _
  unfold Lineage.inheritable at h
  simp only [Option.bind_eq_bind] at h
  split at h
  · next hlatest => exact herase (wellKeyed_of_latestVersion? hb hlatest) h
  · exact herase hb h

lemma wellKeyed_own (hd : document.WellKeyed) (pointer : String) :
    ((lineage m document).own pointer).WellKeyed := by
  unfold Lineage.own
  cases h : (lineage m document).messages.get? pointer with
  | none => exact Fields.wellKeyed_nil
  | some message =>
    obtain ⟨p, -, hp⟩ := exists_messageAt_of_get? hd h
    rw [Option.getD_some]
    exact hp.wellKeyed hd

/-- A message with all that it takes over repeats no key and names no base. -/
lemma wellKeyed_completed (hm : message.WellKeyed) (base? : Option Fields)
    (hb : ∀ fields ∈ base?, fields.WellKeyed) :
    (Lineage.completed message base?).WellKeyed ∧
      (Lineage.completed message base?).get? baseAttribute = none := by
  have hfull : ((base?.map message.merge).getD message).WellKeyed := by
    cases base? with
    | none => exact hm
    | some fields => exact hm.merge (hb fields rfl)
  exact ⟨hfull.swapErase _, (Table.get?_swapErase hfull.nodup _ _).trans (if_pos rfl)⟩

lemma wellKeyed_taken? (hd : document.WellKeyed) {full : String → Fields}
    (hfull : ∀ pointer, (full pointer).WellKeyed) {pointer : String} {fields : Fields}
    (h : (lineage m document).taken? full pointer = some fields) : fields.WellKeyed := by
  unfold Lineage.taken? at h
  split at h
  · simp at h
  · obtain ⟨base, -, h⟩ := Option.bind_eq_some_iff.1 h
    obtain ⟨v, hv, hfields⟩ := Option.bind_eq_some_iff.1 h
    refine wellKeyed_inheritable ?_ hfields
    split at hv
    · exact Option.some.inj hv ▸ hfull base
    · exact Value.wellKeyed_lookup hd hv

lemma wellKeyed_resolve (hd : document.WellKeyed) (n : Nat) (pointer : String) :
    ((lineage m document).resolve n pointer).WellKeyed ∧
      ((lineage m document).resolve n pointer).get? baseAttribute = none := by
  induction n generalizing pointer with
  | zero => exact wellKeyed_completed (wellKeyed_own hd pointer) none (by simp)
  | succ n ih =>
    rw [Lineage.resolve_succ]
    exact wellKeyed_completed (wellKeyed_own hd pointer) _ fun fields hf =>
      wellKeyed_taken? hd (fun pointer => (ih pointer).1) hf

lemma wellKeyed_inherit (hd : document.WellKeyed) (m : Model) :
    (document.onMapping (inherit m)).WellKeyed := by
  rw [onMapping_inherit]
  exact wellKeyed_mapMessages hd fun _ _ _ => (wellKeyed_resolve hd _ _).1

/-- Afterwards no message names a base. -/
lemma get?_base_of_messageAt_inherit (hd : document.WellKeyed)
    (h : MessageAt m (document.onMapping (inherit m)) p message) :
    message.get? baseAttribute = none := by
  rw [onMapping_inherit] at h
  obtain ⟨own, -, rfl⟩ := h.of_altered _ hd
  exact (wellKeyed_resolve hd _ _).2

/-- A message that names no base stays exactly as it was. -/
lemma resolved_of_get?_base (hd : document.WellKeyed) (h : MessageAt m document p message)
    (hn : message.get? baseAttribute = none) :
    (lineage m document).resolved p.pointer = message := by
  rw [resolved_of_get?_bases hd h (get?_bases_of_get?_base hd h hn)]
  exact Table.swapErase_of_not_mem (Table.get?_eq_none_iff.1 hn)

/-- Where no message names a base, nothing is inherited. -/
lemma inherit_eq_self (hd : document.WellKeyed)
    (h : ∀ p message, MessageAt m document p message → message.get? baseAttribute = none) :
    document.onMapping (inherit m) = document := by
  rw [onMapping_inherit]
  exact onMapping_mapMessages_eq_self _ hd fun p message hp =>
    resolved_of_get?_base hd hp (h p message hp)

/-- A message is on a cycle of messages each of which names the next one. -/
def OnCycle (m : Model) (document : Value) (p : Place) : Prop :=
  Relation.TransGen (Links m document) p p

lemma rightUnique_links (hd : document.WellKeyed) : Relator.RightUnique (Links m document) :=
  fun _ _ _ hq hr => Place.pointer_injective
    (Lineage.rightUnique_isParent _ (isParent_of_links hd hq) (isParent_of_links hd hr))

lemma OnCycle.isCyclic (hd : document.WellKeyed) (h : OnCycle m document p) :
    (lineage m document).isCyclic p.pointer = true :=
  Lineage.isCyclic_iff.2
    (Relation.TransGen.lift Place.pointer (fun _ _ => isParent_of_links hd) _ _ h)

/-- A message on a cycle takes over nothing. -/
lemma OnCycle.resolved (hd : document.WellKeyed) (h : OnCycle m document p)
    (hp : MessageAt m document p message) :
    (lineage m document).resolved p.pointer = message.swapErase baseAttribute := by
  rw [Lineage.resolved_of_isCyclic (h.isCyclic hd), own_lineage hd hp]
  rfl

/-- From a message on a cycle the bases lead to messages on it only. -/
lemma OnCycle.transGen_links (hd : document.WellKeyed) (h : OnCycle m document q) {pointer : String}
    (hx : Relation.TransGen (lineage m document).IsParent q.pointer pointer) :
    ∃ r : Place, pointer = r.pointer ∧ Relation.TransGen (Links m document) q r := by
  induction hx with
  | single hx =>
    obtain ⟨r, hr, -⟩ := Relation.TransGen.head'_iff.1 h
    exact ⟨r, Lineage.rightUnique_isParent _ hx (isParent_of_links hd hr), .single hr⟩
  | tail _ hx ih =>
    obtain ⟨r, rfl, hr⟩ := ih
    obtain ⟨s, hs, -⟩ := Relation.TransGen.head'_iff.1
      (transGen_back (rightUnique_links hd) h hr.to_reflTransGen)
    exact ⟨s, Lineage.rightUnique_isParent _ hx (isParent_of_links hd hs), hr.tail hs⟩

/-- A message that leads into a cycle without being on one is on no cycle of bases at all. -/
lemma isCyclic_eq_false (hd : document.WellKeyed) (hp : ¬OnCycle m document p)
    (hpq : Relation.ReflTransGen (Links m document) p q) (hq : OnCycle m document q) :
    (lineage m document).isCyclic p.pointer = false := by
  by_contra hc
  have hcycle := Lineage.isCyclic_iff.1 (by simpa using hc)
  have hback := transGen_back (Lineage.rightUnique_isParent _) hcycle
    (hpq.lift Place.pointer fun _ _ => isParent_of_links hd)
  obtain ⟨r, hr, hqr⟩ := hq.transGen_links hd hback
  obtain rfl := Place.pointer_injective hr
  exact hp (Relation.TransGen.trans_right hpq hqr)

/-- Inheritance ends; afterwards no message names a base; a message on a cycle keeps what is its
own; a line that ends with its first message on a cycle gives its first message what the line gives;
nothing but messages with a base changes; and doing it again changes nothing. -/
theorem inherit_invariants (m : Model) {document : Value} (hd : document.WellKeyed) :
    let after := document.onMapping (inherit m)
    WellFounded (lineage m document).Asks ∧
      (∀ p message n, MessageAt m document p message → (messages m document).length ≤ n →
        (lineage m document).resolve n p.pointer = (lineage m document).resolved p.pointer) ∧
      (∀ p message, MessageAt m after p message → message.get? baseAttribute = none) ∧
      (∀ p message, OnCycle m document p → MessageAt m document p message →
        MessageAt m after p (message.swapErase baseAttribute)) ∧
      (∀ (before : List (Place × Fields)) (last first : Place × Fields),
        IsLine m document (before ++ [last]) → (before ++ [last]).head? = some first →
        (∀ e ∈ before ++ [last], e.2.get? "versions" = none) → OnCycle m document last.1 →
        (∀ e ∈ before, ¬OnCycle m document e.1) →
        MessageAt m after first.1 (inherited ((before ++ [last]).map Prod.snd))) ∧
      Value.SameBut (fun path => ∃ p message, MessageAt m document p message ∧ path = p.tokens)
        document after ∧
      (∀ p message, MessageAt m document p message → message.get? baseAttribute = none →
        MessageAt m after p message) ∧
      after.onMapping (inherit m) = after := by
  intro after
  refine ⟨Lineage.wellFounded_asks _, ?_, ?_, ?_, ?_, ?_, ?_, ?_⟩
  · exact fun p message n hp hn => Lineage.resolve_eq_resolved (has_lineage hd hp) hn
  · exact fun p message hp => get?_base_of_messageAt_inherit hd hp
  · exact fun p message hc hp => hp.inherit hd (hc.resolved hd hp)
  · intro before last first hline hfirst hv hc hfree
    obtain ⟨rest, hrest⟩ := List.head?_eq_some_iff.1 hfirst
    have hlast : (first :: rest).getLast? = some last := by rw [← hrest]; simp
    have hdrop : (first :: rest).dropLast = before := by rw [← hrest]; simp
    rw [hrest] at hline hv ⊢
    refine (hline.messages first List.mem_cons_self).inherit hd (hline.resolved hd hv ?_ ?_)
    · intro e he
      have hin := List.mem_of_mem_dropLast he
      rw [hdrop] at he
      exact isCyclic_eq_false hd (hfree e he) (hline.reflTransGen hlast hin) hc
    · intro other ho
      obtain rfl : last = other := Option.some.inj (hlast.symm.trans ho)
      exact hc.resolved hd (hline.messages last (List.mem_of_getLast? hlast))
  · have hsame := sameBut_mapMessages (m := m)
      (fun pointer _ => (lineage m document).resolved pointer) hd
    rwa [← onMapping_inherit] at hsame
  · exact fun p message hp hn => hp.inherit hd (resolved_of_get?_base hd hp hn)
  · exact inherit_eq_self (wellKeyed_inherit hd m) fun p message hp =>
      get?_base_of_messageAt_inherit hd hp

/-- Two messages that name each other, one that leads to them, and one without a base. -/
theorem inherit_invariants_of_circle :
    let m : Model := ⟨[⟨"messagegroups", "messagegroup", [⟨"messages", "message"⟩]⟩], .null⟩
    let a : Fields := [("messageid", .string "a"),
      ("basemessageurl", .string "#/messagegroups/g/messages/b"), ("x", .string "of a")]
    let b : Fields := [("basemessageurl", .string "#/messagegroups/g/messages/a"),
      ("y", .string "of b")]
    let c : Fields := [("basemessageurl", .string "#/messagegroups/g/messages/a"),
      ("messageid", .string "c")]
    let plain : Fields := [("z", .null)]
    let document : Value := .mapping [("messagegroups", .mapping [("g", .mapping [("messages",
      .mapping [("a", .mapping a), ("b", .mapping b), ("c", .mapping c),
        ("plain", .mapping plain)])])])]
    let after := document.onMapping (inherit m)
    document.WellKeyed ∧
      MessageAt m after ⟨"messagegroups", "g", "a"⟩
        [("messageid", .string "a"), ("x", .string "of a")] ∧
      MessageAt m after ⟨"messagegroups", "g", "b"⟩ [("y", .string "of b")] ∧
      MessageAt m after ⟨"messagegroups", "g", "c"⟩
        [("x", .string "of a"), ("messageid", .string "c")] ∧
      MessageAt m after ⟨"messagegroups", "g", "plain"⟩ plain ∧
      after.onMapping (inherit m) = after := by
  intro m a b c plain document after
  have hd : document.WellKeyed := by
    simp [document, a, b, c, plain, Value.WellKeyed, Value.WellKeyedFields, Table.keys]
  have ha : MessageAt m document ⟨"messagegroups", "g", "a"⟩ a := ⟨by decide, rfl⟩
  have hb : MessageAt m document ⟨"messagegroups", "g", "b"⟩ b := ⟨by decide, rfl⟩
  have hc : MessageAt m document ⟨"messagegroups", "g", "c"⟩ c := ⟨by decide, rfl⟩
  have hab : Links m document ⟨"messagegroups", "g", "a"⟩ ⟨"messagegroups", "g", "b"⟩ :=
    ⟨a, b, ha, by decide, hb⟩
  have hba : Links m document ⟨"messagegroups", "g", "b"⟩ ⟨"messagegroups", "g", "a"⟩ :=
    ⟨b, a, hb, by decide, ha⟩
  obtain ⟨-, -, -, hcycle, hchain, -, hplain, htwice⟩ := inherit_invariants m hd
  have hline : IsLine m document ([(⟨"messagegroups", "g", "c"⟩, c)] ++
      [(⟨"messagegroups", "g", "a"⟩, a)]) := by
    refine ⟨?_, .cons_cons (by decide) (.singleton _)⟩
    simp only [List.cons_append, List.nil_append, List.forall_mem_cons]
    exact ⟨hc, ha, by simp⟩
  refine ⟨hd, hcycle _ a (.tail (.single hab) hba) ha, hcycle _ b (.tail (.single hba) hab) hb,
    hchain _ _ _ hline rfl (by decide) (.tail (.single hab) hba) ?_,
    hplain _ plain ⟨by decide, rfl⟩ rfl, htwice⟩
  intro e he hcyclic
  rw [List.mem_singleton.1 he] at hcyclic
  exact absurd (hcyclic.isCyclic hd) (by decide)

/-- A message whose id ends in a blank names itself by the fragment of its place and yet takes over
from another one, because a reference is read without the blanks at its end. -/
theorem inherit_from_trimmed :
    let m : Model := ⟨[⟨"messagegroups", "messagegroup", [⟨"messages", "message"⟩]⟩], .null⟩
    let message : Fields := [("basemessageurl", .string "#/messagegroups/g/messages/a ")]
    let document : Value := .mapping [("messagegroups", .mapping [("g", .mapping [("messages",
      .mapping [("a", .mapping [("x", .number (.integer 1))]), ("a ", .mapping message)])])])]
    let p : Place := ⟨"messagegroups", "g", "a "⟩
    MessageAt m document p message ∧
      message.textAt? baseAttribute = some ("#" ++ p.pointer) ∧
      MessageAt m (document.onMapping (inherit m)) p [("x", .number (.integer 1))] ∧
      ¬MessageAt m (document.onMapping (inherit m)) p (message.swapErase baseAttribute) := by
  intro m message document p
  have hafter : MessageAt m (document.onMapping (inherit m)) p [("x", .number (.integer 1))] :=
    ⟨by decide, by decide⟩
  refine ⟨⟨by decide, rfl⟩, by decide, hafter, fun h => ?_⟩
  exact absurd (h.unique hafter) (by decide)

end Registry.Inheritance
