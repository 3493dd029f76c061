import Registry.Proofs.InheritanceCycles

/-!
# The order of inheritance

Messages can be completed one after another, each one after its base and none twice, and then be
written to their places one after another. Neither order makes a difference to the document.
-/

namespace Registry.Inheritance

namespace Lineage

variable {l : Lineage} {pointer base : String} {pointers : List String}
  {done done' done'' : Table Fields}

/-- What a message takes over from its base, once that one is complete; and what is done by then. -/
def takeOver (l : Lineage) (pointer : String) (done : Table Fields)
    (complete : (base : String) → l.Asks base pointer → Fields × Table Fields) :
    Option Fields × Table Fields :=
  if hc : l.isCyclic pointer = true then (none, done)
  else match hb : l.bases.get? pointer with
    | none => (none, done)
    | some base =>
      if hm : l.messages.has base = true then
        let (full, done) := complete base (asks_of_get? hc hb hm)
        (inheritable (.mapping full), done)
      else ((l.document.lookup base).bind inheritable, done)

/-- Completes a message, its base before it, unless that has been done. The messages that are done
are kept with all that they take over. -/
def complete (l : Lineage) (pointer : String) (done : Table Fields) : Fields × Table Fields :=
  match done.get? pointer with
  | some full => (full, done)
  | none =>
    let message := ((l.document.lookup pointer).bind Value.fields?).getD []
    let (base?, done) := l.takeOver pointer done fun base _ => l.complete base done
    let full := completed message base?
    (full, done.insert pointer full)
termination_by l.wellFounded_asks.wrap pointer
decreasing_by assumption

/-- Completes messages in the order given. -/
def completeAll (l : Lineage) (pointers : List String) : Table Fields :=
  pointers.foldl (fun done pointer => (l.complete pointer done).2) []

/-- What is done are messages with all that they take over, none of them twice. -/
structure Done (l : Lineage) (done : Table Fields) : Prop where
  nodup : done.keys.Nodup
  entries : ∀ pointer full, done.get? pointer = some full →
    l.messages.has pointer = true ∧ full = l.resolved pointer

/-- What is done stays done when more is. -/
structure Advances (l : Lineage) (done done' : Table Fields) : Prop where
  sound : l.Done done'
  keeps : done.keys ⊆ done'.keys

/-- The messages stand in the document at their pointers. -/
def Stands (l : Lineage) : Prop :=
  ∀ pointer message, l.messages.get? pointer = some message →
    l.document.lookup pointer = some (.mapping message)

lemma done_nil (l : Lineage) : l.Done [] := ⟨List.nodup_nil, fun _ _ h => nomatch h⟩

lemma Done.advances (h : l.Done done) : l.Advances done done := ⟨h, List.Subset.refl _⟩

lemma Advances.trans (h : l.Advances done done') (h' : l.Advances done' done'') :
    l.Advances done done'' :=
  ⟨h'.sound, List.Subset.trans h.keeps h'.keeps⟩

lemma Advances.insert (h : l.Advances done done') (hp : l.messages.has pointer = true) :
    l.Advances done (done'.insert pointer (l.resolved pointer)) := by
  refine ⟨⟨Table.nodup_keys_insert h.sound.nodup _ _, fun other full hfull => ?_⟩, ?_⟩
  · rw [Table.get?_insert] at hfull
    split at hfull
    · next heq => exact heq ▸ ⟨hp, (Option.some.inj hfull).symm⟩
    · exact h.sound.entries other full hfull
  · rw [Table.keys_insert]
    split
    · exact h.keeps
    · exact fun key hk => List.mem_append_left _ (h.keeps hk)

lemma taken?_of_get? {full : String → Fields} (hc : ¬l.isCyclic pointer = true)
    (hb : l.bases.get? pointer = some base) :
    l.taken? full pointer = (if l.messages.has base then some (.mapping (full base))
      else l.document.lookup base).bind inheritable := by
  rw [taken?, if_neg hc, hb, Option.bind_some]

/-- Given a right way to complete the base, a message takes over the right thing. -/
lemma takeOver_spec {ask : (base : String) → l.Asks base pointer → Fields × Table Fields}
    (h : l.Done done)
    (hask : ∀ base hb, (ask base hb).1 = l.resolved base ∧ l.Advances done (ask base hb).2) :
    (l.takeOver pointer done ask).1 = l.taken? l.resolved pointer ∧
      l.Advances done (l.takeOver pointer done ask).2 := by
  unfold takeOver
  split
  · next hc => exact ⟨by rw [taken?, if_pos hc], h.advances⟩
  · next hc =>
    split
    · next hb => exact ⟨by rw [taken?, if_neg hc, hb]; rfl, h.advances⟩
    · next base hb =>
      rw [taken?_of_get? hc hb]
      split
      · next hm =>
        obtain ⟨hfull, hdone⟩ := hask base (asks_of_get? hc hb hm)
        rw [← hfull]
        exact ⟨rfl, hdone⟩
      · exact ⟨rfl, h.advances⟩

lemma Stands.own_eq (hl : l.Stands) (hp : l.messages.has pointer = true) :
    ((l.document.lookup pointer).bind Value.fields?).getD [] = l.own pointer := by
  obtain ⟨message, hm⟩ := Option.isSome_iff_exists.1 hp
  rw [hl pointer message hm, own, hm]
  rfl

/-- Completing a message gives all that it takes over, whatever has been done before. -/
theorem complete_spec (hl : l.Stands) (hp : l.messages.has pointer = true) (h : l.Done done) :
    (l.complete pointer done).1 = l.resolved pointer ∧
      l.Advances done (l.complete pointer done).2 ∧
      pointer ∈ (l.complete pointer done).2.keys := by
  -- The induction is along the bases, which do not lead back.
  induction pointer using l.wellFounded_asks.induction generalizing done with
  | _ pointer ih =>
    rw [complete]
    split
    · next full hfull =>
      exact ⟨(h.entries pointer full hfull).2, h.advances, Table.mem_keys_of_get? hfull⟩
    · have hask : ∀ base (_ : l.Asks base pointer), (l.complete base done).1 = l.resolved base ∧
          l.Advances done (l.complete base done).2 := by
        intro base hb
        obtain ⟨hfull, hdone, -⟩ := ih base hb (parent?_eq_some.1 hb.2).2 h
        exact ⟨hfull, hdone⟩
      obtain ⟨hbase, hdone⟩ := takeOver_spec h hask
      dsimp only
      rw [hl.own_eq hp, hbase, ← resolved_eq hp]
      exact ⟨rfl, hdone.insert hp, Table.mem_keys_of_get? (Table.get?_insert_self _ _ _)⟩

lemma foldl_complete_spec (hl : l.Stands) (hp : ∀ pointer ∈ pointers, l.messages.has pointer = true)
    (h : l.Done done) :
    let all := pointers.foldl (fun done pointer => (l.complete pointer done).2) done
    l.Advances done all ∧ pointers ⊆ all.keys := by
  induction pointers generalizing done with
  | nil => exact ⟨h.advances, List.nil_subset _⟩
  | cons pointer pointers ih =>
    obtain ⟨hpointer, hp⟩ := List.forall_mem_cons.1 hp
    obtain ⟨-, hfirst, hmem⟩ := complete_spec hl hpointer h
    obtain ⟨hrest, hall⟩ := ih hp hfirst.sound
    exact ⟨hfirst.trans hrest, List.cons_subset.2 ⟨hrest.keeps hmem, hall⟩⟩

/-- In whatever order the messages are completed, in the end each of them is done. -/
theorem completeAll_spec (hl : l.Stands) (hv : ∀ pointer, pointer ∈ pointers ↔
      l.messages.has pointer = true) :
    (l.completeAll pointers).keys.Nodup ∧ ∀ pointer, (l.completeAll pointers).get? pointer =
      if l.messages.has pointer then some (l.resolved pointer) else none := by
  obtain ⟨hdone, hall⟩ := foldl_complete_spec hl (fun pointer => (hv pointer).1) (done_nil l)
  refine ⟨hdone.sound.nodup, fun pointer => ?_⟩
  cases hget : (l.completeAll pointers).get? pointer with
  | some full =>
    obtain ⟨hhas, rfl⟩ := hdone.sound.entries pointer full hget
    rw [if_pos hhas]
  | none =>
    have hnew : pointer ∉ pointers := fun hp => Table.get?_eq_none_iff.1 hget (hall hp)
    rw [hv] at hnew
    rw [if_neg hnew]

end Lineage

variable {m : Model} {document : Value} {p : Place} {message : Fields}

/-- Writes messages to the places that their pointers name, in the order given. -/
def writeBack (document : Value) (writes : Table Fields) : Value :=
  writes.foldl (fun document e =>
    document.modify e.1 fun _ => .mapping (e.2.swapErase baseAttribute)) document

lemma stands_lineage (hd : document.WellKeyed) : (lineage m document).Stands := by
  intro pointer message h
  obtain ⟨p, rfl, hp⟩ := exists_messageAt_of_get? hd h
  exact hp.lookup

/-- Messages that are written to their places stand there; all others are as they were. -/
lemma writeBack_onMapping (alter : String → Fields → Fields) (hd : document.WellKeyed)
    {writes : Table Fields} (hn : writes.keys.Nodup)
    (hw : ∀ pointer ∈ writes.keys, ∃ p message, MessageAt m document p message ∧
      pointer = p.pointer) :
    writeBack (document.onMapping (mapMessages m alter)) writes =
      document.onMapping (mapMessages m fun pointer message =>
        ((writes.get? pointer).map (·.swapErase baseAttribute)).getD (alter pointer message)) := by
  induction writes generalizing alter with
  | nil => rfl
  | cons e writes ih =>
    obtain ⟨pointer, full⟩ := e
    obtain ⟨hnew, hrest⟩ := List.nodup_cons.1 hn
    obtain ⟨⟨p, message, hp, rfl⟩, hplaces⟩ := List.forall_mem_cons.1 hw
    rw [writeBack, List.foldl_cons,
      modify_onMapping_mapMessages hd hp (fun _ => full.swapErase baseAttribute) fun _ => rfl]
    refine (ih _ hrest hplaces).trans (onMapping_mapMessages_congr hd fun q other hq => ?_)
    rw [Table.get?_cons]
    by_cases h : p.pointer = q.pointer
    · rw [← h, if_pos rfl, if_pos rfl, Table.get?_eq_none_iff.2 hnew]
      rfl
    · rw [if_neg h, if_neg fun he => h he.symm]

/-- Inheritance gives the same document, key for key, in whatever order the messages are completed
and in whatever order they are written back. -/
theorem inherit_any_order (m : Model) {document : Value} (hd : document.WellKeyed)
    {visits : List String} {writes : Table Fields}
    (hvisits : visits.Perm (messages m document).keys.eraseDups)
    (hwrites : writes.Perm ((lineage m document).completeAll visits)) :
    writeBack document writes = document.onMapping (inherit m) := by
  have hmem : ∀ pointer, pointer ∈ visits ↔ (lineage m document).messages.has pointer = true := by
    intro pointer
    rw [hvisits.mem_iff, List.mem_eraseDups, Table.has_iff_mem_keys]
    rfl
  obtain ⟨hnodup, hdone⟩ := Lineage.completeAll_spec (stands_lineage hd) hmem
  have hn : writes.keys.Nodup := ((hwrites.map Prod.fst).nodup_iff).2 hnodup
  have hget : ∀ pointer, writes.get? pointer =
      if (lineage m document).messages.has pointer then
        some ((lineage m document).resolved pointer) else none :=
    fun pointer => (Table.get?_of_perm hnodup hwrites pointer).trans (hdone pointer)
  have hplaces : ∀ pointer ∈ writes.keys, ∃ p message, MessageAt m document p message ∧
      pointer = p.pointer := by
    intro pointer hp
    have hhas : (lineage m document).messages.has pointer = true := by
      by_contra hno
      exact Table.get?_eq_none_iff.1 ((hget pointer).trans (if_neg hno)) hp
    obtain ⟨message, hm⟩ := Option.isSome_iff_exists.1 hhas
    obtain ⟨p, rfl, hat⟩ := exists_messageAt_of_get? hd hm
    exact ⟨p, message, hat, rfl⟩
  have hwritten := writeBack_onMapping (fun _ message => message) hd hn hplaces
  rw [onMapping_mapMessages_id hd] at hwritten
  rw [hwritten, onMapping_inherit]
  refine onMapping_mapMessages_congr hd fun p message hp => ?_
  rw [hget, if_pos (has_lineage hd hp), Option.map_some, Option.getD_some]
  exact Table.swapErase_of_not_mem (Table.get?_eq_none_iff.1 (wellKeyed_resolve hd _ _).2)

/-- A message that is its own base, one that leads to it, and one that leads to that, completed and
written back last to first. -/
theorem inherit_any_order_of_tail :
    let m : Model := ⟨[⟨"x", "x", [⟨"messages", "message"⟩]⟩], .null⟩
    let a : Fields := [("basemessageurl", .string "#/x/g/messages/a"), ("of a", .null)]
    let b : Fields := [("basemessageurl", .string "#/x/g/messages/a"), ("of b", .null)]
    let c : Fields := [("basemessageurl", .string "#/x/g/messages/b")]
    let document : Value := .mapping [("x", .mapping [
      ("g", .mapping [("messages", .mapping [("a", .mapping a), ("b", .mapping b)])]),
      ("/", .mapping [("messages", .mapping [("c", .mapping c)])])])]
    let visits : List String := ["/x/~1/messages/c", "/x/g/messages/b", "/x/g/messages/a"]
    document.WellKeyed ∧ visits.Perm (messages m document).keys.eraseDups ∧
      writeBack document ((lineage m document).completeAll visits).reverse =
        .mapping [("x", .mapping [
          ("g", .mapping [("messages", .mapping [("a", .mapping [("of a", .null)]),
            ("b", .mapping [("of a", .null), ("of b", .null)])])]),
          ("/", .mapping [("messages", .mapping [
            ("c", .mapping [("of b", .null), ("of a", .null)])])])])] := by
  intro m a b c document visits
  have hd : document.WellKeyed := by
    simp [document, a, b, c, Value.WellKeyed, Value.WellKeyedFields, Table.keys]
  have hvisits : visits.Perm (messages m document).keys.eraseDups := by decide
  refine ⟨hd, hvisits, ?_⟩
  rw [inherit_any_order m hd hvisits (List.reverse_perm _)]
  decide +kernel

end Registry.Inheritance
