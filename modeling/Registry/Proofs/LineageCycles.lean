import Mathlib.Algebra.Order.BigOperators.Group.Finset
import Mathlib.Data.Finset.Card
import Registry.Inheritance
import Registry.Proofs.Merging

/-!
# Cycles of bases

Every message has at most one base. The bounded search for a way back finds exactly the messages on
a cycle, and the bounded resolver, which stops at these, never runs out.
-/

namespace Registry.Inheritance

/-- Where every element has one successor at most, whatever a cycle leads to leads back to it. -/
lemma transGen_back {α : Type} {r : α → α → Prop} (hr : Relator.RightUnique r) {a b : α}
    (ha : Relation.TransGen r a a) (hb : Relation.ReflTransGen r a b) : Relation.TransGen r b a := by
  induction hb with
  | refl => exact ha
  | @tail c b _ hcb ih =>
    obtain ⟨d, hcd, hda⟩ := Relation.TransGen.head'_iff.1 ih
    obtain rfl : b = d := hr hcb hcd
    rcases Relation.reflTransGen_iff_eq_or_transGen.1 hda with rfl | hba
    · exact ha
    · exact hba

namespace Lineage

variable {l : Lineage} {p q : String}

/-- A message names another one as its base. -/
def IsParent (l : Lineage) (p q : String) : Prop := l.parent? p = some q

/-- The message so many steps along the bases. -/
def ancestor? (l : Lineage) : Nat → String → Option String
  | 0, p => some p
  | n + 1, p => (l.parent? p).bind (ancestor? l n)

lemma rightUnique_isParent (l : Lineage) : Relator.RightUnique l.IsParent :=
  fun _ _ _ hq hr => Option.some.inj (hq.symm.trans hr)

lemma parent?_eq_some : l.parent? p = some q ↔ l.bases.get? p = some q ∧ l.messages.has q = true := by
  rw [parent?, Option.filter_eq_some_iff]

lemma ancestor?_add (i j : Nat) (p : String) :
    l.ancestor? (i + j) p = (l.ancestor? i p).bind (l.ancestor? j) := by
  induction i generalizing p with
  | zero => simp [ancestor?]
  | succ i ih =>
    rw [Nat.add_right_comm, ancestor?, ancestor?, Option.bind_assoc]
    exact congrArg _ (funext ih)

lemma has_of_ancestor? {n : Nat} (h : l.ancestor? (n + 1) p = some q) :
    l.messages.has q = true := by
  rw [ancestor?_add n 1] at h
  obtain ⟨r, -, h⟩ := Option.bind_eq_some_iff.1 h
  rw [ancestor?] at h
  obtain ⟨s, hs, h⟩ := Option.bind_eq_some_iff.1 h
  obtain rfl := Option.some.inj h
  exact (parent?_eq_some.1 hs).2

lemma leadsTo_iff {n : Nat} :
    l.leadsTo q n p = true ↔ ∃ k < n, l.ancestor? (k + 1) p = some q := by
  induction n generalizing p with
  | zero => simp [leadsTo]
  | succ n ih =>
    rw [leadsTo]
    cases hp : l.parent? p with
    | none =>
      simp only [ancestor?, hp]
      simp
    | some r =>
      have hstep : ∀ k, l.ancestor? (k + 1) p = l.ancestor? k r := by
        intro k
        rw [ancestor?, hp, Option.bind_some]
      simp only [Bool.or_eq_true, beq_iff_eq, ih, hstep]
      constructor
      · rintro (rfl | ⟨k, hk, h⟩)
        · exact ⟨0, by omega, rfl⟩
        · exact ⟨k + 1, by omega, h⟩
      · rintro ⟨k, hk, h⟩
        cases k with
        | zero => exact .inl (Option.some.inj h)
        | succ k => exact .inr ⟨k, by omega, h⟩

lemma transGen_iff : Relation.TransGen l.IsParent p q ↔ ∃ k, l.ancestor? (k + 1) p = some q := by
  constructor
  · intro h
    induction h with
    | single h => exact ⟨0, by rw [ancestor?, h]; rfl⟩
    | tail _ h ih =>
      obtain ⟨k, hk⟩ := ih
      refine ⟨k + 1, ?_⟩
      rw [ancestor?_add (k + 1) 1, hk, Option.bind_some, ancestor?, h]
      rfl
  · rintro ⟨k, h⟩
    induction k generalizing p with
    | zero =>
      obtain ⟨r, hr, h⟩ := Option.bind_eq_some_iff.1 h
      obtain rfl := Option.some.inj h
      exact .single hr
    | succ k ih =>
      obtain ⟨r, hr, h⟩ := Option.bind_eq_some_iff.1 h
      exact .head hr (ih h)

/-- More messages in a row than there are meet one of them twice. -/
lemma exists_repetition
    (h : ∀ i ≤ l.messages.length, ∃ q, l.ancestor? i p = some q ∧ l.messages.has q = true) :
    ∃ i j, i < j ∧ j ≤ l.messages.length ∧ l.ancestor? i p = l.ancestor? j p := by
  have hcard : (l.messages.keys.toFinset).card < (Finset.range (l.messages.length + 1)).card := by
    have hle := List.toFinset_card_le l.messages.keys
    rw [Finset.card_range]
    rw [Table.keys, List.length_map] at hle
    exact Nat.lt_succ_of_le hle
  obtain ⟨i, hi, j, hj, hne, heq⟩ := Finset.exists_ne_map_eq_of_card_lt_of_maps_to hcard
    (f := fun i => (l.ancestor? i p).getD "") (fun i hi => by
      obtain ⟨q, hq, hhas⟩ := h i (Nat.le_of_lt_succ (Finset.mem_range.1 hi))
      simp only [hq, Option.getD_some]
      exact Finset.mem_coe.2 (List.mem_toFinset.2 ((Table.has_iff_mem_keys _ _).1 hhas)))
  have hi := Nat.le_of_lt_succ (Finset.mem_range.1 hi)
  have hj := Nat.le_of_lt_succ (Finset.mem_range.1 hj)
  obtain ⟨q, hq, -⟩ := h i hi
  obtain ⟨r, hr, -⟩ := h j hj
  have hqr : q = r := by simpa [hq, hr] using heq
  rcases Nat.lt_or_gt_of_ne hne with hlt | hlt
  · exact ⟨i, j, hlt, hj, by rw [hq, hr, hqr]⟩
  · exact ⟨j, i, hlt, hi, by rw [hq, hr, hqr]⟩

/-- The search for a way back finds exactly the messages on a cycle. -/
theorem isCyclic_iff : l.isCyclic p = true ↔ Relation.TransGen l.IsParent p p := by
  rw [isCyclic, leadsTo_iff, transGen_iff]
  constructor
  · rintro ⟨k, -, h⟩
    exact ⟨k, h⟩
  · intro h
    -- The shortest way back meets no message twice, so it is no longer than there are messages.
    have hfirst := Nat.find_spec h
    refine ⟨Nat.find h, ?_, hfirst⟩
    by_contra hlong
    have hsome : ∀ i ≤ l.messages.length, ∃ q, l.ancestor? i p = some q ∧
        l.messages.has q = true := by
      intro i hi
      rw [show Nat.find h + 1 = i + (Nat.find h + 1 - i) by omega, ancestor?_add] at hfirst
      obtain ⟨q, hq, -⟩ := Option.bind_eq_some_iff.1 hfirst
      refine ⟨q, hq, ?_⟩
      cases i with
      | zero =>
        obtain rfl := Option.some.inj hq
        exact has_of_ancestor? (Nat.find_spec h)
      | succ i => exact has_of_ancestor? hq
    obtain ⟨i, j, hij, hj, heq⟩ := exists_repetition hsome
    have hshort : l.ancestor? (i + (Nat.find h - j) + 1) p = some p := by
      have hback := Nat.find_spec h
      rw [show Nat.find h + 1 = j + (Nat.find h - j + 1) by omega, ancestor?_add, ← heq,
        ← ancestor?_add] at hback
      exact hback
    exact Nat.find_min h (by omega) hshort

/-- What leads to a message without a base is on no cycle. -/
lemma isCyclic_eq_false_of_leads (h : Relation.ReflTransGen l.IsParent p q)
    (hq : l.bases.get? q = none) : l.isCyclic p = false := by
  by_contra hc
  -- The way back would start at the last message, which names no base.
  have hback := transGen_back (rightUnique_isParent l) (isCyclic_iff.1 (by simpa using hc)) h
  obtain ⟨r, hr, -⟩ := Relation.TransGen.head'_iff.1 hback
  have hbase := (parent?_eq_some.1 hr).1
  rw [hq] at hbase
  cases hbase

/-- A message on no cycle asks for what its base takes over, if that is a message too. -/
def Asks (l : Lineage) (q p : String) : Prop := l.isCyclic p = false ∧ l.IsParent p q

lemma asks_of_get? (hc : ¬l.isCyclic p = true) (hb : l.bases.get? p = some q)
    (hm : l.messages.has q = true) : l.Asks q p :=
  ⟨Bool.eq_false_iff.2 hc, parent?_eq_some.2 ⟨hb, hm⟩⟩

/-- Whether so many steps along the bases lead to the end of a chain or to a cycle. -/
def Rests (l : Lineage) : Nat → String → Prop
  | 0, p => l.isCyclic p = true
  | n + 1, p => ∀ q, l.Asks q p → Rests l n q

lemma ancestors_of_not_rests {n : Nat} (hp : l.messages.has p = true) (h : ¬l.Rests n p) :
    ∀ i ≤ n, ∃ q, l.ancestor? i p = some q ∧ l.messages.has q = true ∧ l.isCyclic q = false := by
  induction n generalizing p with
  | zero =>
    intro i hi
    obtain rfl : i = 0 := by omega
    exact ⟨p, rfl, hp, by simpa [Rests] using h⟩
  | succ n ih =>
    obtain ⟨q, hq, hrest⟩ : ∃ q, l.Asks q p ∧ ¬l.Rests n q := by
      simpa only [Rests, not_forall, exists_prop] using h
    intro i hi
    cases i with
    | zero => exact ⟨p, rfl, hp, hq.1⟩
    | succ i =>
      obtain ⟨r, hr⟩ := ih (parent?_eq_some.1 hq.2).2 hrest i (by omega)
      refine ⟨r, ?_, hr.2⟩
      rw [ancestor?, hq.2, Option.bind_some, hr.1]

/-- As many steps as there are messages are enough. -/
lemma rests_of_has (hp : l.messages.has p = true) : l.Rests l.messages.length p := by
  by_contra h
  have hall := ancestors_of_not_rests hp h
  obtain ⟨i, j, hij, hj, heq⟩ := exists_repetition fun i hi => by
    obtain ⟨q, hq, hhas, -⟩ := hall i hi
    exact ⟨q, hq, hhas⟩
  obtain ⟨q, hq, -, hfree⟩ := hall i (by omega)
  have hcycle : l.isCyclic q = true := by
    rw [isCyclic_iff, transGen_iff]
    refine ⟨j - i - 1, ?_⟩
    have hback := heq.symm.trans hq
    rw [show j = i + (j - i - 1 + 1) by omega, ancestor?_add, hq, Option.bind_some] at hback
    exact hback
  rw [hfree] at hcycle
  exact absurd hcycle (by decide)

lemma acc_of_rests {n : Nat} (h : l.Rests n p) : Acc l.Asks p := by
  induction n generalizing p with
  | zero =>
    refine ⟨_, fun q hq => ?_⟩
    have hc : l.isCyclic p = true := h
    rw [hq.1] at hc
    exact absurd hc (by decide)
  | succ n ih => exact ⟨_, fun q hq => ih (h q hq)⟩

/-- No message asks for itself in the end. -/
theorem wellFounded_asks (l : Lineage) : WellFounded l.Asks := by
  refine ⟨fun p => ⟨_, fun q hq => ?_⟩⟩
  exact acc_of_rests (rests_of_has (parent?_eq_some.1 hq.2).2)

/-- The content of a message, if there is one. -/
def own (l : Lineage) (p : String) : Fields := (l.messages.get? p).getD []

/-- A message merged with what it takes over, if it does, without the name of its base. -/
def completed (message : Fields) (base? : Option Fields) : Fields :=
  Table.swapErase ((base?.map message.merge).getD message) baseAttribute

/-- What a message takes over, given the base messages with all that these take over. -/
def taken? (l : Lineage) (full : String → Fields) (p : String) : Option Fields :=
  if l.isCyclic p then none
  else (l.bases.get? p).bind fun base =>
    (if l.messages.has base then some (.mapping (full base)) else l.document.lookup base).bind
      inheritable

lemma taken?_congr {full full' : String → Fields} (h : ∀ q, l.Asks q p → full q = full' q) :
    l.taken? full p = l.taken? full' p := by
  unfold taken?
  split
  · rfl
  · next hc =>
    cases hb : l.bases.get? p with
    | none => rfl
    | some base =>
      rw [Option.bind_some, Option.bind_some]
      split
      · next hhas =>
        rw [h base ⟨by simpa using hc, parent?_eq_some.2 ⟨hb, hhas⟩⟩]
      · rfl

lemma resolve_succ (n : Nat) (p : String) :
    l.resolve (n + 1) p = completed (l.own p) (l.taken? (l.resolve n) p) := by
  rw [resolve, completed, taken?, own]
  split
  · rfl
  · cases l.bases.get? p with
    | none => rfl
    | some base =>
      dsimp only
      rw [Option.bind_some]
      cases (if l.messages.has base then some (.mapping (l.resolve n base))
        else l.document.lookup base).bind inheritable <;> rfl

lemma resolve_of_isCyclic (h : l.isCyclic p = true) (n : Nat) :
    l.resolve n p = completed (l.own p) none := by
  cases n with
  | zero => rfl
  | succ n => rw [resolve_succ, taken?, if_pos h]

lemma resolved_of_isCyclic (h : l.isCyclic p = true) : l.resolved p = completed (l.own p) none :=
  resolve_of_isCyclic h _

lemma resolve_eq_of_rests {n j k : Nat} (h : l.Rests n p) (hj : n ≤ j) (hk : n ≤ k) :
    l.resolve j p = l.resolve k p := by
  induction n generalizing p j k with
  | zero => rw [resolve_of_isCyclic h, resolve_of_isCyclic h]
  | succ n ih =>
    obtain ⟨j, rfl⟩ : ∃ j', j = j' + 1 := ⟨j - 1, by omega⟩
    obtain ⟨k, rfl⟩ : ∃ k', k = k' + 1 := ⟨k - 1, by omega⟩
    have hbases : ∀ q, l.Asks q p → l.resolve j q = l.resolve k q :=
      fun q hq => ih (h q hq) (by omega) (by omega)
    rw [resolve_succ, resolve_succ, taken?_congr hbases]

/-- A greater bound than the number of messages makes no difference. -/
theorem resolve_eq_resolved (hp : l.messages.has p = true) {n : Nat}
    (hn : l.messages.length ≤ n) : l.resolve n p = l.resolved p :=
  resolve_eq_of_rests (rests_of_has hp) hn (Nat.le_refl _)

/-- A message is its own content merged with what its base takes over in the same way. -/
theorem resolved_eq (hp : l.messages.has p = true) :
    l.resolved p = completed (l.own p) (l.taken? l.resolved p) := by
  have hrests := rests_of_has hp
  unfold resolved
  cases hn : l.messages.length with
  | zero =>
    rw [List.length_eq_zero_iff.1 hn] at hp
    exact absurd hp (by simp [Table.has])
  | succ n =>
    rw [hn] at hrests
    rw [resolve_succ, taken?_congr fun q hq =>
      resolve_eq_of_rests (hrests q hq) (Nat.le_refl n) (Nat.le_succ n)]

end Lineage

end Registry.Inheritance
