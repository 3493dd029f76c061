import Mathlib.Data.Char
import Mathlib.Data.List.Shortlex
import Mathlib.Data.Nat.Digits.Defs
import Registry.Proofs.TableLookup
import Registry.Version

/-!
# The latest version

Ids are compared after blanks were put in front of them, up to the width of the longest one. If no id
starts with a character at or below the blank, that is the order by length and then by code points,
whatever the width: the latest id is the greatest one in it, in whatever order the ids are given.
Numerals then compare by magnitude.
-/

namespace Registry

namespace Version

variable {w : Nat} {a b c id : String} {ids others : List String}

/-- The first character of an id, if it has one, is beyond the blank. -/
def StartsVisibly (id : String) : Prop := ∀ c ∈ id.toList.head?, ' ' < c

instance (id : String) : Decidable (StartsVisibly id) :=
  Option.decidableForallMem id.toList.head?

/-- The shorter id is earlier; of two equally long ones, that with the smaller code point where they
first differ. -/
def Earlier (a b : String) : Prop := List.Shortlex (· < ·) a.toList b.toList

/-- An id is one of several, and all others are earlier. -/
def IsLatest (ids : List String) (id : String) : Prop :=
  id ∈ ids ∧ ∀ other ∈ ids, other = id ∨ Earlier other id

lemma Earlier.trans (h : Earlier a b) (k : Earlier b c) : Earlier a c := by
  rw [Earlier, List.shortlex_def] at h k ⊢
  rcases h with h | ⟨h, hlex⟩
  · rcases k with k | ⟨k, -⟩
    · exact .inl (h.trans k)
    · exact .inl (k ▸ h)
  · rcases k with k | ⟨k, klex⟩
    · exact .inl (h ▸ k)
    · exact .inr ⟨h.trans k, List.lt_trans hlex klex⟩

lemma Earlier.asymm (h : Earlier a b) : ¬Earlier b a := by
  intro k
  exact Std.Asymm.asymm (r := List.Shortlex fun c d : Char => c < d) _ _ h k

lemma earlier_or_eq_or_earlier (a b : String) : Earlier a b ∨ a = b ∨ Earlier b a := by
  by_cases hab : Earlier a b
  · exact .inl hab
  · by_cases hba : Earlier b a
    · exact .inr (.inr hba)
    · have heq : a.toList = b.toList :=
        Std.Trichotomous.trichotomous (r := List.Shortlex fun c d : Char => c < d) _ _ hab hba
      exact .inr (.inl (String.toList_injective heq))

lemma eq_or_earlier_trans (h : a = b ∨ Earlier a b) (k : b = c ∨ Earlier b c) :
    a = c ∨ Earlier a c := by
  rcases h with rfl | h
  · exact k
  · rcases k with rfl | k
    · exact .inr h
    · exact .inr (h.trans k)

lemma padded_lt_of_earlier (hb : StartsVisibly b) (hbw : b.length ≤ w) (h : Earlier a b) :
    padded w a < padded w b := by
  rw [Earlier, List.shortlex_def] at h
  have ha : a.toList.length = a.length := String.length_toList
  have hb' : b.toList.length = b.length := String.length_toList
  unfold padded
  rcases h with hlength | ⟨hlength, hlex⟩
  · have hsplit : w - a.length = (w - b.length) + (b.length - a.length - 1 + 1) := by omega
    rw [hsplit, List.replicate_add, List.append_assoc]
    apply List.Lex.append_left
    -- the first character of the longer id stands against a blank
    cases hcs : b.toList with
    | nil =>
      simp only [hcs, List.length_nil] at hlength
      omega
    | cons first rest => exact .rel (hb first (by simp [hcs]))
  · have hsame : w - a.length = w - b.length := by omega
    rw [hsame]
    exact hlex.append_left _ _

lemma padded_lt_iff (ha : StartsVisibly a) (haw : a.length ≤ w) (hb : StartsVisibly b)
    (hbw : b.length ≤ w) : padded w a < padded w b ↔ Earlier a b := by
  constructor
  · intro hlt
    rcases earlier_or_eq_or_earlier a b with hab | rfl | hba
    · exact hab
    · exact absurd hlt (List.lt_irrefl _)
    · exact absurd (List.lt_trans hlt (padded_lt_of_earlier ha haw hba)) (List.lt_irrefl _)
  · exact padded_lt_of_earlier hb hbw

lemma le_foldl_max (ids : List String) (w : Nat) :
    w ≤ ids.foldl (fun w id => max w id.length) w ∧
      ∀ id ∈ ids, id.length ≤ ids.foldl (fun w id => max w id.length) w := by
  induction ids generalizing w with
  | nil => simp
  | cons first ids ih =>
    obtain ⟨hfirst, hrest⟩ := ih (max w first.length)
    simp only [List.foldl_cons, List.mem_cons, forall_eq_or_imp]
    exact ⟨by omega, by omega, hrest⟩

lemma length_le_width (h : id ∈ ids) : id.length ≤ width ids := (le_foldl_max ids 0).2 id h

lemma IsLatest.unique (h : IsLatest ids a) (k : IsLatest ids b) : a = b := by
  rcases h.2 b k.1 with heq | hba
  · exact heq.symm
  · rcases k.2 a h.1 with heq | hab
    · exact heq
    · exact absurd hab hba.asymm

lemma IsLatest.congr (h : IsLatest ids id) (hsame : ∀ x, x ∈ others ↔ x ∈ ids) :
    IsLatest others id :=
  ⟨(hsame id).2 h.1, fun x hx => h.2 x ((hsame x).1 hx)⟩

lemma isLatest_singleton (id : String) : IsLatest [id] id := by simp [IsLatest]

/-- An id that is no later than one of several changes nothing. -/
lemma IsLatest.cons {dropped : String} (h : IsLatest ids id) (ha : a ∈ ids)
    (hdropped : dropped = a ∨ Earlier dropped a) : IsLatest (dropped :: ids) id := by
  refine ⟨List.mem_cons_of_mem _ h.1, ?_⟩
  intro other hother
  rcases List.mem_cons.1 hother with rfl | hother
  · exact eq_or_earlier_trans hdropped (h.2 a ha)
  · exact h.2 other hother

/-- The later one of the latest ids of two parts is the latest one of the whole. -/
lemma IsLatest.append (ha : IsLatest ids a) (hb : IsLatest others b) (h : IsLatest [a, b] c) :
    IsLatest (ids ++ others) c := by
  obtain ⟨hmem, hmax⟩ := h
  simp only [List.mem_cons, List.not_mem_nil, or_false, forall_eq_or_imp, forall_eq] at hmem hmax
  constructor
  · rcases hmem with rfl | rfl
    · exact List.mem_append_left _ ha.1
    · exact List.mem_append_right _ hb.1
  · intro x hx
    rcases List.mem_append.1 hx with hx | hx
    · exact eq_or_earlier_trans (ha.2 x hx) hmax.1
    · exact eq_or_earlier_trans (hb.2 x hx) hmax.2

/-- The fold over the ids goes on with the later one of the first two, so the induction is on the
rest, for any first one. -/
lemma isLatest_foldl {first : String} {rest : List String}
    (h : ∀ id ∈ first :: rest, StartsVisibly id ∧ id.length ≤ w) :
    IsLatest (first :: rest) (rest.foldl (later w) first) := by
  induction rest generalizing first with
  | nil => simp [IsLatest]
  | cons next rest ih =>
    simp only [List.mem_cons, forall_eq_or_imp] at h
    obtain ⟨hfirst, hnext, hrest⟩ := h
    have hiff := padded_lt_iff hnext.1 hnext.2 hfirst.1 hfirst.2
    rw [List.foldl_cons]
    by_cases hearlier : Earlier next first
    · rw [later, if_pos (hiff.2 hearlier)]
      have hlatest := @ih first (by simpa [hfirst] using hrest)
      refine (hlatest.cons List.mem_cons_self (.inr hearlier)).congr ?_
      simp [or_left_comm]
    · rw [later, if_neg (mt hiff.1 hearlier)]
      have hlatest := @ih next (by simpa [hnext] using hrest)
      refine hlatest.cons List.mem_cons_self ?_
      rcases earlier_or_eq_or_earlier first next with hlt | heq | hgt
      · exact .inr hlt
      · exact .inl heq
      · exact absurd hgt hearlier

/-- Some ids have a latest one if there are any. -/
theorem exists_latest? (hne : ids ≠ []) (hids : ∀ id ∈ ids, StartsVisibly id) :
    ∃ id, latest? ids = some id ∧ IsLatest ids id := by
  cases ids with
  | nil => exact absurd rfl hne
  | cons first rest =>
    refine ⟨_, rfl, isLatest_foldl ?_⟩
    exact fun id hid => ⟨hids id hid, length_le_width hid⟩

lemma latest?_of_isLatest (hids : ∀ id ∈ ids, StartsVisibly id) (h : IsLatest ids a) :
    latest? ids = some a := by
  obtain ⟨id, hlatest, hid⟩ := exists_latest? (List.ne_nil_of_mem h.1) hids
  rw [hlatest, hid.unique h]

/-- Only what the ids are counts, not their order. -/
lemma latest?_congr (hids : ∀ id ∈ ids, StartsVisibly id) (hsame : ∀ x, x ∈ others ↔ x ∈ ids) :
    latest? others = latest? ids := by
  by_cases hne : ids = []
  · subst hne
    have hnil : others = [] := List.eq_nil_iff_forall_not_mem.2 (by simpa using hsame)
    rw [hnil]
  · obtain ⟨id, hid, hlatest⟩ := exists_latest? hne hids
    rw [hid]
    exact latest?_of_isLatest (fun x hx => hids x ((hsame x).1 hx)) (hlatest.congr hsame)

lemma latest?_append (hids : ∀ id ∈ ids, StartsVisibly id) (ha : IsLatest ids a)
    (hothers : ∀ id ∈ others, StartsVisibly id) (hb : IsLatest others b) :
    latest? (ids ++ others) = latest? [a, b] := by
  have hpair : ∀ id ∈ [a, b], StartsVisibly id := by simp [hids a ha.1, hothers b hb.1]
  obtain ⟨c, hc, hlatest⟩ := exists_latest? (List.cons_ne_nil a [b]) hpair
  rw [hc]
  refine latest?_of_isLatest ?_ (ha.append hb hlatest)
  intro id hid
  rcases List.mem_append.1 hid with hid | hid
  · exact hids id hid
  · exact hothers id hid

lemma digitChar_lt {m n : Nat} (hn : n < 10) (h : m < n) : m.digitChar < n.digitChar := by
  have hall : ∀ n < 10, ∀ m < n, Nat.digitChar m < Nat.digitChar n := by decide
  exact hall n hn m h

lemma shortlex_concat {s t : List Char} (h : List.Shortlex (· < ·) s t) (c d : Char) :
    List.Shortlex (· < ·) (s ++ [c]) (t ++ [d]) := by
  rw [List.shortlex_def] at h ⊢
  simp only [List.length_append, List.length_singleton]
  rcases h with hlength | ⟨hlength, hlex⟩
  · exact .inl (by omega)
  · refine .inr ⟨by omega, ?_⟩
    induction hlex with
    | nil => simp at hlength
    | rel hlt => exact .rel hlt
    | cons _ ih => exact .cons (ih (by simpa using hlength))

/-- The smaller number has the earlier numeral; the induction goes from a number to what stands in
front of its last digit. -/
theorem shortlex_toDigits {m n : Nat} (h : m < n) :
    List.Shortlex (· < ·) (Nat.toDigits 10 m) (Nat.toDigits 10 n) := by
  induction n using Nat.strong_induction_on generalizing m with
  | h n ih =>
    by_cases hn : n < 10
    · rw [Nat.toDigits_of_lt_base hn, Nat.toDigits_of_lt_base (by omega),
        List.shortlex_singleton_iff]
      exact digitChar_lt hn h
    · rw [Nat.toDigits_of_base_le (by decide) (Nat.le_of_not_lt hn)]
      by_cases hm : m < 10
      · rw [Nat.toDigits_of_lt_base hm]
        apply List.Shortlex.of_length_lt
        have hpos := Nat.length_toDigits_pos (b := 10) (n := n / 10)
        simp only [List.length_append, List.length_singleton]
        omega
      · rw [Nat.toDigits_of_base_le (n := m) (by decide) (Nat.le_of_not_lt hm)]
        have hle : m / 10 ≤ n / 10 := by omega
        rcases hle.lt_or_eq with hlt | heq
        · exact shortlex_concat (ih (n / 10) (by omega) hlt) _ _
        · rw [heq]
          apply List.Shortlex.append_left
          rw [List.shortlex_singleton_iff]
          exact digitChar_lt (Nat.mod_lt _ (by decide)) (by omega)

lemma earlier_toString {m n : Nat} (h : m < n) : Earlier (toString m) (toString n) := by
  rw [Earlier, Nat.toString_eq_ofList_toDigits, Nat.toString_eq_ofList_toDigits]
  simpa using shortlex_toDigits h

lemma le_of_isLatest_toString {ns : List Nat} {k n : Nat}
    (h : IsLatest (ns.map toString) (toString n)) (hk : k ∈ ns) : k ≤ n := by
  by_contra hlt
  have hearlier := earlier_toString (Nat.lt_of_not_le hlt)
  rcases h.2 (toString k) (List.mem_map_of_mem hk) with heq | hback
  · exact hearlier.asymm (heq ▸ hearlier)
  · exact hearlier.asymm hback

end Version

namespace Value

variable {resource versions : Fields}

lemma latestVersion?_of_choose? {id : String} {v : Value}
    (h : resource.get? "versions" = some (.mapping versions))
    (hid : Version.choose? versions (resource.textAt? "defaultversionid") = some id)
    (hv : versions.get? id = some v) : (mapping resource).latestVersion? = some (id, v) := by
  have hget : (mapping resource).get? "versions" = some (.mapping versions) := h
  have htext : (mapping resource).textAt? "defaultversionid" =
    resource.textAt? "defaultversionid" := rfl
  simp [latestVersion?, hget, htext, fields?, hid, hv]

end Value

namespace Version

variable {ids : List String} {versions : Fields}

lemma choose?_of_default {id : String} {v : Value} (h : versions.get? id = some v) :
    choose? versions (some id) = some id := by
  simp [choose?, Table.has, h]

lemma choose?_of_not_mem {default? : Option String} (h : ∀ id ∈ default?, id ∉ versions.keys) :
    choose? versions default? = latest? versions.keys := by
  cases default? with
  | none => rfl
  | some id =>
    have hhas : versions.has id = false := by
      rw [← Bool.not_eq_true, Table.has_iff_mem_keys]
      exact h id rfl
    simp [choose?, hhas]

/-- Which version counts does not depend on the order of the versions. -/
lemma choose?_of_perm {reordered : Fields} (hn : versions.keys.Nodup)
    (hids : ∀ id ∈ versions.keys, StartsVisibly id) (h : reordered.Perm versions)
    (default? : Option String) : choose? reordered default? = choose? versions default? := by
  have hlatest : latest? reordered.keys = latest? versions.keys :=
    latest?_congr hids fun _ => (h.map Prod.fst).mem_iff
  cases default? with
  | none => exact hlatest
  | some id =>
    have hhas : reordered.has id = versions.has id := by
      rw [Table.has, Table.has, Table.get?_of_perm hn h]
    rw [choose?, choose?, hhas, hlatest]

/-- Among ids that start visibly there is one latest id, the greatest by length and then by code
points. It does not depend on the order of the ids; it is the later one of the latest ids of two
parts; a further id changes it at most to that id; and of numerals it is the one of the greatest
number. A resource whose versions have these ids gives the version that its default names, and
otherwise the latest one, in whatever order it has its attributes and its versions. -/
theorem latest?_greatest (hne : ids ≠ []) (hids : ∀ id ∈ ids, StartsVisibly id) :
    ∃ latest, latest? ids = some latest ∧ IsLatest ids latest ∧
      (∀ reordered : List String, reordered.Perm ids → latest? reordered = some latest) ∧
      (∀ more, more ≠ [] → (∀ id ∈ more, StartsVisibly id) →
        ∃ last, latest? more = some last ∧ latest? (ids ++ more) = latest? [latest, last]) ∧
      (∀ id, StartsVisibly id → ∀ grown : List String, grown.Perm (id :: ids) →
        latest? grown = some latest ∨ latest? grown = some id) ∧
      (∀ ns : List Nat, ids = ns.map toString →
        ∃ n ∈ ns, latest = toString n ∧ ∀ k ∈ ns, k ≤ n) ∧
      ∀ resource versions : Fields, resource.get? "versions" = some (.mapping versions) →
        versions.keys = ids → ids.Nodup →
        (∀ id v, resource.textAt? "defaultversionid" = some id → versions.get? id = some v →
          (Value.mapping resource).latestVersion? = some (id, v)) ∧
        ((∀ id, resource.textAt? "defaultversionid" = some id → id ∉ ids) →
          ∃ v, versions.get? latest = some v ∧
            (Value.mapping resource).latestVersion? = some (latest, v)) ∧
        ∀ other reordered : Fields, other.get? "versions" = some (.mapping reordered) →
          reordered.Perm versions →
          other.get? "defaultversionid" = resource.get? "defaultversionid" →
          (Value.mapping other).latestVersion? = (Value.mapping resource).latestVersion? := by
  obtain ⟨latest, hlatest, hgreatest⟩ := exists_latest? hne hids
  refine ⟨latest, hlatest, hgreatest, ?_, ?_, ?_, ?_, ?_⟩
  · intro reordered hperm
    rw [latest?_congr hids fun _ => hperm.mem_iff, hlatest]
  · intro more hmore hvisible
    obtain ⟨last, hlast, hmost⟩ := exists_latest? hmore hvisible
    exact ⟨last, hlast, latest?_append hids hgreatest hvisible hmost⟩
  · intro id hid grown hgrown
    have hall : ∀ x ∈ id :: ids, StartsVisibly x := by simpa [hid] using hids
    rw [latest?_congr hall fun _ => hgrown.mem_iff, ← List.singleton_append,
      latest?_append (by simpa using hid) (isLatest_singleton id) hids hgreatest]
    have hpair : ∀ x ∈ [id, latest], StartsVisibly x := by simp [hid, hids latest hgreatest.1]
    obtain ⟨c, hc, hmax⟩ := exists_latest? (List.cons_ne_nil id [latest]) hpair
    have hmem := hmax.1
    simp only [List.mem_cons, List.not_mem_nil, or_false] at hmem
    rcases hmem with rfl | rfl
    · exact .inr hc
    · exact .inl hc
  · rintro ns rfl
    obtain ⟨n, hn, rfl⟩ := List.mem_map.1 hgreatest.1
    exact ⟨n, hn, rfl, fun k hk => le_of_isLatest_toString hgreatest hk⟩
  · rintro resource versions hversions rfl hnodup
    refine ⟨?_, ?_, ?_⟩
    · intro id v hdefault hv
      exact Value.latestVersion?_of_choose? hversions (by rw [hdefault, choose?_of_default hv]) hv
    · intro hdefault
      obtain ⟨v, hv⟩ := Option.isSome_iff_exists.1
        ((Table.has_iff_mem_keys versions latest).2 hgreatest.1)
      refine ⟨v, hv, Value.latestVersion?_of_choose? hversions ?_ hv⟩
      rw [choose?_of_not_mem hdefault, hlatest]
    · intro other reordered hother hperm hdefault
      have htext : other.textAt? "defaultversionid" = resource.textAt? "defaultversionid" := by
        rw [Fields.textAt?, Fields.textAt?, hdefault]
      have hversionsNe : versions ≠ [] := fun heq => hne (by rw [heq]; rfl)
      obtain ⟨id, v, hid, hv⟩ := exists_choose? hversionsNe (resource.textAt? "defaultversionid")
      rw [Value.latestVersion?_of_choose? hversions hid hv]
      apply Value.latestVersion?_of_choose? hother
      · rw [choose?_of_perm hnodup hids hperm, htext, hid]
      · rw [Table.get?_of_perm hnodup hperm, hv]

theorem latest?_greatest_mixed :
    let ids := ["9", "é", "10"]
    let versions : Fields := [("9", .null), ("é", .null), ("10", .boolean true)]
    ids ≠ [] ∧ (∀ id ∈ ids, StartsVisibly id) ∧ latest? ["é", "10", "9"] = some "10" ∧
      (Value.mapping [("defaultversionid", .string "2"),
        ("versions", .mapping versions)]).latestVersion? = some ("10", .boolean true) := by
  intro ids versions
  have hids : ∀ id ∈ ids, StartsVisibly id := by decide
  obtain ⟨latest, hlatest, -, hperm, -, -, -, hresource⟩ :=
    latest?_greatest (List.cons_ne_nil "9" ["é", "10"]) hids
  have hten : latest? ids = some "10" := by decide
  obtain rfl : latest = "10" := Option.some.inj (hlatest.symm.trans hten)
  have hdefault := (hresource [("defaultversionid", .string "2"), ("versions", .mapping versions)]
    versions rfl rfl (by decide)).2.1
  obtain ⟨v, hv, hversion⟩ := hdefault fun id hid => by
    obtain rfl : "2" = id := Option.some.inj hid
    decide
  obtain rfl : Value.boolean true = v := Option.some.inj hv
  exact ⟨by simp [ids], hids, hperm _ (by decide), hversion⟩

end Version

end Registry
