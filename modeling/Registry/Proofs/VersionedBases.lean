import Registry.Proofs.InheritanceCycles

/-!
# Bases with versions

A base with versions gives what the version that counts has, and nothing else. What the base takes over
itself is put beside its versions and not into them, so a message that names the base does not see
it. All that a further base decides is which version counts, where the base does not say so.
-/

namespace Registry.Inheritance

variable {m : Model} {document : Value} {p q r : Place} {own base root version full message : Fields}
  {key : String}

/-- A message on no cycle is completed by what its base gives in the end. -/
lemma Points.resolved (hd : document.WellKeyed) (hp : MessageAt m document p own)
    (h : Points m document own q) (hq : MessageAt m document q base)
    (hfree : (lineage m document).isCyclic p.pointer = false) :
    (lineage m document).resolved p.pointer = Lineage.completed own
      (Lineage.inheritable (.mapping ((lineage m document).resolved q.pointer))) := by
  rw [Lineage.resolved_eq (has_lineage hd hp), own_lineage hd hp, Lineage.taken?, hfree,
    if_neg (by decide), (get?_bases hd hp).trans h, Option.bind_some, if_pos (has_lineage hd hq),
    Option.bind_some]

/-- The attributes that a message does not take over. -/
def identity : List String := [baseAttribute, idAttribute]

lemma get?_swapErase_identity (hm : message.WellKeyed) (hkey : key ∉ identity) :
    Table.get? ((message.swapErase baseAttribute).swapErase idAttribute) key = message.get? key := by
  rw [identity, List.mem_cons, List.mem_singleton, not_or] at hkey
  rw [Table.get?_swapErase (hm.swapErase _).nodup, if_neg hkey.2, Table.get?_swapErase hm.nodup,
    if_neg hkey.1]

/-- A merge holds under a key what the two sides have there. -/
lemma get?_merge_congr {fields other : Fields} (h : fields.get? key = other.get? key) :
    (own.merge fields).get? key = (own.merge other).get? key := by
  rw [Fields.get?_merge, Fields.get?_merge, h]

/-- A message with what it takes over, attribute by attribute. -/
lemma get?_completed (hm : message.WellKeyed) (hb : base.WellKeyed) (hkey : key ∉ identity) :
    (Lineage.completed message
      (some ((base.swapErase baseAttribute).swapErase idAttribute))).get? key =
        (message.merge base).get? key := by
  have hshared := (hb.swapErase baseAttribute).swapErase idAttribute
  have hne : key ≠ baseAttribute := fun he => hkey (he ▸ List.mem_cons_self)
  unfold Lineage.completed
  rw [Option.map_some, Option.getD_some, Table.get?_swapErase (hm.merge hshared).nodup, if_neg hne]
  exact get?_merge_congr (get?_swapErase_identity hb hkey)

/-- A message with what a value gives that is perhaps no mapping. -/
lemma get?_completed_entries {given : Value} (hm : message.WellKeyed) (hg : given.WellKeyed)
    (hkey : key ∉ identity) :
    (Lineage.completed message (given.fields?.map fun fields =>
      (fields.swapErase baseAttribute).swapErase idAttribute)).get? key =
        (message.merge given.entries).get? key := by
  cases given with
  | mapping fields => exact get?_completed hm hg hkey
  | _ =>
    have hne : key ≠ baseAttribute := fun he => hkey (he ▸ List.mem_cons_self)
    have hentries : (message.merge []).get? key = message.get? key := by rw [Fields.merge_nil]
    exact ((Table.get?_swapErase hm.nodup _ _).trans (if_neg hne)).trans hentries.symm

/-- A base with versions gives what the version that counts has, if that is a mapping. -/
lemma inheritable_of_latestVersion? {id : String} {counted : Value}
    (h : (Value.mapping base).latestVersion? = some (id, counted)) :
    Lineage.inheritable (.mapping base) =
      counted.fields?.map fun fields => (fields.swapErase baseAttribute).swapErase idAttribute := by
  rw [Lineage.inheritable, h]
  cases counted <;> rfl

/-- Filling a mapping that has versions from one that has none leaves some version to count. -/
lemma exists_latestVersion?_merge {id : String} {counted : Value}
    (hbase : (Value.mapping base).latestVersion? = some (id, counted))
    (hroot : root.get? "versions" = none) :
    ∃ id' counted', (Value.mapping (base.merge root)).latestVersion? = some (id', counted') := by
  simp only [Value.latestVersion?, Option.bind_eq_bind, Option.bind_eq_some_iff] at hbase
  obtain ⟨v, hv, versions, hversions, _, -, w, hw, -⟩ := hbase
  obtain rfl := Value.fields?_eq_some.1 hversions
  have hmerged : (Value.mapping (base.merge root)).get? "versions" = some (.mapping versions) := by
    have hget : base.get? "versions" = some (.mapping versions) := hv
    change Table.get? (base.merge root) "versions" = _
    rw [Fields.get?_merge, hget, hroot]
  have hne : versions ≠ [] := by
    rintro rfl
    cases hw
  obtain ⟨id', counted', hchoose, hcounted⟩ := Version.exists_choose? hne
    ((Value.mapping (base.merge root)).textAt? "defaultversionid")
  refine ⟨id', counted', ?_⟩
  unfold Value.latestVersion?
  simp only [hmerged, Option.bind_eq_bind, Option.bind_some, Value.fields?, hchoose, hcounted]

/-- The version that counts stays the one that counts if the choice is not left to what is filled in. -/
lemma latestVersion?_merge (hroot : root.get? "versions" = none)
    (hown : base.has "defaultversionid" = true ∨ root.get? "defaultversionid" = none) :
    (Value.mapping (base.merge root)).latestVersion? = (Value.mapping base).latestVersion? := by
  refine Value.latestVersion?_congr ?_ ?_
  · rw [Fields.get?_merge, hroot]
    cases base.get? "versions" <;> rfl
  · rw [Fields.textAt?, Fields.textAt?]
    cases hv : base.get? "defaultversionid" with
    | some v =>
      obtain ⟨b, hb⟩ := Fields.get?_merge_of_some root hv
      rw [hb]
      exact Value.text?_merge v b
    | none =>
      have hnone : root.get? "defaultversionid" = none := by
        refine hown.resolve_left fun hhas => ?_
        rw [Table.has, hv] at hhas
        cases hhas
      rw [Fields.get?_merge_of_none hv, hnone]

/-- A message has what a version has, and of a further base what neither of the two defines. -/
structure TakesThrough (own version root full : Fields) : Prop where
  ofVersion : ∀ key x, key ∉ identity → version.get? key = some x →
    ∃ y, full.get? key = some y ∧ (own.get? key = none → ∃ b, y = x.merge b)
  ofRoot : ∀ key x, key ∉ identity → root.get? key = some x → own.get? key = none →
    version.get? key = none → full.get? key = some x

/-- A message that has the attributes of a version beside its own has those of a further base exactly
if there is none that is not in one of the two. -/
lemma takesThrough_iff
    (hfull : ∀ key, key ∉ identity → full.get? key = (own.merge version).get? key) :
    TakesThrough own version root full ↔ ∀ key, root.has key = true →
      key ∈ identity ∨ own.has key = true ∨ version.has key = true := by
  constructor
  · intro h key hkey
    by_contra hnot
    rw [not_or, ← Bool.or_eq_true, ← Fields.has_merge] at hnot
    obtain ⟨hidentity, hmerge⟩ := hnot
    obtain ⟨x, hx⟩ := Option.isSome_iff_exists.1 hkey
    have hown : own.get? key = none := by
      cases hv : own.get? key with
      | none => rfl
      | some v => exact absurd (by rw [Fields.has_merge, Table.has, hv]; rfl) hmerge
    have hversion : version.get? key = none := by
      rw [← Fields.get?_merge_of_none hown]
      simpa [Table.has] using hmerge
    have hthrough := h.ofRoot key x hidentity hx hown hversion
    rw [hfull key hidentity, Fields.get?_merge_of_none hown, hversion] at hthrough
    cases hthrough
  · intro h
    constructor
    case ofVersion =>
      intro key x hkey hx
      rw [hfull key hkey, Fields.get?_merge, hx]
      cases own.get? key with
      | none => exact ⟨x, rfl, fun _ => ⟨.null, (Value.merge_of_base_not_isMapping x rfl).symm⟩⟩
      | some v => exact ⟨v.merge x, rfl, fun hnone => by cases hnone⟩
    case ofRoot =>
      intro key x hkey hx hown hversion
      have hhas : root.has key = true := by rw [Table.has, hx]; rfl
      rcases h key hhas with hin | hin | hin
      · exact absurd hin hkey
      · rw [Table.has, hown] at hin
        cases hin
      · rw [Table.has, hversion] at hin
        cases hin

/-- A message that names a base with versions, where the base names a further one without versions,
has beside its own attributes those of the version that counts, and no others. The version that counts
is the latest one of the base, unless the base leaves the choice to the further base. So the message
has what the further base alone defines exactly if there is nothing of the kind. -/
theorem inherit_through_versions (m : Model) {document : Value} (hd : document.WellKeyed)
    {p q r : Place} {own base root version : Fields} {id : String}
    (hp : MessageAt m document p own) (hpq : Points m document own q)
    (hq : MessageAt m document q base) (hqr : Points m document base r)
    (hr : MessageAt m document r root) (hroot : root.get? baseAttribute = none)
    (hplain : root.get? "versions" = none)
    (hlatest : (Value.mapping base).latestVersion? = some (id, .mapping version)) :
    ∃ (id' : String) (counted : Value) (full : Fields),
      (Value.mapping (base.merge root)).latestVersion? = some (id', counted) ∧
      (base.has "defaultversionid" = true ∨ root.get? "defaultversionid" = none →
        counted = .mapping version) ∧
      MessageAt m (document.onMapping (inherit m)) p full ∧
      (∀ key, key ∉ identity → full.get? key = (own.merge counted.entries).get? key) ∧
      (counted = .mapping version → (TakesThrough own version root full ↔
        ∀ key, root.has key = true →
          key ∈ identity ∨ own.has key = true ∨ version.has key = true)) := by
  have hends := get?_bases_of_get?_base hd hr hroot
  have hstep := hpq.isParent hd hp hq
  have hstep' := hqr.isParent hd hq hr
  have hgiven : (lineage m document).resolved q.pointer = Lineage.completed base
      (some ((root.swapErase baseAttribute).swapErase idAttribute)) := by
    rw [hqr.resolved hd hq hr (Lineage.isCyclic_eq_false_of_leads (.single hstep') hends),
      resolved_of_get?_base hd hr hroot, inheritable_mapping hplain]
  have hbase := hq.wellKeyed hd
  have hfurther := hr.wellKeyed hd
  obtain ⟨id', counted, hcounted⟩ := exists_latestVersion?_merge hlatest hplain
  -- The attributes that decide which version counts are no part of a message's identity.
  have hcounted' : (Value.mapping ((lineage m document).resolved q.pointer)).latestVersion? =
      some (id', counted) := by
    rw [hgiven, ← hcounted]
    exact Value.latestVersion?_congr (get?_completed hbase hfurther (by decide))
      (congrArg (·.bind Value.text?) (get?_completed hbase hfurther (by decide)))
  have hresolved : (lineage m document).resolved p.pointer = Lineage.completed own
      (counted.fields?.map fun fields => (fields.swapErase baseAttribute).swapErase idAttribute) := by
    rw [hpq.resolved hd hp hq (Lineage.isCyclic_eq_false_of_leads (.head hstep (.single hstep')) hends),
      inheritable_of_latestVersion? hcounted']
  have hfull : ∀ key, key ∉ identity →
      ((lineage m document).resolved p.pointer).get? key = (own.merge counted.entries).get? key := by
    intro key hkey
    have hwell := wellKeyed_of_latestVersion? (hbase.merge hfurther) hcounted
    rw [hresolved]
    exact get?_completed_entries (hp.wellKeyed hd) hwell hkey
  refine ⟨id', counted, _, hcounted, fun hown => ?_, hp.inherit hd rfl, hfull, ?_⟩
  · have hsame : (Value.mapping (base.merge root)).latestVersion? =
        (Value.mapping base).latestVersion? :=
      latestVersion?_merge hplain hown
    rw [hcounted, hlatest] at hsame
    exact congrArg Prod.snd (Option.some.inj hsame)
  · rintro rfl
    exact takesThrough_iff hfull

/-- The base has two versions, the later one of which counts. The further base has an attribute that
nothing else defines, or none of the kind. -/
theorem inherit_through_versions_of_two :
    let m : Model := ⟨[⟨"messagegroups", "messagegroup", [⟨"messages", "message"⟩]⟩], .null⟩
    let own : Fields := [("messageid", .string "d"),
      ("basemessageurl", .string "#/messagegroups/g/messages/b")]
    let version : Fields := [("data", .mapping [("type", .string "of ten")]), ("messageid", .null)]
    let base : Fields := [("basemessageurl", .string "#/messagegroups/h/messages/a"),
      ("versions", .mapping [("2", .mapping [("data", .null)]), ("10", .mapping version)])]
    let root : Fields := [("protocol", .string "AMQP/1.0"), ("data", .string "of a")]
    let covered : Fields := [("data", .mapping [("type", .null), ("format", .string "of a")])]
    let document (root : Fields) : Value := .mapping [("messagegroups", .mapping [
      ("g", .mapping [("messages", .mapping [("d", .mapping own), ("b", .mapping base)])]),
      ("h", .mapping [("messages", .mapping [("a", .mapping root)])])])]
    (document root).WellKeyed ∧ (document covered).WellKeyed ∧
      (Value.mapping base).latestVersion? = some ("10", .mapping version) ∧
      (∃ full, MessageAt m ((document root).onMapping (inherit m)) ⟨"messagegroups", "g", "d"⟩ full ∧
        full.get? "data" = some (.mapping [("type", .string "of ten")]) ∧
        full.get? "protocol" = none ∧ ¬TakesThrough own version root full) ∧
      ∃ full, MessageAt m ((document covered).onMapping (inherit m)) ⟨"messagegroups", "g", "d"⟩ full ∧
        TakesThrough own version covered full ∧
        ∃ b, full.get? "data" = some ((Value.mapping [("type", .string "of ten")]).merge b) := by
  intro m own version base root covered document
  have hd : (document root).WellKeyed := by
    simp [document, own, base, version, root, Value.WellKeyed, Value.WellKeyedFields, Table.keys]
  have hd' : (document covered).WellKeyed := by
    simp [document, own, base, version, covered, Value.WellKeyed, Value.WellKeyedFields, Table.keys]
  have hlatest : (Value.mapping base).latestVersion? = some ("10", .mapping version) := by decide
  have hp : ∀ root, MessageAt m (document root) ⟨"messagegroups", "g", "d"⟩ own :=
    fun _ => ⟨by decide, rfl⟩
  have hq : ∀ root, MessageAt m (document root) ⟨"messagegroups", "g", "b"⟩ base :=
    fun _ => ⟨by decide, rfl⟩
  have hr : ∀ root, MessageAt m (document root) ⟨"messagegroups", "h", "a"⟩ root :=
    fun _ => ⟨by decide, rfl⟩
  have hpq : ∀ root, Points m (document root) own ⟨"messagegroups", "g", "b"⟩ :=
    fun root => Names.points (by decide) (hq root)
  have hqr : ∀ root, Points m (document root) base ⟨"messagegroups", "h", "a"⟩ :=
    fun root => Names.points (by decide) (hr root)
  refine ⟨hd, hd', hlatest, ?_, ?_⟩
  · obtain ⟨-, counted, full, -, hcounted, hfull, hget, hiff⟩ := inherit_through_versions m hd
      (hp root) (hpq root) (hq root) (hqr root) (hr root) rfl rfl hlatest
    obtain rfl := hcounted (.inr rfl)
    refine ⟨full, hfull, ?_, ?_, fun h => ?_⟩
    · rw [hget "data" (by decide)]
      decide
    · rw [hget "protocol" (by decide)]
      decide
    · exact absurd ((hiff rfl).1 h "protocol" rfl) (by decide)
  · obtain ⟨-, counted, full, -, hcounted, hfull, -, hiff⟩ := inherit_through_versions m hd'
      (hp covered) (hpq covered) (hq covered) (hqr covered) (hr covered) rfl rfl hlatest
    obtain rfl := hcounted (.inr rfl)
    have hthrough : TakesThrough own version covered full := (hiff rfl).2 fun key hkey => by
      obtain rfl : "data" = key := by simpa [covered, Table.has, Table.get?_cons] using hkey
      exact .inr (.inr (by decide))
    obtain ⟨y, hy, hmerge⟩ := hthrough.ofVersion "data" _ (by decide) rfl
    obtain ⟨b, rfl⟩ := hmerge rfl
    exact ⟨full, hfull, hthrough, b, hy⟩

/-- A message does not get the protocol of a message that its base, which has versions, names as base
in its turn. -/
theorem inherit_not_through_versions :
    let m := Model.standard
    let own : Fields := [("messageid", .string "D"),
      ("basemessageurl", .string "#/messagegroups/g/messages/B")]
    let version : Fields := [("versionid", .string "1"),
      ("datacontenttype", .string "application/json")]
    let base : Fields := [("messageid", .string "B"),
      ("basemessageurl", .string "#/messagegroups/g/messages/A"),
      ("versions", .mapping [("1", .mapping version)])]
    let root : Fields := [("messageid", .string "A"), ("protocol", .string "AMQP/1.0")]
    let full : Fields := [("messageid", .string "D"),
      ("datacontenttype", .string "application/json"), ("versionid", .string "1")]
    let document : Value := .mapping [("messagegroups", .mapping [("g", .mapping [("messages",
      .mapping [("A", .mapping root), ("B", .mapping base), ("D", .mapping own)])])])]
    MessageAt m document ⟨"messagegroups", "g", "D"⟩ own ∧
      (Value.mapping base).latestVersion? = some ("1", .mapping version) ∧
      MessageAt m (document.onMapping (inherit m)) ⟨"messagegroups", "g", "D"⟩ full ∧
      ¬TakesThrough own version root full := by
  intro m own version base root full document
  refine ⟨⟨by decide, rfl⟩, by decide, ⟨by decide, by decide⟩, fun h => ?_⟩
  exact absurd (h.ofRoot "protocol" (.string "AMQP/1.0") (by decide) rfl rfl rfl) (by decide)

end Registry.Inheritance
