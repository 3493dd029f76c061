import Registry.Proofs.LintReferences
import Registry.Proofs.Stacking

/-!
# Errors about the shape of a document

The places where a registry holds mappings, and what can be wrong there. The errors of linting that
are not about references are these violations, one to one, in the order of the document and of its
model, and none of them lies below another one.
-/

namespace Registry.Lint

/-- The place of a resource. -/
structure ResourceSite where
  type : GroupType
  groupId : String
  kind : ResourceType
  id : String

/-- A place where a registry holds a mapping. -/
inductive Site where
  | collection (type : GroupType)
  | group (type : GroupType) (id : String)
  | resources (type : GroupType) (groupId : String) (kind : ResourceType)
  | resource (site : ResourceSite)

def ResourceSite.keys (s : ResourceSite) : List String :=
  [s.type.plural, s.groupId, s.kind.plural, s.id]

/-- The keys that lead to a place. -/
def Site.keys : Site → List String
  | collection type => [type.plural]
  | group type id => [type.plural, id]
  | resources type groupId kind => [type.plural, groupId, kind.plural]
  | resource site => site.keys

/-- The model declares what belongs in a place. -/
def Site.IsOf (m : Model) : Site → Prop
  | collection type | group type _ => type ∈ m.groups
  | resources type _ kind => type ∈ m.groups ∧ kind ∈ type.resources
  | resource site => site.type ∈ m.groups ∧ site.kind ∈ site.type.resources

/-- What can be wrong with the shape of a document. -/
inductive Violation where
  /-- What stands in a place is no mapping. -/
  | notMapping (site : Site)
  /-- The versions of a resource are no mapping. -/
  | versionsNotMapping (site : ResourceSite)
  /-- The default version of a resource is none of its versions. -/
  | unknownDefault (site : ResourceSite) (id : String)

namespace Violation

/-- The place that a violation is about. -/
def site : Violation → Site
  | notMapping site => site
  | versionsNotMapping site | unknownDefault site _ => .resource site

/-- A document has a violation of what a model asks for. -/
def Holds (m : Model) (document : Value) : Violation → Prop
  | notMapping site =>
    site.IsOf m ∧ ∃ v, document.under site.keys = some v ∧ v.isMapping = false
  | versionsNotMapping site => (Site.resource site).IsOf m ∧
    ∃ v, document.under (site.keys ++ ["versions"]) = some v ∧ v.isMapping = false
  | unknownDefault site id => (Site.resource site).IsOf m ∧
    ∃ versions : Fields, document.under (site.keys ++ ["versions"]) = some (.mapping versions) ∧
      document.under (site.keys ++ ["defaultversionid"]) = some (.string id) ∧ id ∉ versions.keys

def problem : Violation → Problem
  | notMapping (.collection type) => .collectionNotMapping type.plural "group id to group"
  | notMapping (.group type id) => .groupNotMapping type.singular id
  | notMapping (.resources _ _ kind) => .collectionNotMapping kind.plural ("id to " ++ kind.singular)
  | notMapping (.resource site) => .resourceNotMapping site.kind.singular site.id
  | versionsNotMapping _ => .versionsNotMapping
  | unknownDefault _ id => .unknownDefaultVersion id

/-- The error that stands for a violation, at the dotted path to its place. -/
def finding (v : Violation) : Finding := ⟨String.intercalate "." v.site.keys, v.problem⟩

end Violation

/-- The keys behind some keys in order: those of the document, but the resource collections of a group
are ordered by the model. -/
def order (m : Model) (document : Value) : List String → List String
  | [plural, _] => ((m.collection? plural).map fun type => type.resources.map (·.plural)).getD []
  | keys => (((document.under keys).bind Value.fields?).map Table.keys).getD []

/-- The places of some keys, each among the keys in its place. -/
def position (order : List String → List String) : (above keys : List String) → List Nat
  | _, [] => []
  | above, key :: keys => (order above).idxOf key :: position order (above ++ [key]) keys

/-- A violation comes before another one in the order of the document and of its model. -/
def Before (m : Model) (document : Value) (v w : Violation) : Prop :=
  position (order m document) [] v.site.keys < position (order m document) [] w.site.keys

variable {m : Model} {document : Value} {v w : Violation} {site other : Site}

lemma position_append (order : List String → List String) (above front back : List String) :
    position order above (front ++ back) =
      position order above front ++ position order (above ++ front) back := by
  induction front generalizing above with
  | nil => simp [position]
  | cons key front ih => simp [position, ih]

lemma position_lt {order : List String → List String} {front : List String} {a b : String}
    (h : (order front).idxOf a < (order front).idxOf b) (as bs : List String) :
    position order [] (front ++ a :: as) < position order [] (front ++ b :: bs) := by
  rw [position_append, position_append]
  exact List.Lex.append_left _ (.rel h) _

/-- The resource collections of each group type have different names. -/
def Distinct (m : Model) : Prop := ∀ type ∈ m.groups, (type.resources.map (·.plural)).Nodup

instance (m : Model) : Decidable (Distinct m) :=
  inferInstanceAs (Decidable (∀ type ∈ m.groups, (type.resources.map (·.plural)).Nodup))

lemma Distinct.eq_of_plural (hd : Distinct m) {type : GroupType} (ht : type ∈ m.groups)
    {kind kind' : ResourceType} (hk : kind ∈ type.resources) (hk' : kind' ∈ type.resources)
    (h : kind.plural = kind'.plural) : kind = kind' :=
  List.inj_on_of_nodup_map (hd type ht) hk hk' h

lemma eq_of_plural (hm : m.Unambiguous) {type type' : GroupType} (ht : type ∈ m.groups)
    (ht' : type' ∈ m.groups) (h : type.plural = type'.plural) : type = type' :=
  (hm.eq_of_name ht ht' (by simp [h])).symm

/-- Keys lead to one place. -/
lemma Site.eq_of_keys (hm : m.Unambiguous) (hd : Distinct m) (hs : site.IsOf m) (ho : other.IsOf m)
    (h : site.keys = other.keys) : site = other := by
  cases site <;> cases other <;> simp only [keys, ResourceSite.keys, List.cons.injEq, reduceCtorEq,
    and_false, and_true] at h
  · rw [eq_of_plural hm hs ho h]
  · rw [eq_of_plural hm hs ho h.1, h.2]
  · obtain ⟨htype, rfl, hkind⟩ := h
    obtain rfl := eq_of_plural hm hs.1 ho.1 htype
    rw [hd.eq_of_plural hs.1 hs.2 ho.2 hkind]
  · next s s' =>
    obtain ⟨type, groupId, kind, id⟩ := s
    obtain ⟨type', groupId', kind', id'⟩ := s'
    obtain ⟨htype, rfl, hkind, rfl⟩ := h
    obtain rfl := eq_of_plural hm hs.1 ho.1 htype
    obtain rfl := hd.eq_of_plural hs.1 hs.2 ho.2 hkind
    rfl

lemma Site.length_keys_le (site : Site) : site.keys.length ≤ 4 := by
  cases site <;> simp [keys, ResourceSite.keys]

/-- The first key of a place is the name of a group collection. -/
lemma Site.exists_type {key : String} (hs : site.IsOf m) (h : [key] <+: site.keys) :
    ∃ type ∈ m.groups, type.plural = key := by
  cases site with
  | collection type | group type _ => exact ⟨type, hs, by simpa [keys, eq_comm] using h⟩
  | resources type _ _ => exact ⟨type, hs.1, by simpa [keys, eq_comm] using h⟩
  | resource s => exact ⟨s.type, hs.1, by simpa [keys, ResourceSite.keys, eq_comm] using h⟩

/-- The third key of a place is the name of a resource collection. -/
lemma Site.exists_kind (hm : m.Unambiguous) {type : GroupType} (ht : type ∈ m.groups)
    {groupId key : String} (hs : site.IsOf m) (h : [type.plural, groupId, key] <+: site.keys) :
    ∃ kind ∈ type.resources, kind.plural = key := by
  cases site with
  | collection _ => simp [keys, List.cons_prefix_cons] at h
  | group _ _ => simp [keys, List.cons_prefix_cons] at h
  | resources type' _ kind =>
    simp only [keys, List.cons_prefix_cons] at h
    obtain rfl := eq_of_plural hm ht hs.1 h.1
    exact ⟨kind, hs.2, h.2.2.1.symm⟩
  | resource s =>
    simp only [keys, ResourceSite.keys, List.cons_prefix_cons] at h
    have htype := eq_of_plural hm ht hs.1 h.1
    exact ⟨s.kind, htype ▸ hs.2, h.2.2.1.symm⟩

namespace Violation

lemma Holds.isOf (h : v.Holds m document) : v.site.IsOf m := by
  cases v <;> exact h.1

/-- What a violation is about stands in its place. -/
lemma Holds.under (h : v.Holds m document) : ∃ x, document.under v.site.keys = some x := by
  cases v with
  | notMapping site =>
    obtain ⟨-, x, hx, -⟩ := h
    exact ⟨x, hx⟩
  | versionsNotMapping site =>
    obtain ⟨-, x, hx, -⟩ := h
    rw [Value.under_append, Option.bind_eq_some_iff] at hx
    exact hx.imp fun _ => And.left
  | unknownDefault site id =>
    obtain ⟨-, versions, hx, -⟩ := h
    rw [Value.under_append, Option.bind_eq_some_iff] at hx
    exact hx.imp fun _ => And.left

/-- Where no mapping stands there is one violation. -/
lemma Holds.eq_notMapping (h : v.Holds m document) {x : Value}
    (hx : document.under v.site.keys = some x) (hnot : x.isMapping = false) :
    v = .notMapping v.site := by
  cases v with
  | notMapping site => rfl
  | versionsNotMapping site =>
    obtain ⟨-, y, hy, -⟩ := h
    change document.under site.keys = some x at hx
    rw [Value.under_append, hx, Option.bind_some, Value.under_cons_of_not_isMapping hnot] at hy
    cases hy
  | unknownDefault site id =>
    obtain ⟨-, versions, hy, -⟩ := h
    change document.under site.keys = some x at hx
    rw [Value.under_append, hx, Option.bind_some, Value.under_cons_of_not_isMapping hnot] at hy
    cases hy

/-- Where a mapping stands, the only violations are those of a resource's versions. -/
lemma Holds.eq_resource (h : v.Holds m document) {fields : Fields}
    (hx : document.under v.site.keys = some (.mapping fields)) :
    ∃ s, v.site = .resource s := by
  cases v with
  | notMapping site =>
    obtain ⟨-, y, hy, hnot⟩ := h
    obtain rfl : Value.mapping fields = y := Option.some.inj (hx.symm.trans hy)
    cases hnot
  | versionsNotMapping site => exact ⟨site, rfl⟩
  | unknownDefault site id => exact ⟨site, rfl⟩

end Violation

/-- Findings are the violations at some keys and below them, in order. -/
def Reports (m : Model) (document : Value) (keys : List String) : List Finding → Prop :=
  Shows Violation.finding (Before m document) fun v => v.Holds m document ∧ keys <+: v.site.keys

variable {keys : List String} {x : Value} {fields : Fields}

lemma reports_notMapping (hm : m.Unambiguous) (hd : Distinct m) (hs : site.IsOf m)
    (hx : document.under site.keys = some x) (hnot : x.isMapping = false) :
    Reports m document site.keys [(Violation.notMapping site).finding] := by
  refine shows_singleton fun v => ⟨?_, ?_⟩
  · rintro ⟨hv, rest, hrest⟩
    cases rest with
    | nil =>
      rw [List.append_nil] at hrest
      obtain rfl := Site.eq_of_keys hm hd hs hv.isOf hrest
      exact hv.eq_notMapping hx hnot
    | cons key rest =>
      obtain ⟨y, hy⟩ := hv.under
      rw [← hrest, Value.under_append, hx, Option.bind_some,
        Value.under_cons_of_not_isMapping hnot] at hy
      cases hy
  · rintro rfl
    exact ⟨⟨hs, x, hx, hnot⟩, List.prefix_rfl⟩

lemma pairwise_idxOf {names : List String} (hn : names.Nodup) :
    names.Pairwise fun a b => names.idxOf a < names.idxOf b := by
  rw [List.pairwise_iff_getElem]
  intro i j hi hj hij
  rwa [hn.idxOf_getElem i hi, hn.idxOf_getElem j hj]

/-- What is found below each of several keys, in their order, is what is found below all. -/
lemma reports_flatMap {α : Type} {as : List α} {key : α → String} {f : α → List Finding}
    (horder : order m document keys = as.map key) (hn : (as.map key).Nodup)
    (hf : ∀ a ∈ as, Reports m document (keys ++ [key a]) (f a))
    (hbelow : ∀ v : Violation, v.Holds m document → keys <+: v.site.keys →
      ∃ a ∈ as, keys ++ [key a] <+: v.site.keys) : Reports m document keys (as.flatMap f) := by
  refine (shows_flatMap hf ?_).congr ?_
  · have hidx : (as.map key).Pairwise fun k k' =>
        (order m document keys).idxOf k < (order m document keys).idxOf k' := by
      rw [horder]
      exact pairwise_idxOf hn
    refine (List.pairwise_map.1 hidx).imp ?_
    rintro a b hlt v w ⟨-, rest, hrest⟩ ⟨-, rest', hrest'⟩
    rw [Before, ← hrest, ← hrest', List.append_assoc, List.append_assoc]
    exact position_lt hlt rest rest'
  · intro v
    constructor
    · rintro ⟨a, -, hv, hstart⟩
      exact ⟨hv, (List.prefix_append _ _).trans hstart⟩
    · rintro ⟨hv, hstart⟩
      obtain ⟨a, ha, hbelow⟩ := hbelow v hv hstart
      exact ⟨a, ha, hv, hbelow⟩

/-- A violation at the keys of a mapping or below them is below one of its keys, unless it is about a
resource. -/
lemma exists_entry_below (hx : document.under keys = some (.mapping fields)) (hlength : keys.length < 4)
    (hv : v.Holds m document) (hstart : keys <+: v.site.keys) :
    ∃ e ∈ fields, keys ++ [e.1] <+: v.site.keys := by
  obtain ⟨rest, hrest⟩ := hstart
  cases rest with
  | nil =>
    rw [List.append_nil] at hrest
    obtain ⟨s, hs⟩ := hv.eq_resource (hrest ▸ hx)
    rw [hrest, hs] at hlength
    simp [Site.keys, ResourceSite.keys] at hlength
  | cons key rest =>
    obtain ⟨y, hy⟩ := hv.under
    rw [← hrest, Value.under_append, hx, Option.bind_some, Value.under_mapping_cons,
      Option.bind_eq_some_iff] at hy
    obtain ⟨w, hw, -⟩ := hy
    refine ⟨(key, w), Table.mem_of_get? hw, rest, ?_⟩
    rw [← hrest, List.append_assoc]
    rfl

lemma reports_nil (hx : document.under keys = none) : Reports m document keys [] := by
  refine shows_nil ?_
  rintro v ⟨hv, rest, hrest⟩
  obtain ⟨y, hy⟩ := hv.under
  rw [← hrest, Value.under_append, hx] at hy
  cases hy

lemma reports_entries {f : String × Value → List Finding} (hdocument : document.WellKeyed)
    (hx : document.under keys = some (.mapping fields)) (horder : order m document keys = fields.keys)
    (hlength : keys.length < 4)
    (hf : ∀ e ∈ fields, document.under (keys ++ [e.1]) = some e.2 →
      Reports m document (keys ++ [e.1]) (f e)) :
    Reports m document keys (fields.flatMap f) := by
  have hfields : Fields.WellKeyed fields := Value.wellKeyed_at? hdocument (Value.at?_of_under hx)
  have hn := hfields.nodup
  refine reports_flatMap horder hn ?_ fun v hv hstart => exists_entry_below hx hlength hv hstart
  intro e he
  apply hf e he
  rw [Value.under_append, hx, Option.bind_some, Value.under_mapping_cons, Table.get?_of_mem hn he]
  rfl

/-- A finding is an error. -/
def isError (f : Finding) : Bool := !f.problem.isWarning

section levels

variable (hm : m.Unambiguous) (hd : Distinct m) (hdocument : document.WellKeyed)
include hm hd

lemma site_eq_resource {s : ResourceSite} (hs : (Site.resource s).IsOf m) (hv : v.Holds m document)
    (hstart : s.keys <+: v.site.keys) : v.site = .resource s := by
  refine (Site.eq_of_keys hm hd hs hv.isOf ?_).symm
  exact hstart.eq_of_length_le v.site.length_keys_le

/-- The violations of a resource that is a mapping are those of its versions. -/
lemma holds_resource_iff {s : ResourceSite} (hs : (Site.resource s).IsOf m)
    (hx : document.under s.keys = some (.mapping fields)) :
    v.Holds m document ∧ s.keys <+: v.site.keys ↔
      (v = .versionsNotMapping s ∧ ∃ w, fields.get? "versions" = some w ∧ w.isMapping = false) ∨
      ∃ id, ∃ versions : Fields, v = .unknownDefault s id ∧ fields.get? "versions" = some (.mapping versions) ∧
          fields.textAt? "defaultversionid" = some id ∧ id ∉ versions.keys := by
  have hunder : ∀ key, document.under (s.keys ++ [key]) = fields.get? key := by
    intro key
    rw [Value.under_append, hx, Option.bind_some, Value.under_mapping_cons]
    cases fields.get? key <;> rfl
  have htext : ∀ id, fields.textAt? "defaultversionid" = some id ↔
      fields.get? "defaultversionid" = some (.string id) := fun _ => Fields.textAt?_eq_some
  constructor
  · rintro ⟨hv, hstart⟩
    have hsite := site_eq_resource hm hd hs hv hstart
    cases v with
    | notMapping site =>
      obtain rfl : site = .resource s := hsite
      obtain ⟨-, y, hy, hnot⟩ := hv
      obtain rfl : Value.mapping fields = y := Option.some.inj (hx.symm.trans hy)
      cases hnot
    | versionsNotMapping site =>
      obtain rfl : site = s := Site.resource.inj hsite
      obtain ⟨-, w, hw, hnot⟩ := hv
      exact .inl ⟨rfl, w, hunder _ ▸ hw, hnot⟩
    | unknownDefault site id =>
      obtain rfl : site = s := Site.resource.inj hsite
      obtain ⟨-, versions, hversions, hdefault, hid⟩ := hv
      rw [hunder] at hversions hdefault
      exact .inr ⟨id, versions, rfl, hversions, (htext id).2 hdefault, hid⟩
  · rintro (⟨rfl, w, hw, hnot⟩ | ⟨id, versions, rfl, hversions, hdefault, hid⟩)
    · exact ⟨⟨hs, w, (hunder _).trans hw, hnot⟩, List.prefix_rfl⟩
    · refine ⟨⟨hs, versions, (hunder _).trans hversions, ?_, hid⟩, List.prefix_rfl⟩
      exact (hunder _).trans ((htext id).1 hdefault)

lemma reports_versions {s : ResourceSite} (hs : (Site.resource s).IsOf m)
    (hx : document.under s.keys = some (.mapping fields)) :
    Reports m document s.keys
      ((lintVersions (String.intercalate "." s.keys) fields).filter isError) := by
  have hiff := fun v : Violation => holds_resource_iff (v := v) hm hd hs hx
  cases hversions : fields.get? "versions" with
  | none =>
    have hlint : (lintVersions (String.intercalate "." s.keys) fields).filter isError = [] := by
      rw [lintVersions, hversions]
      cases fields.textAt? "defaultversionid" <;> rfl
    rw [hlint]
    exact shows_nil fun v hv => by simpa [hversions] using (hiff v).1 hv
  | some w =>
    cases hmapping : w.isMapping with
    | false =>
      have hlint : (lintVersions (String.intercalate "." s.keys) fields).filter isError =
          [(Violation.versionsNotMapping s).finding] := by
        rw [lintVersions, hversions]
        cases w with
        | mapping _ => cases hmapping
        | _ => rfl
      rw [hlint]
      refine shows_singleton fun v => (hiff v).trans ?_
      have hnone : ∀ versions : Fields, w ≠ .mapping versions := by
        rintro versions rfl
        cases hmapping
      simp [hversions, hmapping, hnone]
    | true =>
      obtain ⟨versions, rfl⟩ := Value.isMapping_iff.1 hmapping
      cases hdefault : fields.textAt? "defaultversionid" with
      | none =>
        have hlint : (lintVersions (String.intercalate "." s.keys) fields).filter isError = [] := by
          rw [lintVersions, hversions, hdefault]
          rfl
        rw [hlint]
        exact shows_nil fun v hv => by simpa [hversions, hdefault, hmapping] using (hiff v).1 hv
      | some id =>
        have hone : ∀ v : Violation, v.Holds m document ∧ s.keys <+: v.site.keys ↔
            v = .unknownDefault s id ∧ id ∉ Table.keys versions := by
          intro v
          rw [hiff]
          simp [hversions, hdefault, hmapping]
        rw [lintVersions, hversions, hdefault]
        by_cases hid : id ∈ Table.keys versions
        · have hhas := (Table.has_iff_mem_keys versions id).2 hid
          simp only [hhas, if_true]
          exact shows_nil fun v hv => ((hone v).1 hv).2 hid
        · have hhas := mt (Table.has_iff_mem_keys versions id).1 hid
          simp only [hhas]
          exact shows_singleton fun v => (hone v).trans (and_iff_left hid)

lemma reports_resource {s : ResourceSite} (hs : (Site.resource s).IsOf m)
    (hx : document.under s.keys = some x) :
    Reports m document s.keys
      ((lintResource s.kind (s.type.plural ++ "." ++ s.groupId ++ "." ++ s.kind.plural) s.id x).filter
        isError) := by
  cases hmapping : x.isMapping with
  | true =>
    obtain ⟨fields, rfl⟩ := Value.isMapping_iff.1 hmapping
    exact reports_versions hm hd hs hx
  | false =>
    have hlint : lintResource s.kind (s.type.plural ++ "." ++ s.groupId ++ "." ++ s.kind.plural) s.id x =
        [(Violation.notMapping (.resource s)).finding] := by
      unfold lintResource
      split
      · cases hmapping
      · rfl
    rw [hlint]
    exact reports_notMapping hm hd hs hx hmapping

include hdocument

lemma reports_resources {type : GroupType} {kind : ResourceType} {groupId : String}
    (ht : type ∈ m.groups) (hk : kind ∈ type.resources)
    (hx : document.under [type.plural, groupId] = some (.mapping fields)) :
    Reports m document [type.plural, groupId, kind.plural]
      ((lintResources (type.plural ++ "." ++ groupId) fields kind).filter isError) := by
  have hunder : document.under [type.plural, groupId, kind.plural] = fields.get? kind.plural := by
    have hsplit : [type.plural, groupId, kind.plural] = [type.plural, groupId] ++ [kind.plural] := rfl
    rw [hsplit, Value.under_append, hx, Option.bind_some, Value.under_mapping_cons]
    cases fields.get? kind.plural <;> rfl
  cases hget : fields.get? kind.plural with
  | none =>
    rw [lintResources, hget]
    exact reports_nil (hunder.trans hget)
  | some c =>
    rw [hget] at hunder
    cases hmapping : c.isMapping with
    | false =>
      have hlint : lintResources (type.plural ++ "." ++ groupId) fields kind =
          [(Violation.notMapping (.resources type groupId kind)).finding] := by
        rw [lintResources, hget]
        cases c with
        | mapping _ => cases hmapping
        | _ => rfl
      rw [hlint]
      have hsite : (Site.resources type groupId kind).IsOf m := ⟨ht, hk⟩
      exact reports_notMapping hm hd hsite hunder hmapping
    | true =>
      obtain ⟨resources, rfl⟩ := Value.isMapping_iff.1 hmapping
      rw [lintResources, hget]
      dsimp only
      rw [List.filter_flatMap]
      refine reports_entries hdocument hunder (by simp [order, hunder, Value.fields?]) (by simp) ?_
      rintro ⟨id, v⟩ - he
      let s : ResourceSite := ⟨type, groupId, kind, id⟩
      have hs : (Site.resource s).IsOf m := ⟨ht, hk⟩
      exact reports_resource (s := s) hm hd hs he

lemma reports_group {type : GroupType} {groupId : String} (ht : type ∈ m.groups)
    (hx : document.under [type.plural, groupId] = some x) :
    Reports m document [type.plural, groupId]
      ((lintGroup type type.plural groupId x).filter isError) := by
  cases hmapping : x.isMapping with
  | false =>
    have hlint : lintGroup type type.plural groupId x =
        [(Violation.notMapping (.group type groupId)).finding] := by
      cases x with
      | mapping _ => cases hmapping
      | _ => rfl
    rw [hlint]
    have hsite : (Site.group type groupId).IsOf m := ht
    exact reports_notMapping hm hd hsite hx hmapping
  | true =>
    obtain ⟨fields, rfl⟩ := Value.isMapping_iff.1 hmapping
    rw [lintGroup, List.filter_flatMap]
    refine reports_flatMap (by simp [order, hm.collection?_plural ht]) (hd type ht) ?_ ?_
    · exact fun kind hk => reports_resources hm hd hdocument ht hk hx
    · intro v hv hstart
      obtain ⟨e, -, hbelow⟩ := exists_entry_below hx (by simp) hv hstart
      obtain ⟨kind, hk, hplural⟩ := Site.exists_kind hm ht hv.isOf hbelow
      exact ⟨kind, hk, hplural ▸ hbelow⟩

lemma reports_collection {type : GroupType} (ht : type ∈ m.groups)
    (hx : document.under [type.plural] = some x) :
    Reports m document [type.plural] ((lintCollection type type.plural x).filter isError) := by
  cases hmapping : x.isMapping with
  | false =>
    have hlint : lintCollection type type.plural x =
        [(Violation.notMapping (.collection type)).finding] := by
      cases x with
      | mapping _ => cases hmapping
      | _ => rfl
    rw [hlint]
    have hsite : (Site.collection type).IsOf m := ht
    exact reports_notMapping hm hd hsite hx hmapping
  | true =>
    obtain ⟨groups, rfl⟩ := Value.isMapping_iff.1 hmapping
    rw [lintCollection, List.filter_flatMap]
    refine reports_entries hdocument hx (by simp [order, hx, Value.fields?]) (by simp) ?_
    exact fun e _ he => reports_group hm hd hdocument ht he

/-- What linting finds under a key at the top are the violations there. -/
lemma reports_entry {key : String} (hx : document.under [key] = some x) :
    Reports m document [key] ((lintEntry m key x).filter isError) := by
  rw [lintEntry]
  cases hcollection : m.collection? key with
  | some type =>
    obtain ⟨ht, rfl⟩ := Model.mem_of_collection? hcollection
    exact reports_collection hm hd hdocument ht hx
  | none =>
    have hnil : List.filter isError (if Text.endsWith key "groups" && x.isMapping then
        [⟨key, .unknownCollection key⟩] else []) = [] := by
      split <;> rfl
    rw [hnil]
    refine shows_nil ?_
    rintro v ⟨hv, hstart⟩
    obtain ⟨type, ht, rfl⟩ := Site.exists_type hv.isOf hstart
    rw [hm.collection?_plural ht] at hcollection
    cases hcollection

end levels

lemma reports_root (hm : m.Unambiguous) (hd : Distinct m) {root : Fields} (hr : root.WellKeyed) :
    Reports m (.mapping root) []
      ((root.flatMap fun (key, v) => lintEntry m key v).filter isError) := by
  have hx : (Value.mapping root).under [] = some (.mapping root) := rfl
  rw [List.filter_flatMap]
  refine reports_entries hr hx rfl (by simp) ?_
  exact fun e _ he => reports_entry hm hd hr he

/-- The errors that are not about references are those of the shape. -/
lemma shape_errors (m : Model) {root : Fields} (hr : root.WellKeyed) :
    (errors m (.mapping root)).filter (·.problem.code != "unresolved-reference") =
      (root.flatMap fun (key, v) => lintEntry m key v).filter isError := by
  obtain ⟨os, hos, -, -⟩ := shows_lintReferences (.mapping root) (.mapping root) hr ""
  have hreferences : ((lintReferences (.mapping root) "" (.mapping root)).filter fun f =>
      f.problem.code != "unresolved-reference" && !f.problem.isWarning) = [] := by
    rw [List.filter_eq_nil_iff, hos]
    intro f hf
    obtain ⟨o, -, rfl⟩ := List.mem_map.1 hf
    simp [code_finding]
  rw [filter_errors, hreferences, List.append_nil]
  refine List.filter_congr fun f hf => ?_
  obtain ⟨e, -, he⟩ := List.mem_flatMap.1 hf
  simp [(isShape_lintEntry he).code, isError]

/-- A violation at the place of another one or below it is that one. -/
lemma eq_of_prefix {vs : List Violation} (hvs : ∀ v ∈ vs, v.Holds m document)
    (hbefore : vs.Pairwise (Before m document)) (hv : v ∈ vs) (hw : w ∈ vs)
    (h : v.site.keys <+: w.site.keys) : v = w := by
  obtain ⟨rest, hrest⟩ := h
  cases rest with
  | nil =>
    rw [List.append_nil] at hrest
    by_contra hne
    have hsymm : Std.Symm fun v w : Violation => v.site.keys ≠ w.site.keys :=
      ⟨fun _ _ hkeys => hkeys.symm⟩
    have hapart : vs.Pairwise fun v w => v.site.keys ≠ w.site.keys := by
      refine hbefore.imp ?_
      intro v w hlt hkeys
      rw [Before, hkeys] at hlt
      exact List.lt_irrefl _ hlt
    exact hapart.forall hv hw hne hrest
  | cons key rest =>
    obtain ⟨x, hx⟩ := (hvs v hv).under
    obtain ⟨y, hy⟩ := (hvs w hw).under
    rw [← hrest, Value.under_append, hx, Option.bind_some] at hy
    obtain ⟨fields, rfl, -⟩ := Value.under_cons_eq_some.1 hy
    obtain ⟨s, hs⟩ := (hvs v hv).eq_resource hx
    have hlength := w.site.length_keys_le
    rw [← hrest, hs] at hlength
    simp only [Site.keys, ResourceSite.keys, List.length_append, List.length_cons] at hlength
    omega

/-- The errors of a document that are not about references stand for the violations of what its model
asks for, one each, in the order of the document and of the model: every error has the code and the
words of its violation and the dotted path to its place. At the place of a violation and below it there
is no other one. -/
theorem shape_errors_exactly (hm : m.Unambiguous) (hd : Distinct m) {root : Fields}
    (hr : root.WellKeyed) :
    ∃ vs : List Violation,
      (errors m (.mapping root)).filter (·.problem.code != "unresolved-reference") =
        vs.map Violation.finding ∧
      (∀ v, v ∈ vs ↔ v.Holds m (.mapping root)) ∧
      vs.Pairwise (Before m (.mapping root)) ∧
      ∀ v ∈ vs, ∀ w ∈ vs, v.site.keys <+: w.site.keys → v = w := by
  obtain ⟨vs, hshape, hbefore, hmem⟩ := reports_root hm hd hr
  have hholds : ∀ v, v ∈ vs ↔ v.Holds m (.mapping root) := by simpa using hmem
  refine ⟨vs, (shape_errors m hr).trans hshape, hholds, hbefore, ?_⟩
  exact fun v hv w hw h => eq_of_prefix (fun v hv => (hholds v).1 hv) hbefore hv hw h

theorem shape_errors_exactly_of_five :
    let schemas : Fields := [
      ("a", .mapping [("defaultversionid", .string "3"), ("versions", .mapping [("1", .mapping [])])]),
      ("b", .mapping [("defaultversionid", .string "1"), ("versions", .sequence [])])]
    let root : Fields := [
      ("messagegroups", .mapping [
        ("g", .string "none"), ("h", .mapping [("messages", .mapping [("m", .null)])])]),
      ("schemagroups", .mapping [("s", .mapping [("schemas", .mapping schemas)])]),
      ("endpoints", .sequence [])]
    Model.standard.Unambiguous ∧ Distinct Model.standard ∧ root.WellKeyed ∧
      ∃ vs : List Violation,
        (∀ v, v ∈ vs ↔ v.Holds Model.standard (.mapping root)) ∧
        vs.map (fun v => (v.finding.path, v.finding.problem.code)) = [
          ("messagegroups.g", "group-not-mapping"),
          ("messagegroups.h.messages.m", "resource-not-mapping"),
          ("schemagroups.s.schemas.a", "unknown-default-version"),
          ("schemagroups.s.schemas.b", "versions-not-mapping"),
          ("endpoints", "collection-not-mapping")] := by
  intro schemas root
  have hm : Model.standard.Unambiguous := by decide
  have hd : Distinct Model.standard := by decide
  have hr : root.WellKeyed := by
    simp [root, schemas, Fields.WellKeyed, Value.WellKeyed, Value.WellKeyedFields,
      Value.WellKeyedItems, Table.keys]
  obtain ⟨vs, herrors, hholds, -, -⟩ := shape_errors_exactly hm hd hr
  refine ⟨hm, hd, hr, vs, hholds, ?_⟩
  have hcodes := congrArg (List.map fun f : Finding => (f.path, f.problem.code)) herrors
  rw [List.map_map] at hcodes
  refine Eq.trans hcodes.symm ?_
  decide +kernel

end Registry.Lint
