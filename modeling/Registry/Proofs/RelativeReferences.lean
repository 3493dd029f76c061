import Registry.Composition
import Registry.Proofs.UrlFragment
import Registry.Proofs.WebUrls

/-!
# Relative references

A relative reference is read behind the root of the registry that it is found in, wherever in the
registry that is. So it leads to the place that its own segments say, in the same registry. From a
document that is not read over HTTP it leads nowhere.
-/

namespace Registry

open Text Url

variable {context text : String} {hostText : List Char} {u : Url} {segments outer : List String}

/-- Segments as a reference writes them, possibly behind a slash and in front of a fragment. -/
def Location.relative (slash : Bool) (segments : List String) (fragment : Option String) : String :=
  (if slash then "/" else "") ++ "/".intercalate segments ++ match fragment with
    | some f => "#" ++ f
    | none => ""

lemma toList_intercalate_slash (segments : List String) :
    ("/".intercalate segments).toList = ['/'].intercalate (segments.map String.toList) :=
  String.toList_intercalate

lemma slash_or_unreserved (hplain : ∀ s ∈ segments, PlainSegment s) :
    ∀ c ∈ ("/".intercalate segments).toList, c = '/' ∨ isUnreserved c = true := by
  intro c hc
  rw [toList_intercalate_slash] at hc
  exact (mem_intercalate_slash hc).imp_right fun ⟨s, hs, hc⟩ => (hplain s hs).unreserved c hc

lemma reserved_not_mem {d : Char} (hplain : ∀ s ∈ segments, PlainSegment s) (hd : d ≠ '/')
    (hreserved : isUnreserved d = false) : d ∉ ("/".intercalate segments).toList := by
  intro hm
  rcases slash_or_unreserved hplain d hm with he | he
  · exact hd he
  · rw [hreserved] at he
    cases he

lemma visible_segments (hplain : ∀ s ∈ segments, PlainSegment s) :
    Visible ("/".intercalate segments).toList := by
  intro c hc
  rcases slash_or_unreserved hplain c hc with rfl | hc
  · decide
  · exact (bare_of_isUnreserved hc).visible

lemma exists_head_bare (hne : segments ≠ []) (hplain : ∀ s ∈ segments, PlainSegment s) :
    ∃ c rest, ("/".intercalate segments).toList = c :: rest ∧ Bare c := by
  obtain ⟨first, more, rfl⟩ := List.exists_cons_of_ne_nil hne
  have hfirst := hplain first List.mem_cons_self
  obtain ⟨c, cs, hcs⟩ := List.exists_cons_of_ne_nil fun he : first.toList = [] =>
    hfirst.ne_empty (String.toList_injective he)
  have hbare := hfirst.bare c (hcs ▸ List.mem_cons_self)
  rw [toList_intercalate_slash, List.map_cons, hcs]
  cases more with
  | nil => exact ⟨c, cs, by simp, hbare⟩
  | cons next more => exact ⟨c, _, by rw [List.map_cons, List.intercalate_cons_cons]; rfl, hbare⟩

lemma Location.hasScheme_of_not_mem (h : ':' ∉ text.toList) : Location.hasScheme text = false := by
  have hnone : Url.ofText? text = none := by
    have hfree : ':' ∉ (Url.trim text.toList).filter (!isBreak ·) :=
      fun hm => h (trim_subset _ (List.mem_of_mem_filter hm))
    unfold Url.ofText? read?
    dsimp only
    rw [cutScheme?, cut?_eq_none.2 hfree]
  rw [Location.hasScheme, hnone]
  rfl

lemma Location.stripFragment_relative (hplain : ∀ s ∈ segments, PlainSegment s) (slash : Bool)
    (fragment : Option String) : Location.stripFragment (Location.relative slash segments fragment) =
      (if slash then "/" else "") ++ "/".intercalate segments := by
  have hfree : '#' ∉ ((if slash then "/" else "") ++ "/".intercalate segments).toList := by
    rw [String.toList_append, List.mem_append, not_or]
    exact ⟨by cases slash <;> decide, reserved_not_mem hplain (by decide) (by decide)⟩
  cases fragment with
  | none =>
    have htext : Location.relative slash segments none =
        (if slash then "/" else "") ++ "/".intercalate segments := String.append_empty
    rw [htext, Location.stripFragment_of_not_mem hfree]
  | some f =>
    have htext : (Location.relative slash segments (some f)).toList =
        ((if slash then "/" else "") ++ "/".intercalate segments).toList ++ '#' :: f.toList := by
      simp [Location.relative]
    rw [Location.stripFragment, cutAt?, htext, cut?_append hfree]
    exact String.ofList_toList

lemma readRelative_of_inside {c : Char} (hc : endsAuthority true c = false) (base : Url)
    (rest : List Char) : readRelative base (c :: rest) =
      some (base.withPath base.parentPath (c :: rest)) := by
  unfold readRelative
  split
  · next he => cases he
  · next he =>
    rw [(List.cons.inj he).1] at hc
    cases hc
  · next he =>
    rw [(List.cons.inj he).1] at hc
    cases hc
  · next c' rest' _ _ he =>
    obtain ⟨rfl, rfl⟩ := List.cons.inj he
    rw [if_neg (by simp [(isSlash_of_inside hc).1])]

/-- A reference of plain segments is read behind the segments that end with a slash. -/
lemma join?_site (h : WebUrl hostText u) (houter : ∀ part ∈ outer, WrittenSegment part.toList)
    (hne : segments ≠ []) (hplain : ∀ s ∈ segments, PlainSegment s) :
    (u.site (outer ++ [""])).join? ("/".intercalate segments) = some (u.site (outer ++ segments)) := by
  have hkind : (u.site (outer ++ [""])).kind = .special := h.kind_eq
  have hvisible := visible_segments hplain
  have hkeep : ("/".intercalate segments).toList.filter (!isBreak ·) =
      ("/".intercalate segments).toList :=
    List.filter_eq_self.2 fun c hc => by simp [isBreak_of_visible (hvisible c hc)]
  have hcolon : ':' ∉ ("/".intercalate segments).toList :=
    reserved_not_mem hplain (by decide) (by decide)
  have hparent : (u.site (outer ++ [""])).parentPath = Draft.opened (outer.map String.toList) := by
    have hdraft : (u.site (outer ++ [""])).path.toDraft = Draft.opened (outer.map String.toList) := by
      rw [Draft.opened_eq, site, Draft.toDraft_segments, List.map_append]
      rfl
    rw [parentPath, hdraft, Draft.parent_opened (by simp [hkind])]
    rfl
  obtain ⟨c, rest, hcs, hbare⟩ := exists_head_bare hne hplain
  have hrelative : readRelative (u.site (outer ++ [""])) ("/".intercalate segments).toList =
      some (u.site (outer ++ segments)) := by
    have hpath := withPath_intercalate hkind hne houter fun s hs => (hplain s hs).written
    rw [← hparent, ← toList_intercalate_slash, hcs] at hpath
    rw [hcs, readRelative_of_inside hbare.inside, hpath]
    rfl
  unfold join? read?
  dsimp only
  rw [trim_of_visible hvisible, hkeep, cutScheme?, cut?_eq_none.2 hcolon]
  dsimp only
  split
  · next hash _ he =>
    rw [hcs] at he
    have hcut := hbare.inside
    rw [(List.cons.inj he).1] at hcut
    cases hcut
  · next hpath _ =>
    cases hpath
  · rw [if_neg (by simp [hkind]), hrelative]

/-- The host of a URL that is read over HTTP is read again as it is written. By the URL standard every
host is. Here that has to be known only of one that the URL spells with characters above ASCII and that
comes to Punycode or capitals. -/
def SteadyHost (location : String) : Prop :=
  ∀ u host, Url.ofText? location = some u → u.isHttp = true → u.host = some host →
    SpelledInAscii (spelledHost location) ∨
      (Domain.Small host.toList ∧ ¬Domain.punycodeMark <:+: host.toList) ∨
        domain? host.toList = some host

lemma steadyHost_of_again (hu : Url.ofText? context = some u)
    (hagain : ∀ host ∈ u.host, domain? host.toList = some host) : SteadyHost context := by
  intro u' host hu' _ hhost
  obtain rfl := Option.some.inj (hu.symm.trans hu')
  exact .inr (.inr (hagain host hhost))

lemma SteadyHost.again (h : SteadyHost context) (hu : Url.ofText? context = some u)
    (hhttp : u.isHttp = true) : ∀ host ∈ u.host, domain? host.toList = some host := by
  intro host hhost
  obtain ⟨host', hhost', hread⟩ := (webUrl_of_ofText? hu hhttp).host
  obtain rfl : host' = host := Option.some.inj (hhost'.symm.trans hhost)
  rcases h u host' hu hhttp hhost with hspelled | hsmall | hagain
  · exact domain?_again hread (.inl hspelled)
  · exact domain?_again hread (.inr hsmall)
  · exact hagain

namespace Address

/-- What a number of segments below the root of a registry leads to. -/
def levels : List Level :=
  [.registry, .groupType, .group, .resourceCollection, .resource, .versionCollection, .version]

/-- A place in a registry: its root and the segments below it. -/
structure IsAt (a : Address) (root : String) (segments : List String) : Prop where
  root_eq : a.root = root
  level_eq : a.level = levels[segments.length]?.getD .unknown
  groupType_eq : a.groupType? = segments[0]?
  groupId_eq : a.groupId? = segments[1]?
  collection_eq : a.collection? = segments[2]?
  resourceId_eq : a.resourceId? = segments[3]?
  versionId_eq : a.versionId? = segments[5]?

lemma isAt_inner (a : Address) (segments : List String) :
    IsAt { a with inner := segments } a.root segments := by
  have hlevel : ∀ n, Level.ofDepth n = levels[n]?.getD .unknown
    | 0 | 1 | 2 | 3 | 4 | 5 | 6 => rfl
    | _ + 7 => rfl
  exact ⟨rfl, hlevel segments.length, rfl, rfl, rfl, rfl, rfl⟩

lemma root_eq_append (a : Address) : a.root = a.base ++ (Path.segments a.outer).toString := by
  unfold root
  generalize a.base = base
  generalize a.outer = outer
  induction outer generalizing base with
  | nil => exact String.append_empty.symm
  | cons s outer ih =>
    rw [List.foldl_cons, ih]
    simp [Path.toString, String.append_assoc]

/-- What a reference of plain segments leads to is read behind the root. -/
lemma locate?_eq_join? (a : Address) (hne : segments ≠ [])
    (hplain : ∀ s ∈ segments, PlainSegment s) (slash : Bool) (fragment : Option String) :
    a.locate? (Location.relative slash segments fragment) =
      if a.root.isEmpty then none
      else Location.join? (a.root ++ "/") ("/".intercalate segments) := by
  have hcolon : ':' ∉ ((if slash then "/" else "") ++ "/".intercalate segments).toList := by
    rw [String.toList_append, List.mem_append, not_or]
    exact ⟨by cases slash <;> decide, reserved_not_mem hplain (by decide) (by decide)⟩
  have hbehind : String.ofList (((if slash then "/" else "") ++
      "/".intercalate segments).toList.dropWhile (· == '/')) = "/".intercalate segments := by
    obtain ⟨c, rest, hcs, hbare⟩ := exists_head_bare hne hplain
    have hslash : ¬(c == '/') = true := by
      have hinside := (isSlash_of_inside hbare.inside).1
      rw [isSlash, Bool.or_eq_false_iff] at hinside
      simp [hinside.1]
    rw [String.toList_append, hcs]
    have hdrop : ((if slash then "/" else "").toList ++ c :: rest).dropWhile (· == '/') =
        c :: rest := by
      have hone : (c :: rest).dropWhile (· == '/') = c :: rest := List.dropWhile_cons_of_neg hslash
      cases slash
      · exact hone
      · exact (List.dropWhile_cons_of_pos (by decide)).trans hone
    rw [hdrop, ← hcs, String.ofList_toList]
  unfold locate?
  dsimp only
  rw [Location.stripFragment_relative hplain, Location.hasScheme_of_not_mem hcolon,
    if_neg (by decide), hbehind]

section Web

variable (m : Model) (h : WebUrl hostText u)

include h in
/-- What stands outside of a registry is written in its URL. -/
lemma written_outer : ∀ s ∈ (ofUrl m.isGroupCollection u).outer,
    s ≠ "" ∧ WrittenSegment s.toList ∧ m.isGroupCollection s = false := by
  obtain ⟨parts, -, hpath, hparts⟩ := h.path
  intro s hs
  have hmem := (List.takeWhile_prefix _).subset hs
  have hcollection := List.all_eq_true.1 List.all_takeWhile s hs
  rw [pathSegments, hpath, List.mem_filter] at hmem
  exact ⟨by simpa using hmem.2, hparts s hmem.1, by simpa using hcollection⟩

include h in
lemma root_append_slash : (ofUrl m.isGroupCollection u).root ++ "/" =
    (u.site ((ofUrl m.isGroupCollection u).outer ++ [""])).toString := by
  have hslash : ∀ outer : List String, (Path.segments (outer ++ [""])).toString =
      (Path.segments outer).toString ++ "/" := by
    intro outer
    induction outer with
    | nil => rfl
    | cons s outer ih =>
      have hcons : ∀ parts, (Path.segments (s :: parts)).toString =
          "/" ++ s ++ (Path.segments parts).toString := fun _ => rfl
      rw [List.cons_append, hcons, hcons, ih, ← String.append_assoc]
  obtain ⟨host, hhost, -⟩ := h.host
  rw [root_eq_append, toString_site (by rw [hhost]; rfl), hslash, String.append_assoc]
  rfl

variable (hagain : ∀ host ∈ u.host, domain? host.toList = some host)

include h hagain in
lemma ofText?_behind {added : List String} (hne : added ≠ [])
    (hadded : ∀ part ∈ added, WrittenSegment part.toList) :
    Url.ofText? (u.site ((ofUrl m.isGroupCollection u).outer ++ added)).toString =
      some (u.site ((ofUrl m.isGroupCollection u).outer ++ added)) := by
  refine h.ofText?_site hagain (by simp [hne]) ?_
  rw [List.forall_mem_append]
  exact ⟨fun s hs => (written_outer m h s hs).2.1, hadded⟩

variable {first : String} (hplain : ∀ s ∈ segments, PlainSegment s)
  (hfirst : segments.head? = some first) (hcollection : m.isGroupCollection first = true)

include h hagain hplain hfirst hcollection in
/-- Segments behind a registry's root stand below it. -/
lemma inModel_site (hhttp : u.isHttp = true) :
    inModel m (u.site ((ofUrl m.isGroupCollection u).outer ++ segments)).toString =
      { ofUrl m.isGroupCollection u with inner := segments } := by
  have hne : segments ≠ [] := by
    rintro rfl
    cases hfirst
  have hread := ofText?_behind m h hagain hne fun s hs => (hplain s hs).written
  have houter := written_outer m h
  have hfilled : ∀ s ∈ (ofUrl m.isGroupCollection u).outer ++ segments, s ≠ "" := by
    rw [List.forall_mem_append]
    exact ⟨fun s hs => (houter s hs).1, fun s hs => (hplain s hs).ne_empty⟩
  rw [inModel_of_url m hread hhttp,
    ofUrl_of_segments rfl hfilled (fun s hs => (houter s hs).2.2) hfirst hcollection]
  rfl

include h hagain hplain hfirst in
lemma locate?_site (slash : Bool) (fragment : Option String) :
    (ofUrl m.isGroupCollection u).locate? (Location.relative slash segments fragment) =
      some (u.site ((ofUrl m.isGroupCollection u).outer ++ segments)).toString := by
  have hne : segments ≠ [] := by
    rintro rfl
    cases hfirst
  have hopened : Url.ofText? ((ofUrl m.isGroupCollection u).root ++ "/") =
      some (u.site ((ofUrl m.isGroupCollection u).outer ++ [""])) := by
    rw [root_append_slash m h]
    exact ofText?_behind m h hagain (by simp) (by simpa using writtenSegment_nil)
  have hfilled : (ofUrl m.isGroupCollection u).root.isEmpty = false := by
    simp [root_eq_append, ofUrl]
  rw [locate?_eq_join? _ hne hplain, hfilled, if_neg (by decide), Location.join?,
    Location.hasScheme_of_not_mem (reserved_not_mem hplain (by decide) (by decide)), if_neg (by decide),
    hopened]
  simp only [Option.bind_eq_bind, Option.bind_some]
  rw [join?_site h (fun s hs => (written_outer m h s hs).2.1) hne hplain]
  rfl

end Web

/-- **Relative references.** From anywhere in a registry that is read over HTTP, a reference of plain
segments, the first one a group collection, leads to a location in the registry with the same root, at
the place that its segments say. From any other location it leads nowhere. -/
theorem locate?_relative (m : Model) (context : String) (hhost : SteadyHost context)
    {segments : List String} (hplain : ∀ s ∈ segments, PlainSegment s) {first : String}
    (hfirst : segments.head? = some first) (hcollection : m.isGroupCollection first = true)
    (slash : Bool) (fragment : Option String) :
    let located := (inModel m context).locate? (Location.relative slash segments fragment)
    if Location.isHttp context then
      ∃ location, located = some location ∧
        (inModel m location).IsAt (inModel m context).root segments
    else located = none := by
  have hne : segments ≠ [] := by
    rintro rfl
    cases hfirst
  dsimp only
  split
  · next hhttp =>
    rw [Location.isHttp, Option.any_eq_true] at hhttp
    obtain ⟨u, hu, hhttp⟩ := hhttp
    have hweb := webUrl_of_ofText? hu hhttp
    have hagain := hhost.again hu hhttp
    rw [inModel_of_url m hu hhttp]
    refine ⟨_, locate?_site m hweb hagain hplain hfirst slash fragment, ?_⟩
    rw [inModel_site m hweb hagain hplain hfirst hcollection hhttp]
    exact isAt_inner _ segments
  · next hlocal =>
    rw [inModel_of_not_isHttp m hlocal, locate?_eq_join? _ hne hplain]
    rfl

/-- Below a prefix, and in a registry whose host is spelled beyond ASCII and kept in Punycode. -/
theorem locate?_relative_of_prefix :
    let context := "HTTP://R.example.com:8080/reg//v1/messagegroups/g/?x=1#f"
    let abroad := "https://\u0436/reg/schemagroups"
    let segments := ["endpoints", "e", "messages", "m"]
    SteadyHost context ∧ SteadyHost abroad ∧ (∀ s ∈ segments, PlainSegment s) ∧
    Model.standard.isGroupCollection "endpoints" = true ∧ Location.isHttp context = true ∧
    Location.isHttp abroad = true ∧
    (∃ location, (inModel Model.standard context).locate? "/endpoints/e/messages/m#/x" =
        some location ∧
      (inModel Model.standard location).IsAt "http://r.example.com:8080/reg/v1" segments) ∧
    ∃ location, (inModel Model.standard abroad).locate? "endpoints/e/messages/m" =
        some location ∧
      (inModel Model.standard location).IsAt "https://xn--f1a/reg" segments := by
  intro context abroad segments
  let u : Url := ⟨"https", "", some "xn--f1a", none, .segments ["reg", "schemagroups"], none, none⟩
  have hu : Url.ofText? abroad = some u := by decide +kernel
  have habroad : SteadyHost abroad := by
    refine steadyHost_of_again hu fun host hhost => ?_
    obtain rfl := Option.some.inj hhost
    decide +kernel
  have hhost : SteadyHost context := by
    have hspelled : Utf8.decode? (Percent.decode (spelledHost context)) =
        some "R.example.com".toList := by decide +kernel
    refine fun _ _ _ _ _ => .inl fun decoded hdecoded => ?_
    obtain rfl := Option.some.inj (hspelled.symm.trans hdecoded)
    have hascii : "R.example.com".toList.all (fun c => decide (c.toNat < 0x80)) = true := rfl
    exact fun c hc => of_decide_eq_true (List.all_eq_true.1 hascii c hc)
  have hplain : ∀ s ∈ segments, PlainSegment s := by decide
  have hcollection : Model.standard.isGroupCollection "endpoints" = true := by decide
  have hhttp : Location.isHttp context = true := by decide +kernel
  have hhttps : Location.isHttp abroad = true := by rw [Location.isHttp, hu]; rfl
  have hroot : (inModel Model.standard context).root = "http://r.example.com:8080/reg/v1" := by
    decide +kernel
  have hroot' : (inModel Model.standard abroad).root = "https://xn--f1a/reg" := by
    rw [inModel_of_url Model.standard hu rfl]
    decide +kernel
  have hplace := locate?_relative Model.standard context hhost hplain rfl hcollection true (some "/x")
  dsimp only at hplace
  rw [if_pos hhttp, hroot] at hplace
  have hplace' := locate?_relative Model.standard abroad habroad hplain rfl hcollection false none
  dsimp only at hplace'
  rw [if_pos hhttps, hroot'] at hplace'
  exact ⟨hhost, habroad, hplain, hcollection, hhttp, hhttps, hplace, hplace'⟩

end Address

end Registry
