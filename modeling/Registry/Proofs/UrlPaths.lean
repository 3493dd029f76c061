import Registry.Proofs.MessageUrls
import Registry.Proofs.PathText

/-!
# Paths behind a host

A path of plain segments behind a host reads back as these segments, whatever host it is. So the
address of such a URL has the segments before the first group collection outside and the others
inside.
-/

namespace Registry.Url

open Text

variable {cs : List Char}

/-- Whether a character stands for itself everywhere in a URL. -/
def isUnreserved (c : Char) : Bool := c.isAlphanum || "-._~".toList.contains c

/-- A segment of a path that reads as it is written. -/
structure PlainSegment (segment : String) : Prop where
  ne_empty : segment ≠ ""
  unreserved : ∀ c ∈ segment.toList, isUnreserved c = true
  ne_dot : segment ≠ "."
  ne_dots : segment ≠ ".."

instance (segment : String) : Decidable (PlainSegment segment) :=
  decidable_of_iff (segment ≠ "" ∧ segment.toList.all isUnreserved = true ∧ segment ≠ "." ∧
      segment ≠ "..")
    ⟨fun h => ⟨h.1, List.all_eq_true.1 h.2.1, h.2.2.1, h.2.2.2⟩,
      fun h => ⟨h.1, List.all_eq_true.2 h.2, h.3, h.4⟩⟩

/-- What a character needs to be no part of the syntax of a URL. -/
structure Bare (c : Char) : Prop where
  kept : keptInPath c = true
  inside : endsAuthority true c = false
  visible : 0x20 < c.toNat
  filled : isBlank c = false
  ne_percent : c ≠ '%'

lemma bare_of_isUnreserved {c : Char} (h : isUnreserved c = true) : Bare c := by
  have hlt : c.toNat < 128 := by
    simp only [isUnreserved, Bool.or_eq_true, List.contains_iff_mem] at h
    rcases h with h | h
    · exact toNat_lt_of_isAlphanum h
    · have hlist : "-._~".toList = ['-', '.', '_', '~'] := rfl
      rw [hlist] at h
      revert h
      simp only [List.mem_cons, List.not_mem_nil, or_false]
      rintro (rfl | rfl | rfl | rfl) <;> decide
  obtain ⟨hkept, hinside, hvisible, hfilled, hpercent⟩ := of_toNat_lt (P := fun c =>
    isUnreserved c = true → keptInPath c = true ∧ endsAuthority true c = false ∧ 0x20 < c.toNat ∧
      isBlank c = false ∧ c ≠ '%') (by decide +kernel) hlt h
  exact ⟨hkept, hinside, hvisible, hfilled, hpercent⟩

lemma isSlash_of_inside {c : Char} (h : endsAuthority true c = false) :
    isSlash true c = false ∧ endsPath c = false := by
  simpa [endsAuthority] using h

lemma isBreak_of_visible {c : Char} (h : 0x20 < c.toNat) : isBreak c = false := by
  unfold isBreak
  simp only [Bool.or_eq_false_iff, beq_eq_false_iff_ne]
  refine ⟨⟨?_, ?_⟩, ?_⟩ <;> rintro rfl <;> exact absurd h (by decide)

lemma PlainSegment.bare {segment : String} (h : PlainSegment segment) :
    ∀ c ∈ segment.toList, Bare c :=
  fun c hc => bare_of_isUnreserved (h.unreserved c hc)

lemma PlainSegment.slash_not_mem {segment : String} (h : PlainSegment segment) :
    '/' ∉ segment.toList := by
  intro hm
  exact absurd (h.bare '/' hm).inside (by decide)

lemma unescapeDots_of_bare (h : ∀ c ∈ cs, Bare c) : unescapeDots cs = cs := by
  induction cs with
  | nil => rfl
  | cons c cs ih =>
    rw [List.forall_mem_cons] at h
    rw [unescapeDots, ih h.2]
    · exact fun _ he => absurd he h.1.ne_percent
    · exact fun _ he => absurd he h.1.ne_percent

lemma PlainSegment.written {segment : String} (h : PlainSegment segment) :
    WrittenSegment segment.toList := by
  refine ⟨fun c hc => (h.bare c hc).kept, fun c hc => (isSlash_of_inside (h.bare c hc).inside).1,
    ?_, ?_⟩
  · rw [isSingleDot, unescapeDots_of_bare h.bare, beq_eq_false_iff_ne]
    exact fun he => h.ne_dot (String.toList_injective he)
  · rw [isDoubleDot, unescapeDots_of_bare h.bare, beq_eq_false_iff_ne]
    exact fun he => h.ne_dots (String.toList_injective he)

lemma mem_intercalate_slash {segments : List String} {c : Char}
    (h : c ∈ ['/'].intercalate (segments.map String.toList)) :
    c = '/' ∨ ∃ segment ∈ segments, c ∈ segment.toList := by
  simpa using mem_intercalate h

lemma withPath_plain {u : Url} (hspecial : u.kind = .special) {segments : List String}
    (hne : segments ≠ []) (h : ∀ segment ∈ segments, PlainSegment segment) :
    u.withPath .root (['/'].intercalate (segments.map String.toList)) =
      { u with path := .segments segments, query := none, fragment := none } :=
  withPath_intercalate hspecial hne (List.forall_mem_nil _) fun segment hsegment =>
    (h segment hsegment).written

/-- No character ends the authority. -/
def Enclosed (cs : List Char) : Prop := ∀ c ∈ cs, endsAuthority true c = false

instance (cs : List Char) : Decidable (Enclosed cs) :=
  decidable_of_iff ((cs.all fun c => !endsAuthority true c) = true) (by simp [Enclosed])

variable {authority rest : List Char} {scheme info : String} {u : Url}

/-- What follows the authority does not change the user information. -/
lemma cutUserinfo?_append (hfree : Enclosed authority) {host : List Char}
    (h : cutUserinfo? true authority = some (info, host)) (hne : host ≠ []) (rest : List Char) :
    cutUserinfo? true (authority ++ '/' :: rest) = some (info, host ++ '/' :: rest) ∧
      Enclosed host := by
  have hfront : ∀ c ∈ authority, (!endsAuthority true c) = true := fun c hc => by
    simp [hfree c hc]
  have hcut := (takeWhile_append_stop hfront ('/' :: rest) (by simp; decide)).1
  have hwhole := (takeWhile_append_stop hfront [] (by simp)).1
  rw [List.append_nil] at hwhole
  unfold cutUserinfo? at h ⊢
  dsimp only at h ⊢
  rw [hwhole] at h
  rw [hcut]
  split at h
  · obtain ⟨rfl, rfl⟩ := Prod.mk.inj (Option.some.inj h)
    exact ⟨rfl, hfree⟩
  · next user found hat =>
    split at h
    · cases h
    · rw [List.drop_length, List.append_nil] at h
      obtain ⟨rfl, rfl⟩ := Prod.mk.inj (Option.some.inj h)
      refine ⟨?_, fun c hc => ?_⟩
      · rw [List.drop_left, if_neg (by simp [hne])]
      · rw [(cutLast?_eq_some hat).1] at hfree
        exact hfree c (by simp [hc])

/-- A host ends where the authority does, or at a colon. -/
lemma spanHost_append (inside : Bool) (hfree : Enclosed cs) (rest : List Char) :
    spanHost true inside (cs ++ '/' :: rest) =
        ((spanHost true inside cs).1, (spanHost true inside cs).2 ++ '/' :: rest) ∧
      Enclosed (spanHost true inside cs).2 ∧
      ((spanHost true inside cs).2 = [] ∨ (spanHost true inside cs).2.head? = some ':') := by
  induction cs generalizing inside with
  | nil =>
    refine ⟨?_, by simp [Enclosed, spanHost], .inl rfl⟩
    cases inside <;> rfl
  | cons c cs ih =>
    have hc : endsAuthority true c = false := hfree c List.mem_cons_self
    have hcs : Enclosed cs := fun d hd => hfree d (List.mem_cons_of_mem _ hd)
    rw [List.cons_append, spanHost, spanHost]
    by_cases hcolon : (c == ':' && !inside || endsAuthority true c) = true
    · rw [if_pos hcolon, if_pos hcolon]
      rw [hc, Bool.or_false, Bool.and_eq_true, beq_iff_eq] at hcolon
      exact ⟨rfl, hfree, .inr (by rw [hcolon.1]; rfl)⟩
    · rw [if_neg hcolon, if_neg hcolon]
      obtain ⟨happend, henclosed, hend⟩ :=
        ih (if c == '[' then true else if c == ']' then false else inside) hcs
      dsimp only
      rw [happend]
      exact ⟨rfl, henclosed, hend⟩

/-- A port ends where the authority does. -/
lemma readPort?_append (hfree : Enclosed cs) (hstart : cs = [] ∨ cs.head? = some ':')
    {port : Option Nat} {after : List Char} (h : readPort? cs = some (port, after))
    (rest : List Char) :
    after = [] ∧ readPort? (cs ++ '/' :: rest) = some (port, '/' :: rest) := by
  rcases hstart with rfl | hstart
  · obtain ⟨rfl, rfl⟩ := Prod.mk.inj (Option.some.inj h)
    exact ⟨rfl, rfl⟩
  · obtain ⟨digits, rfl⟩ := List.head?_eq_some_iff.1 hstart
    rw [List.cons_append]
    simp only [readPort?, Option.ite_none_left_eq_some, Option.some.injEq, Prod.mk.injEq] at h ⊢
    obtain ⟨hsmall, hstop, rfl, rfl⟩ := h
    -- A character behind the digits would have to end the authority.
    have hnil : digits.dropWhile Char.isDigit = [] := by
      cases hd : digits.dropWhile Char.isDigit with
      | nil => rfl
      | cons c more =>
        have hmem : c ∈ digits := (List.dropWhile_suffix _).subset (hd ▸ List.mem_cons_self)
        rw [hd] at hstop
        exact absurd (by simp [hfree c (List.mem_cons_of_mem _ hmem)]) hstop
    have hall : digits.takeWhile Char.isDigit = digits := by
      have hsplit := List.takeWhile_append_dropWhile (p := Char.isDigit) (l := digits)
      rwa [hnil, List.append_nil] at hsplit
    have hdigits : ∀ c ∈ digits, c.isDigit = true := by
      rw [← hall]
      exact List.all_eq_true.1 List.all_takeWhile
    obtain ⟨htake, hdrop⟩ := takeWhile_append_stop hdigits ('/' :: rest) (by simp)
    rw [hall] at hsmall ⊢
    rw [htake, hdrop]
    exact ⟨hnil, hsmall, by simp [endsAuthority, isSlash], rfl, rfl⟩

lemma withPathStart_nil (h : u.kind.isSpecial = true) : u.withPathStart [] = u.withPath .root [] :=
  if_pos h

lemma withPathStart_slash (h : u.kind.isSpecial = true) (rest : List Char) :
    u.withPathStart ('/' :: rest) = u.withPath .root rest := by
  unfold withPathStart
  dsimp only
  rw [h]
  exact if_pos (by decide)

lemma readAuthority_append (hspecial : Kind.ofScheme scheme = .special) (hfree : Enclosed authority)
    (h : readAuthority scheme authority = some u) (rest : List Char) :
    u.scheme = scheme ∧
      readAuthority scheme (authority ++ '/' :: rest) = some (u.withPath .root rest) := by
  have htrue : (Kind.ofScheme scheme).isSpecial = true := by rw [hspecial]; rfl
  unfold readAuthority at h ⊢
  simp only [htrue, Bool.true_or, Bool.and_true, if_true, Option.bind_eq_bind] at h ⊢
  obtain ⟨⟨info, hostText⟩, hinfo, h⟩ := Option.bind_eq_some_iff.1 h
  dsimp only at h
  split at h
  · cases h
  · next hfilled =>
    obtain ⟨host, hhost, h⟩ := Option.bind_eq_some_iff.1 h
    obtain ⟨⟨port, after⟩, hport, h⟩ := Option.bind_eq_some_iff.1 h
    have hne : hostText ≠ [] := by
      rintro rfl
      exact hfilled rfl
    -- Each part is read up to the end of the authority, so that what follows is left for the path.
    obtain ⟨hinfo', henclosed⟩ := cutUserinfo?_append hfree hinfo hne rest
    obtain ⟨hspan, hbehind, hstart⟩ := spanHost_append false henclosed rest
    obtain ⟨rfl, hport'⟩ := readPort?_append hbehind hstart hport rest
    rw [withPathStart_nil (by exact htrue)] at h
    obtain rfl := Option.some.inj h
    rw [hinfo', Option.bind_some]
    dsimp only
    rw [hspan]
    dsimp only
    rw [if_neg hfilled, hhost, Option.bind_some, hport', Option.bind_some,
      withPathStart_slash (by exact htrue)]
    exact ⟨rfl, rfl⟩

/-- No character is a blank or a control character. -/
def Visible (cs : List Char) : Prop := ∀ c ∈ cs, 0x20 < c.toNat

instance (cs : List Char) : Decidable (Visible cs) :=
  decidable_of_iff ((cs.all fun c => decide (0x20 < c.toNat)) = true) (by simp [Visible])

lemma trim_of_visible (h : Visible cs) : trim cs = cs := by
  have hdrop : ∀ {cs : List Char}, Visible cs →
      cs.dropWhile (fun c => decide (c.toNat ≤ 0x20)) = cs := by
    intro cs h
    cases cs with
    | nil => rfl
    | cons c cs =>
      rw [List.dropWhile_cons_of_neg (by simpa using h c List.mem_cons_self)]
  unfold trim
  dsimp only
  rw [hdrop h, hdrop (by simpa [Visible] using h), List.reverse_reverse]

/-- A text without blanks that starts like a URL with a host is read from its authority on. -/
lemma ofText?_http {scheme text : String} {rest : List Char}
    (hscheme : scheme = "http" ∨ scheme = "https")
    (htext : text.toList = scheme.toList ++ ':' :: '/' :: '/' :: rest) (h : Visible rest)
    (hstart : ∀ c ∈ rest.head?, isSlash true c = false) :
    ofText? text = readAuthority scheme rest := by
  obtain ⟨hvisible, hcolon, hname, hlower, hspecial⟩ : Visible scheme.toList ∧ ':' ∉ scheme.toList ∧
      (scheme.toList.head?.any Char.isAlpha && scheme.toList.all isSchemeChar) = true ∧
        String.ofList (scheme.toList.map Char.toLower) = scheme ∧
          Kind.ofScheme scheme = .special := by
    rcases hscheme with rfl | rfl <;> decide
  have hvisible : Visible text.toList := by
    rw [htext, Visible, List.forall_mem_append, List.forall_mem_cons, List.forall_mem_cons,
      List.forall_mem_cons]
    exact ⟨hvisible, by decide, by decide, by decide, h⟩
  have hkeep : text.toList.filter (!isBreak ·) = text.toList :=
    List.filter_eq_self.2 fun c hc => by simp [isBreak_of_visible (hvisible c hc)]
  have hcut : cutScheme? text.toList = some (scheme, '/' :: '/' :: rest) := by
    rw [cutScheme?, htext, cut?_append hcolon]
    dsimp only
    rw [if_pos hname, hlower]
  have hslashes : slashCount ('/' :: '/' :: rest) = 2 := by
    have hfront : ∀ c ∈ ['/', '/'], isSlash true c = true := by simp [isSlash]
    have hslash := (takeWhile_append_stop hfront rest hstart).1
    exact congrArg List.length hslash
  unfold ofText? read?
  dsimp only
  rw [trim_of_visible hvisible, hkeep, hcut]
  dsimp only
  rw [hspecial, hslashes]
  rfl

lemma ofText?_https {rest : List Char} {text : String}
    (htext : text.toList = "https://".toList ++ rest) (h : Visible rest)
    (hstart : ∀ c ∈ rest.head?, isSlash true c = false) :
    ofText? text = readAuthority "https" rest :=
  ofText?_http (.inr rfl) htext h hstart

/-- The URL of a path behind a host. -/
def hosted (host : String) (segments : List String) : String :=
  "https://" ++ host ++ (Path.segments segments).toString

/-- A text that stands where a URL has its host, and possibly user information and a port; and the
URL without a path. -/
structure IsHost (host : String) (base : Url) : Prop where
  enclosed : Enclosed host.toList
  visible : Visible host.toList
  reads : ofText? ("https://" ++ host) = some base

variable {host : String} {base : Url} {segments : List String}

lemma toList_hosted (hne : segments ≠ []) : (hosted host segments).toList =
    "https://".toList ++ (host.toList ++ '/' :: ['/'].intercalate (segments.map String.toList)) := by
  obtain ⟨segment, rest, rfl⟩ := List.exists_cons_of_ne_nil hne
  rw [hosted, String.toList_append, String.toList_append, toList_toString_segments,
    List.append_assoc]

lemma IsHost.readAuthority_eq (h : IsHost host base) :
    readAuthority "https" host.toList = some base := by
  rw [← h.reads]
  refine (ofText?_https String.toList_append h.visible fun c hc => ?_).symm
  exact (isSlash_of_inside (h.enclosed c (List.mem_of_mem_head? hc))).1

lemma IsHost.toList_ne_nil (h : IsHost host base) : host.toList ≠ [] := by
  intro he
  have hread := h.readAuthority_eq
  rw [he] at hread
  cases hread

/-- A path of plain segments behind a host is read as these segments. -/
theorem ofText?_hosted (h : IsHost host base) (hne : segments ≠ [])
    (hplain : ∀ segment ∈ segments, PlainSegment segment) :
    base.scheme = "https" ∧ ofText? (hosted host segments) =
      some { base with path := .segments segments, query := none, fragment := none } := by
  have hspecial : Kind.ofScheme "https" = .special := by decide
  obtain ⟨hscheme, hread⟩ := readAuthority_append hspecial h.enclosed h.readAuthority_eq
    (['/'].intercalate (segments.map String.toList))
  have hkind : base.kind = .special := by rw [kind, hscheme, hspecial]
  refine ⟨hscheme, ?_⟩
  rw [ofText?_https (toList_hosted hne), hread, withPath_plain hkind hne hplain]
  · rw [Visible, List.forall_mem_append, List.forall_mem_cons]
    refine ⟨h.visible, by decide, fun c hc => ?_⟩
    obtain rfl | ⟨segment, hsegment, hc⟩ := mem_intercalate_slash hc
    · decide
    · exact ((hplain segment hsegment).bare c hc).visible
  · intro c hc
    obtain ⟨first, cs, hhost⟩ := List.exists_cons_of_ne_nil h.toList_ne_nil
    rw [hhost, List.cons_append, List.head?_cons, Option.mem_some] at hc
    subst hc
    exact (isSlash_of_inside (h.enclosed _ (hhost ▸ List.mem_cons_self))).1

/-- Where a path of plain segments stands in a hierarchy: what is before the first group collection
is outside. -/
lemma inModel_hosted (h : IsHost host base) (m : Model) {outer inner : List String} {first : String}
    (houter : ∀ segment ∈ outer, m.isGroupCollection segment = false)
    (hfirst : inner.head? = some first) (hcollection : m.isGroupCollection first = true)
    (hplain : ∀ segment ∈ outer ++ inner, PlainSegment segment) :
    Address.inModel m (hosted host (outer ++ inner)) =
      ⟨"https://" ++ base.hostAndPort, outer, inner⟩ := by
  have hne : outer ++ inner ≠ [] := by
    rintro he
    rw [(List.append_eq_nil_iff.1 he).2] at hfirst
    cases hfirst
  obtain ⟨hscheme, hread⟩ := ofText?_hosted h hne hplain
  have hhttp : isHttp { base with
      path := .segments (outer ++ inner), query := none, fragment := none } = true := by
    rw [isHttp, hscheme]
    rfl
  rw [Address.inModel_of_url m hread hhttp, Address.ofUrl_of_segments rfl
    (fun segment hsegment => (hplain segment hsegment).ne_empty) houter hfirst hcollection, hscheme]
  rfl

lemma hash_not_mem_hosted (h : IsHost host base) (hne : segments ≠ [])
    (hplain : ∀ segment ∈ segments, PlainSegment segment) : '#' ∉ (hosted host segments).toList := by
  have hends : endsAuthority true '#' = true := by decide
  rw [toList_hosted hne, List.mem_append, List.mem_append, List.mem_cons]
  rintro (hm | hm | hm | hm)
  · exact absurd hm (by decide)
  · exact absurd (h.enclosed '#' hm) (by simp [hends])
  · exact absurd hm (by decide)
  · obtain hslash | ⟨segment, hsegment, hc⟩ := mem_intercalate_slash hm
    · exact absurd hslash (by decide)
    · exact absurd ((hplain segment hsegment).bare _ hc).inside (by simp [hends])

lemma cutAt?_hosted (h : IsHost host base) (hne : segments ≠ [])
    (hplain : ∀ segment ∈ segments, PlainSegment segment) :
    Text.cutAt? '#' (hosted host segments) = none := by
  rw [Text.cutAt?, cut?_eq_none.2 (hash_not_mem_hosted h hne hplain), Option.map_none]

lemma trim_hosted (hne : segments ≠ []) (hplain : ∀ segment ∈ segments, PlainSegment segment) :
    Text.trim (hosted host segments) = hosted host segments := by
  have hfilled : ∀ c ∈ '/' :: ['/'].intercalate (segments.map String.toList),
      Text.isBlank c = false := by
    rw [List.forall_mem_cons]
    refine ⟨by decide, fun c hc => ?_⟩
    obtain rfl | ⟨segment, hsegment, hc⟩ := mem_intercalate_slash hc
    · decide
    · exact ((hplain segment hsegment).bare c hc).filled
  have hpath : '/' :: ['/'].intercalate (segments.map String.toList) ≠ [] := List.cons_ne_nil _ _
  have hlast := List.getLast?_eq_some_getLast hpath
  refine Text.trim_of_ends (toList_hosted hne) (by decide) _ ?_ (hfilled _ (List.getLast_mem hpath))
  rw [toList_hosted hne, List.getLast?_append_of_ne_nil _ (by simp),
    List.getLast?_append_of_ne_nil _ hpath, hlast]

end Registry.Url
