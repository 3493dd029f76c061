import Registry.Proofs.HostText

/-!
# URLs of the web

A URL that is read over HTTP has a host, possibly a port, and a path of written segments. Where its host
reads back from its own text, so does the URL of any written segments behind the same host and port.
-/

namespace Registry.Url

open Text

variable {cs : List Char} {scheme : String} {u : Url}

lemma kind_of_http (h : scheme = "http" ∨ scheme = "https") : Kind.ofScheme scheme = .special := by
  rcases h with rfl | rfl <;> decide

lemma exists_withPath_of_special (h : u.kind.isSpecial = true) (cs : List Char) :
    ∃ rest, u.withPathStart cs = u.withPath .root rest := by
  unfold withPathStart
  rw [h]
  cases cs with
  | nil => exact ⟨[], rfl⟩
  | cons c cs =>
    dsimp only
    split
    · exact ⟨cs, rfl⟩
    · exact ⟨c :: cs, rfl⟩

lemma scheme_withPathStart (u : Url) (cs : List Char) : (u.withPathStart cs).scheme = u.scheme := by
  unfold withPathStart
  split
  · split
    · rfl
    · split <;> rfl
  · split <;> rfl

lemma scheme_of_readAuthority (h : readAuthority scheme cs = some u) : u.scheme = scheme := by
  obtain ⟨_, _, _, _, _, -, -, -, rfl⟩ := readAuthority_eq_some h
  exact scheme_withPathStart _ _

lemma scheme_of_readGeneral (h : readGeneral scheme cs = some u) : u.scheme = scheme := by
  unfold readGeneral at h
  split at h
  · exact scheme_of_readAuthority h
  · rw [← Option.some.inj h]
    rfl
  · rw [← Option.some.inj h]
    rfl

/-- A URL that is read over HTTP, its host from the given text. -/
structure WebUrl (hostText : List Char) (u : Url) : Prop where
  scheme : u.scheme = "http" ∨ u.scheme = "https"
  host : ∃ host, u.host = some host ∧ domain? hostText = some host
  port : ∀ port ∈ u.port, port ≤ 65535 ∧ some port ≠ defaultPort? u.scheme
  path : WrittenPath u.path

lemma WebUrl.kind_eq {hostText : List Char} (h : WebUrl hostText u) : u.kind = .special :=
  kind_of_http h.scheme

lemma readPort?_le {port : Nat} {rest : List Char} (h : readPort? cs = some (some port, rest)) :
    port ≤ 65535 := by
  unfold readPort? at h
  split at h
  · dsimp only at h
    split at h
    · cases h
    · next hsmall =>
      split at h
      · cases h
      · rw [Option.some.injEq, Prod.mk.injEq] at h
        obtain ⟨hport, -⟩ := h
        split at hport
        · cases hport
        · rw [← Option.some.inj hport]
          omega
  · cases h

/-- The host in the text of an authority. -/
def hostOf (authority : List Char) : List Char :=
  match cutUserinfo? true authority with
  | some (_, rest) => (spanHost true false rest).1
  | none => []

lemma webUrl_of_readAuthority (hscheme : scheme = "http" ∨ scheme = "https")
    (h : readAuthority scheme cs = some u) : WebUrl (hostOf cs) u := by
  have hspecial := kind_of_http hscheme
  have htrue : (Kind.ofScheme scheme).isSpecial = true := by rw [hspecial]; rfl
  obtain ⟨info, rest, host, port, after, hinfo, hhost, hport, hu⟩ := readAuthority_eq_some h
  rw [htrue] at hinfo hhost hport
  let base : Url := { ofScheme scheme with
    userinfo := info
    host := some host
    port := if port == defaultPort? scheme then none else port }
  obtain ⟨path, hpath⟩ := exists_withPath_of_special (u := base) htrue after
  obtain rfl : u = base.withPath .root path := hu.trans hpath
  have hspelled : hostOf cs = (spanHost true false rest).1 := by rw [hostOf, hinfo]
  refine ⟨hscheme, ⟨host, rfl, hspelled ▸ hhost⟩, fun p hp => ?_,
    writtenPath_withPath (u := base) hspecial path⟩
  change (if port == defaultPort? scheme then none else port) = some p at hp
  change p ≤ 65535 ∧ some p ≠ defaultPort? scheme
  split at hp
  · cases hp
  · next hother =>
    subst hp
    exact ⟨readPort?_le hport, by simpa using hother⟩

/-- The host as the text of a URL with slashes behind its scheme spells it. -/
def spelledHost (text : String) : List Char :=
  match cutScheme? ((trim text.toList).filter (!isBreak ·)) with
  | some (_, rest) => hostOf (rest.drop (slashCount rest))
  | none => []

/-- A text that reads as a URL of the web. -/
theorem webUrl_of_ofText? {text : String} (h : ofText? text = some u) (hhttp : u.isHttp = true) :
    WebUrl (spelledHost text) u := by
  have hscheme : u.scheme = "http" ∨ u.scheme = "https" := by
    simpa [isHttp] using hhttp
  have hkind := kind_of_http hscheme
  unfold ofText? read? at h
  dsimp only at h
  split at h
  · next name rest hcut =>
    have hspelled : spelledHost text = hostOf (rest.drop (slashCount rest)) := by
      rw [spelledHost, hcut]
    split at h
    · rw [Option.filter_none] at h
      obtain ⟨_, _, rfl⟩ := readFile_none_eq_some h
      cases hkind
    · rw [scheme_of_readAuthority h] at hscheme
      exact hspelled ▸ webUrl_of_readAuthority hscheme h
    · next hgeneral =>
      rw [scheme_of_readGeneral h, hgeneral] at hkind
      cases hkind
  · cases h

/-- The URL of other segments behind the host and port of a URL. -/
def site (u : Url) (parts : List String) : Url :=
  { u with userinfo := "", path := .segments parts, query := none, fragment := none }

/-- The port of a URL as it is written behind the host. -/
def portText (u : Url) : List Char :=
  match u.port with
  | some port => ':' :: Nat.toDigits 10 port
  | none => []

lemma toList_hostAndPort (u : Url) :
    u.hostAndPort.toList = (u.host.getD "").toList ++ u.portText := by
  unfold hostAndPort portText
  rw [String.toList_append]
  cases u.port with
  | none => rfl
  | some port =>
    dsimp only
    rw [String.toList_append, Nat.toString_eq_ofList_toDigits]
    simp

lemma hostChar_of_mem_portText : ∀ c ∈ u.portText, HostChar c := by
  unfold portText
  cases u.port with
  | none => simp
  | some port =>
    dsimp only
    rw [List.forall_mem_cons]
    refine ⟨hostChar_colon, fun c hc => ?_⟩
    have hdigit := Nat.isDigit_of_mem_toDigits (by decide) (by decide) hc
    exact (hostChar_of_domain (Domain.plainDigit hdigit).bad).1

lemma readPort?_portText (h : ∀ port ∈ u.port, port ≤ 65535) :
    readPort? u.portText = some (u.port, []) := by
  unfold portText
  cases hport : u.port with
  | none => rfl
  | some port =>
    have hle := h port hport
    have hvalue : (Nat.toDigits 10 port).foldl (fun n d => 10 * n + (d.toNat - 48)) 0 = port :=
      Nat.ofDigitChars_toDigits (by decide) (by decide)
    have hfilled : (Nat.toDigits 10 port).isEmpty = false := by
      rw [List.isEmpty_eq_false_iff]
      exact Nat.toDigits_ne_nil
    have hdigits : ∀ c ∈ Nat.toDigits 10 port, c.isDigit = true :=
      fun c hc => Nat.isDigit_of_mem_toDigits (by decide) (by decide) hc
    have hcut := takeWhile_append_stop hdigits [] (by simp)
    rw [List.append_nil] at hcut
    simp only [readPort?, hcut, hvalue, hfilled]
    rw [if_neg (by omega)]
    rfl

lemma toString_site (hhost : u.host.isSome = true) (parts : List String) :
    (u.site parts).toString = u.scheme ++ "://" ++ u.hostAndPort ++ (Path.segments parts).toString := by
  obtain ⟨host, hu⟩ := Option.isSome_iff_exists.1 hhost
  have hauthority : (u.site parts).authority = "//" ++ "" ++ u.hostAndPort := by
    have hsite : (u.site parts).host = some host := hu
    unfold authority
    rw [hsite]
    rfl
  have htext : (u.site parts).toString = u.scheme ++ ":" ++ ("//" ++ "" ++ u.hostAndPort) ++
      (Path.segments parts).toString ++ "" ++ "" := by
    rw [← hauthority]
    rfl
  have hslashes : "://" = ":" ++ "//" := rfl
  rw [htext, hslashes]
  simp only [String.append_empty, String.append_assoc]

lemma cutUserinfo?_of_at_not_mem (henclosed : Enclosed cs) (h : '@' ∉ cs) :
    cutUserinfo? true cs = some ("", cs) := by
  have hfront : ∀ c ∈ cs, (!endsAuthority true c) = true := fun c hc => by simp [henclosed c hc]
  have hcut := (takeWhile_append_stop hfront [] (by simp)).1
  rw [List.append_nil] at hcut
  unfold cutUserinfo?
  dsimp only
  rw [hcut, cutLast?_eq_none.2 h]

namespace WebUrl

variable {hostText : List Char} {host : String}

lemma written_hostAndPort (h : WebUrl hostText u) :
    u.hostAndPort.toList ≠ [] ∧ Enclosed u.hostAndPort.toList ∧ Visible u.hostAndPort.toList ∧
      '@' ∉ u.hostAndPort.toList := by
  obtain ⟨host, hu, hhost⟩ := h.host
  have hwritten := writtenHost_of_domain? hhost
  rw [toList_hostAndPort, hu, Option.getD_some]
  refine ⟨List.append_ne_nil_of_left_ne_nil hwritten.ne_nil _, ?_, ?_, ?_⟩
  · rw [Enclosed, List.forall_mem_append]
    exact ⟨hwritten.enclosed, fun c hc => (hostChar_of_mem_portText c hc).inside⟩
  · rw [Visible, List.forall_mem_append]
    exact ⟨hwritten.visible, fun c hc => (hostChar_of_mem_portText c hc).visible⟩
  · rw [List.mem_append, not_or]
    exact ⟨hwritten.at_not_mem, fun hm => (hostChar_of_mem_portText _ hm).ne_at rfl⟩

/-- The host and port of a URL of the web are read as they are written. -/
lemma readAuthority_hostAndPort (h : WebUrl hostText u) (hu : u.host = some host)
    (hagain : domain? host.toList = some host) :
    readAuthority u.scheme u.hostAndPort.toList =
      some ({ ofScheme u.scheme with host := some host, port := u.port }.withPath .root []) := by
  have htrue : (Kind.ofScheme u.scheme).isSpecial = true := by rw [kind_of_http h.scheme]; rfl
  have hwritten := writtenHost_of_domain? hagain
  obtain ⟨-, henclosed, -, hat⟩ := h.written_hostAndPort
  have hstart : u.portText = [] ∨ u.portText.head? = some ':' ∨ u.portText.head? = some '/' := by
    unfold portText
    cases u.port with
    | none => exact .inl rfl
    | some port => exact .inr (.inl rfl)
  have hspan : spanHost true false u.hostAndPort.toList = (host.toList, u.portText) := by
    rw [toList_hostAndPort, hu, Option.getD_some, hwritten.span _ hstart]
  have hfilled : host.toList.isEmpty = false := List.isEmpty_eq_false_iff.2 hwritten.ne_nil
  have hkept : (if u.port == defaultPort? u.scheme then none else u.port) = u.port := by
    split
    · next hdefault =>
      cases hport : u.port with
      | none => rfl
      | some port =>
        rw [hport, beq_iff_eq] at hdefault
        exact absurd hdefault (h.port port hport).2
    · rfl
  unfold readAuthority
  simp only [htrue, Bool.true_or, Bool.and_true, if_true, Option.bind_eq_bind]
  rw [cutUserinfo?_of_at_not_mem henclosed hat, Option.bind_some]
  dsimp only
  rw [hspan]
  dsimp only
  rw [hfilled, if_neg (by decide), hagain, Option.bind_some,
    readPort?_portText fun port hport => (h.port port hport).1, Option.bind_some]
  dsimp only
  rw [hkept, withPathStart_nil (by exact htrue)]
  rfl

/-- A path of written segments behind the host is read as these segments. -/
theorem ofText?_site (h : WebUrl hostText u) (hagain : ∀ host ∈ u.host, domain? host.toList = some host)
    {parts : List String} (hne : parts ≠ []) (hparts : ∀ part ∈ parts, WrittenSegment part.toList) :
    ofText? (u.site parts).toString = some (u.site parts) := by
  obtain ⟨host, hu, hhost⟩ := h.host
  obtain ⟨hfilled, henclosed, hvisible, -⟩ := h.written_hostAndPort
  have htext : (u.site parts).toString.toList = u.scheme.toList ++ ':' :: '/' :: '/' ::
      (u.hostAndPort.toList ++ '/' :: ['/'].intercalate (parts.map String.toList)) := by
    obtain ⟨part, rest, rfl⟩ := List.exists_cons_of_ne_nil hne
    rw [toString_site (by rw [hu]; rfl)]
    simp [toList_toString_segments]
  have hspecial := kind_of_http h.scheme
  obtain ⟨-, hread⟩ := readAuthority_append hspecial henclosed
    (h.readAuthority_hostAndPort hu (hagain host hu)) (['/'].intercalate (parts.map String.toList))
  rw [ofText?_http h.scheme htext, hread]
  · have hbase : kind { ofScheme u.scheme with host := some host, port := u.port } = .special :=
      hspecial
    refine congrArg some ((withPath_intercalate hbase hne (List.forall_mem_nil _) hparts).trans ?_)
    rw [site, hu]
    rfl
  · rw [Visible, List.forall_mem_append, List.forall_mem_cons]
    refine ⟨hvisible, by decide, fun c hc => ?_⟩
    rcases mem_intercalate hc with hslash | ⟨chars, hchars, hc⟩
    · rw [List.mem_singleton.1 hslash]
      decide
    · obtain ⟨part, hpart, rfl⟩ := List.mem_map.1 hchars
      exact (keptChar ((hparts part hpart).kept c hc)).visible
  · intro c hc
    rw [List.head?_append_of_ne_nil _ hfilled] at hc
    exact (isSlash_of_inside (henclosed c (List.mem_of_mem_head? hc))).1

end WebUrl

end Registry.Url
