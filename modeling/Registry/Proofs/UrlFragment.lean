import Mathlib.Data.List.Infix
import Registry.Composition
import Registry.Proofs.TextPieces

/-!
# Where a number sign can stand in a URL

A number sign starts the fragment of a URL and stands nowhere before it: it is escaped in user
information, paths and queries, and no host holds one. So a reference without a number sign reads
as a URL whose text has none, whatever the base.
-/

namespace Registry.Url

open Text

/-- Whether a text has no number sign. -/
def HashFree (s : String) : Prop := '#' ∉ s.toList

lemma hashFree_append {s t : String} (hs : HashFree s) (ht : HashFree t) : HashFree (s ++ t) := by
  rw [HashFree, String.toList_append, List.mem_append, not_or]
  exact ⟨hs, ht⟩

lemma hashFree_ofList {cs : List Char} : HashFree (String.ofList cs) ↔ '#' ∉ cs := by
  rw [HashFree, String.toList_ofList]

lemma hashFree_empty : HashFree "" := by simp [HashFree]

lemma hash_not_mem_escapeByte (b : UInt8) : '#' ∉ Percent.escapeByte b := by
  have hdigit : ∀ n < 16, '#' ≠ Percent.hexDigit n := by decide
  have hb := b.toNat_lt
  simp only [Percent.escapeByte, List.mem_cons, List.not_mem_nil, or_false, not_or]
  exact ⟨by decide, hdigit _ (by omega), hdigit _ (Nat.mod_lt _ (by omega))⟩

/-- An escaped text has a number sign only where that is kept. -/
lemma hash_not_mem_encode {keep : Char → Bool} {cs : List Char}
    (h : keep '#' = false ∨ '#' ∉ cs) : '#' ∉ Percent.encode keep cs := by
  intro hm
  obtain ⟨c, hc, hm⟩ := List.mem_flatMap.1 hm
  split at hm
  · next hk =>
    rw [List.mem_singleton] at hm
    subst hm
    rcases h with h | h
    · rw [h] at hk
      exact absurd hk (by decide)
    · exact h hc
  · obtain ⟨b, -, hb⟩ := List.mem_flatMap.1 hm
    exact hash_not_mem_escapeByte b hb

lemma hashFree_escape {keep : Char → Bool} {cs : List Char} (h : keep '#' = false ∨ '#' ∉ cs) :
    HashFree (escape keep cs) :=
  hashFree_ofList.2 (hash_not_mem_encode h)

lemma hash_not_mem_toDigits (base n : Nat) : '#' ∉ Nat.toDigits base n := by
  have hdigit : ∀ d, '#' ≠ Nat.digitChar d
    | 0 | 1 | 2 | 3 | 4 | 5 | 6 | 7 | 8 | 9 | 10 | 11 | 12 | 13 | 14 | 15 | _ + 16 => by
      simp [Nat.digitChar]
  have hcore : ∀ fuel n (cs : List Char), '#' ∉ cs → '#' ∉ Nat.toDigitsCore base fuel n cs := by
    intro fuel
    induction fuel with
    | zero => exact fun _ _ h => h
    | succ fuel ih =>
      intro n cs h
      rw [Nat.toDigitsCore]
      have hcons : '#' ∉ Nat.digitChar (n % base) :: cs := by
        simp [hdigit, h]
      split
      · exact hcons
      · exact ih _ _ hcons
  exact hcore _ _ _ List.not_mem_nil

lemma hashFree_decimal (n : Nat) : HashFree (ToString.toString n) := by
  rw [Nat.toString_eq_ofList_toDigits, hashFree_ofList]
  exact hash_not_mem_toDigits 10 n

lemma hashFree_intercalate {sep : String} {parts : List String} (hs : HashFree sep)
    (hp : ∀ s ∈ parts, HashFree s) : HashFree (sep.intercalate parts) := by
  induction parts with
  | nil => simp [HashFree]
  | cons s parts ih =>
    rw [List.forall_mem_cons] at hp
    cases parts with
    | nil => simpa using hp.1
    | cons t parts =>
      rw [String.intercalate_cons_cons]
      exact hashFree_append (hashFree_append hp.1 hs) (ih hp.2)

lemma hashFree_ipv4Text (n : Nat) : HashFree (ipv4Text n) := by
  refine hashFree_intercalate (by simp [HashFree]) fun s hs => ?_
  obtain ⟨i, -, rfl⟩ := List.mem_map.1 hs
  exact hashFree_decimal _

lemma hashFree_ipv6Text (pieces : List Nat) : HashFree (ipv6Text pieces) := by
  have hjoin : ∀ ns : List Nat, HashFree (":".intercalate (ns.map hexText)) := by
    intro ns
    refine hashFree_intercalate (by simp [HashFree]) fun s hs => ?_
    obtain ⟨n, -, rfl⟩ := List.mem_map.1 hs
    exact hashFree_ofList.2 (hash_not_mem_toDigits 16 n)
  unfold ipv6Text
  refine hashFree_append (hashFree_append (by simp [HashFree]) ?_) (by simp [HashFree])
  dsimp only
  split
  · exact hjoin _
  · exact hashFree_append (hashFree_append (hjoin _) (by simp [HashFree])) (hjoin _)

lemma hashFree_of_bracketed? {cs : List Char} {host : String} (h : bracketed? cs = some host) :
    HashFree host := by
  unfold bracketed? at h
  split at h
  · obtain ⟨pieces, -, rfl⟩ := Option.map_eq_some_iff.1 h
    exact hashFree_ipv6Text pieces
  · simp at h

lemma hashFree_of_domain? {cs : List Char} {host : String} (h : domain? cs = some host) :
    HashFree host := by
  unfold domain? at h
  split at h
  · exact hashFree_of_bracketed? h
  · simp only [Option.bind_eq_bind, Option.bind_eq_some_iff] at h
    obtain ⟨decoded, -, ascii, -, h⟩ := h
    split at h
    · simp at h
    · next hbad =>
      split at h
      · obtain ⟨n, -, rfl⟩ := Option.map_eq_some_iff.1 h
        exact hashFree_ipv4Text n
      · rw [Option.some.injEq] at h
        rw [← h, hashFree_ofList]
        intro hm
        apply hbad
        rw [Bool.or_eq_true]
        exact .inr (List.any_eq_true.2 ⟨'#', hm, by decide⟩)

lemma hashFree_of_generalHost? {cs : List Char} {host : String} (h : generalHost? cs = some host) :
    HashFree host := by
  unfold generalHost? at h
  split at h
  · exact hashFree_of_bracketed? h
  · split at h
    · simp at h
    · next hbad =>
      rw [Option.some.injEq] at h
      rw [← h]
      refine hashFree_escape (.inr fun hm => hbad ?_)
      exact List.any_eq_true.2 ⟨'#', hm, by decide⟩

lemma hashFree_userinfoText (cs : List Char) : HashFree (userinfoText cs) := by
  have hescape : ∀ cs, HashFree (escape keptInUserinfo cs) :=
    fun cs => hashFree_escape (.inl (by decide))
  unfold userinfoText
  split
  · exact hescape cs
  · refine hashFree_append (hescape _) ?_
    split
    · exact hashFree_empty
    · exact hashFree_append (by simp [HashFree]) (hescape _)

namespace Draft

variable {kind : Kind} {d : Draft}

lemma hash_not_mem_close (h : '#' ∉ d) : '#' ∉ close d := by
  unfold close
  split
  · exact h
  · simp [h]

lemma hash_not_mem_dropSlash (h : '#' ∉ d) : '#' ∉ dropSlash d := by
  unfold dropSlash
  split
  · split
    · exact (List.mem_cons.not.1 h) ∘ .inr
    · exact h
  · exact h

lemma hash_not_mem_parent (kind : Kind) (h : '#' ∉ d) : '#' ∉ parent kind d := by
  unfold parent
  split
  · exact h
  · exact fun hm => h ((List.dropWhile_suffix _).subset hm)

lemma hash_not_mem_addChunk {start : Nat} (h : '#' ∉ d) (chunk : List Char) :
    '#' ∉ (addChunk kind (d, start) chunk).1 := by
  have he : '#' ∉ (Percent.encode keptInPath chunk).reverse := by
    rw [List.mem_reverse]
    exact hash_not_mem_encode (.inl (by decide))
  unfold addChunk
  dsimp only
  split
  · simp [he, h]
  · simp [he, h]

lemma hash_not_mem_addPiece (h : '#' ∉ d) (piece : PathPiece) : '#' ∉ addPiece kind d piece := by
  obtain ⟨text, slash⟩ := piece
  have hfold : ∀ (chunks : List (List Char)) (w : Draft × Nat), '#' ∉ w.1 →
      '#' ∉ (chunks.foldl (addChunk kind) w).1 := by
    intro chunks
    induction chunks with
    | nil => exact fun _ h => h
    | cons chunk chunks ih => exact fun w hw => ih _ (hash_not_mem_addChunk hw chunk)
  have hwritten := hfold (text.splitOn '\t') (d, d.length) h
  unfold addPiece
  dsimp only
  generalize (text.splitOn '\t').foldl (addChunk kind) (d, d.length) = w at hwritten
  obtain ⟨written, start⟩ := w
  have hbefore : '#' ∉ written.drop (written.length - start) :=
    fun hm => hwritten (List.mem_of_mem_drop hm)
  have hsegment : '#' ∉ (written.take (written.length - start)).reverse := by
    rw [List.mem_reverse]
    exact fun hm => hwritten (List.mem_of_mem_take hm)
  split
  · have hd := hash_not_mem_parent kind (hash_not_mem_dropSlash hbefore)
    split
    · exact hash_not_mem_close hd
    · exact hd
  · split
    · exact hash_not_mem_close hbefore
    · have hd : '#' ∉ (if kind = .file && start == 1 &&
          isDrive (written.take (written.length - start)).reverse
          then ':' :: (written.take (written.length - start)).reverse.take 1 ++
            written.drop (written.length - start)
          else written) := by
        split
        · rw [List.cons_append, List.mem_cons, List.mem_append, not_or, not_or]
          exact ⟨by decide, fun hm => hsegment (List.mem_of_mem_take hm), hbefore⟩
        · exact hwritten
      split
      · simp only [List.mem_cons, not_or]
        exact ⟨by decide, hd⟩
      · exact hd

lemma hash_not_mem_addText (h : '#' ∉ d) (text : List Char) : '#' ∉ addText kind d text := by
  unfold addText
  generalize pathPieces kind.isSpecial text = pieces
  induction pieces generalizing d with
  | nil => exact h
  | cons piece pieces ih => exact ih (hash_not_mem_addPiece h piece)

lemma hashFree_segments {parts : List String} :
    HashFree (Path.segments parts).toString ↔ ∀ s ∈ parts, HashFree s := by
  induction parts with
  | nil => simp [Path.toString, HashFree]
  | cons s parts ih =>
    have hcons : (Path.segments (s :: parts)).toString =
        "/" ++ s ++ (Path.segments parts).toString := rfl
    rw [hcons, HashFree, List.forall_mem_cons, ← ih]
    simp [HashFree]

lemma hashFree_toPath (h : '#' ∉ d) : HashFree (toPath kind d).toString := by
  have hr : '#' ∉ d.reverse := by rwa [List.mem_reverse]
  unfold toPath
  split
  · exact hashFree_segments.2 (by simp)
  · next cs hd =>
    rw [hd, List.mem_cons, not_or] at hr
    refine hashFree_segments.2 fun s hs => ?_
    obtain ⟨part, hpart, rfl⟩ := List.mem_map.1 hs
    rw [hashFree_ofList]
    intro hm
    have hm := mem_of_mem_splitOn hpart hm
    split at hm
    · exact hr.2 ((List.dropWhile_suffix _).subset hm)
    · exact hr.2 hm

end Draft

/-- A URL none of whose parts before the fragment has a number sign. -/
structure Clean (u : Url) : Prop where
  scheme : HashFree u.scheme
  userinfo : HashFree u.userinfo
  host : ∀ s ∈ u.host, HashFree s
  path : HashFree u.path.toString
  query : ∀ s ∈ u.query, HashFree s

/-- A URL that the text gives: it is clean, and has a fragment only if the text has a number
sign. -/
structure GivenBy (cs : List Char) (u : Url) : Prop where
  clean : u.Clean
  fragment : '#' ∉ cs → u.fragment = none

lemma GivenBy.mono {cs ds : List Char} {u : Url} (h : u.GivenBy cs) (hs : cs ⊆ ds) :
    u.GivenBy ds :=
  ⟨h.clean, fun hd => h.fragment fun hm => hd (hs hm)⟩

variable {u : Url} {cs : List Char} {kind : Kind}

lemma readSuffix_query {q : String} (h : (readSuffix kind cs).1 = some q) : HashFree q := by
  unfold readSuffix at h
  split at h
  · simp at h
  · have hq : ∀ cs, HashFree (escape (keptInQuery kind.isSpecial) cs) :=
      fun cs => hashFree_escape (.inl (by simp [keptInQuery]))
    dsimp only at h
    split at h
    · exact Option.some.inj h ▸ hq _
    · exact Option.some.inj h ▸ hq _
  · simp at h

lemma readSuffix_fragment (h : '#' ∉ cs) : (readSuffix kind cs).2 = none := by
  unfold readSuffix
  split
  · simp at h
  · next rest =>
    dsimp only
    split
    · next c f hd =>
      have hc : c = '#' := by
        have hn := List.head?_dropWhile_not (· != '#') rest
        rw [hd] at hn
        simpa using hn
      have hm : c ∈ rest := (List.dropWhile_suffix _).subset (hd ▸ List.mem_cons_self)
      exact absurd (List.mem_cons_of_mem _ (hc ▸ hm)) h
    · rfl
  · rfl

lemma Clean.givenBy_withPath (hu : u.Clean) {before : Draft} (hb : '#' ∉ before) (cs : List Char) :
    (u.withPath before cs).GivenBy cs where
  clean :=
    ⟨hu.scheme, hu.userinfo, hu.host, Draft.hashFree_toPath (Draft.hash_not_mem_addText hb _),
      fun _ hq => readSuffix_query hq⟩
  fragment h := readSuffix_fragment fun hm => h ((List.dropWhile_suffix _).subset hm)

lemma clean_ofScheme {scheme : String} (h : HashFree scheme) : (ofScheme scheme).Clean :=
  ⟨h, hashFree_empty, by simp [ofScheme], hashFree_empty, by simp [ofScheme]⟩

lemma Clean.givenBy_withPathStart (hu : u.Clean) (hf : u.fragment = none) (cs : List Char) :
    (u.withPathStart cs).GivenBy cs := by
  have hroot : '#' ∉ Draft.root := by simp [Draft.root]
  unfold withPathStart
  split
  · split
    · exact (hu.givenBy_withPath hroot _).mono (List.subset_cons_self _ _)
    · split
      · refine ⟨⟨hu.scheme, hu.userinfo, hu.host, hashFree_empty, fun _ hq => readSuffix_query hq⟩,
          fun h => readSuffix_fragment h⟩
      · exact hu.givenBy_withPath hroot _
  · split
    · exact hu.givenBy_withPath hroot _
    · exact ⟨⟨hu.scheme, hu.userinfo, hu.host, hashFree_empty, hu.query⟩, fun _ => hf⟩

lemma Clean.givenBy_withSuffix (hu : u.Clean) (cs : List Char) : (u.withSuffix cs).GivenBy cs := by
  unfold withSuffix
  split
  · exact ⟨⟨hu.scheme, hu.userinfo, hu.host, hu.path, hu.query⟩, fun _ => rfl⟩
  · exact ⟨⟨hu.scheme, hu.userinfo, hu.host, hu.path, hu.query⟩, by simp⟩
  · exact ⟨⟨hu.scheme, hu.userinfo, hu.host, hu.path, fun _ hq => readSuffix_query hq⟩,
      fun h => readSuffix_fragment h⟩

lemma Clean.hash_not_mem_parentPath (hu : u.Clean) : '#' ∉ u.parentPath := by
  unfold parentPath
  dsimp only
  split
  · simp [Draft.root]
  · refine Draft.hash_not_mem_parent _ ?_
    rw [Path.toDraft, List.mem_reverse]
    exact hu.path

lemma cutUserinfo?_eq_some {special : Bool} {info : String} {rest : List Char}
    (h : cutUserinfo? special cs = some (info, rest)) : HashFree info ∧ rest ⊆ cs := by
  unfold cutUserinfo? at h
  dsimp only at h
  split at h
  · rw [Option.some.injEq, Prod.mk.injEq] at h
    obtain ⟨rfl, rfl⟩ := h
    exact ⟨hashFree_empty, fun _ => id⟩
  · next user host hc =>
    split at h
    · simp at h
    · rw [Option.some.injEq, Prod.mk.injEq] at h
      obtain ⟨rfl, rfl⟩ := h
      refine ⟨hashFree_userinfoText user, List.append_subset.2 ⟨fun c hm => ?_, List.drop_subset _ _⟩⟩
      have hfront := (Text.cutLast?_eq_some hc).1
      apply (List.takeWhile_prefix _).subset
      rw [hfront]
      exact List.mem_append_right _ (List.mem_cons_of_mem _ hm)

lemma spanHost_snd_subset (special : Bool) (inside : Bool) (cs : List Char) :
    (spanHost special inside cs).2 ⊆ cs := by
  induction cs generalizing inside with
  | nil => simp [spanHost]
  | cons c cs ih =>
    rw [spanHost]
    split
    · exact fun _ => id
    · exact fun _ hm => List.mem_cons_of_mem _ (ih _ hm)

lemma readPort?_subset {port : Option Nat} {rest : List Char}
    (h : readPort? cs = some (port, rest)) : rest ⊆ cs := by
  unfold readPort? at h
  split at h
  · dsimp only at h
    split at h
    · simp at h
    · split at h
      · simp at h
      · rw [Option.some.injEq, Prod.mk.injEq] at h
        rw [← h.2]
        exact fun _ hm => List.mem_cons_of_mem _ ((List.dropWhile_suffix _).subset hm)
  · rw [Option.some.injEq, Prod.mk.injEq] at h
    rw [h.2]
    exact fun _ => id

lemma givenBy_of_readAuthority {scheme : String} (hs : HashFree scheme)
    (h : readAuthority scheme cs = some u) : u.GivenBy cs := by
  obtain ⟨info, rest, host, port, after, hinfo, hhost, hport, rfl⟩ := readAuthority_eq_some h
  obtain ⟨hi, hrest⟩ := cutUserinfo?_eq_some hinfo
  have hh : HashFree host := by
    split at hhost
    · exact hashFree_of_domain? hhost
    · exact hashFree_of_generalHost? hhost
  have hclean : Clean { ofScheme scheme with
      userinfo := info
      host := some host
      port := if port == defaultPort? scheme then none else port } :=
    ⟨hs, hi, fun _ hm => Option.some.inj hm ▸ hh, hashFree_empty, by simp [ofScheme]⟩
  refine (hclean.givenBy_withPathStart rfl after).mono ?_
  exact List.Subset.trans (readPort?_subset hport) (List.Subset.trans (spanHost_snd_subset _ _ _) hrest)

lemma givenBy_of_readGeneral {scheme : String} (hs : HashFree scheme)
    (h : readGeneral scheme cs = some u) : u.GivenBy cs := by
  have hclean := clean_ofScheme hs
  unfold readGeneral at h
  split at h
  · next rest =>
    refine (givenBy_of_readAuthority hs h).mono ?_
    exact List.Subset.trans (List.subset_cons_self _ _) (List.subset_cons_self _ _)
  · rw [← Option.some.inj h]
    exact (hclean.givenBy_withPath (by simp [Draft.root]) _).mono (List.subset_cons_self _ _)
  · rw [← Option.some.inj h]
    refine ⟨⟨hs, hashFree_empty, hclean.host, hashFree_escape (.inr fun hm => ?_),
      fun _ hq => readSuffix_query hq⟩, fun hf => readSuffix_fragment fun hm => ?_⟩
    · have := List.all_eq_true.1 (List.all_takeWhile (l := cs)) _ hm
      simp [endsPath] at this
    · exact hf ((List.dropWhile_suffix _).subset hm)

lemma givenBy_of_readRelative {base : Url} (hb : base.Clean)
    (h : readRelative base cs = some u) : u.GivenBy cs := by
  unfold readRelative at h
  split at h
  · rw [← Option.some.inj h]
    exact hb.givenBy_withSuffix _
  · rw [← Option.some.inj h]
    exact hb.givenBy_withSuffix _
  · rw [← Option.some.inj h]
    exact hb.givenBy_withSuffix _
  · split at h
    · split at h
      · rw [← Option.some.inj h]
        exact (hb.givenBy_withPath (by simp [Draft.root]) _).mono (List.subset_cons_self _ _)
      · split at h
        · exact (givenBy_of_readAuthority hb.scheme h).mono (List.drop_subset _ _)
        · exact (givenBy_of_readAuthority hb.scheme h).mono (List.drop_subset _ _)
    · rw [← Option.some.inj h]
      exact hb.givenBy_withPath hb.hash_not_mem_parentPath _

lemma clean_localFile : localFile.Clean :=
  ⟨by simp [localFile, ofScheme, HashFree], hashFree_empty, by simp [localFile, HashFree],
    hashFree_empty, by simp [localFile, ofScheme]⟩

lemma clean_localFile_at {host : Option String} (h : ∀ s ∈ host, HashFree s) :
    Clean { localFile with host } :=
  ⟨clean_localFile.scheme, clean_localFile.userinfo, h, clean_localFile.path, clean_localFile.query⟩

lemma givenBy_of_readFileHost (h : readFileHost cs = some u) : u.GivenBy cs := by
  have hroot : '#' ∉ Draft.root := by simp [Draft.root]
  unfold readFileHost at h
  dsimp only at h
  split at h
  · rw [← Option.some.inj h]
    exact clean_localFile.givenBy_withPath hroot _
  · generalize cs.takeWhile (!endsAuthority true ·) = hostText at h
    have hrest : cs.drop hostText.length ⊆ cs := List.drop_subset _ _
    generalize cs.drop hostText.length = rest at h hrest
    rw [Option.bind_eq_bind] at h
    split at h
    · rw [Option.bind_some, if_pos (by decide), Option.some.injEq] at h
      rw [← h]
      exact (clean_localFile.givenBy_withPath hroot _).mono hrest
    · obtain ⟨host, hhost, h⟩ := Option.bind_eq_some_iff.1 h
      split at h
      · rw [← Option.some.inj h]
        exact (clean_localFile.givenBy_withPath hroot _).mono hrest
      · rw [← Option.some.inj h]
        refine ((clean_localFile_at ?_).givenBy_withPath hroot _).mono ?_
        · have hpick : ∀ b : Bool, HashFree (if b then "" else host) := by
            intro b
            cases b
            · exact hashFree_of_domain? hhost
            · exact hashFree_empty
          exact fun s hs => Option.some.inj hs ▸ hpick _
        · split
          · exact List.Subset.trans (List.drop_subset _ _) hrest
          · exact hrest

lemma hash_not_mem_keepDriveBreaks {read : List Char} (hr : '#' ∉ read) (h : '#' ∉ cs) :
    '#' ∉ keepDriveBreaks read cs := by
  induction cs generalizing read with
  | nil => simpa [keepDriveBreaks] using hr
  | cons c cs ih =>
    have hbreak : ∀ b : Bool, '#' ∉ (if b then '\t' :: read else read) := by
      intro b
      cases b <;> simp [hr]
    unfold keepDriveBreaks
    split
    · rw [List.mem_append, List.mem_reverse, not_or]
      exact ⟨hr, fun hm => h (List.mem_of_mem_filter hm)⟩
    · rw [List.mem_cons, not_or] at h
      split
      · exact ih (hbreak _) h.2
      · exact ih (List.mem_cons.not.2 (not_or.2 ⟨h.1, hr⟩)) h.2

lemma givenBy_of_readShort {base : Option Url} (hb : ∀ b ∈ base, b.Clean)
    (h : readFile.readShort base cs = some u) : u.GivenBy cs := by
  have hroot : '#' ∉ Draft.root := by simp [Draft.root]
  unfold readFile.readShort at h
  split at h
  · next c rest =>
    have hsub : rest ⊆ c :: rest := List.subset_cons_self _ _
    split at h
    · split at h
      · next b _ =>
        have hhost : Clean { localFile with host := b.host } :=
          clean_localFile_at (hb b rfl).host
        split at h
        · next s _ hpath =>
          split at h
          · rw [← Option.some.inj h]
            refine (clean_localFile.givenBy_withPath ?_ _).mono hsub
            have hs := (hb b rfl).path
            rw [hpath, Draft.hashFree_segments, List.forall_mem_cons] at hs
            have htext : HashFree (Path.segments [s]).toString :=
              Draft.hashFree_segments.2 (by simpa using hs.1)
            rw [Path.toDraft, List.mem_cons, List.mem_reverse, not_or]
            exact ⟨by decide, htext⟩
          · rw [← Option.some.inj h]
            exact (hhost.givenBy_withPath hroot _).mono hsub
        · rw [← Option.some.inj h]
          exact (hhost.givenBy_withPath hroot _).mono hsub
      · rw [← Option.some.inj h]
        exact (clean_localFile.givenBy_withPath hroot _).mono hsub
    · split at h
      · rw [← Option.some.inj h]
        exact clean_localFile.givenBy_withPath hroot _
      · next b =>
        have hclean := hb b rfl
        split at h
        · rw [← Option.some.inj h]
          exact hclean.givenBy_withSuffix _
        · split at h
          · rw [← Option.some.inj h]
            exact clean_localFile.givenBy_withPath hroot _
          · rw [← Option.some.inj h]
            exact hclean.givenBy_withPath hclean.hash_not_mem_parentPath _
  · next b =>
    rw [← Option.some.inj h]
    exact (hb b rfl).givenBy_withSuffix _
  · rw [← Option.some.inj h]
    exact clean_localFile.givenBy_withPath hroot _

lemma givenBy_of_readFile {base : Option Url} (hb : ∀ b ∈ base, b.Clean)
    (h : readFile base cs = some u) : u.GivenBy cs := by
  unfold readFile at h
  split at h
  · split at h
    · refine (givenBy_of_readFileHost h).mono ?_
      exact List.Subset.trans (List.subset_cons_self _ _) (List.subset_cons_self _ _)
    · exact givenBy_of_readShort hb h
  · exact givenBy_of_readShort hb h

lemma trim_subset (cs : List Char) : trim cs ⊆ cs := by
  intro c hm
  rw [trim, List.mem_reverse] at hm
  have hm := (List.dropWhile_suffix _).subset hm
  rw [List.mem_reverse] at hm
  exact (List.dropWhile_suffix _).subset hm

lemma hashFree_of_cutScheme? {scheme : String} {rest : List Char}
    (h : cutScheme? cs = some (scheme, rest)) : HashFree scheme ∧ rest ⊆ cs := by
  have hlower : ∀ c : Char, isSchemeChar c = true → '#' ≠ c.toLower := by
    intro c hc he
    obtain rfl := Text.eq_of_toLower_eq (by decide) he.symm
    exact absurd hc (by decide)
  unfold cutScheme? at h
  split at h
  · next name after hc =>
    split at h
    · next hname =>
      rw [Option.some.injEq, Prod.mk.injEq] at h
      obtain ⟨rfl, rfl⟩ := h
      rw [Bool.and_eq_true, List.all_eq_true] at hname
      refine ⟨hashFree_ofList.2 fun hm => ?_, fun c hm => ?_⟩
      · obtain ⟨c, hm, hd⟩ := List.mem_map.1 hm
        exact hlower c (hname.2 c hm) hd.symm
      · rw [(Text.cut?_eq_some hc).1]
        exact List.mem_append_right _ (List.mem_cons_of_mem _ hm)
    · simp at h
  · simp at h

theorem givenBy_of_read? {base : Option Url} {text : String} (hb : ∀ b ∈ base, b.Clean)
    (h : read? base text = some u) : u.GivenBy text.toList := by
  have htrim := trim_subset text.toList
  generalize htrimmed : trim text.toList = trimmed at htrim
  have hfilter : trimmed.filter (!isBreak ·) ⊆ text.toList :=
    List.Subset.trans List.filter_sublist.subset htrim
  have hkeep : ∀ ds : List Char, ds ⊆ text.toList →
      ∀ u : Url, u.GivenBy (keepDriveBreaks [] ds) → u.GivenBy text.toList := by
    intro ds hd u hu
    refine ⟨hu.clean, fun hf => hu.fragment ?_⟩
    exact hash_not_mem_keepDriveBreaks (by simp) fun hm => hf (hd hm)
  unfold read? at h
  rw [htrimmed] at h
  dsimp only at h
  split at h
  · next scheme rest hscheme =>
    obtain ⟨hs, hrest⟩ := hashFree_of_cutScheme? hscheme
    have hrest := List.Subset.trans hrest hfilter
    have hdrop := List.Subset.trans (List.drop_subset (slashCount rest) rest) hrest
    split at h
    · refine hkeep _ ?_ u (givenBy_of_readFile ?_ h)
      · refine List.Subset.trans (List.drop_subset _ _) ?_
        exact List.Subset.trans (List.dropWhile_suffix _).subset htrim
      · intro b hm
        exact hb b (Option.filter_eq_some_iff.1 hm).1
    · split at h
      · next b =>
        split at h
        · exact (givenBy_of_readRelative (hb b rfl) h).mono hrest
        · exact (givenBy_of_readAuthority hs h).mono hdrop
      · exact (givenBy_of_readAuthority hs h).mono hdrop
    · exact (givenBy_of_readGeneral hs h).mono hrest
  · split at h
    · simp at h
    · next b =>
      have hclean := hb b rfl
      split at h
      · rw [← Option.some.inj h]
        exact (hclean.givenBy_withSuffix _).mono hfilter
      · simp at h
      · split at h
        · exact hkeep _ htrim u (givenBy_of_readFile hb h)
        · exact (givenBy_of_readRelative hclean h).mono hfilter

lemma clean_of_ofText? {text : String} (h : ofText? text = some u) : u.Clean :=
  (givenBy_of_read? (by simp) h).clean

lemma Clean.hashFree_hostAndPort (hu : u.Clean) : HashFree u.hostAndPort := by
  unfold hostAndPort
  refine hashFree_append ?_ ?_
  · cases hh : u.host with
    | none => exact hashFree_empty
    | some s => exact hu.host s hh
  · split
    · exact hashFree_append (by simp [HashFree]) (hashFree_decimal _)
    · exact hashFree_empty

lemma Clean.hashFree_withoutFragment (hu : u.Clean) : HashFree u.withoutFragment := by
  have hcolon : HashFree ":" := by simp [HashFree]
  have hauthority : HashFree u.authority := by
    unfold authority
    split
    · refine hashFree_append (hashFree_append (by simp [HashFree]) ?_) hu.hashFree_hostAndPort
      split
      · exact hashFree_empty
      · exact hashFree_append hu.userinfo (by simp [HashFree])
    · split
      · simp [HashFree]
      · exact hashFree_empty
  unfold withoutFragment
  refine hashFree_append (hashFree_append (hashFree_append (hashFree_append hu.scheme hcolon)
    hauthority) hu.path) ?_
  split
  · next hq => exact hashFree_append (by simp [HashFree]) (hu.query _ hq)
  · exact hashFree_empty

lemma Clean.hashFree_toString (hu : u.Clean) (hf : u.fragment = none) : HashFree u.toString := by
  unfold toString
  rw [hf]
  exact hashFree_append hu.hashFree_withoutFragment hashFree_empty

end Registry.Url

namespace Registry

open Url

lemma Location.hashFree_of_join? {base reference location : String} (hr : HashFree reference)
    (h : join? base reference = some location) : HashFree location := by
  unfold join? at h
  split at h
  · rwa [← Option.some.inj h]
  · simp only [Option.bind_eq_bind, Option.bind_eq_some_iff, Option.some.injEq] at h
    obtain ⟨b, hb, u, hu, rfl⟩ := h
    have hgiven : u.GivenBy reference.toList := by
      refine givenBy_of_read? ?_ hu
      rintro _ ⟨⟩
      exact clean_of_ofText? hb
    exact hgiven.clean.hashFree_toString (hgiven.fragment hr)

/-- No reference leads to a location with a number sign. -/
theorem Address.hash_not_mem_of_locate? {a : Address} {reference location : String}
    (h : a.locate? reference = some location) : '#' ∉ location.toList := by
  have hfree := Location.hash_not_mem_stripFragment reference
  unfold locate? at h
  dsimp only at h
  split at h
  · rwa [← Option.some.inj h]
  · split at h
    · simp at h
    · refine Location.hashFree_of_join? ?_ h
      rw [hashFree_ofList]
      exact fun hm => hfree ((List.dropWhile_suffix _).subset hm)

end Registry
