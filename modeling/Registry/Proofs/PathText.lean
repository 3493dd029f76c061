import Registry.Url.Reader
import Registry.Proofs.TextPieces

/-!
# Written paths

A URL of the web writes its path segment by segment: each one is escaped, none has a slash in it, and
none is a dot or two. A path written so reads as these segments again, behind whatever is written
already.
-/

namespace Registry.Url

open Text

variable {kind : Kind} {special : Bool} {segment text : List Char} {segments : List (List Char)}

/-- A segment as a path writes it. -/
structure WrittenSegment (segment : List Char) : Prop where
  kept : ∀ c ∈ segment, keptInPath c = true
  divided : ∀ c ∈ segment, isSlash true c = false
  not_dot : isSingleDot segment = false
  not_dots : isDoubleDot segment = false

lemma writtenSegment_nil : WrittenSegment [] :=
  ⟨by simp, by simp, by decide, by decide⟩

lemma WrittenSegment.slash_not_mem (h : WrittenSegment segment) : '/' ∉ segment :=
  fun hm => absurd (h.divided _ hm) (by decide)

/-- What a character is that a path keeps, checked for each. -/
structure KeptChar (c : Char) : Prop where
  inside : endsPath c = false
  visible : 0x20 < c.toNat

lemma keptChar {c : Char} (h : keptInPath c = true) : KeptChar c := by
  have hlt : c.toNat < 0x7f := by
    simp only [keptInPath, keptInFragment, keptBare, Bool.and_eq_true, decide_eq_true_eq] at h
    exact h.1.1.2
  obtain ⟨hinside, hvisible⟩ := of_toNat_lt (P := fun c =>
    keptInPath c = true → endsPath c = false ∧ 0x20 < c.toNat) (by decide +kernel) hlt h
  exact ⟨hinside, hvisible⟩

lemma hexDigit_written : ∀ n < 16, keptInPath (Percent.hexDigit n) = true ∧
    isSlash true (Percent.hexDigit n) = false := by
  decide

lemma mem_escapeByte {b : UInt8} {c : Char} (h : c ∈ Percent.escapeByte b) :
    keptInPath c = true ∧ isSlash true c = false := by
  have hb := b.toNat_lt
  simp only [Percent.escapeByte, List.mem_cons, List.not_mem_nil, or_false] at h
  rcases h with rfl | rfl | rfl
  · decide
  · exact hexDigit_written _ (by omega)
  · exact hexDigit_written _ (Nat.mod_lt _ (by decide))

lemma mem_encode_keptInPath {c : Char} (h : ∀ c ∈ text, isSlash true c = false)
    (hc : c ∈ Percent.encode keptInPath text) : keptInPath c = true ∧ isSlash true c = false := by
  obtain ⟨d, hd, hc⟩ := List.mem_flatMap.1 hc
  split at hc
  · next hkept =>
    rw [List.mem_singleton.1 hc]
    exact ⟨hkept, h d hd⟩
  · obtain ⟨b, -, hb⟩ := List.mem_flatMap.1 hc
    exact mem_escapeByte hb

/-- A segment whose chunks between tabs are escaped, as a path of the web writes it. -/
def written (text : List Char) : List Char :=
  (text.splitOn '\t').flatMap (Percent.encode keptInPath)

lemma writtenSegment_written (h : ∀ c ∈ text, isSlash true c = false)
    (hdot : isSingleDot (written text) = false) (hdots : isDoubleDot (written text) = false) :
    WrittenSegment (written text) := by
  have hchars : ∀ c ∈ written text, keptInPath c = true ∧ isSlash true c = false := by
    intro c hc
    obtain ⟨chunk, hchunk, hc⟩ := List.mem_flatMap.1 hc
    exact mem_encode_keptInPath (fun d hd => h d (mem_of_mem_splitOn hchunk hd)) hc
  exact ⟨fun c hc => (hchars c hc).1, fun c hc => (hchars c hc).2, hdot, hdots⟩

lemma WrittenSegment.written_eq (h : WrittenSegment segment) : written segment = segment := by
  have htab : '\t' ∉ segment := fun hm => absurd (keptChar (h.kept _ hm)).visible (by decide)
  rw [written, splitOn_of_not_mem htab, List.flatMap_singleton, Percent.encode_of_keep h.kept]

lemma pathPieces_append (h : ∀ c ∈ segment, isSlash special c = false) (rest : List Char) :
    pathPieces special (segment ++ '/' :: rest) = (segment, true) :: pathPieces special rest := by
  induction segment with
  | nil => rfl
  | cons c segment ih =>
    rw [List.forall_mem_cons] at h
    rw [List.cons_append, pathPieces, if_neg (by simp [h.1]), ih h.2]

lemma pathPieces_of_divided (h : ∀ c ∈ segment, isSlash special c = false) :
    pathPieces special segment = [(segment, false)] := by
  induction segment with
  | nil => rfl
  | cons c segment ih =>
    rw [List.forall_mem_cons] at h
    rw [pathPieces, if_neg (by simp [h.1]), ih h.2]

/-- A slash ends each piece but the last one, and none stands in a piece. -/
lemma pathPieces_eq_concat (special : Bool) (text : List Char) :
    ∃ front last, pathPieces special text = front ++ [(last, false)] ∧
      (∀ piece ∈ front, piece.2 = true ∧ ∀ c ∈ piece.1, isSlash special c = false) ∧
      ∀ c ∈ last, isSlash special c = false := by
  induction text with
  | nil => exact ⟨[], [], rfl, by simp, by simp⟩
  | cons c text ih =>
    obtain ⟨front, last, hpieces, hfront, hlast⟩ := ih
    rw [pathPieces, hpieces]
    split
    · refine ⟨([], true) :: front, last, rfl, ?_, hlast⟩
      rw [List.forall_mem_cons]
      exact ⟨by simp, hfront⟩
    · next hslash =>
      rw [Bool.not_eq_true] at hslash
      cases front with
      | nil =>
        refine ⟨[], c :: last, rfl, by simp, ?_⟩
        rw [List.forall_mem_cons]
        exact ⟨hslash, hlast⟩
      | cons piece front =>
        rw [List.forall_mem_cons] at hfront
        refine ⟨(c :: piece.1, piece.2) :: front, last, rfl, ?_, hlast⟩
        rw [List.forall_mem_cons, List.forall_mem_cons]
        exact ⟨⟨hfront.1.1, hslash, hfront.1.2⟩, hfront.2⟩

namespace Draft

/-- The path of segments as far as it is written. -/
def ofSegments (segments : List (List Char)) : Draft := (segments.flatMap ('/' :: ·)).reverse

/-- A path whose next segment is due. -/
def opened (segments : List (List Char)) : Draft := '/' :: ofSegments segments

lemma opened_eq (segments : List (List Char)) : opened segments = ofSegments (segments ++ [[]]) := by
  simp [opened, ofSegments]

lemma ofSegments_concat (segments : List (List Char)) (segment : List Char) :
    ofSegments (segments ++ [segment]) = segment.reverse ++ opened segments := by
  simp [opened, ofSegments]

lemma addPiece_eq (hkind : kind ≠ .file) (d : Draft) (text : List Char) (slash : Bool) :
    d.addPiece kind (text, slash) =
      if isDoubleDot (written text) then
        if slash then (d.dropSlash.parent kind).close else d.dropSlash.parent kind
      else if isSingleDot (written text) then d.close
      else if slash then '/' :: ((written text).reverse ++ d) else (written text).reverse ++ d := by
  have hchunks : ∀ (chunks : List (List Char)) (d : Draft) (start : Nat),
      chunks.foldl (addChunk kind) (d, start) =
        ((chunks.flatMap (Percent.encode keptInPath)).reverse ++ d, start) := by
    intro chunks
    induction chunks with
    | nil => exact fun _ _ => rfl
    | cons chunk chunks ih =>
      intro d start
      have hchunk : addChunk kind (d, start) chunk =
          ((Percent.encode keptInPath chunk).reverse ++ d, start) := by
        unfold addChunk
        dsimp only
        rw [if_neg (by simp [hkind])]
      rw [List.foldl_cons, hchunk, ih, List.flatMap_cons, List.reverse_append, List.append_assoc]
  have hlength : ((written text).reverse ++ d).length - d.length = (written text).reverse.length := by
    simp
  have hdrive : (decide (kind = .file) && d.length == 1 && isDrive (written text)) = false := by
    simp [hkind]
  unfold addPiece
  dsimp only
  rw [hchunks]
  dsimp only
  rw [← written, hlength, List.take_left, List.drop_left, List.reverse_reverse, hdrive]
  rfl

lemma parent_opened (hkind : kind ≠ .file) (segments : List (List Char)) :
    (opened segments).parent kind = opened segments := by
  rw [parent, if_neg (by simp [hkind]), opened, List.dropWhile_cons_of_neg (by simp)]

lemma parent_ofSegments_concat (hkind : kind ≠ .file) (h : '/' ∉ segment)
    (segments : List (List Char)) :
    (ofSegments (segments ++ [segment])).parent kind = opened segments := by
  have hfront : ∀ c ∈ segment.reverse, (c != '/') = true := by
    intro c hc
    simp only [bne_iff_ne]
    rintro rfl
    exact h (List.mem_reverse.1 hc)
  rw [parent, if_neg (by simp [hkind]), ofSegments_concat, List.dropWhile_append_of_pos hfront, opened,
    List.dropWhile_cons_of_neg (by simp)]

/-- Two dots lead to the parent, or to the same place at the root and behind a drive letter. -/
lemma exists_back (hkind : kind ≠ .file) (h : ∀ segment ∈ segments, '/' ∉ segment) :
    ∃ front, front <+: segments ∧ (opened segments).dropSlash.parent kind = opened front := by
  have hdrop : (opened segments).dropSlash = opened segments ∨
      (opened segments).dropSlash = ofSegments segments ∧ '/' ∈ ofSegments segments := by
    have hcons : (opened segments).dropSlash = if (ofSegments segments).contains '/' &&
        !Url.startsWithDrive (lastSegment (ofSegments segments)) then ofSegments segments
        else opened segments := rfl
    rw [hcons]
    split
    · next hinner =>
      rw [Bool.and_eq_true, List.contains_iff_mem] at hinner
      exact .inr ⟨rfl, hinner.1⟩
    · exact .inl rfl
  rcases hdrop with hsame | ⟨hshort, hinner⟩
  · exact ⟨segments, List.prefix_rfl, by rw [hsame, parent_opened hkind]⟩
  · rcases List.eq_nil_or_concat segments with rfl | ⟨front, last, rfl⟩
    · cases hinner
    · rw [List.concat_eq_append] at h hshort ⊢
      exact ⟨front, List.prefix_append _ _, by
        rw [hshort, parent_ofSegments_concat hkind (h last (by simp))]⟩

lemma close_opened (segments : List (List Char)) : (opened segments).close = opened segments :=
  if_pos rfl

/-- A piece leaves a path of written segments. -/
lemma addPiece_opened (hkind : kind ≠ .file) (hsegments : ∀ s ∈ segments, WrittenSegment s)
    (h : ∀ c ∈ text, isSlash true c = false) :
    (∃ more, (∀ s ∈ more, WrittenSegment s) ∧
      (opened segments).addPiece kind (text, true) = opened more) ∧
    ∃ more ≠ [], (∀ s ∈ more, WrittenSegment s) ∧
      (opened segments).addPiece kind (text, false) = ofSegments more := by
  have hopen : ∀ {more}, (∀ s ∈ more, WrittenSegment s) → ∀ s ∈ more ++ [[]], WrittenSegment s := by
    intro more hmore
    rw [List.forall_mem_append, List.forall_mem_singleton]
    exact ⟨hmore, writtenSegment_nil⟩
  rw [addPiece_eq hkind, addPiece_eq hkind]
  by_cases hdots : isDoubleDot (written text) = true
  · rw [if_pos hdots, if_pos hdots, if_pos rfl, if_neg (by decide)]
    obtain ⟨front, hfront, hback⟩ := exists_back hkind fun s hs => (hsegments s hs).slash_not_mem
    have hwritten : ∀ s ∈ front, WrittenSegment s := fun s hs => hsegments s (hfront.subset hs)
    rw [hback, close_opened]
    exact ⟨⟨front, hwritten, rfl⟩, front ++ [[]], by simp, hopen hwritten, opened_eq front⟩
  · rw [if_neg hdots, if_neg hdots]
    by_cases hdot : isSingleDot (written text) = true
    · rw [if_pos hdot, if_pos hdot, close_opened]
      exact ⟨⟨segments, hsegments, rfl⟩, segments ++ [[]], by simp, hopen hsegments,
        opened_eq segments⟩
    · rw [if_neg hdot, if_neg hdot, if_pos rfl, if_neg (by decide), ← ofSegments_concat]
      rw [Bool.not_eq_true] at hdots hdot
      have hmore : ∀ s ∈ segments ++ [written text], WrittenSegment s := by
        rw [List.forall_mem_append, List.forall_mem_singleton]
        exact ⟨hsegments, writtenSegment_written h hdot hdots⟩
      exact ⟨⟨segments ++ [written text], hmore, rfl⟩, segments ++ [written text], by simp, hmore,
        rfl⟩

/-- Whatever a path of the web is read from, it is one of written segments. -/
lemma exists_addText (hspecial : kind = .special) (hsegments : ∀ s ∈ segments, WrittenSegment s)
    (text : List Char) : ∃ more ≠ [], (∀ s ∈ more, WrittenSegment s) ∧
      (opened segments).addText kind text = ofSegments more := by
  have hkind : kind ≠ .file := by simp [hspecial]
  have htrue : kind.isSpecial = true := by rw [hspecial]; rfl
  obtain ⟨front, last, hpieces, hfront, hlast⟩ := pathPieces_eq_concat true text
  obtain ⟨more, hmore, hopen⟩ : ∃ more, (∀ s ∈ more, WrittenSegment s) ∧
      front.foldl (addPiece kind) (opened segments) = opened more := by
    clear hpieces
    induction front generalizing segments with
    | nil => exact ⟨segments, hsegments, rfl⟩
    | cons piece front ih =>
      obtain ⟨chars, slash⟩ := piece
      rw [List.forall_mem_cons] at hfront
      obtain ⟨⟨rfl, hchars⟩, hfront⟩ := hfront
      obtain ⟨more, hmore, hopen⟩ := (addPiece_opened hkind hsegments hchars).1
      rw [List.foldl_cons, hopen]
      exact ih hmore hfront
  rw [addText, htrue, hpieces, List.foldl_append, hopen]
  exact (addPiece_opened hkind hmore hlast).2

/-- Written segments are added as they are. -/
lemma addText_intercalate (hspecial : kind = .special) {added : List (List Char)} (hne : added ≠ [])
    (h : ∀ s ∈ added, WrittenSegment s) (segments : List (List Char)) :
    (opened segments).addText kind (['/'].intercalate added) = ofSegments (segments ++ added) := by
  have hkind : kind ≠ .file := by simp [hspecial]
  have htrue : kind.isSpecial = true := by rw [hspecial]; rfl
  have hpiece : ∀ {s}, WrittenSegment s → ∀ (d : Draft) (slash : Bool), d.addPiece kind (s, slash) =
      if slash then '/' :: (s.reverse ++ d) else s.reverse ++ d := by
    intro s hs d slash
    rw [addPiece_eq hkind, hs.written_eq, hs.not_dots, hs.not_dot]
    rfl
  rw [addText, htrue]
  -- Every segment but the last one brings the slash behind it.
  induction added generalizing segments with
  | nil => exact absurd rfl hne
  | cons s added ih =>
    rw [List.forall_mem_cons] at h
    cases added with
    | nil =>
      rw [List.intercalate_singleton, pathPieces_of_divided h.1.divided, List.foldl_cons,
        List.foldl_nil, hpiece h.1, ofSegments_concat]
      rfl
    | cons next added =>
      rw [List.intercalate_cons_cons, List.append_assoc, List.singleton_append,
        pathPieces_append h.1.divided, List.foldl_cons, hpiece h.1, if_pos rfl, ← ofSegments_concat,
        ← opened, ih (List.cons_ne_nil _ _) h.2, List.append_assoc]
      rfl

lemma toPath_ofSegments (hkind : kind ≠ .file) (hne : segments ≠ [])
    (h : ∀ s ∈ segments, '/' ∉ s) :
    (ofSegments segments).toPath kind = .segments (segments.map String.ofList) := by
  have hreverse : (ofSegments segments).reverse = '/' :: ['/'].intercalate segments := by
    rw [ofSegments, List.reverse_reverse, flatMap_cons '/' hne]
  unfold toPath
  rw [hreverse]
  dsimp only
  rw [if_neg hkind, List.splitOn_intercalate '/' h hne]

lemma toDraft_segments (parts : List String) :
    (Path.segments parts).toDraft = ofSegments (parts.map String.toList) := by
  have htext : (Path.segments parts).toString.toList =
      (parts.map String.toList).flatMap ('/' :: ·) := by
    induction parts with
    | nil => rfl
    | cons part parts ih =>
      have hcons : (Path.segments (part :: parts)).toString =
          "/" ++ part ++ (Path.segments parts).toString := rfl
      rw [hcons, String.toList_append, String.toList_append, ih]
      rfl
  rw [Path.toDraft, htext, ofSegments]

end Draft

/-- A path that is written segment by segment. -/
def WrittenPath (p : Path) : Prop :=
  ∃ parts ≠ [], p = .segments parts ∧ ∀ part ∈ parts, WrittenSegment part.toList

variable {u : Url}

lemma writtenPath_withPath (hspecial : u.kind = .special) (cs : List Char) :
    WrittenPath (u.withPath .root cs).path := by
  have hkind : u.kind ≠ .file := by simp [hspecial]
  obtain ⟨more, hne, hmore, htext⟩ :=
    Draft.exists_addText hspecial (List.forall_mem_nil _) (cs.takeWhile (!endsPath ·))
  refine ⟨more.map String.ofList, by simpa using hne, ?_, ?_⟩
  · have hroot : Draft.root = Draft.opened [] := rfl
    unfold withPath
    dsimp only
    rw [hroot, htext, Draft.toPath_ofSegments hkind hne fun s hs => (hmore s hs).slash_not_mem]
  · rw [List.forall_mem_map]
    intro s hs
    rw [String.toList_ofList]
    exact hmore s hs

/-- Written segments are read behind those that are there. -/
lemma withPath_intercalate (hspecial : u.kind = .special) {front added : List String}
    (hne : added ≠ []) (hfront : ∀ part ∈ front, WrittenSegment part.toList)
    (hadded : ∀ part ∈ added, WrittenSegment part.toList) :
    u.withPath (Draft.opened (front.map String.toList))
        (['/'].intercalate (added.map String.toList)) =
      { u with path := .segments (front ++ added), query := none, fragment := none } := by
  have hkind : u.kind ≠ .file := by simp [hspecial]
  have hchars : ∀ c ∈ ['/'].intercalate (added.map String.toList), (!endsPath c) = true := by
    intro c hc
    rcases mem_intercalate hc with hslash | ⟨chars, hchars, hc⟩
    · rw [List.mem_singleton.1 hslash]
      rfl
    · obtain ⟨part, hpart, rfl⟩ := List.mem_map.1 hchars
      rw [(keptChar ((hadded part hpart).kept c hc)).inside]
      rfl
  have hcut := takeWhile_append_stop hchars [] (by simp)
  rw [List.append_nil] at hcut
  have hall : ∀ s ∈ (front ++ added).map String.toList, WrittenSegment s := by
    rw [List.forall_mem_map, List.forall_mem_append]
    exact ⟨hfront, hadded⟩
  have hpath : Draft.toPath u.kind ((Draft.opened (front.map String.toList)).addText u.kind
      (['/'].intercalate (added.map String.toList))) = .segments (front ++ added) := by
    rw [Draft.addText_intercalate hspecial (by simpa using hne) (List.forall_mem_map.2 hadded),
      ← List.map_append, Draft.toPath_ofSegments hkind (by simp [hne])
      fun s hs => (hall s hs).slash_not_mem, List.map_map]
    simp [Function.comp_def]
  unfold withPath
  rw [hcut.1, hcut.2, hpath]
  rfl

end Registry.Url
