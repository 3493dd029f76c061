import Registry.Proofs.InheritanceChains
import Registry.Proofs.ReferenceText
import Registry.Proofs.UrlFragment
import Registry.Proofs.UrlPaths

/-!
# Spellings of a base

The reference of a message to its base has many spellings: a fragment with or without its first slash
and with or without the name of a type, a path, and a URL. They are read as the pointer of the base,
all but one: a URL with nothing behind its `#` is read as the pointer of the whole document.
-/

namespace Registry

namespace Text

lemma trim_of_filled {s : String} (h : ∀ c ∈ s.toList, isBlank c = false) : trim s = s :=
  trim_eq_self (fun c hc => h c (List.mem_of_mem_head? hc))
    fun c hc => h c (List.mem_of_getLast? hc)

end Text

namespace Inheritance

open Text

variable {m : Model} {document : Value} {q : Place} {base : Fields} {text : String}

/-- A character of a name that is written in the same way in a pointer and in a URL. -/
def IsNameChar (c : Char) : Prop := Url.isUnreserved c = true ∧ c ≠ '~'

instance (c : Char) : Decidable (IsNameChar c) := inferInstanceAs (Decidable (_ ∧ _))

/-- A name of such characters that a URL can have as a segment of its path. -/
structure PlainName (name : String) : Prop where
  segment : Url.PlainSegment name
  chars : ∀ c ∈ name.toList, IsNameChar c

instance (name : String) : Decidable (PlainName name) :=
  decidable_of_iff (Url.PlainSegment name ∧ name.toList.all (fun c => decide (IsNameChar c)) = true)
    ⟨fun h => ⟨h.1, fun c hc => of_decide_eq_true (List.all_eq_true.1 h.2 c hc)⟩,
      fun h => ⟨h.1, List.all_eq_true.2 fun c hc => decide_eq_true (h.2 c hc)⟩⟩

lemma not_isNameChar {c : Char} (hc : c ∈ ['/', '#', ':', '%', '~']) : ¬IsNameChar c := by
  have hall : ['/', '#', ':', '%', '~'].all (fun c => decide (¬IsNameChar c)) = true := by decide
  exact of_decide_eq_true (List.all_eq_true.1 hall c hc)

/-- All that leads to a place has a plain name. -/
def Place.Plain (q : Place) : Prop := ∀ token ∈ q.tokens, PlainName token

instance (q : Place) : Decidable q.Plain := inferInstanceAs (Decidable (∀ token ∈ q.tokens, _))

/-- The names that lead to a place, one behind the other. -/
def Place.path (q : Place) : String :=
  q.plural ++ "/" ++ q.groupId ++ "/" ++ collection ++ "/" ++ q.messageId

lemma escape_eq_self {token : String} (h : ∀ c ∈ token.toList, IsNameChar c ∨ c = ':') :
    Pointer.escape token = token := by
  have hchars : ∀ cs : List Char, (∀ c ∈ cs, IsNameChar c ∨ c = ':') →
      Pointer.escapeChars cs = cs := by
    intro cs hcs
    induction cs with
    | nil => rfl
    | cons c cs ih =>
      obtain ⟨hc, hcs⟩ := List.forall_mem_cons.1 hcs
      have htilde : c ≠ '~' := by
        rintro rfl
        exact hc.elim (not_isNameChar (by simp)) (by decide)
      have hslash : c ≠ '/' := by
        rintro rfl
        exact hc.elim (not_isNameChar (by simp)) (by decide)
      rw [Pointer.escapeChars, ih hcs, if_neg htilde, if_neg hslash]
      rfl
  rw [Pointer.escape, hchars _ h, String.ofList_toList]

lemma hash_slash (text : String) : "#/" ++ text = "#" ++ ("/" ++ text) := by
  apply String.toList_injective
  simp

lemma toList_path (q : Place) : q.path.toList = ['/'].intercalate (q.tokens.map String.toList) := by
  simp [Place.path, Place.tokens, List.intercalate]

lemma toString_tokens (q : Place) : (Url.Path.segments q.tokens).toString = "/" ++ q.path := by
  apply String.toList_injective
  rw [Place.tokens, Url.toList_toString_segments, String.toList_append, toList_path]
  rfl

namespace Place.Plain

lemma segment (h : q.Plain) : ∀ token ∈ q.tokens, Url.PlainSegment token :=
  fun token ht => (h token ht).segment

lemma mem_path (h : q.Plain) {c : Char} (hc : c ∈ q.path.toList) : c = '/' ∨ IsNameChar c := by
  rw [toList_path] at hc
  exact (Url.mem_intercalate_slash hc).imp_right fun ⟨token, ht, hc⟩ => (h token ht).chars c hc

lemma not_mem_path (h : q.Plain) {c : Char} (hc : c ∈ ['#', ':', '%', '~']) : c ∉ q.path.toList := by
  intro hmem
  rcases h.mem_path hmem with rfl | hname
  · exact absurd hc (by decide)
  · exact not_isNameChar (List.mem_cons_of_mem _ hc) hname

/-- Nothing in the pointer of a plain place is escaped. -/
lemma pointer_eq (h : q.Plain) : q.pointer = "/" ++ q.path := by
  have hescape : ∀ token ∈ q.tokens, Pointer.escape token = token :=
    fun token ht => escape_eq_self fun c hc => .inl ((h token ht).chars c hc)
  rw [← toString_tokens, Place.pointer_eq, Pointer.ofTokens, Url.Path.toString]
  exact List.foldr_ext _ _ _ fun token ht rest => by rw [hescape token ht]

lemma isBlank_path (h : q.Plain) {c : Char} (hc : c ∈ q.path.toList) : isBlank c = false := by
  rcases h.mem_path hc with rfl | hname
  · decide
  · exact (Url.bare_of_isUnreserved hname.1).filled

lemma exists_path_cons (h : q.Plain) : ∃ c cs, q.path.toList = c :: cs ∧ IsNameChar c := by
  obtain ⟨hfirst, -⟩ := List.forall_mem_cons.1 h
  obtain ⟨c, cs, hcs⟩ := List.exists_cons_of_ne_nil
    fun hnil => hfirst.segment.ne_empty (String.toList_eq_nil_iff.1 hnil)
  refine ⟨c, cs ++ ("/" ++ q.groupId ++ "/" ++ collection ++ "/" ++ q.messageId).toList, ?_,
    hfirst.chars c (hcs ▸ List.mem_cons_self)⟩
  simp [Place.path, hcs]

end Place.Plain

/-- The texts that spell a place of a document by its names. The name of a type can follow unless
there is something whose id ends like that. A URL can have segments before the place that name no
group collection. -/
inductive Spells (m : Model) (document : Value) (q : Place) : String → Prop
  | pointer : Spells m document q ("#/" ++ q.path)
  | fragment : Spells m document q ("#" ++ q.path)
  | rooted : Spells m document q ("/" ++ q.path)
  | relative : Spells m document q q.path
  | typed {typeName : String} (hne : typeName ≠ "") (hchars : ∀ c ∈ typeName.toList, IsNameChar c)
      (hfree : document.under
        [q.plural, q.groupId, collection, q.messageId ++ ":" ++ typeName] = none) :
      Spells m document q ("#/" ++ q.path ++ ":" ++ typeName)
  | url {host : String} {root : Url} {outer : List String} (hhost : Url.IsHost host root)
      (hplain : ∀ segment ∈ outer, Url.PlainSegment segment)
      (houter : ∀ segment ∈ outer, m.isGroupCollection segment = false) :
      Spells m document q (Url.hosted host (outer ++ q.tokens))

lemma isGroupCollection_of_mem {plural : String} (h : plural ∈ groupCollections m) :
    m.isGroupCollection plural = true := by
  obtain ⟨g, hg, -, -, hplural, -⟩ := mem_groupCollections.1 h
  exact List.any_eq_true.2 ⟨g, hg, by simp [hplural]⟩

/-- A path from a group collection on is read as its segments. -/
lemma pointerOfPath?_eq (hq : q.plural ∈ groupCollections m) (hplain : q.Plain)
    (h : (pieces '/' text).filter (!·.isEmpty) = q.tokens) :
    pointerOfPath? m text = some q.pointer := by
  have hread : q.tokens.map Percent.unescape = q.tokens := by
    refine (List.map_congr_left fun token ht => Percent.unescape_of_not_mem fun hmem => ?_).trans
      (List.map_id' _)
    exact not_isNameChar (by decide) ((hplain token ht).chars _ hmem)
  have hdrop : q.tokens.dropWhile (!m.isGroupCollection ·) = q.tokens :=
    List.dropWhile_cons_of_neg (by simp [isGroupCollection_of_mem hq])
  rw [pointerOfPath?, h, hread, hdrop]
  rfl

/-- A text with neither a scheme nor a fragment is read as a path. -/
lemma basePointer?_of_path (hhash : '#' ∉ text.toList) (hcolon : ':' ∉ text.toList)
    (htrim : trim text = text) : basePointer? m document text = pointerOfPath? m text := by
  have hscheme : Url.cutScheme? ((Url.trim text.toList).filter (!Url.isBreak ·)) = none := by
    have hfree : ':' ∉ (Url.trim text.toList).filter (!Url.isBreak ·) :=
      fun hmem => hcolon (Url.trim_subset _ (List.mem_of_mem_filter hmem))
    rw [Url.cutScheme?, cut?_eq_none.2 hfree]
  have hurl : Url.ofText? text = none := by
    unfold Url.ofText? Url.read?
    dsimp only
    rw [hscheme]
  rw [basePointer?_of_hash_not_mem hhash htrim, hurl]
  rfl

lemma pieces_path (hplain : q.Plain) : pieces '/' q.path = q.tokens := by
  have hfree : ∀ l ∈ q.tokens.map String.toList, '/' ∉ l := by
    intro l hl
    obtain ⟨token, ht, rfl⟩ := List.mem_map.1 hl
    exact (hplain.segment token ht).slash_not_mem
  rw [pieces, toList_path, List.splitOn_intercalate '/' hfree (by simp [Place.tokens]), List.map_map]
  exact (List.map_congr_left fun token _ => String.ofList_toList).trans (List.map_id' _)

lemma filter_tokens (hplain : q.Plain) : q.tokens.filter (!·.isEmpty) = q.tokens :=
  List.filter_eq_self.2 fun token ht => by simp [(hplain.segment token ht).ne_empty]

/-- What leads to a plain place, with a number sign or a slash before it, has no blank anywhere. -/
lemma isBlank_of_mem_append (hplain : q.Plain) (before : String)
    (hbefore : before.toList.any isBlank = false) :
    ∀ c ∈ (before ++ q.path).toList, isBlank c = false := by
  intro c hc
  rw [String.toList_append, List.mem_append] at hc
  exact hc.elim (fun h => Bool.eq_false_iff.2 (List.any_eq_false.1 hbefore c h)) hplain.isBlank_path

lemma ofFragment_path (hplain : q.Plain) : Pointer.ofFragment q.path = q.pointer := by
  obtain ⟨c, cs, hcs, hc⟩ := hplain.exists_path_cons
  have hhash : c ≠ '#' := fun he => not_isNameChar (by simp) (he ▸ hc)
  have hslash : c ≠ '/' := fun he => not_isNameChar (by simp) (he ▸ hc)
  have hdrop : q.path.toList.dropWhile (· == '#') = c :: cs := by
    rw [hcs, List.dropWhile_cons_of_neg (by simpa using hhash)]
  rw [hplain.pointer_eq]
  apply String.toList_injective
  rw [Pointer.ofFragment, hdrop, String.toList_append, hcs]
  split
  · next he => cases he
  · next he =>
    obtain ⟨rfl, -⟩ := List.cons.inj he
    exact absurd rfl hslash
  · rw [String.toList_ofList]
    rfl

lemma ofFragment_rooted (hplain : q.Plain) : Pointer.ofFragment ("/" ++ q.path) = q.pointer := by
  rw [← hplain.pointer_eq, Place.pointer_eq]
  exact Pointer.ofFragment_ofTokens (by simp [Place.tokens])

variable {typeName : String}

lemma namesType_of_chars (hne : typeName ≠ "") (hchars : ∀ c ∈ typeName.toList, IsNameChar c) :
    Reference.NamesType typeName where
  ne_empty := hne
  slash_not_mem hm := not_isNameChar (by simp) (hchars _ hm)
  colon_not_mem hm := not_isNameChar (by simp) (hchars _ hm)

/-- The place beside a plain one whose id ends in a colon and the name of a type. -/
lemma ofTokens_typed (hplain : q.Plain) (hchars : ∀ c ∈ typeName.toList, IsNameChar c) :
    Pointer.ofTokens [q.plural, q.groupId, collection, q.messageId ++ ":" ++ typeName] =
      "/" ++ q.path ++ ":" ++ typeName := by
  have hnames : ∀ token ∈ q.tokens, Pointer.escape token = token :=
    fun token ht => escape_eq_self fun c hc => .inl ((hplain token ht).chars c hc)
  have hid : Pointer.escape (q.messageId ++ ":" ++ typeName) = q.messageId ++ ":" ++ typeName := by
    refine escape_eq_self fun c hc => ?_
    simp only [String.toList_append, List.mem_append] at hc
    rcases hc with (hc | hc) | hc
    · exact .inl ((hplain q.messageId (by simp [Place.tokens])).chars c hc)
    · exact .inr (by simpa using hc)
    · exact .inl (hchars c hc)
  simp only [Place.tokens, List.forall_mem_cons] at hnames
  apply String.toList_injective
  simp [Pointer.ofTokens, hid, hnames.1, hnames.2.1, hnames.2.2.1, Place.path]

lemma lookup_typed (hq : MessageAt m document q base) (hplain : q.Plain)
    (hchars : ∀ c ∈ typeName.toList, IsNameChar c)
    (hfree : document.under [q.plural, q.groupId, collection, q.messageId ++ ":" ++ typeName] = none) :
    document.lookup ("/" ++ q.path ++ ":" ++ typeName) = none := by
  rw [← ofTokens_typed hplain hchars, Value.lookup_ofTokens _ (by simp)]
  -- the collection is a mapping, so what a token leads to there is what is under that key
  have hsplit : ∀ id,
      [q.plural, q.groupId, collection, id] = [q.plural, q.groupId, collection] ++ [id] :=
    fun _ => rfl
  have hunder := hq.2
  rw [Place.tokens, hsplit, Value.under_append] at hunder
  obtain ⟨v, hv, hid⟩ := Option.bind_eq_some_iff.1 hunder
  obtain ⟨messages, rfl, -⟩ := Value.under_cons_eq_some.1 hid
  rw [hsplit, Value.under_append, hv] at hfree
  rw [hsplit, Value.at?_append, Value.at?_of_under hv]
  exact hfree

lemma basePointer?_typed (hq : MessageAt m document q base) (hplain : q.Plain) (hne : typeName ≠ "")
    (hchars : ∀ c ∈ typeName.toList, IsNameChar c)
    (hfree : document.under [q.plural, q.groupId, collection, q.messageId ++ ":" ++ typeName] = none) :
    basePointer? m document ("#/" ++ q.path ++ ":" ++ typeName) = some q.pointer := by
  have htext : "#/" ++ q.path ++ ":" ++ typeName = "#" ++ ("/" ++ q.path ++ ":" ++ typeName) := by
    rw [hash_slash, String.append_assoc, String.append_assoc, String.append_assoc,
      String.append_assoc, String.append_assoc]
  have htrim : trim ("#/" ++ q.path ++ ":" ++ typeName) = "#/" ++ q.path ++ ":" ++ typeName := by
    refine trim_of_filled fun c hc => ?_
    rw [String.toList_append, String.toList_append, List.mem_append, List.mem_append] at hc
    rcases hc with (hc | hc) | hc
    · exact isBlank_of_mem_append hplain "#/" (by decide) c hc
    · obtain rfl := List.mem_singleton.1 hc
      decide
    · exact (Url.bare_of_isUnreserved (hchars c hc).1).filled
  rw [htext] at htrim
  have hread : Pointer.ofFragment ("/" ++ q.path ++ ":" ++ typeName) =
      "/" ++ q.path ++ ":" ++ typeName := by
    rw [← ofTokens_typed hplain hchars]
    exact Pointer.ofFragment_ofTokens (by simp)
  have hwhole : wholeFragment? document ("#" ++ ("/" ++ q.path ++ ":" ++ typeName)) = none := by
    unfold wholeFragment?
    rw [htrim, cutAt?_hash]
    simp only [Option.bind_eq_bind, Option.bind_some, hread, lookup_typed hq hplain hchars hfree]
    rfl
  have hreference : Reference.ofText ("#" ++ ("/" ++ q.path ++ ":" ++ typeName)) =
      .fragment ("/" ++ q.path) (some typeName) := by
    rw [Reference.ofText, htrim, cutAt?_hash]
    dsimp only
    rw [Reference.cutTypeName_append (namesType_of_chars hne hchars), if_pos (by decide)]
  rw [htext, basePointer?, hwhole, hreference]
  dsimp only
  rw [Pointer.ofFragment_hash, ofFragment_rooted hplain]

variable {host : String} {root : Url} {outer : List String}

lemma plain_append (hplain : q.Plain) (houter : ∀ segment ∈ outer, Url.PlainSegment segment) :
    ∀ segment ∈ outer ++ q.tokens, Url.PlainSegment segment :=
  List.forall_mem_append.2 ⟨houter, hplain.segment⟩

lemma basePointer?_hosted (hq : MessageAt m document q base) (hplain : q.Plain)
    (hhost : Url.IsHost host root) (houter : ∀ segment ∈ outer, Url.PlainSegment segment)
    (hnone : ∀ segment ∈ outer, m.isGroupCollection segment = false) :
    basePointer? m document (Url.hosted host (outer ++ q.tokens)) = some q.pointer := by
  have hne : outer ++ q.tokens ≠ [] := by simp [Place.tokens]
  have hsegments := plain_append hplain houter
  have haddress : Address.inModel m (Url.hosted host (outer ++ q.tokens)) =
      ⟨"https://" ++ root.hostAndPort, outer, q.tokens⟩ :=
    Url.inModel_hosted hhost m hnone rfl (isGroupCollection_of_mem hq.1) hsegments
  have hread : ∀ segment ∈ outer ++ q.tokens, Percent.unescape segment = segment := by
    intro segment hs
    exact Percent.unescape_of_not_mem fun hm => ((hsegments segment hs).bare _ hm).ne_percent rfl
  obtain ⟨hread, hread'⟩ := List.forall_mem_append.1 hread
  have hspelled : SpelledOut m (Url.hosted host (outer ++ q.tokens)) := by
    rw [SpelledOut, haddress]
    exact ⟨fun segment hs => by rw [hread segment hs]; exact hnone segment hs, hread'⟩
  have hpointer := basePointer?_of_spelledOut m document (Url.hash_not_mem_hosted hhost hne hsegments)
    (Url.trim_hosted hne hsegments) (by rw [haddress]; simp [Place.tokens]) hspelled
  rw [haddress] at hpointer
  exact hpointer

/-- Whatever spells the place of a message is read as its pointer. -/
theorem Spells.basePointer? (h : Spells m document q text) (hq : MessageAt m document q base)
    (hplain : q.Plain) : basePointer? m document text = some q.pointer := by
  have hfree {c : Char} (hc : c ∈ ['#', ':', '%', '~']) : c ∉ ("/" ++ q.path).toList := by
    rw [String.toList_append, List.mem_append, not_or]
    refine ⟨fun hslash => ?_, hplain.not_mem_path hc⟩
    obtain rfl := List.mem_singleton.1 hslash
    exact absurd hc (by decide)
  cases h with
  | pointer =>
    have htrim := trim_of_filled (isBlank_of_mem_append hplain "#/" (by decide))
    rw [hash_slash] at htrim ⊢
    exact basePointer?_of_ofFragment hq htrim (ofFragment_rooted hplain)
  | fragment =>
    have htrim := trim_of_filled (isBlank_of_mem_append hplain "#" (by decide))
    exact basePointer?_of_ofFragment hq htrim (ofFragment_path hplain)
  | rooted =>
    have htrim := trim_of_filled (isBlank_of_mem_append hplain "/" (by decide))
    rw [basePointer?_of_path (hfree (by simp)) (hfree (by simp)) htrim]
    refine pointerOfPath?_eq hq.1 hplain ?_
    rw [← toString_tokens, Url.filter_pieces_toString, filter_tokens hplain]
    exact fun segment hs => (hplain.segment segment hs).slash_not_mem
  | relative =>
    have htrim := trim_of_filled fun c => hplain.isBlank_path (c := c)
    rw [basePointer?_of_path (hplain.not_mem_path (by simp)) (hplain.not_mem_path (by simp)) htrim]
    refine pointerOfPath?_eq hq.1 hplain ?_
    rw [pieces_path hplain, filter_tokens hplain]
  | typed hne hchars hfree => exact basePointer?_typed hq hplain hne hchars hfree
  | url hhost houter hnone => exact basePointer?_hosted hq hplain hhost houter hnone

end Inheritance

end Registry
