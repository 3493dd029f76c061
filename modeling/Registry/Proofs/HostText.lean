import Mathlib.Algebra.Group.Nat.Defs
import Registry.Proofs.DomainText
import Registry.Proofs.UrlPaths

/-!
# Written hosts

The written form of a host reads back as it is: the decimal parts of an IPv4 address, the pieces of an
IPv6 address in brackets, and a domain whose characters come to small ASCII letters. Whatever host it
is, its text ends at a colon or a slash behind it.
-/

namespace Registry.Url

open Text

variable {cs : List Char}

/-- What a character needs to be a part of a host, possibly between brackets. -/
structure HostChar (c : Char) : Prop where
  inside : endsAuthority true c = false
  visible : 0x20 < c.toNat
  ne_at : c ≠ '@'
  ne_open : c ≠ '['
  ne_close : c ≠ ']'

lemma hostChar_colon : HostChar ':' := by
  constructor <;> decide

lemma hostChar_of_domain {c : Char} (h : isBadInDomain c = false) : HostChar c ∧ c ≠ ':' := by
  have hvisible : 0x20 < c.toNat := by
    simp only [isBadInDomain, Bool.or_eq_false_iff, decide_eq_false_iff_not, Nat.not_le] at h
    exact h.1.1
  have hbad : ∀ d ∈ ['/', '\\', '?', '#', '@', '[', ']', ':'], isBadInDomain d = true :=
    List.all_eq_true.1 (by decide)
  have hne : ∀ d ∈ ['/', '\\', '?', '#', '@', '[', ']', ':'], c ≠ d := by
    rintro d hd rfl
    rw [hbad c hd] at h
    cases h
  simp only [List.forall_mem_cons, List.not_mem_nil, false_imp_iff, implies_true, and_true] at hne
  obtain ⟨hslash, hback, hquery, hhash, hat, hopen, hclose, hcolon⟩ := hne
  refine ⟨⟨?_, hvisible, hat, hopen, hclose⟩, hcolon⟩
  simp [endsAuthority, isSlash, endsPath, hslash, hback, hquery, hhash]

/-- A domain that stands for itself is read as an address or as it is. -/
lemma domain?_of_plain (hplain : ∀ c ∈ cs, c.toNat < 0x80 ∧ isBadInDomain c = false) (hne : cs ≠ [])
    (hascii : Domain.toAscii? cs = some cs) :
    domain? cs = if endsInNumber (cs.splitOn '.') then (ipv4? (cs.splitOn '.')).map ipv4Text
      else some (String.ofList cs) := by
  have hhead : cs.head? ≠ some '[' := fun he =>
    absurd (hplain '[' (List.mem_of_mem_head? he)).2 (by decide)
  have hdecode : ∀ c ∈ cs, c.toNat < 0x80 ∧ c ≠ '%' := by
    refine fun c hc => ⟨(hplain c hc).1, ?_⟩
    rintro rfl
    exact absurd (hplain '%' hc).2 (by decide)
  have hgood : ¬(cs.isEmpty || cs.any isBadInDomain) = true := by
    simp only [Bool.or_eq_true, List.isEmpty_iff, List.any_eq_true, not_or, not_exists, not_and]
    exact ⟨hne, fun c hc => by simp [(hplain c hc).2]⟩
  unfold domain?
  simp only [Option.bind_eq_bind]
  rw [if_neg hhead, decode_of_ascii hdecode, Option.bind_some, hascii, Option.bind_some,
    if_neg hgood]

lemma endsInNumber_of_last {labels : List (List Char)} {last : List Char}
    (hlast : labels.reverse.head? = some last) (hne : last ≠ [])
    (hdigits : last.all Char.isDigit = true) : endsInNumber labels = true := by
  obtain ⟨rest, hreverse⟩ := List.head?_eq_some_iff.1 hlast
  obtain ⟨c, cs, rfl⟩ := List.exists_cons_of_ne_nil hne
  unfold endsInNumber
  rw [hreverse]
  dsimp only
  rw [hdigits]
  rfl

lemma decimal_part : ∀ a : Nat, a < 256 → (ToString.toString a).toList.all Char.isDigit = true ∧
    (ToString.toString a).toList ≠ [] ∧
      ipv4Part? (ToString.toString a).toList = some (some a) := by
  decide +kernel

lemma ipv4?_bound {labels : List (List Char)} {n : Nat} (h : ipv4? labels = some n) :
    n < 256 ^ 4 := by
  unfold ipv4? at h
  simp only [Option.bind_eq_bind] at h
  generalize (if labels.getLast? = some [] then labels.dropLast else labels) = labels at h
  split at h
  · cases h
  · next hcount =>
    obtain ⟨numbers, hnumbers, h⟩ := Option.bind_eq_some_iff.1 h
    obtain ⟨last, hlast, h⟩ := Option.bind_eq_some_iff.1 h
    obtain ⟨front, rfl⟩ := List.getLast?_eq_some_iff.1 hlast
    have hlength := (forall₂_of_mapM hnumbers).length_eq
    rw [List.length_append, List.length_singleton] at hlength
    rw [List.dropLast_concat] at h
    split at h
    · cases h
    · next hbounds =>
      obtain ⟨hfront, hlast⟩ := not_or.1 hbounds
      have hsmall : ∀ a ∈ front, a ≤ 255 := by simpa using hfront
      have hn := Option.some.inj h
      -- at most three parts stand before the last one
      match front, hlength, hsmall, hlast, hn with
      | [], _, _, hlast, hn =>
        simp [List.zipIdx] at hlast hn
        omega
      | [a], _, hsmall, hlast, hn =>
        simp [List.zipIdx] at hsmall hlast hn
        omega
      | [a, b], _, hsmall, hlast, hn =>
        simp [List.zipIdx] at hsmall hlast hn
        omega
      | [a, b, c], _, hsmall, hlast, hn =>
        simp [List.zipIdx] at hsmall hlast hn
        omega
      | a :: b :: c :: d :: more, hlength, _, _, _ =>
        simp at hlength
        omega

/-- The four parts of an address read back. -/
lemma ipv4?_parts {a b c d : Nat} (ha : a < 256) (hb : b < 256) (hc : c < 256) (hd : d < 256) :
    ipv4? ([a, b, c, d].map fun i => (ToString.toString i).toList) =
      some (a * 256 ^ 3 + b * 256 ^ 2 + c * 256 + d) := by
  have hread : ([a, b, c, d].map fun i => (ToString.toString i).toList).mapM
      (fun l => (ipv4Part? l).bind id) = some [a, b, c, d] := by
    simp only [List.map_cons, List.map_nil, List.mapM_cons, List.mapM_nil,
      (decimal_part a ha).2.2, (decimal_part b hb).2.2, (decimal_part c hc).2.2,
      (decimal_part d hd).2.2]
    rfl
  have hlast : ([a, b, c, d].map fun i => (ToString.toString i).toList).getLast? ≠ some [] := by
    simp
  have hfront : ¬([a, b, c].any (255 < ·) = true ∨ Nat.pow 256 (4 - [a, b, c].length) ≤ d) := by
    simp
    omega
  unfold ipv4?
  simp only [Option.bind_eq_bind]
  rw [if_neg hlast, if_neg (by simp), hread, Option.bind_some, List.getLast?_cons_cons,
    List.getLast?_cons_cons, List.getLast?_cons_cons, List.getLast?_singleton, Option.bind_some]
  refine (if_neg hfront).trans (congrArg some ?_)
  simp [List.zipIdx]

/-- The labels of a written address. -/
def ipv4Labels (n : Nat) : List (List Char) :=
  [n / 256 ^ 3 % 256, n / 256 ^ 2 % 256, n / 256 % 256, n % 256].map fun i =>
    (ToString.toString i).toList

lemma isDigit_of_mem_ipv4Labels {n : Nat} :
    ∀ label ∈ ipv4Labels n, ∀ c ∈ label, c.isDigit = true := by
  rw [ipv4Labels, List.forall_mem_map]
  have hlt : ∀ m, m % 256 < 256 := fun m => Nat.mod_lt _ (by decide)
  intro i hi
  refine List.all_eq_true.1 (decimal_part i ?_).1
  simp only [List.mem_cons, List.not_mem_nil, or_false] at hi
  rcases hi with rfl | rfl | rfl | rfl <;> exact hlt _

lemma toList_ipv4Text (n : Nat) : (ipv4Text n).toList = ['.'].intercalate (ipv4Labels n) := by
  rw [ipv4Text, String.toList_intercalate]
  simp [ipv4Labels]

lemma splitOn_ipv4Text (n : Nat) : (ipv4Text n).toList.splitOn '.' = ipv4Labels n := by
  rw [toList_ipv4Text]
  refine List.splitOn_intercalate '.' (fun label hl hdot => ?_) (by simp [ipv4Labels])
  exact (Domain.plainDigit (isDigit_of_mem_ipv4Labels label hl _ hdot)).ne_dot rfl

lemma ipv4Text_ne_nil (n : Nat) : (ipv4Text n).toList ≠ [] := by
  intro he
  have hsplit := splitOn_ipv4Text n
  rw [he, List.splitOn_nil] at hsplit
  exact absurd (congrArg List.length hsplit) (by simp [ipv4Labels])

lemma decimal_ipv4Text {n : Nat} : ∀ c ∈ (ipv4Text n).toList, c.isDigit = true ∨ c = '.' := by
  intro c hc
  rw [toList_ipv4Text] at hc
  rcases mem_intercalate hc with hdot | ⟨label, hl, hc⟩
  · exact .inr (List.mem_singleton.1 hdot)
  · exact .inl (isDigit_of_mem_ipv4Labels label hl c hc)

lemma plain_ipv4Text {n : Nat} :
    ∀ c ∈ (ipv4Text n).toList, c.toNat < 0x80 ∧ isBadInDomain c = false := by
  intro c hc
  rcases decimal_ipv4Text c hc with hd | rfl
  · exact ⟨(Domain.plainDigit hd).ascii, (Domain.plainDigit hd).bad⟩
  · decide

lemma domain?_ipv4Text {n : Nat} (h : n < 256 ^ 4) :
    domain? (ipv4Text n).toList = some (ipv4Text n) := by
  have hlt : ∀ m, m % 256 < 256 := fun m => Nat.mod_lt _ (by decide)
  have hparts : ipv4? (ipv4Labels n) = some n := by
    rw [ipv4Labels, ipv4?_parts (hlt _) (hlt _) (hlt _) (hlt _)]
    congr 1
    omega
  have hends : endsInNumber (ipv4Labels n) = true := by
    have hlast : (ipv4Labels n).reverse.head? = some (ToString.toString (n % 256)).toList := rfl
    obtain ⟨hdigit, hfilled, -⟩ := decimal_part (n % 256) (hlt n)
    exact endsInNumber_of_last hlast hfilled hdigit
  rw [domain?_of_plain plain_ipv4Text (ipv4Text_ne_nil n)
    (Domain.toAscii?_of_decimal decimal_ipv4Text), splitOn_ipv4Text, if_pos hends, hparts]
  rfl

/-- Eight pieces of sixteen bits. -/
structure Address6 (pieces : List Nat) : Prop where
  count : pieces.length = 8
  small : ∀ n ∈ pieces, n < 0x10000

lemma hexValue?_digitChar : ∀ d < 16, Percent.hexValue? (Nat.digitChar d) = some d := by
  decide

lemma hostChar_digitChar {d : Nat} (h : d < 16) :
    HostChar (Nat.digitChar d) ∧ Nat.digitChar d ≠ ':' := by
  have hdigits : ∀ d < 16, endsAuthority true (Nat.digitChar d) = false ∧
      0x20 < (Nat.digitChar d).toNat ∧ Nat.digitChar d ≠ '@' ∧ Nat.digitChar d ≠ '[' ∧
        Nat.digitChar d ≠ ']' ∧ Nat.digitChar d ≠ ':' := by
    decide
  obtain ⟨hinside, hvisible, hat, hopen, hclose, hcolon⟩ := hdigits d h
  exact ⟨⟨hinside, hvisible, hat, hopen, hclose⟩, hcolon⟩

lemma foldlM_toDigits (n : Nat) : (Nat.toDigits 16 n).foldlM
    (fun n c => (Percent.hexValue? c).map (16 * n + ·)) 0 = some n := by
  induction n using Nat.strongRecOn with
  | ind n ih =>
    rcases Nat.lt_or_ge n 16 with hlt | hge
    · rw [Nat.toDigits_of_lt_base hlt, List.foldlM_cons, hexValue?_digitChar n hlt]
      simp
    · rw [Nat.toDigits_of_base_le (by decide) hge, List.foldlM_append, ih (n / 16) (by omega)]
      simp only [Option.bind_eq_bind, Option.bind_some, List.foldlM_cons, List.foldlM_nil,
        hexValue?_digitChar _ (Nat.mod_lt n (by decide)), Option.map_some]
      exact congrArg some (Nat.div_add_mod n 16)

lemma hostChar_of_mem_toDigits {c : Char} {n : Nat} (h : c ∈ Nat.toDigits 16 n) :
    HostChar c ∧ c ≠ ':' := by
  induction n using Nat.strongRecOn with
  | ind n ih =>
    rcases Nat.lt_or_ge n 16 with hlt | hge
    · rw [Nat.toDigits_of_lt_base hlt, List.mem_singleton] at h
      exact h ▸ hostChar_digitChar hlt
    · rw [Nat.toDigits_of_base_le (by decide) hge, List.mem_append, List.mem_singleton] at h
      rcases h with h | rfl
      · exact ih (n / 16) (by omega) h
      · exact hostChar_digitChar (Nat.mod_lt n (by decide))

lemma colon_not_mem_toDigits (n : Nat) : ':' ∉ Nat.toDigits 16 n :=
  fun hm => (hostChar_of_mem_toDigits hm).2 rfl

lemma ipv6Piece?_toDigits {n : Nat} (h : n < 0x10000) :
    ipv6Piece? (Nat.toDigits 16 n) = some n := by
  have hlength : (Nat.toDigits 16 n).length ≤ 4 :=
    (Nat.length_toDigits_le_iff (by decide) (by decide)).2 h
  have hfits : ¬((Nat.toDigits 16 n).isEmpty || 4 < (Nat.toDigits 16 n).length) = true := by
    simpa using hlength
  rw [ipv6Piece?, if_neg hfits, foldlM_toDigits]

/-- Pieces as they are written between colons. -/
def hexPieces (pieces : List Nat) : List Char := [':'].intercalate (pieces.map (Nat.toDigits 16))

lemma ipv6Pieces?_hexPieces (lastGroup : Bool) {pieces : List Nat} (h : ∀ n ∈ pieces, n < 0x10000) :
    ipv6Pieces? lastGroup (hexPieces pieces) = some pieces := by
  rcases List.eq_nil_or_concat pieces with rfl | ⟨front, last, rfl⟩
  · rfl
  · rw [List.concat_eq_append] at h ⊢
    have hfree : ∀ l ∈ (front ++ [last]).map (Nat.toDigits 16), ':' ∉ l := by
      rw [List.forall_mem_map]
      exact fun n _ => colon_not_mem_toDigits n
    have hsplit : (hexPieces (front ++ [last])).splitOn ':' =
        front.map (Nat.toDigits 16) ++ [Nat.toDigits 16 last] := by
      rw [hexPieces, List.splitOn_intercalate ':' hfree (by simp), List.map_append]
      rfl
    have hread : (front.map (Nat.toDigits 16)).mapM ipv6Piece? = some front := by
      have hfront : ∀ n ∈ front, n < 0x10000 := fun n hn => h n (List.mem_append_left _ hn)
      clear hfree hsplit h
      induction front with
      | nil => rfl
      | cons n front ih =>
        rw [List.forall_mem_cons] at hfront
        rw [List.map_cons, List.mapM_cons, ipv6Piece?_toDigits hfront.1, ih hfront.2]
        rfl
    have hfilled : (hexPieces (front ++ [last])).isEmpty = false := by
      cases hempty : hexPieces (front ++ [last]) with
      | cons c cs => rfl
      | nil =>
        rw [hempty, List.splitOn_nil] at hsplit
        have hlast := congrArg List.getLast? hsplit
        rw [List.getLast?_singleton, List.getLast?_concat] at hlast
        exact absurd (Option.some.inj hlast).symm Nat.toDigits_ne_nil
    unfold ipv6Pieces?
    rw [hfilled, if_neg (by decide), hsplit]
    dsimp only
    rw [List.dropLast_concat, List.getLast?_concat, hread, Option.getD_some,
      ipv6Piece?_toDigits (h last (by simp))]

lemma exists_hexPieces_cons (n : Nat) (pieces : List Nat) :
    ∃ more, hexPieces (n :: pieces) = Nat.toDigits 16 n ++ more := by
  cases pieces with
  | nil => exact ⟨[], by simp [hexPieces]⟩
  | cons next pieces => exact ⟨':' :: hexPieces (next :: pieces), by simp [hexPieces]⟩

lemma cutDoubleColon?_append {piece : List Char} (h : ':' ∉ piece) (rest : List Char) :
    cutDoubleColon? (piece ++ rest) = (cutDoubleColon? rest).map fun (a, b) => (piece ++ a, b) := by
  induction piece with
  | nil => simp
  | cons c piece ih =>
    rw [List.mem_cons, not_or] at h
    rw [List.cons_append, cutDoubleColon?, ih h.2, Option.map_map]
    · rfl
    · exact fun _ he _ => h.1 he.symm

/-- Single colons between pieces that are not empty make no double colon. -/
lemma cutDoubleColon?_hexPieces (pieces : List Nat) (rest : List Char) :
    cutDoubleColon? (hexPieces pieces ++ rest) =
      (cutDoubleColon? rest).map fun (a, b) => (hexPieces pieces ++ a, b) := by
  induction pieces with
  | nil => simp [hexPieces]
  | cons n pieces ih =>
    cases pieces with
    | nil => simpa [hexPieces] using cutDoubleColon?_append (colon_not_mem_toDigits n) rest
    | cons next pieces =>
      have hcons : hexPieces (n :: next :: pieces) =
          Nat.toDigits 16 n ++ ':' :: hexPieces (next :: pieces) := by
        simp [hexPieces]
      obtain ⟨d, ds, hd⟩ := List.exists_cons_of_ne_nil (Nat.toDigits_ne_nil (n := next) (b := 16))
      have hcolon : d ≠ ':' := by
        rintro rfl
        exact colon_not_mem_toDigits next (hd ▸ List.mem_cons_self)
      obtain ⟨more, hmore⟩ : ∃ more, hexPieces (next :: pieces) = d :: more := by
        obtain ⟨more, hmore⟩ := exists_hexPieces_cons next pieces
        exact ⟨ds ++ more, by rw [hmore, hd, List.cons_append]⟩
      have hskip : cutDoubleColon? (':' :: (hexPieces (next :: pieces) ++ rest)) =
          (cutDoubleColon? (hexPieces (next :: pieces) ++ rest)).map fun (a, b) => (':' :: a, b) := by
        rw [hmore, List.cons_append, cutDoubleColon?]
        exact fun _ _ he => hcolon (List.cons.inj he).1
      rw [hcons, List.append_assoc, cutDoubleColon?_append (colon_not_mem_toDigits n),
        List.cons_append, hskip, ih, Option.map_map, Option.map_map]
      congr 1
      funext ⟨a, b⟩
      simp

/-- Zeros stand from a place on, so many in a row. -/
def ZeroRun (pieces : List Nat) (run : Nat × Nat) : Prop :=
  pieces.take run.1 ++ (List.replicate run.2 0 ++ pieces.drop (run.1 + run.2)) = pieces

lemma zeroRun_at (pieces : List Nat) (i : Nat) :
    ZeroRun pieces (i, ((pieces.drop i).takeWhile (· == 0)).length) := by
  have hzeros : (pieces.drop i).takeWhile (· == 0) =
      List.replicate ((pieces.drop i).takeWhile (· == 0)).length 0 := by
    refine List.eq_replicate_of_mem fun n hn => ?_
    simpa using List.all_eq_true.1 List.all_takeWhile n hn
  have hsplit := List.takeWhile_append_dropWhile (p := (· == 0)) (l := pieces.drop i)
  have hdrop := congrArg (List.drop ((pieces.drop i).takeWhile (· == 0)).length) hsplit
  rw [List.drop_left, List.drop_drop] at hdrop
  rw [ZeroRun, ← hdrop, ← hzeros, hsplit, List.take_append_drop]

lemma zeroRun_longestZeros (pieces : List Nat) : ZeroRun pieces (longestZeros pieces) := by
  unfold longestZeros
  dsimp only
  apply List.foldlRecOn (motive := ZeroRun pieces)
  · rfl
  · intro best hbest i _
    split
    · exact zeroRun_at pieces i
    · exact hbest

lemma toList_hexTexts (pieces : List Nat) :
    (":".intercalate (pieces.map hexText)).toList = hexPieces pieces := by
  have htexts : String.toList ∘ hexText = Nat.toDigits 16 := by
    funext n
    exact String.toList_ofList
  rw [String.toList_intercalate, List.map_map, htexts]
  rfl

lemma hostChar_of_mem_hexPieces {c : Char} {pieces : List Nat} (h : c ∈ hexPieces pieces) :
    HostChar c := by
  rcases mem_intercalate h with hcolon | ⟨piece, hpiece, hc⟩
  · rw [List.mem_singleton.1 hcolon]
    exact hostChar_colon
  · obtain ⟨n, -, rfl⟩ := List.mem_map.1 hpiece
    exact (hostChar_of_mem_toDigits hc).1

lemma ipv6?_of_written {pieces : List Nat} (h : Address6 pieces) :
    ∃ body, (ipv6Text pieces).toList = '[' :: (body ++ [']']) ∧ (∀ c ∈ body, HostChar c) ∧
      ipv6? body = some pieces := by
  have hread : ∀ (lastGroup : Bool) (part : List Nat), part ⊆ pieces →
      ipv6Pieces? lastGroup (hexPieces part) = some part :=
    fun lastGroup part hpart => ipv6Pieces?_hexPieces lastGroup fun n hn => h.small n (hpart hn)
  have hrun := zeroRun_longestZeros pieces
  unfold ipv6Text
  generalize longestZeros pieces = run at hrun ⊢
  obtain ⟨start, length⟩ := run
  dsimp only [ZeroRun] at hrun ⊢
  by_cases hshort : length < 2
  · refine ⟨hexPieces pieces, ?_, fun c hc => hostChar_of_mem_hexPieces hc, ?_⟩
    · rw [if_pos hshort, String.toList_append, String.toList_append, toList_hexTexts]
      rfl
    · have hcut := cutDoubleColon?_hexPieces pieces []
      rw [List.append_nil] at hcut
      rw [ipv6?, hcut, cutDoubleColon?, Option.map_none]
      dsimp only
      rw [hread true pieces fun _ => id, Option.filter_some, if_pos (by simp [h.count])]
  · refine ⟨hexPieces (pieces.take start) ++ ':' :: ':' :: hexPieces (pieces.drop (start + length)),
      ?_, ?_, ?_⟩
    · rw [if_neg hshort, String.toList_append, String.toList_append, String.toList_append,
        String.toList_append, toList_hexTexts, toList_hexTexts]
      simp
    · rw [List.forall_mem_append, List.forall_mem_cons, List.forall_mem_cons]
      exact ⟨fun c hc => hostChar_of_mem_hexPieces hc, hostChar_colon, hostChar_colon,
        fun c hc => hostChar_of_mem_hexPieces hc⟩
    · have hlengths := congrArg List.length hrun
      rw [List.length_append, List.length_append, List.length_replicate, h.count] at hlengths
      have hgap : 8 - (pieces.take start).length - (pieces.drop (start + length)).length = length := by
        omega
      rw [ipv6?, cutDoubleColon?_hexPieces, cutDoubleColon?, Option.map_some]
      dsimp only
      rw [List.append_nil, hread false _ (List.take_subset _ _), hread true _ (List.drop_subset _ _)]
      simp only [Option.bind_eq_bind, Option.bind_some]
      rw [if_neg (by omega), hgap, List.append_assoc, hrun]

lemma bracketed?_ipv6Text {pieces : List Nat} (h : Address6 pieces) :
    bracketed? (ipv6Text pieces).toList = some (ipv6Text pieces) := by
  obtain ⟨body, htext, -, hread⟩ := ipv6?_of_written h
  have hbrackets : ('[' :: (body ++ [']'])).getLast? = some ']' ∧
      2 ≤ ('[' :: (body ++ [']'])).length := by
    simp [List.getLast?_cons]
  rw [bracketed?, htext, if_pos hbrackets, List.drop_one, List.tail_cons, List.dropLast_concat, hread]
  rfl

lemma hexValue?_lt {c : Char} {d : Nat} (h : Percent.hexValue? c = some d) : d < 16 := by
  unfold Percent.hexValue? at h
  simp only [Char.le_def, UInt32.le_iff_toNat_le] at h
  have hval : c.toNat = c.val.toNat := rfl
  split at h
  · next hrange =>
    have hle : c.toNat ≤ 57 := hrange.2
    have hd := Option.some.inj h
    omega
  · split at h
    · next hrange =>
      have hle : c.toNat ≤ 102 := hrange.2
      have hd := Option.some.inj h
      omega
    · split at h
      · next hrange =>
        have hle : c.toNat ≤ 70 := hrange.2
        have hd := Option.some.inj h
        omega
      · cases h

lemma foldlM_hexValue?_lt {init n : Nat}
    (h : cs.foldlM (fun n c => (Percent.hexValue? c).map (16 * n + ·)) init = some n) :
    n < (init + 1) * 16 ^ cs.length := by
  induction cs generalizing init with
  | nil =>
    obtain rfl := Option.some.inj h
    simp
  | cons c cs ih =>
    rw [List.foldlM_cons, Option.bind_eq_bind] at h
    obtain ⟨next, hnext, h⟩ := Option.bind_eq_some_iff.1 h
    obtain ⟨d, hd, rfl⟩ := Option.map_eq_some_iff.1 hnext
    have hdigit := hexValue?_lt hd
    calc n < (16 * init + d + 1) * 16 ^ cs.length := ih h
      _ ≤ ((init + 1) * 16) * 16 ^ cs.length := Nat.mul_le_mul_right _ (by omega)
      _ = (init + 1) * 16 ^ (c :: cs).length := by
        rw [List.length_cons, Nat.pow_succ', Nat.mul_assoc]

lemma ipv6Piece?_lt {n : Nat} (h : ipv6Piece? cs = some n) : n < 0x10000 := by
  unfold ipv6Piece? at h
  split at h
  · cases h
  · next hfits =>
    simp only [Bool.or_eq_true, decide_eq_true_eq, not_or] at hfits
    calc n < (0 + 1) * 16 ^ cs.length := foldlM_hexValue?_lt h
      _ ≤ (0 + 1) * 16 ^ 4 := Nat.mul_le_mul_left _ (Nat.pow_le_pow_right (by decide) (by omega))

lemma ipv6Tail?_lt {ns : List Nat} (h : ipv6Tail? cs = some ns) : ∀ n ∈ ns, n < 0x10000 := by
  unfold ipv6Tail? at h
  simp only [Option.bind_eq_bind] at h
  split at h
  · cases h
  · obtain ⟨parts, hparts, h⟩ := Option.bind_eq_some_iff.1 h
    have hsmall : ∀ n ∈ parts, n < 256 := by
      intro n hn
      obtain ⟨part, -, hpart⟩ := exists_of_mem_mapM hparts hn
      split at hpart
      · cases hpart
      · split at hpart
        · next hlt => exact Option.some.inj hpart ▸ hlt
        · cases hpart
    split at h
    · next a b c d =>
      simp only [List.forall_mem_cons] at hsmall
      obtain rfl := Option.some.inj h
      simp only [List.forall_mem_cons, List.not_mem_nil, false_imp_iff, implies_true, and_true]
      omega
    · cases h

lemma ipv6Pieces?_lt {lastGroup : Bool} {ns : List Nat} (h : ipv6Pieces? lastGroup cs = some ns) :
    ∀ n ∈ ns, n < 0x10000 := by
  have hfront : ∀ {parts : List (List Char)} {ns}, parts.mapM ipv6Piece? = some ns →
      ∀ n ∈ ns, n < 0x10000 := by
    intro parts ns hparts n hn
    obtain ⟨part, -, hpart⟩ := exists_of_mem_mapM hparts hn
    exact ipv6Piece?_lt hpart
  unfold ipv6Pieces? at h
  split at h
  · obtain rfl := Option.some.inj h
    simp
  · dsimp only at h
    split at h
    · next front last hparts hlast =>
      obtain rfl := Option.some.inj h
      rw [List.forall_mem_append, List.forall_mem_singleton]
      exact ⟨hfront hparts, ipv6Piece?_lt hlast⟩
    · next front hparts _ =>
      split at h
      · obtain ⟨last, hlast, rfl⟩ := Option.map_eq_some_iff.1 h
        rw [List.forall_mem_append]
        exact ⟨hfront hparts, ipv6Tail?_lt hlast⟩
      · cases h
    · cases h

lemma address6_of_ipv6? {pieces : List Nat} (h : ipv6? cs = some pieces) : Address6 pieces := by
  unfold ipv6? at h
  split at h
  · obtain ⟨hpieces, hcount⟩ := Option.filter_eq_some_iff.1 h
    exact ⟨by simpa using hcount, ipv6Pieces?_lt hpieces⟩
  · simp only [Option.bind_eq_bind] at h
    obtain ⟨a, ha, h⟩ := Option.bind_eq_some_iff.1 h
    obtain ⟨b, hb, h⟩ := Option.bind_eq_some_iff.1 h
    split at h
    · cases h
    · obtain rfl := Option.some.inj h
      constructor
      · simp only [List.length_append, List.length_replicate]
        omega
      · rw [List.forall_mem_append, List.forall_mem_append]
        refine ⟨⟨ipv6Pieces?_lt ha, fun n hn => ?_⟩, ipv6Pieces?_lt hb⟩
        rw [List.eq_of_mem_replicate hn]
        decide

/-- A host as it is written is an address or a domain. -/
lemma domain?_cases {host : String} (h : domain? cs = some host) :
    (∃ pieces, Address6 pieces ∧ host = ipv6Text pieces) ∨
    (∃ n < 256 ^ 4, host = ipv4Text n) ∨
    ∃ decoded, Utf8.decode? (Percent.decode cs) = some decoded ∧
      Domain.toAscii? decoded = some host.toList ∧ host.toList ≠ [] ∧
      (∀ c ∈ host.toList, isBadInDomain c = false) ∧
      endsInNumber (host.toList.splitOn '.') = false := by
  unfold domain? at h
  split at h
  · unfold bracketed? at h
    split at h
    · obtain ⟨pieces, hpieces, rfl⟩ := Option.map_eq_some_iff.1 h
      exact .inl ⟨pieces, address6_of_ipv6? hpieces, rfl⟩
    · cases h
  · simp only [Option.bind_eq_bind] at h
    obtain ⟨decoded, hdecoded, h⟩ := Option.bind_eq_some_iff.1 h
    obtain ⟨ascii, hascii, h⟩ := Option.bind_eq_some_iff.1 h
    split at h
    · cases h
    · next hgood =>
      simp only [Bool.or_eq_true, List.isEmpty_iff, List.any_eq_true, not_or, not_exists,
        not_and, Bool.not_eq_true] at hgood
      split at h
      · obtain ⟨n, hn, rfl⟩ := Option.map_eq_some_iff.1 h
        exact .inr (.inl ⟨n, ipv4?_bound hn, rfl⟩)
      · next hends =>
        obtain rfl := Option.some.inj h
        rw [String.toList_ofList]
        exact .inr (.inr ⟨decoded, hdecoded, hascii, hgood.1, hgood.2, by simpa using hends⟩)

/-- Whether a host is spelled in ASCII, its escapes resolved. -/
def SpelledInAscii (cs : List Char) : Prop :=
  ∀ decoded ∈ Utf8.decode? (Percent.decode cs), ∀ c ∈ decoded, c.toNat < 0x80

/-- A written host reads back if it was spelled in ASCII, or holds only small characters and none that
come from Punycode. -/
lemma domain?_again {host : String} (h : domain? cs = some host)
    (hplain : SpelledInAscii cs ∨ Domain.Small host.toList ∧ ¬Domain.punycodeMark <:+: host.toList) :
    domain? host.toList = some host := by
  rcases domain?_cases h with ⟨pieces, hpieces, rfl⟩ | ⟨n, hn, rfl⟩ |
    ⟨decoded, hdecoded, hascii, hne, hgood, hends⟩
  · obtain ⟨body, htext, -, -⟩ := ipv6?_of_written hpieces
    rw [domain?, htext, List.head?_cons, if_pos rfl, ← htext]
    exact bracketed?_ipv6Text hpieces
  · exact domain?_ipv4Text hn
  · obtain ⟨mapped, hmap, hsmall⟩ : ∃ mapped, Domain.map? decoded = some mapped ∧
        Domain.Small mapped := by
      rcases hplain with hspelled | ⟨hsmall, hunmarked⟩
      · have hchars := hspelled decoded hdecoded
        exact ⟨_, Domain.map?_of_ascii hchars, Domain.small_map_toLower hchars⟩
      · exact ⟨_, (Domain.map?_of_unmarked hascii hunmarked).1, hsmall⟩
    obtain ⟨hmapped, hagain⟩ := Domain.toAscii?_of_small hmap hsmall hascii
    rw [← hmapped] at hagain hsmall
    rw [domain?_of_plain (fun c hc => ⟨(hsmall c hc).1, hgood c hc⟩) hne hagain, hends,
      String.ofList_toList]
    rfl

/-- A host that stands in the text of a URL between the slashes and a port or path. -/
structure WrittenHost (host : List Char) : Prop where
  ne_nil : host ≠ []
  enclosed : Enclosed host
  visible : Visible host
  at_not_mem : '@' ∉ host
  span : ∀ rest, rest = [] ∨ rest.head? = some ':' ∨ rest.head? = some '/' →
    spanHost true false (host ++ rest) = (host, rest)

lemma spanHost_plain {inside : Bool} (h : ∀ c ∈ cs, HostChar c ∧ (c = ':' → inside = true))
    (rest : List Char) : spanHost true inside (cs ++ rest) =
      (cs ++ (spanHost true inside rest).1, (spanHost true inside rest).2) := by
  induction cs with
  | nil => rfl
  | cons c cs ih =>
    rw [List.forall_mem_cons] at h
    obtain ⟨hc, hcolon⟩ := h.1
    have hgo : ¬((c == ':' && !inside) || endsAuthority true c) = true := by
      simp only [hc.inside, Bool.or_false, Bool.and_eq_true, beq_iff_eq, not_and]
      intro he
      simp [hcolon he]
    rw [List.cons_append, spanHost, if_neg hgo, if_neg (by simpa using hc.ne_open),
      if_neg (by simpa using hc.ne_close), ih h.2]
    rfl

lemma spanHost_stop {rest : List Char}
    (h : rest = [] ∨ rest.head? = some ':' ∨ rest.head? = some '/') :
    spanHost true false rest = ([], rest) := by
  rcases h with rfl | h | h
  · rfl
  · obtain ⟨rest, rfl⟩ := List.head?_eq_some_iff.1 h
    rfl
  · obtain ⟨rest, rfl⟩ := List.head?_eq_some_iff.1 h
    rfl

lemma writtenHost_of_domain (hne : cs ≠ []) (hgood : ∀ c ∈ cs, isBadInDomain c = false) :
    WrittenHost cs := by
  have hplain : ∀ c ∈ cs, HostChar c ∧ c ≠ ':' := fun c hc => hostChar_of_domain (hgood c hc)
  refine ⟨hne, fun c hc => (hplain c hc).1.inside, fun c hc => (hplain c hc).1.visible,
    fun hm => (hplain _ hm).1.ne_at rfl, fun rest hrest => ?_⟩
  rw [spanHost_plain fun c hc => ⟨(hplain c hc).1, fun he => absurd he (hplain c hc).2⟩,
    spanHost_stop hrest, List.append_nil]

lemma writtenHost_ipv6Text {pieces : List Nat} (h : Address6 pieces) :
    WrittenHost (ipv6Text pieces).toList := by
  obtain ⟨body, htext, hbody, -⟩ := ipv6?_of_written h
  have hall : ∀ c ∈ '[' :: (body ++ [']']), endsAuthority true c = false ∧ 0x20 < c.toNat ∧
      c ≠ '@' := by
    rw [List.forall_mem_cons, List.forall_mem_append, List.forall_mem_singleton]
    exact ⟨by decide, fun c hc => ⟨(hbody c hc).inside, (hbody c hc).visible, (hbody c hc).ne_at⟩,
      by decide⟩
  rw [htext]
  refine ⟨List.cons_ne_nil _ _, fun c hc => (hall c hc).1, fun c hc => (hall c hc).2.1,
    fun hm => (hall _ hm).2.2 rfl, fun rest hrest => ?_⟩
  have hbrackets : spanHost true true (body ++ ']' :: rest) = (body ++ [']'], rest) := by
    rw [spanHost_plain fun c hc => ⟨hbody c hc, fun _ => rfl⟩, spanHost, if_neg (by decide)]
    dsimp only
    rw [if_neg (by decide), if_pos (by decide), spanHost_stop hrest]
  have hbehind : '[' :: (body ++ [']']) ++ rest = '[' :: (body ++ ']' :: rest) := by simp
  rw [hbehind, spanHost, if_neg (by decide)]
  dsimp only
  rw [if_pos (by decide), hbrackets]

lemma writtenHost_of_domain? {host : String} (h : domain? cs = some host) :
    WrittenHost host.toList := by
  rcases domain?_cases h with ⟨pieces, hpieces, rfl⟩ | ⟨n, hn, rfl⟩ | ⟨_, -, -, hne, hgood, -⟩
  · exact writtenHost_ipv6Text hpieces
  · exact writtenHost_of_domain (ipv4Text_ne_nil n) fun c hc => (plain_ipv4Text c hc).2
  · exact writtenHost_of_domain hne hgood

end Registry.Url
