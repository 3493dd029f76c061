import Registry.Disk
import Registry.Proofs.TextPieces

/-!
# Files that were written

A file can be read where it was written, unless a later one took its place, and all other files stay
as they are. Files whose paths differ in their endings alone are in different places.
-/

namespace Registry.Disk

variable {d d' : Disk} {directory path name : String} {bytes : List UInt8} {p q : Place}

lemma lookup_map_replace (p : Place) (bytes : List UInt8) (files : List (Place × List UInt8))
    (q : Place) : (files.map fun e => if e.1 = p then (p, bytes) else e).lookup q =
      if q = p then (files.lookup q).map fun _ => bytes else files.lookup q := by
  induction files with
  | nil => simp
  | cons e files ih =>
    obtain ⟨place, content⟩ := e
    rw [List.map_cons, List.lookup_cons, ih, List.lookup_cons]
    by_cases hplace : place = p
    · subst hplace
      by_cases hq : q = place
      · simp [hq]
      · simp [hq, beq_eq_false_iff_ne.2 hq]
    · by_cases hq : q = place
      · simp [hq, hplace]
      · simp [hplace, beq_eq_false_iff_ne.2 hq]

lemma file?_putFile (d : Disk) (p : Place) (bytes : List UInt8) (q : Place) :
    (d.putFile p bytes).file? q = if q = p then some bytes else d.file? q := by
  unfold putFile file?
  by_cases hq : q = p
  · subst hq
    split
    · next h =>
      obtain ⟨content, hcontent⟩ := Option.isSome_iff_exists.1 h
      rw [lookup_map_replace, if_pos rfl, if_pos rfl, hcontent, Option.map_some]
    · next h =>
      rw [List.lookup_append, Option.not_isSome_iff_eq_none.1 h]
      simp
  · rw [if_neg hq]
    split
    · rw [lookup_map_replace, if_neg hq]
    · simp [List.lookup_append, List.lookup_cons, beq_eq_false_iff_ne.2 hq]

lemma walk_congr (h : d'.directories = d.directories) (names : List String) (p : Place) :
    d'.walk p names = d.walk p names := by
  have hsame : ∀ q, d'.isDirectory q = d.isDirectory q := fun q => by rw [isDirectory, h]; rfl
  induction names generalizing p with
  | nil => rfl
  | cons name names ih => simp only [walk, hsame, ih]

lemma filePlace?_congr (hhere : d'.here = d.here) (h : d'.directories = d.directories)
    (path : String) : d'.filePlace? path = d.filePlace? path := by
  simp only [filePlace?, origin, hhere, walk_congr h]

lemma filePlace?_putFile (path : String) : (d.putFile p bytes).filePlace? path = d.filePlace? path := by
  refine filePlace?_congr ?_ ?_ path <;>
    · unfold putFile
      split <;> rfl

lemma write_eq_some (h : d.write path bytes = some d') :
    ∃ p, d.filePlace? path = some p ∧ d' = d.putFile p bytes := by
  unfold write at h
  split at h
  · next p hp =>
    split at h
    · cases h
    · exact ⟨p, hp, (Option.some.inj h).symm⟩
  · cases h

lemma files_makeAlong {names : List String} (h : d.makeAlong p names = some d') :
    d'.files = d.files := by
  induction names generalizing d p with
  | nil => rw [← Option.some.inj h]
  | cons name names ih =>
    unfold makeAlong at h
    split at h
    · exact ih h
    · dsimp only at h
      split at h
      · exact ih h
      · split at h
        · cases h
        · exact (ih h).trans rfl

/-- The files of a disk after several files were written to it. -/
structure Wrote (directory : String) (files : List (String × String)) (paths : List String)
    (d d' : Disk) : Prop where
  paths_eq : paths = files.map fun e => join directory e.1
  file?_of_ne : ∀ q, (∀ path ∈ paths, d'.filePlace? path ≠ some q) → d'.file? q = d.file? q
  readBytes : ∀ before name text after, files = before ++ (name, text) :: after →
    (∀ e ∈ after, d'.filePlace? (join directory e.1) ≠ d'.filePlace? (join directory name)) →
    d'.readBytes (join directory name) = some (Text.Utf8.encode text.toList)

lemma go_cons (directory name text : String) (files : List (String × String)) (d : Disk) :
    writeAll.go directory ((name, text) :: files) d =
      match d.write (join directory name) (Text.Utf8.encode text.toList) with
      | none => (none, d)
      | some between => ((writeAll.go directory files between).1.map (join directory name :: ·),
          (writeAll.go directory files between).2) := by
  with_unfolding_all rfl

lemma wrote_go {files : List (String × String)} {paths : List String}
    (h : writeAll.go directory files d = (some paths, d')) :
    Wrote directory files paths d d' ∧ ∀ path, d'.filePlace? path = d.filePlace? path := by
  induction files generalizing d paths with
  | nil =>
    obtain ⟨hpaths, rfl⟩ := Prod.mk.inj h
    obtain rfl := Option.some.inj hpaths
    refine ⟨⟨rfl, fun _ _ => rfl, ?_⟩, fun _ => rfl⟩
    intro before name text after hfiles
    cases before <;> simp at hfiles
  | cons e files ih =>
    obtain ⟨name, text⟩ := e
    rw [go_cons] at h
    split at h
    · cases h
    · next between hbetween =>
      obtain ⟨hpaths, hd'⟩ := Prod.mk.inj h
      obtain ⟨rest, hrest, rfl⟩ := Option.map_eq_some_iff.1 hpaths
      obtain ⟨hwrote, hplace⟩ := ih (Prod.ext hrest hd')
      obtain ⟨p, hp, rfl⟩ := write_eq_some hbetween
      simp only [filePlace?_putFile] at hplace
      have hplaced : d'.filePlace? (join directory name) = some p := (hplace _).trans hp
      refine ⟨⟨?_, ?_, ?_⟩, hplace⟩
      · rw [List.map_cons, hwrote.paths_eq]
      · intro q hq
        obtain ⟨hfirst, hothers⟩ := List.forall_mem_cons.1 hq
        rw [hwrote.file?_of_ne q hothers, file?_putFile, if_neg]
        rintro rfl
        exact hfirst hplaced
      · intro before name' text' after hfiles hafter
        cases before with
        | nil =>
          obtain ⟨he, rfl⟩ := List.cons.inj hfiles
          obtain ⟨rfl, rfl⟩ := Prod.mk.inj he
          rw [Disk.readBytes, hplaced, Option.bind_some, hwrote.file?_of_ne, file?_putFile, if_pos rfl]
          rw [hwrote.paths_eq, List.forall_mem_map]
          exact fun e he => hplaced ▸ hafter e he
        | cons e before => exact hwrote.readBytes before name' text' after (List.cons.inj hfiles).2 hafter

/-- Where several files could be written, each is read back unless a later one took its place, and
every other file is as it was. -/
theorem wrote_writeAll {files : List (String × String)} {paths : List String}
    (h : d.writeAll directory files = (some paths, d')) : Wrote directory files paths d d' := by
  unfold writeAll at h
  split at h
  · cases h
  · next made hmade =>
    have hfiles : made.files = d.files := by
      unfold makeDirectories at hmade
      split at hmade
      · exact files_makeAlong hmade
      · cases hmade
    obtain ⟨hpaths, hothers, hread⟩ := (wrote_go h).1
    refine ⟨hpaths, ?_, hread⟩
    intro q hq
    rw [hothers q hq, file?, hfiles]
    rfl

lemma getLast?_pieces_append (path : String) {ending : String} (h : '/' ∉ ending.toList) :
    (Text.pieces '/' (path ++ ending)).getLast? =
      (Text.pieces '/' path).getLast?.map (· ++ ending) := by
  simp only [Text.pieces, String.toList_append]
  cases hcut : Text.cutLast? '/' path.toList with
  | none =>
    have hpath := Text.cutLast?_eq_none.1 hcut
    rw [Text.splitOn_of_not_mem hpath, Text.splitOn_of_not_mem (by simp [hpath, h])]
    simp
  | some parts =>
    obtain ⟨before, after⟩ := parts
    obtain ⟨hpath, hafter⟩ := Text.cutLast?_eq_some hcut
    have hending : '/' ∉ after ++ ending.toList := by simp [hafter, h]
    rw [hpath, List.append_assoc, List.cons_append, List.splitOn_append_cons_self,
      List.splitOn_append_cons_self, Text.splitOn_of_not_mem hafter, Text.splitOn_of_not_mem hending]
    simp

/-- The name of a file is the last piece of its path. -/
lemma getLast?_of_filePlace? (h : d.filePlace? path = some p) :
    p.getLast? = (Text.pieces '/' path).getLast? := by
  obtain ⟨pieces, last, hpieces⟩ : ∃ pieces last, Text.pieces '/' path = pieces ++ [last] := by
    have hne : Text.pieces '/' path ≠ [] := by simp [Text.pieces]
    exact ⟨_, _, (List.dropLast_concat_getLast hne).symm⟩
  rw [filePlace?, steps, hpieces] at h
  dsimp only at h
  split at h
  · cases h
  · next hfile =>
    simp only [List.getLast?_append, List.getLast?_singleton, Option.some_or, Option.getD_some,
      Bool.or_eq_true, beq_iff_eq, not_or] at hfile
    obtain ⟨place, -, rfl⟩ := Option.map_eq_some_iff.1 h
    have hname : ([last].filter fun name => !name.isEmpty && name != ".") = [last] := by
      simp [hfile]
    rw [List.filter_append, hname, hpieces]
    simp

lemma join_append (directory name : String) {ending : String} (h : '/' ∉ ending.toList) :
    join directory (name ++ ending) = join directory name ++ ending := by
  have habsolute : isAbsolute (name ++ ending) = isAbsolute name := by
    unfold isAbsolute Text.startsWith
    rw [String.toList_append]
    cases name.toList with
    | nil =>
      cases hending : ending.toList with
      | nil => rfl
      | cons c cs =>
        rw [hending, List.mem_cons, not_or] at h
        simp [List.isPrefixOf, h.1]
    | cons c cs => simp [List.isPrefixOf]
  unfold join
  rw [habsolute]
  split
  · rfl
  · split <;> simp only [String.append_assoc]

/-- Two endings of a name are two places. -/
lemma ne_of_filePlace?_join {ending other : String} (h : '/' ∉ ending.toList)
    (ho : '/' ∉ other.toList) (hne : ending ≠ other)
    (hp : d.filePlace? (join directory (name ++ ending)) = some p)
    (hq : d.filePlace? (join directory (name ++ other)) = some q) : p ≠ q := by
  rintro rfl
  have hlast := (getLast?_of_filePlace? hp).symm.trans (getLast?_of_filePlace? hq)
  rw [join_append directory name h, join_append directory name ho, getLast?_pieces_append _ h,
    getLast?_pieces_append _ ho] at hlast
  cases hpieces : (Text.pieces '/' (join directory name)).getLast? with
  | none => simp [Text.pieces] at hpieces
  | some last =>
    rw [hpieces, Option.map_some, Option.map_some, Option.some.injEq, String.append_right_inj] at hlast
    exact hne hlast

end Registry.Disk
