import Registry.Value

/-!
# Versions

The latest of several version ids, and the version of a resource that counts. Ids are opaque texts:
padded with blanks in front to a common width, the greatest one is the latest. So numerals compare
by magnitude.
-/

namespace Registry.Version

/-- An id with blanks in front of it up to a width. -/
def padded (width : Nat) (id : String) : List Char :=
  List.replicate (width - id.length) ' ' ++ id.toList

def width (ids : List String) : Nat := ids.foldl (fun w id => max w id.length) 0

/-- The later of two ids, the second one if they are equal. -/
def later (width : Nat) (a b : String) : String := if padded width b < padded width a then a else b

def latest? (ids : List String) : Option String :=
  match ids with
  | [] => none
  | id :: rest => some (rest.foldl (later (width ids)) id)

/-- The id that counts among some versions: the default if it names one of them, else the latest. -/
def choose? (versions : Fields) (default? : Option String) : Option String :=
  match default? with
  | some id => if versions.has id then some id else latest? versions.keys
  | none => latest? versions.keys

theorem mem_of_latest? {ids : List String} {id : String} (h : latest? ids = some id) : id ∈ ids := by
  cases ids with
  | nil => cases h
  | cons first rest =>
    rw [← Option.some.inj h]
    generalize width (first :: rest) = w
    clear h
    induction rest generalizing first with
    | nil => exact List.mem_cons_self
    | cons next rest ih =>
      have hlater : later w first next = first ∨ later w first next = next := by
        unfold later
        split
        · exact .inl rfl
        · exact .inr rfl
      have hmem := ih (later w first next)
      rw [List.mem_cons] at hmem
      rw [List.foldl_cons, List.mem_cons, List.mem_cons]
      rcases hmem with hfirst | hrest
      · rw [hfirst]
        exact hlater.imp_right .inl
      · exact .inr (.inr hrest)

theorem exists_choose? {versions : Fields} (h : versions ≠ []) (default? : Option String) :
    ∃ id v, choose? versions default? = some id ∧ versions.get? id = some v := by
  have hlatest : ∃ id v, latest? versions.keys = some id ∧ versions.get? id = some v := by
    cases hl : latest? versions.keys with
    | none =>
      cases versions with
      | nil => exact absurd rfl h
      | cons => cases hl
    | some id =>
      obtain ⟨v, hv⟩ := Option.isSome_iff_exists.1
        ((Table.has_iff_mem_keys versions id).2 (mem_of_latest? hl))
      exact ⟨id, v, rfl, hv⟩
  cases default? with
  | none => exact hlatest
  | some id =>
    unfold choose?
    dsimp only
    split
    · next hhas =>
      obtain ⟨v, hv⟩ := Option.isSome_iff_exists.1 hhas
      exact ⟨id, v, rfl, hv⟩
    · exact hlatest

end Registry.Version

namespace Registry.Value

/-- The version of a resource that counts, with its id; none without versions. -/
def latestVersion? (resource : Value) : Option (String × Value) := do
  let versions ← (← resource.get? "versions").fields?
  let id ← Version.choose? versions (resource.textAt? "defaultversionid")
  let version ← versions.get? id
  some (id, version)

theorem latestVersion?_congr {fields other : Fields}
    (hversions : fields.get? "versions" = other.get? "versions")
    (hdefault : fields.textAt? "defaultversionid" = other.textAt? "defaultversionid") :
    (mapping fields).latestVersion? = (mapping other).latestVersion? := by
  have hv : (mapping fields).get? "versions" = (mapping other).get? "versions" := hversions
  have hd : (mapping fields).textAt? "defaultversionid" =
      (mapping other).textAt? "defaultversionid" := hdefault
  rw [latestVersion?, latestVersion?, hv, hd]

end Registry.Value
