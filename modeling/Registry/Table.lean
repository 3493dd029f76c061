/-!
# Tables

Values stored under text keys, in the order in which the keys were added. A table is a list of
entries, so order is part of its value; looking a key up finds its first entry. Main statements:
inserting keeps the place of a known key and appends a new one, and no operation repeats a key.
-/

namespace Registry

/-- Entries with text keys, oldest first. -/
abbrev Table (α : Type) := List (String × α)

namespace Table

variable {α β : Type}

def get? : Table α → String → Option α
  | [], _ => none
  | (k, v) :: rest, key => if k = key then some v else get? rest key

def has (t : Table α) (key : String) : Bool := (t.get? key).isSome

def keys (t : Table α) : List String := t.map Prod.fst

/-- Stores a value: a known key keeps its place, a new one goes to the end. -/
def insert : Table α → String → α → Table α
  | [], key, v => [(key, v)]
  | (k, w) :: rest, key, v => if k = key then (k, v) :: rest else (k, w) :: insert rest key v

/-- Stores a value only if the key is absent. -/
def insertNew (t : Table α) (key : String) (v : α) : Table α :=
  if t.has key then t else t ++ [(key, v)]

/-- Replaces the entry of a key by another one, in place. -/
def replaceEntry (entry : String × α) : Table α → String → Table α
  | [], _ => []
  | (k, v) :: rest, key => if k = key then entry :: rest else (k, v) :: replaceEntry entry rest key

/-- Removes a key: the last entry moves into the gap it leaves. -/
def swapErase (t : Table α) (key : String) : Table α :=
  match t.getLast? with
  | none => t
  | some last => if last.1 = key then t.dropLast
    else if t.has key then replaceEntry last t.dropLast key
    else t

/-- A table from a list of entries: a repeated key keeps its first place and its last value. -/
def ofEntries (entries : List (String × α)) : Table α :=
  entries.foldl (fun t e => t.insert e.1 e.2) []

/-- Changes each value, keys and order kept. -/
def mapValues (f : String → α → β) (t : Table α) : Table β := t.map fun e => (e.1, f e.1 e.2)

/-- Changes each value in order while a state is carried along. -/
def mapState {σ : Type} (f : String → α → σ → β × σ) : Table α → σ → Table β × σ
  | [], s => ([], s)
  | (k, v) :: rest, s =>
    let (w, s) := f k v s
    let (ws, s) := mapState f rest s
    ((k, w) :: ws, s)

/-- Changes the values in order up to and including the first one whose change fails; the entries
after it stay as they are. -/
def mapUntil {ε : Type} (f : String → α → α × Option ε) : Table α → Table α × Option ε
  | [] => ([], none)
  | (k, v) :: rest =>
    match f k v with
    | (w, some e) => ((k, w) :: rest, some e)
    | (w, none) =>
      let (ws, e) := mapUntil f rest
      ((k, w) :: ws, e)

@[simp] theorem get?_nil (key : String) : get? ([] : Table α) key = none := rfl

theorem get?_cons (k : String) (v : α) (t : Table α) (key : String) :
    get? ((k, v) :: t) key = if k = key then some v else get? t key := rfl

@[simp] theorem keys_nil : keys ([] : Table α) = [] := rfl

@[simp] theorem keys_cons (k : String) (v : α) (t : Table α) : keys ((k, v) :: t) = k :: keys t := rfl

theorem has_iff_mem_keys (t : Table α) (key : String) : t.has key = true ↔ key ∈ t.keys := by
  induction t with
  | nil => simp [has, keys]
  | cons e t ih =>
    obtain ⟨k, v⟩ := e
    by_cases h : k = key
    · simp [has, get?_cons, keys, h]
    · have h' : ¬ key = k := fun hk => h hk.symm
      simpa [has, get?_cons, keys, h, h'] using ih

theorem get?_insert_self (t : Table α) (key : String) (v : α) :
    get? (insert t key v) key = some v := by
  induction t with
  | nil => simp [insert, get?]
  | cons e t ih =>
    obtain ⟨k, w⟩ := e
    by_cases h : k = key <;> simp [insert, get?, h, ih]

theorem get?_insert_of_ne (t : Table α) {key other : String} (v : α) (h : key ≠ other) :
    get? (insert t key v) other = get? t other := by
  induction t with
  | nil => simp [insert, get?, h]
  | cons e t ih =>
    obtain ⟨k, w⟩ := e
    by_cases hk : k = key
    · subst hk
      simp [insert, get?, h]
    · rw [insert, if_neg hk, get?_cons, get?_cons, ih]

theorem keys_insert (t : Table α) (key : String) (v : α) :
    keys (insert t key v) = if key ∈ keys t then keys t else keys t ++ [key] := by
  induction t with
  | nil => simp [insert, keys]
  | cons e t ih =>
    obtain ⟨k, w⟩ := e
    by_cases h : k = key
    · simp [insert, keys, h]
    · have h' : ¬ key = k := fun hk => h hk.symm
      simp only [insert, h, if_false, keys_cons, ih, List.mem_cons, h', false_or]
      split <;> simp

theorem nodup_keys_insert {t : Table α} (h : t.keys.Nodup) (key : String) (v : α) :
    (insert t key v).keys.Nodup := by
  rw [keys_insert]
  split
  · exact h
  · next hk =>
    rw [List.nodup_append]
    refine ⟨h, by simp, ?_⟩
    intro a ha b hb
    simp only [List.mem_singleton] at hb
    subst hb
    exact fun he => hk (he ▸ ha)

theorem nodup_keys_ofEntries (entries : List (String × α)) : (ofEntries entries).keys.Nodup := by
  unfold ofEntries
  suffices h : ∀ t : Table α, t.keys.Nodup →
      (entries.foldl (fun t e => t.insert e.1 e.2) t).keys.Nodup from h [] (by simp [keys])
  induction entries with
  | nil => exact fun _ h => h
  | cons e es ih => exact fun t h => ih _ (nodup_keys_insert h e.1 e.2)

@[simp] theorem keys_mapValues (f : String → α → β) (t : Table α) :
    keys (mapValues f t) = keys t := by
  simp [keys, mapValues]

end Table

end Registry
