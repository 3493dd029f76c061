import Registry.Table

/-!
# Values

The value of a document: what JSON, YAML and TOML texts denote. A mapping keeps the order of its
keys. Equality is decidable, and `WellKeyed` says that no mapping in a value repeats a key.
-/

namespace Registry

/-- Integers are exact; every other number is a binary64 value. -/
inductive Number where
  | integer (z : Int)
  | real (x : Float)
  deriving DecidableEq, Repr

inductive Value where
  | null
  | boolean (b : Bool)
  | number (n : Number)
  | string (s : String)
  | sequence (items : List Value)
  | mapping (fields : List (String × Value))
  deriving Repr

abbrev Fields := Table Value

namespace Value

instance : Inhabited Value := ⟨null⟩

mutual

def decEq : (v w : Value) → Decidable (v = w)
  | null, null => isTrue rfl
  | boolean a, boolean b => decidable_of_iff (a = b) (by simp)
  | number a, number b => decidable_of_iff (a = b) (by simp)
  | string a, string b => decidable_of_iff (a = b) (by simp)
  | sequence a, sequence b => @decidable_of_iff _ (a = b) (by simp) (decEqItems a b)
  | mapping a, mapping b => @decidable_of_iff _ (a = b) (by simp) (decEqFields a b)
  | null, boolean _ | null, number _ | null, string _ | null, sequence _ | null, mapping _
  | boolean _, null | boolean _, number _ | boolean _, string _ | boolean _, sequence _
  | boolean _, mapping _ | number _, null | number _, boolean _ | number _, string _
  | number _, sequence _ | number _, mapping _ | string _, null | string _, boolean _
  | string _, number _ | string _, sequence _ | string _, mapping _ | sequence _, null
  | sequence _, boolean _ | sequence _, number _ | sequence _, string _ | sequence _, mapping _
  | mapping _, null | mapping _, boolean _ | mapping _, number _ | mapping _, string _
  | mapping _, sequence _ => isFalse (by simp)

def decEqItems : (xs ys : List Value) → Decidable (xs = ys)
  | [], [] => isTrue rfl
  | [], _ :: _ | _ :: _, [] => isFalse (by simp)
  | x :: xs, y :: ys =>
    match decEq x y, decEqItems xs ys with
    | isTrue h, isTrue hs => isTrue (by rw [h, hs])
    | isFalse h, _ => isFalse fun he => h (List.cons.inj he).1
    | _, isFalse h => isFalse fun he => h (List.cons.inj he).2

def decEqFields : (xs ys : List (String × Value)) → Decidable (xs = ys)
  | [], [] => isTrue rfl
  | [], _ :: _ | _ :: _, [] => isFalse (by simp)
  | (k, x) :: xs, (l, y) :: ys =>
    if hk : k = l then
      match decEq x y, decEqFields xs ys with
      | isTrue h, isTrue hs => isTrue (by rw [hk, h, hs])
      | isFalse h, _ => isFalse fun he => h (Prod.mk.inj (List.cons.inj he).1).2
      | _, isFalse h => isFalse fun he => h (List.cons.inj he).2
    else isFalse fun he => hk (Prod.mk.inj (List.cons.inj he).1).1

end

instance : DecidableEq Value := decEq

def text? : Value → Option String
  | string s => some s
  | _ => none

def fields? : Value → Option Fields
  | mapping fields => some fields
  | _ => none

def isMapping (v : Value) : Bool := v.fields?.isSome

/-- The value of a key, if the value is a mapping that has it. -/
def get? (v : Value) (key : String) : Option Value := v.fields?.bind (·.get? key)

def textAt? (v : Value) (key : String) : Option String := (v.get? key).bind text?

/-- Changes the entries of a mapping; any other value stays. -/
def onMapping (change : Fields → Fields) : Value → Value
  | mapping fields => mapping (change fields)
  | v => v

/-- Changes the entries of a mapping while a state is carried along; any other value stays. -/
def changeMapping {σ : Type} (change : Fields → σ → Fields × σ) (v : Value) (s : σ) : Value × σ :=
  match v with
  | mapping fields =>
    let (fields, s) := change fields s
    (mapping fields, s)
  | v => (v, s)

/-- Changes the entries of a mapping up to a failure; any other value stays. -/
def attemptMapping {ε : Type} (change : Fields → Fields × Option ε) (v : Value) :
    Value × Option ε :=
  match v with
  | mapping fields =>
    let (fields, e) := change fields
    (mapping fields, e)
  | v => (v, none)

def kind : Value → String
  | null => "null"
  | boolean _ => "boolean"
  | number _ => "number"
  | string _ => "string"
  | sequence _ => "sequence"
  | mapping _ => "mapping"

mutual

/-- No mapping in the value, at any depth, repeats a key. -/
def WellKeyed : Value → Prop
  | sequence items => WellKeyedItems items
  | mapping fields => (Table.keys fields).Nodup ∧ WellKeyedFields fields
  | _ => True

def WellKeyedItems : List Value → Prop
  | [] => True
  | v :: vs => WellKeyed v ∧ WellKeyedItems vs

def WellKeyedFields : List (String × Value) → Prop
  | [] => True
  | (_, v) :: rest => WellKeyed v ∧ WellKeyedFields rest

end

theorem wellKeyedItems_iff (items : List Value) :
    WellKeyedItems items ↔ ∀ v ∈ items, v.WellKeyed := by
  induction items with
  | nil => simp [WellKeyedItems]
  | cons v vs ih => simp [WellKeyedItems, ih]

theorem wellKeyedFields_iff (fields : List (String × Value)) :
    WellKeyedFields fields ↔ ∀ e ∈ fields, e.2.WellKeyed := by
  induction fields with
  | nil => simp [WellKeyedFields]
  | cons e es ih => obtain ⟨k, v⟩ := e; simp [WellKeyedFields, ih]

end Value

namespace Fields

def textAt? (fields : Fields) (key : String) : Option String := (fields.get? key).bind Value.text?

/-- The mapping under a key; empty if there is none. -/
def mappingAt (fields : Fields) (key : String) : Fields :=
  ((fields.get? key).bind Value.fields?).getD []

/-- Changes the mapping under a key. A missing or other value there counts as an empty mapping,
and the key ends up holding a mapping. -/
def within (fields : Fields) (key : String) (change : Fields → Fields) : Fields :=
  fields.insert key (.mapping (change (fields.mappingAt key)))

/-- Changes the mapping under a key while a state is carried along; nothing happens if there is no
mapping. -/
def changeAt {σ : Type} (key : String) (change : Fields → σ → Fields × σ) (fields : Fields)
    (s : σ) : Fields × σ :=
  match fields.get? key with
  | some (.mapping inner) =>
    let (inner, s) := change inner s
    (fields.insert key (.mapping inner), s)
  | _ => (fields, s)

/-- Changes the mapping under a key up to a failure; nothing happens if there is no mapping. -/
def attemptAt {ε : Type} (key : String) (change : Fields → Fields × Option ε) (fields : Fields) :
    Fields × Option ε :=
  match fields.get? key with
  | some (.mapping inner) =>
    let (inner, e) := change inner
    (fields.insert key (.mapping inner), e)
  | _ => (fields, none)

/-- Makes several changes in turn, up to the first one that fails. -/
def attemptAll {α ε : Type} (change : α → Fields → Fields × Option ε) :
    List α → Fields → Fields × Option ε
  | [], fields => (fields, none)
  | a :: rest, fields =>
    match change a fields with
    | (fields, some e) => (fields, some e)
    | (fields, none) => attemptAll change rest fields

end Fields

end Registry
