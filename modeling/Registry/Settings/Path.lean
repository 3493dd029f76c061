import Registry.Decimal.Numeral
import Registry.Decimal.Word
import Registry.Text.Case
import Registry.Text.Split
import Registry.Value

/-!
# Paths of keys

Where in a settings document a value belongs: keys between dots, and places in sequences between
brackets. Keys are compared in small letters.
-/

namespace Registry.Settings

inductive Step where
  | key (name : String)
  /-- The place of an item; a negative one counts from the end. -/
  | item (index : Int)
  deriving DecidableEq, Repr

def lowerKey (key : String) : String := String.ofList (Text.lower key.toList)

def isKeyChar (c : Char) : Bool := c.isAlphanum || c == '_' || c == '-' || c == ' '

def itemIndex? (cs : List Char) : Option Int :=
  let isBlank (c : Char) : Bool := c == ' ' || c == '\t'
  let cs := ((cs.dropWhile isBlank).reverse.dropWhile isBlank).reverse
  let z : Option Int := match cs with
    | '-' :: ds => (Decimal.naturalIn? 10 ds).map fun n => -(n : Int)
    | ds => (Decimal.naturalIn? 10 ds).map Int.ofNat
  z.filter Decimal.fitsSigned

def laterSteps? (cs : List Char) : Option (List Step) :=
  match cs with
  | [] => some []
  | '.' :: rest =>
    let key := rest.takeWhile isKeyChar
    if key.isEmpty then none
    else (laterSteps? (rest.dropWhile isKeyChar)).map (.key (String.ofList key) :: ·)
  | '[' :: rest =>
    match _h : Text.cut? ']' rest with
    | some (inside, behind) => do
      let index ← itemIndex? inside
      (laterSteps? behind).map (.item index :: ·)
    | none => none
  | _ => none
termination_by cs.length
decreasing_by
  · have := (List.dropWhile_suffix isKeyChar (l := rest)).length_le
    simp only [List.length_cons]
    omega
  · have h := (Text.cut?_eq_some _h).1
    simp only [h, List.length_cons, List.length_append]
    omega

def steps? (text : String) : Option (List Step) :=
  let cs := text.toList
  let key := cs.takeWhile isKeyChar
  if key.isEmpty then none
  else (laterSteps? (cs.dropWhile isKeyChar)).map (.key (String.ofList key) :: ·)

/-- The steps of a key at the top of a document: itself, if it spells no others. -/
def pathOf (key : String) : List Step := (steps? key).getD [.key key]

mutual

/-- Puts a value under a key, on top of what is there: mappings merge. -/
def layer (fields : Fields) (key : String) : Value → Fields
  | .mapping [] => fields.insertNew (lowerKey key) (.mapping [])
  | .mapping (e :: entries) =>
    let key := lowerKey key
    fields.insert key (.mapping (layerAll (fields.mappingAt key) (e :: entries)))
  | v => fields.insert (lowerKey key) v

def layerAll (fields : Fields) : List (String × Value) → Fields
  | [] => fields
  | (key, v) :: rest => layerAll (layer fields key v) rest

end

/-- The entries of a mapping; none for other values. -/
def fieldsOf (v : Value) : Fields := v.fields?.getD []

def itemsOf : Value → List Value
  | .sequence items => items
  | _ => []

/-- Changes the item at a place, behind as many nulls as it takes. -/
def changeItem (items : List Value) (index : Int) (change : Value → Value) : List Value :=
  let place := if index < 0 then items.length + index else index
  if place < 0 then items
  else
    let n := place.toNat
    let items := items ++ List.replicate (n + 1 - items.length) .null
    items.modify n change

/-- Puts a value where some steps lead from a value. What is on the way and neither a mapping nor a
sequence, as the step requires, is replaced. -/
def put (below : Value) : List Step → Value → Value
  | [], v => v
  | [.key name], v => .mapping (layer (fieldsOf below) name v)
  | .key name :: rest, v =>
    let fields := fieldsOf below
    let name := lowerKey name
    .mapping (fields.insert name (put ((fields.get? name).getD .null) rest v))
  | .item index :: rest, v =>
    .sequence (changeItem (itemsOf below) index fun old => put old rest v)

def addLayer (fields top : Fields) : Fields :=
  top.foldl (fun fields (key, v) => fieldsOf (put (.mapping fields) (pathOf key) v)) fields

end Registry.Settings
