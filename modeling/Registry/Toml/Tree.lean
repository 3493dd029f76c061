import Registry.Value

/-!
# TOML trees

The tables of a text while it is being read. How a table came to be decides what may still be added
to it: a header may claim a table that only other headers imply, and a dotted key may go on only with
tables that dotted keys made.
-/

namespace Registry.Toml

inductive Origin where
  | header
  /-- The header of a table inside it. -/
  | implied
  /-- A dotted key. -/
  | dotted
  deriving DecidableEq, Repr

inductive Node where
  | value (v : Value)
  | table (origin : Origin) (entries : List (String × Node))
  /-- The tables of an array, the one that is open last. -/
  | tables (elements : List (List (String × Node)))

abbrev Entries := Table Node

namespace Node

mutual

def toValue : Node → Value
  | value v => v
  | table _ entries => .mapping (fieldsOf entries)
  | tables elements => .sequence (itemsOf elements)

def fieldsOf : List (String × Node) → List (String × Value)
  | [] => []
  | (key, n) :: rest => (key, toValue n) :: fieldsOf rest

def itemsOf : List (List (String × Node)) → List Value
  | [] => []
  | entries :: rest => .mapping (fieldsOf entries) :: itemsOf rest

end

end Node

namespace Entries

/-- Changes the table that a path leads to, given its origin. Tables on the way are made with the
origin `made`; a dotted key does not pass through a table with a header of its own. -/
def atPath (made : Origin) (change : Origin → Entries → Option Entries) :
    Origin → List String → Entries → Option Entries
  | origin, [], entries => change origin entries
  | _, key :: path, entries =>
    match entries.get? key with
    | none => (atPath made change made path []).map fun inner =>
        entries.insert key (.table made inner)
    | some (.table origin inner) =>
      if made = .dotted ∧ origin = .header then none
      else (atPath made change origin path inner).map fun inner =>
        entries.insert key (.table origin inner)
    | some (.tables elements) =>
      (atPath made change .header path (elements.getLast?.getD [])).map fun inner =>
        entries.insert key (.tables (elements.dropLast ++ [inner]))
    | some (.value _) => none

def openTable (key : String) (entries : Entries) : Option Entries :=
  match entries.get? key with
  | none => some (entries.insert key (.table .header []))
  | some (.table .implied inner) => some (entries.insert key (.table .header inner))
  | some _ => none

/-- Opens a new table at the end of an array. -/
def openElement (key : String) (entries : Entries) : Option Entries :=
  match entries.get? key with
  | none => some (entries.insert key (.tables [[]]))
  | some (.tables elements) => some (entries.insert key (.tables (elements ++ [[]])))
  | some _ => none

/-- Assigns a value to a key, at most once. The table of a dotted key has to be made by such keys. -/
def assign (path : List String) (key : String) (v : Value) (entries : Entries) : Option Entries :=
  atPath .dotted (fun origin entries =>
    if path ≠ [] ∧ origin ≠ .dotted then none
    else if entries.has key then none
    else some (entries.insert key (.value v))) .header path entries

end Entries

end Registry.Toml
