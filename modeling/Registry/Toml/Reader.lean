import Registry.Toml.Scalar
import Registry.Toml.Text
import Registry.Toml.Tree

/-!
# Reading TOML

The value of a TOML text, or none: assignments to keys, in the table of the last header before them.
Arrays and inline tables nest to a depth of 79, and a dotted key has at most 79 parts.
-/

namespace Registry.Toml

def skipLines : (inComment : Bool) → List Char → List Char
  | _, [] => []
  | _, '\n' :: rest | _, '\r' :: '\n' :: rest => skipLines false rest
  | true, c :: rest => if isText c then skipLines true rest else c :: rest
  | false, '#' :: rest => skipLines true rest
  | false, c :: rest => if isBlank c then skipLines false rest else c :: rest

def skipBlanks (s : List Char) : List Char := s.dropWhile isBlank

def endLine (s : List Char) : Option (List Char) :=
  let s := match skipBlanks s with
    | '#' :: rest => rest.dropWhile isText
    | s => s
  if s.isEmpty || atBreak s then some (dropBreak s) else none

def isBareKeyChar (c : Char) : Bool := c.isAlphanum || c == '_' || c == '-'

def readKey (s : List Char) : Option (String × List Char) :=
  match s with
  | '"' :: r => readShort '"' r
  | '\'' :: r => readShort '\'' r
  | s =>
    let cs := s.takeWhile isBareKeyChar
    if cs.isEmpty then none else some (String.ofList cs, s.dropWhile isBareKeyChar)

/-- How deep arrays and inline tables may nest, and how many parts a dotted key may have. -/
def depthLimit : Nat := 79

/-- The parts of a dotted key: the keys of the tables, the last key, and what follows. -/
def readParts (s : List Char) : Option (List String × String × List Char) :=
  match readKey (skipBlanks s) with
  | none => none
  | some (key, r) =>
    match skipBlanks r with
    | '.' :: r =>
      if r.length < s.length then
        (readParts r).map fun (path, last, rest) => (key :: path, last, rest)
      else none
    | r => some ([], key, r)
termination_by s.length

def readPath (s : List Char) : Option (List String × String × List Char) :=
  (readParts s).filter fun (path, _, _) => path.length < depthLimit

def readAssignment (readValue : List Char → Option (Value × List Char)) (s : List Char) :
    Option ((List String × String × Value) × List Char) := do
  let (path, key, r) ← readPath s
  let r ← readMark '=' r
  let (v, r) ← readValue (skipBlanks r)
  some ((path, key, v), r)

def readItems (readValue : List Char → Option (Value × List Char)) (s : List Char) :
    Option (List Value × List Char) :=
  match skipLines false s with
  | ']' :: r => some ([], r)
  | t =>
    match readValue t with
    | none => none
    | some (v, r) =>
      match skipLines false r with
      | ',' :: r =>
        if r.length < s.length then (readItems readValue r).map fun (vs, r) => (v :: vs, r) else none
      | ']' :: r => some ([v], r)
      | _ => none
termination_by s.length

def readInline (readValue : List Char → Option (Value × List Char)) (s : List Char) :
    Option (List (List String × String × Value) × List Char) :=
  match readAssignment readValue s with
  | none => none
  | some (a, r) =>
    match skipBlanks r with
    | ',' :: r =>
      if r.length < s.length then (readInline readValue r).map fun (as, r) => (a :: as, r) else none
    | '\x7d' :: r => some ([a], r)
    | _ => none
termination_by s.length

def inlineTable (assignments : List (List String × String × Value)) : Option Value :=
  (assignments.foldlM (fun (entries : Entries) (path, key, v) => entries.assign path key v) []).map
    fun entries => (Node.table .header entries).toValue

def readValue : (depth : Nat) → List Char → Option (Value × List Char)
  | 0, '[' :: _ | 0, '\x7b' :: _ => none
  | depth + 1, '[' :: r => (readItems (readValue depth) r).map fun (vs, r) => (.sequence vs, r)
  | depth + 1, '\x7b' :: r =>
    match skipBlanks r with
    | '\x7d' :: r => some (.mapping [], r)
    | r => do
      let (assignments, r) ← readInline (readValue depth) r
      some (← inlineTable assignments, r)
  | _, s =>
    if s.head?.any fun c => c == '"' || c == '\'' then
      (readString s).map fun (t, r) => (.string t, r)
    else readWord s

/-- A text while it is being read: what has been assigned, and the header that counts. -/
structure State where
  root : Entries
  header : List String

def readStatement (state : State) (s : List Char) : Option (State × List Char) :=
  match s with
  | '[' :: '[' :: r => do
    let (path, key, r) ← readPath r
    let r ← endLine (← readMark ']' (← readMark ']' r))
    let root ← state.root.atPath .implied (fun _ => Entries.openElement key) .header path
    some (⟨root, path ++ [key]⟩, r)
  | '[' :: r => do
    let (path, key, r) ← readPath r
    let r ← endLine (← readMark ']' r)
    let root ← state.root.atPath .implied (fun _ => Entries.openTable key) .header path
    some (⟨root, path ++ [key]⟩, r)
  | s => do
    let ((path, key, v), r) ← readAssignment (readValue depthLimit) s
    let r ← endLine r
    let root ← state.root.atPath .implied (fun _ => Entries.assign path key v) .header state.header
    some ({ state with root }, r)

def readStatements (state : State) (s : List Char) : Option State :=
  match skipLines false s with
  | [] => some state
  | t =>
    match readStatement state t with
    | none => none
    | some (state, r) => if r.length < s.length then readStatements state r else none
termination_by s.length

def read? (text : String) : Option Fields :=
  let s := match text.toList with
    | c :: r => if c.toNat = 0xfeff then r else c :: r
    | [] => []
  (readStatements ⟨[], []⟩ s).map fun state => Node.fieldsOf state.root

end Registry.Toml
