import Registry.Table
import Registry.Yaml.Layout

/-!
# YAML nodes

The tree that the tokens of a stream denote, for a stream of at most one document. Anchors become
numbers. Dialects differ in these numbers, in what tags mean, and in values without keys.
-/

namespace Registry.Yaml

structure Tag where
  meaning : String
  suffix : String
  deriving DecidableEq, Repr

def Tag.text (t : Tag) : String := t.meaning ++ t.suffix

inductive Node where
  | aliasOf (id : Nat)
  | scalar (anchor : Option Nat) (tag : Option Tag) (text : String) (plain : Bool)
  | sequence (anchor : Option Nat) (tag : Option Tag) (items : List Node)
  | mapping (anchor : Option Nat) (tag : Option Tag) (entries : List (Node × Node))

namespace Node

instance : Inhabited Node := ⟨aliasOf 0⟩

/-- The scalar that stands where nothing is written. -/
def empty : Node := scalar none none "" true

mutual

/-- The numbered nodes of a tree, outer ones first. -/
def anchored : Node → List (Nat × Node)
  | aliasOf _ => []
  | scalar anchor tag text plain => (anchor.map (·, scalar anchor tag text plain)).toList
  | sequence anchor tag items =>
    (anchor.map (·, sequence anchor tag items)).toList ++ anchoredItems items
  | mapping anchor tag entries =>
    (anchor.map (·, mapping anchor tag entries)).toList ++ anchoredEntries entries

def anchoredItems : List Node → List (Nat × Node)
  | [] => []
  | n :: ns => anchored n ++ anchoredItems ns

def anchoredEntries : List (Node × Node) → List (Nat × Node)
  | [] => []
  | (k, v) :: rest => anchored k ++ anchored v ++ anchoredEntries rest

end

mutual

/-- How many events announce a tree: one per scalar or alias, two per collection. -/
def events : Node → Nat
  | aliasOf _ | scalar .. => 1
  | sequence _ _ items => 2 + eventsOfItems items
  | mapping _ _ entries => 2 + eventsOfEntries entries

def eventsOfItems : List Node → Nat
  | [] => 0
  | n :: ns => events n + eventsOfItems ns

def eventsOfEntries : List (Node × Node) → Nat
  | [] => 0
  | (k, v) :: rest => events k + events v + eventsOfEntries rest

end

/-- What is left to read: tokens, the numbers of the anchor names so far, and how often a name was
set. -/
structure Rest where
  tokens : List Token
  names : Table Nat
  anchors : Nat

def Rest.next (r : Rest) : Rest := { r with tokens := r.tokens.drop 1 }

def Rest.starts (r : Rest) (p : Token → Bool) : Bool := r.tokens.head?.any p

def Rest.at (r : Rest) (t : Token) : Bool := r.starts (· == t)

structure Dialect where
  /-- The tag of a handle and a suffix, if the handle has a meaning. -/
  resolve : String → String → Option Tag
  /-- Whether each anchor has a number of its own. Otherwise its number is how many names were known
  when it was set, so that a name that is set again may share its number with a later one. -/
  ownNumbers : Bool
  /-- Whether a value may stand in a mapping without a key. -/
  bareValues : Bool

/-- The number of a name that is set now. -/
def Dialect.setName (d : Dialect) (r : Rest) (name : String) : Nat × Rest :=
  let id := if d.ownNumbers then r.anchors else r.names.length
  (id, { r with names := r.names.insert name id, anchors := r.anchors + 1 })

structure Properties where
  anchor : Option Nat := none
  tag : Option (String × String) := none

/-- An anchor and a tag in either order, each at most once. -/
def Dialect.readProperties (d : Dialect) (r : Rest) : Properties × Rest :=
  match r.tokens with
  | .anchor name :: .tag handle suffix :: _ =>
    let (id, r) := d.setName r name
    (⟨some id, some (handle, suffix)⟩, r.next.next)
  | .tag handle suffix :: .anchor name :: _ =>
    let (id, r) := d.setName r name
    (⟨some id, some (handle, suffix)⟩, r.next.next)
  | .anchor name :: _ =>
    let (id, r) := d.setName r name
    (⟨some id, none⟩, r.next)
  | .tag handle suffix :: _ => (⟨none, some (handle, suffix)⟩, r.next)
  | _ => (⟨none, none⟩, r)

/-- The tag of a node's properties; a handle without meaning is an error. -/
def Dialect.tag? (d : Dialect) : Option (String × String) → Option (Option Tag)
  | none => some none
  | some (handle, suffix) => (d.resolve handle suffix).map some

/-- Whether a token ends an entry of a block mapping or of the sequence that is its value. -/
def endsEntry : Token → Bool
  | .key | .value | .blockEnd => true
  | _ => false

def endsSingle : Token → Bool
  | .comma | .flowSequenceEnd => true
  | _ => false

def endsFlowEntry : Token → Bool
  | .comma | .flowMappingEnd => true
  | _ => false

/-- What a node reader is asked for: block collections, and sequences that are not indented. -/
inductive Context where
  | flow
  | block
  | entry
  deriving DecidableEq

/-- A part of an entry: nothing is written if the next token ends it. -/
def orEmpty (r : Rest) (ends : Token → Bool) (read : Rest → Option (Node × Rest)) :
    Option (Node × Rest) :=
  if r.starts ends then some (empty, r) else read r

mutual

/-- Reads a node. The first argument bounds the number of nested calls. -/
def read (d : Dialect) : Nat → Context → Rest → Option (Node × Rest)
  | 0, _, _ => none
  | fuel + 1, context, r =>
    match r.tokens with
    | .aliasOf name :: _ => (r.names.get? name).map fun id => (aliasOf id, r.next)
    | _ => do
      let (p, r) := d.readProperties r
      let tag ← d.tag? p.tag
      match r.tokens with
      | .scalar text plain :: _ =>
        some (scalar p.anchor tag text plain, r.next)
      | .flowSequence :: _ =>
        let (items, r) ← readFlowItems d fuel true r.next
        some (sequence p.anchor tag items, r)
      | .flowMapping :: _ =>
        let (entries, r) ← readFlowEntries d fuel true r.next
        some (mapping p.anchor tag entries, r)
      | .blockSequence :: _ =>
        if context = .flow then readNothing p tag r
        else
          let (items, r) ← readBlockItems d fuel r.next
          some (sequence p.anchor tag items, r)
      | .blockMapping :: _ =>
        if context = .flow then readNothing p tag r
        else
          let (entries, r) ← readBlockEntries d fuel r.next
          some (mapping p.anchor tag entries, r)
      | .item :: _ =>
        if context = .entry then
          let (items, r) ← readEntryItems d fuel r
          some (sequence p.anchor tag items, r)
        else readNothing p tag r
      | _ => readNothing p tag r
where
  /-- The scalar after properties that no content follows. -/
  readNothing (p : Properties) (tag : Option Tag) (r : Rest) : Option (Node × Rest) :=
    if p.anchor.isSome || tag.isSome then some (scalar p.anchor tag "" true, r) else none

def readBlockItems (d : Dialect) : Nat → Rest → Option (List Node × Rest)
  | 0, _ => none
  | fuel + 1, r =>
    if r.at .item then do
      let (n, r) ← orEmpty r.next (fun t => t == .item || t == .blockEnd)
        (read d fuel .block)
      let (ns, r) ← readBlockItems d fuel r
      some (n :: ns, r)
    else if r.at .blockEnd then some ([], r.next)
    else none

/-- The items of a sequence that is the value of an entry and not indented. -/
def readEntryItems (d : Dialect) : Nat → Rest → Option (List Node × Rest)
  | 0, _ => none
  | fuel + 1, r =>
    if r.at .item then do
      let (n, r) ← orEmpty r.next (fun t => t == .item || endsEntry t) (read d fuel .block)
      let (ns, r) ← readEntryItems d fuel r
      some (n :: ns, r)
    else some ([], r)

def readBlockEntries (d : Dialect) : Nat → Rest → Option (List (Node × Node) × Rest)
  | 0, _ => none
  | fuel + 1, r =>
    if r.at .key then do
      let (k, r) ← orEmpty r.next endsEntry (read d fuel .entry)
      let (v, r) ← if r.at .value then orEmpty r.next endsEntry (read d fuel .entry)
        else some (empty, r)
      let (rest, r) ← readBlockEntries d fuel r
      some ((k, v) :: rest, r)
    else if d.bareValues && r.at .value then do
      let (v, r) ← orEmpty r.next endsEntry (read d fuel .entry)
      let (rest, r) ← readBlockEntries d fuel r
      some ((empty, v) :: rest, r)
    else if r.at .blockEnd then some ([], r.next)
    else none

/-- The items of a flow sequence up to its end. An item may be a single entry of a mapping; where
its key is missing, the token that shows this is dropped. -/
def readFlowItems (d : Dialect) : Nat → (first : Bool) → Rest →
    Option (List Node × Rest)
  | 0, _, _ => none
  | fuel + 1, first, r =>
    if r.at .flowSequenceEnd then some ([], r.next)
    else if !first && !r.at .comma then none
    else
      let r := if first then r else r.next
      if r.at .flowSequenceEnd then some ([], r.next)
      else if r.at .key then do
        let r := r.next
        let (k, r) ← if r.starts fun t => t == .value || endsSingle t then some (empty, r.next)
          else read d fuel .flow r
        let (v, r) ← if r.at .value then orEmpty r.next endsSingle (read d fuel .flow)
          else some (empty, r)
        let (ns, r) ← readFlowItems d fuel false r
        some (mapping none none [(k, v)] :: ns, r)
      else do
        let (n, r) ← read d fuel .flow r
        let (ns, r) ← readFlowItems d fuel false r
        some (n :: ns, r)

def readFlowEntries (d : Dialect) : Nat → (first : Bool) → Rest →
    Option (List (Node × Node) × Rest)
  | 0, _, _ => none
  | fuel + 1, first, r =>
    if r.at .flowMappingEnd then some ([], r.next)
    else if !first && !r.at .comma then none
    else
      let r := if first then r else r.next
      if r.at .flowMappingEnd then some ([], r.next)
      else if r.at .key then do
        let (k, r) ← orEmpty r.next (fun t => t == .value || endsFlowEntry t)
          (read d fuel .flow)
        let (v, r) ← if r.at .value then orEmpty r.next endsFlowEntry (read d fuel .flow)
          else some (empty, r)
        let (rest, r) ← readFlowEntries d fuel false r
        some ((k, v) :: rest, r)
      else if d.bareValues && r.at .value then do
        let (v, r) ← orEmpty r.next endsFlowEntry (read d fuel .flow)
        let (rest, r) ← readFlowEntries d fuel false r
        some ((empty, v) :: rest, r)
      else do
        let (k, r) ← read d fuel .flow r
        let (rest, r) ← readFlowEntries d fuel false r
        some ((k, empty) :: rest, r)

end

/-- The directives at the start of a document: one version at most, of the first generation, and
each handle at most once. -/
def readDirectives : (version : Bool) → (handles : Table String) → List Token →
    Option (Table String × List Token)
  | version, handles, .version major minor :: ts =>
    if version || major ≠ 1 || (minor ≠ 1 && minor ≠ 2) then none
    else readDirectives true handles ts
  | version, handles, .handle name meaning :: ts =>
    if handles.has name then none else readDirectives version (handles ++ [(name, meaning)]) ts
  | _, handles, ts => some (handles, ts)

def knownHandles : Table String := [("!", "!"), ("!!", "tag:yaml.org,2002:")]

/-- The dialect in which every handle needs a meaning, and every value a key. -/
def Dialect.ofHandles (handles : Table String) : Dialect where
  resolve handle suffix :=
    if handle.isEmpty then some ⟨"", suffix⟩ else (handles.get? handle).map (⟨·, suffix⟩)
  ownNumbers := false
  bareValues := false

/-- The dialect of a document that starts with the directives at the start of some tokens, and what
follows them. -/
def Dialect.ofDirectives? (ts : List Token) : Option (Dialect × List Token) :=
  (readDirectives false [] ts).map fun (handles, rest) =>
    (.ofHandles (handles ++ knownHandles.filter fun e => !handles.has e.1), rest)

def endsDocument : Token → Bool
  | .version .. | .handle .. | .documentStart | .documentEnd => true
  | _ => false

/-- The document of a stream, given a reader of directives: `some none` if there is none, and an error
if there are several. -/
def ofTokens? (directives? : List Token → Option (Dialect × List Token)) (tokens : List Token) :
    Option (Option Node) :=
  if tokens.isEmpty then some none
  else do
    let (d, ts) ← directives? tokens
    let fuel := 2 * tokens.length + 2
    let explicit := ts.head? == some .documentStart
    if !explicit && ts.length ≠ tokens.length then none
    let r : Rest := ⟨if explicit then ts.drop 1 else ts, [], 0⟩
    let (n, r) ← if explicit && (r.tokens.isEmpty || r.starts endsDocument) then some (empty, r)
      else read d fuel .block r
    if r.tokens.all (· == .documentEnd) then some (some n) else none

end Node

end Registry.Yaml
