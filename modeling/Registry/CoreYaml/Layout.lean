import Registry.CoreYaml.Scalar
import Registry.CoreYaml.Tag

/-!
# Layout of YAML settings

The tokens of a YAML text of settings, its indentation turned into the start and end of block
collections. What stands before a colon becomes a key only when the colon is seen; until then its place
is a candidate, which outside flow collections lasts for one line and 1024 characters. What follows a
key in a block has to stand right of the block's column, and a pair in a flow sequence becomes a
mapping of its own.
-/

namespace Registry.CoreYaml

open Yaml (Token)

/-- A place where a key may have started: the number of tokens before it, and whether it has to turn
out to be one. -/
structure Candidate where
  required : Bool
  before : Nat
  spot : Spot

/-- A column that content must reach, with the one that counts outside. -/
structure Indent where
  outer : Int
  /-- Whether it is the column of a block collection; otherwise it only keeps content right of one. -/
  ofBlock : Bool

structure Layout where
  cursor : Cursor
  /-- The tokens so far, last one first. -/
  tokens : List Token := []
  count : Nat := 0
  /-- The column that content must reach; -1 outside of blocks. -/
  indent : Int := -1
  indents : List Indent := []
  /-- Whether a key may start here. -/
  keysAllowed : Bool := true
  candidate : Option Candidate := none
  /-- The candidates of the collections around the open flow collections. -/
  outer : List (Option Candidate) := []
  /-- Where a colon needs no gap behind it. -/
  colonAt : Nat := 0
  /-- Whether a mapping was opened in a flow collection, so that a pair is none of its own. -/
  inMapping : Bool := false
  /-- For each open flow sequence, whether a pair in it is being read as a mapping. -/
  pairs : List Bool := []

namespace Layout

def inFlow (l : Layout) : Bool := !l.outer.isEmpty

def column (l : Layout) : Nat := l.cursor.spot.column

def flowLimit : Nat := 255

def push (l : Layout) (t : Token) : Layout :=
  { l with tokens := t :: l.tokens, count := l.count + 1 }

def pushAfter (l : Layout) (before : Nat) (t : Token) : Layout :=
  let later := l.count - before
  { l with tokens := l.tokens.take later ++ t :: l.tokens.drop later, count := l.count + 1 }

def skip (l : Layout) (count : Nat) : Layout := { l with cursor := l.cursor.drop count }

def skipBlanks (l : Layout) : Option Layout :=
  l.cursor.skipBlanks?.map fun (_, cursor) => { l with cursor }

def atBlock (l : Layout) : Bool := l.indents.head?.any (·.ofBlock)

/-- Opens a block collection if the column lies deeper than the innermost one. -/
def openBlock (l : Layout) (column : Nat) (before : Nat) (t : Token) : Layout :=
  if l.inFlow then l
  else
    let l : Layout := match l.indents with
      | ⟨outer, false⟩ :: rest =>
        if l.indent ≤ column then { l with indent := outer, indents := rest } else l
      | _ => l
    if l.indent < column then
      { l.pushAfter before t with indent := column, indents := ⟨l.indent, true⟩ :: l.indents }
    else l

/-- Keeps what follows right of the innermost block's column. -/
def pushRight (l : Layout) : Layout :=
  if !l.inFlow && l.atBlock then
    { l with indent := l.indent + 1, indents := ⟨l.indent, false⟩ :: l.indents }
  else l

/-- Takes back what keeps content right of a block's column. -/
def takeBack (l : Layout) : Layout := go l.indents l
where
  go : List Indent → Layout → Layout
    | ⟨outer, false⟩ :: rest, l => go rest { l with indent := outer, indents := rest }
    | _, l => l

def closeBlocks (l : Layout) (column : Int) : Layout :=
  if l.inFlow then l else go l.indents l
where
  go : List Indent → Layout → Layout
    | [], l => l
    | ⟨outer, ofBlock⟩ :: rest, l =>
      if column < l.indent then
        let l := if ofBlock then l.push .blockEnd else l
        go rest { l with indent := outer, indents := rest }
      else l

/-- Drops the candidate of the innermost collection; it must not be a required one. -/
def dropCandidate (l : Layout) : Option Layout :=
  if l.candidate.any (·.required) then none else some { l with candidate := none }

def noteCandidate (l : Layout) : Layout :=
  if l.keysAllowed then
    let required := !l.inFlow && l.indent == l.column && l.atBlock
    { l with candidate := some ⟨required, l.count, l.cursor.spot⟩ }
  else l

def isStale (s : Spot) (c : Candidate) : Bool :=
  c.spot.line < s.line || c.spot.index + 1024 < s.index

def dropStale (l : Layout) : Option Layout :=
  if !l.inFlow && l.candidate.any (isStale l.cursor.spot) then l.dropCandidate else some l

def skipGap (l : Layout) : Option Layout :=
  (CoreYaml.skipGap l.inFlow l.indent .anything l.keysAllowed l.cursor.rest l.cursor.spot).map
    fun (keysAllowed, cursor) => { l with keysAllowed, cursor }

/-- A directive or a document mark closes every block. -/
def leaveBlocks (l : Layout) : Option Layout :=
  (l.closeBlocks (-1)).dropCandidate.map fun l => { l with keysAllowed := false }

def directive (l : Layout) : Option Layout := do
  let l ← l.leaveBlocks
  let (t, cursor) ← directive? l.cursor
  some ({ l with cursor }.push t)

def documentStart (l : Layout) : Option Layout :=
  l.leaveBlocks.map fun l => (l.skip 3).push .documentStart

/-- The mark of a document's end stands alone on its line. -/
def documentEnd (l : Layout) : Option Layout := do
  let l ← l.leaveBlocks
  let l := l.skip 3
  let cursor ← l.cursor.endLine?
  some ({ l with cursor }.push .documentEnd)

def endPair (l : Layout) : Layout :=
  match l.pairs with
  | true :: rest => { l with pairs := false :: rest, inMapping := false }.push .flowMappingEnd
  | _ => l

def openFlow (l : Layout) (t : Token) : Option Layout := do
  let l := l.noteCandidate.pushRight
  if flowLimit ≤ l.outer.length then none
  let l := { l with keysAllowed := true, candidate := none, outer := l.candidate :: l.outer }
  let l := if t = .flowMapping then { l with inMapping := true }
    else { l with pairs := false :: l.pairs }
  let l ← (l.skip 1).skipBlanks
  some (l.push t)

def closeFlow (l : Layout) (t : Token) : Option Layout := do
  let l ← l.dropCandidate
  let l := match l.outer with
    | [] => l
    | candidate :: outer => { l with candidate, outer }
  let l := { l with keysAllowed := false }
  let l := if t = .flowSequenceEnd then { l.endPair with pairs := l.endPair.pairs.tail } else l
  let l ← (l.skip 1).skipBlanks
  let l := if l.inFlow then { l with colonAt := l.cursor.spot.index } else l
  some (l.push t)

def comma (l : Layout) : Option Layout := do
  let l ← l.dropCandidate
  let l ← ({ l with keysAllowed := true }.endPair.skip 1).skipBlanks
  some (l.push .comma)

/-- The dash of a block sequence. A tab does not indent the dash of an inner one. -/
def item (l : Layout) : Option Layout := do
  if l.inFlow || !l.keysAllowed then none
  let l := (l.skip 1).openBlock l.column l.count .blockSequence
  let (blanks, cursor) ← l.cursor.skipBlanks?
  if blanks.contains '\t' && cursor.rest.head? == some '-' && atGap (cursor.rest.drop 1) then none
  let l := { l with cursor }
  let l := if cursor.rest.head?.any (fun c => c == '\n' || isFlowMark c) then l.pushRight else l
  let l ← l.dropCandidate
  some ({ l with keysAllowed := true }.push .item)

def skipBehindMark (flow : Bool) :
    (comment : Bool) → (keysAllowed : Bool) → List Char → Spot → Bool × Cursor
  | _, allowed, [], s => (allowed, ⟨[], s⟩)
  | comment, allowed, c :: cs, s =>
    if c = '\n' then skipBehindMark flow false (allowed || !flow) cs (s.step c)
    else if comment || c == ' ' then skipBehindMark flow comment allowed cs (s.step c)
    else if c = '#' then skipBehindMark flow true allowed cs (s.step c)
    else (allowed, ⟨c :: cs, s⟩)

def explicitKey (l : Layout) : Option Layout := do
  if !l.inFlow && !l.keysAllowed then none
  let l := if l.inFlow then { l with inMapping := true }
    else l.openBlock l.column l.count .blockMapping
  let l ← l.dropCandidate
  let l := l.skip 1
  if l.cursor.rest.head?.all (fun c => c != ' ' && c != '\n') then none
  let (keysAllowed, cursor) := skipBehindMark l.inFlow false (!l.inFlow) l.cursor.rest l.cursor.spot
  if cursor.rest.head? == some '\t' then none
  some ({ l with keysAllowed, cursor }.push .key)

/-- Skips a colon. A tab behind it counts as a gap if a space follows before the next word or
dash. -/
def skipColon (l : Layout) : Option Layout := do
  let l := l.skip 1
  if l.cursor.rest.head? != some '\t' then return l
  let (blanks, cursor) ← l.cursor.skipBlanks?
  if !blanks.contains ' ' && cursor.rest.head?.any Yaml.isNameChar then none
  some { l with cursor }

/-- The colon before a value: a candidate becomes a key. -/
def value (l : Layout) : Option Layout := do
  let start := l.cursor.spot
  let isPair := !l.pairs.isEmpty && !l.inMapping
  let l := if isPair then { l with pairs := true :: l.pairs.tail } else l
  let l ← l.skipColon
  match l.candidate with
  | some c =>
    let l := l.pushAfter c.before .key
    if isPair && c.spot.line < start.line then none
    let l := if isPair then l.pushAfter c.before .flowMapping else l
    let l := (l.openBlock c.spot.column c.before .blockMapping).pushRight
    some ({ l with candidate := none, keysAllowed := false }.push .value)
  | none =>
    let l := if isPair then l.push .flowMapping else l
    if !l.inFlow && !l.keysAllowed then none
    let l := (l.openBlock start.column l.count .blockMapping).pushRight
    some ({ l with keysAllowed := !l.inFlow }.push .value)

/-- A token that may start a key and after which no key may start. -/
def atom (l : Layout) (read : Cursor → Option (Token × Cursor)) : Option Layout := do
  let l := l.noteCandidate
  let (t, cursor) ← read l.cursor
  some ({ l with cursor, keysAllowed := false }.push t)

/-- A quoted scalar. The gap behind it is skipped, and a colon there needs no gap behind it. -/
def quoted (l : Layout) (single : Bool) : Option Layout := do
  let l := l.noteCandidate
  let (text, cursor) ← quoted? l.inFlow l.indent single l.cursor
  let l ← { l with cursor, keysAllowed := false }.skipGap
  some ({ l with colonAt := l.cursor.spot.index }.push (.scalar (String.ofList text) false))

/-- A plain scalar; a line break at its end allows keys again. -/
def plain (l : Layout) : Option Layout := do
  let l := l.noteCandidate.takeBack
  let (text, cursor) ← plain? l.inFlow l.indent l.cursor
  some ({ l with cursor, keysAllowed := cursor.spot.margin }.push (.scalar (String.ofList text) true))

def block (l : Layout) (folded : Bool) : Option Layout := do
  let l := l.noteCandidate.takeBack
  let (text, cursor) ← block? folded l.indent (l.cursor.drop 1)
  some ({ l with cursor, keysAllowed := true }.push (.scalar (String.ofList text) false))

def startsValue (l : Layout) (rest : List Char) : Bool :=
  atGap rest || (l.inFlow && (atFlowMark rest || l.cursor.spot.index == l.colonAt))

def dispatch (l : Layout) (c : Char) (rest : List Char) : Option Layout :=
  let atMargin := l.column == 0
  if atMargin && c == '%' then l.directive
  else if atMargin && tripled '-' (c :: rest) then l.documentStart
  else if atMargin && tripled '.' (c :: rest) then l.documentEnd
  else if l.column < l.indent then none
  else if c == '[' then l.openFlow .flowSequence
  else if c == '\x7b' then l.openFlow .flowMapping
  else if c == ']' then l.closeFlow .flowSequenceEnd
  else if c == '\x7d' then l.closeFlow .flowMappingEnd
  else if c == ',' then l.comma
  else if c == '-' && atGap rest then l.item
  else if c == '?' && atGap rest then l.explicitKey
  else if c == ':' && l.startsValue rest then l.value
  else if c == '*' then l.atom fun c => (name? c).map fun (n, c) => (.aliasOf n, c)
  else if c == '&' then l.atom fun c => (name? c).map fun (n, c) => (.anchor n, c)
  else if c == '!' then l.atom (tag? l.inFlow)
  else if c == '|' && !l.inFlow then l.block false
  else if c == '>' && !l.inFlow then l.block true
  else if c == '\'' then l.quoted true
  else if c == '"' then l.quoted false
  else if "%@\x60".toList.contains c then none
  else l.plain

/-- Reads on to the end of the text. Each token is longer than nothing. -/
def finish (l : Layout) : Option (List Token) :=
  match l.skipGap.bind dropStale with
  | none => none
  | some l' =>
    let l' := l'.closeBlocks l'.column
    match l'.cursor.rest with
    | [] =>
      if l'.outer.any (·.any (·.required)) then none
      else l'.leaveBlocks.map (·.tokens.reverse)
    | c :: rest =>
      match l'.dispatch c rest with
      | none => none
      | some next =>
        if next.cursor.rest.length < l.cursor.rest.length then finish next else none
termination_by l.cursor.rest.length

end Layout

def tokens? (text : String) : Option (List Token) :=
  Layout.finish { cursor := .start (unifyBreaks text.toList) }

end Registry.CoreYaml
