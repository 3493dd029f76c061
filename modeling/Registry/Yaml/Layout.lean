import Registry.Yaml.Tag

/-!
# Layout

The tokens of a YAML text, its indentation turned into the start and end of block collections. What
stands before a colon becomes a key only when the colon is seen; until then its place is a candidate,
which lasts for one line and 1024 bytes.
-/

namespace Registry.Yaml

/-- A place where a key may have started: the number of tokens before it, and whether it has to turn
out to be one. -/
structure Candidate where
  required : Bool
  before : Nat
  position : Position

structure Layout where
  cursor : Cursor
  /-- The tokens so far, last one first. -/
  tokens : List Token
  count : Nat
  /-- The column of the innermost block collection; -1 outside. -/
  indent : Int
  indents : List Int
  keysAllowed : Bool
  candidate : Option Candidate
  /-- The candidates of the collections around the open flow collections. -/
  outer : List (Option Candidate)

namespace Layout

def start (text : List Char) : Layout :=
  { cursor := ⟨text, ⟨0, 0, 0⟩⟩, tokens := [], count := 0, indent := -1, indents := []
    keysAllowed := true, candidate := none, outer := [] }

def inFlow (l : Layout) : Bool := !l.outer.isEmpty

def column (l : Layout) : Nat := l.cursor.position.column

def push (l : Layout) (t : Token) : Layout :=
  { l with tokens := t :: l.tokens, count := l.count + 1 }

/-- Puts a token behind the first `before` ones. -/
def pushAfter (l : Layout) (before : Nat) (t : Token) : Layout :=
  let later := l.count - before
  { l with tokens := l.tokens.take later ++ t :: l.tokens.drop later, count := l.count + 1 }

def skip (l : Layout) (count : Nat) : Layout := { l with cursor := l.cursor.drop count }

/-- Opens a block collection if the column lies deeper than the innermost one. -/
def openBlock (l : Layout) (column : Nat) (before : Nat) (t : Token) : Layout :=
  if l.inFlow || column ≤ l.indent then l
  else { l.pushAfter before t with indent := column, indents := l.indent :: l.indents }

def closeBlocks (l : Layout) (column : Int) : Layout :=
  if l.inFlow then l else go l.indents l
where
  go : List Int → Layout → Layout
    | [], l => l
    | outer :: rest, l =>
      if column < l.indent then
        go rest { l.push .blockEnd with indent := outer, indents := rest }
      else l

/-- Drops the candidate of the innermost collection; it must not be a required one. -/
def dropCandidate (l : Layout) : Option Layout :=
  if l.candidate.any (·.required) then none else some { l with candidate := none }

def noteCandidate (l : Layout) : Option Layout :=
  if l.keysAllowed then
    l.dropCandidate.map fun l =>
      { l with candidate := some ⟨!l.inFlow && l.indent == l.column, l.count, l.cursor.position⟩ }
  else some l

/-- A candidate that is still open at a position; fails if it is a required one and is not. -/
def refresh (p : Position) (c : Candidate) : Option (Option Candidate) :=
  if c.position.line < p.line || c.position.index + 1024 < p.index then
    if c.required then none else some none
  else some (some c)

def dropStale (l : Layout) : Option Layout := do
  let again (c : Option Candidate) : Option (Option Candidate) :=
    match c with
    | some c => refresh l.cursor.position c
    | none => some none
  let candidate ← again l.candidate
  let outer ← l.outer.mapM again
  some { l with candidate, outer }

/-- Skips blanks, comments and line breaks. A tab counts as a blank only where no key may start, and
a line break outside flow collections allows keys again. A byte order mark at the start of a line is
skipped like a blank, so that what follows it is indented by one. -/
def skipGap (flow : Bool) : (keysAllowed inComment : Bool) → List Char → Position → Bool × Cursor
  | allowed, _, [], p => (allowed, ⟨[], p⟩)
  | allowed, comment, c :: cs, p =>
    if isBreak c then skipGap flow (allowed || !flow) false cs (p.step c)
    else if comment then skipGap flow allowed true cs (p.step c)
    else if c == ' ' || (c == '\t' && (flow || !allowed)) ||
        (c.toNat == 0xfeff && p.column == 0) then
      skipGap flow allowed false cs (p.step c)
    else if c == '#' then skipGap flow allowed true cs (p.step c)
    else (allowed, ⟨c :: cs, p⟩)

/-- A token that is one character and leaves the candidates as they are. -/
def mark (l : Layout) (t : Token) : Layout := (l.skip 1).push t

/-- A directive or a document mark closes every block. -/
def leaveBlocks (l : Layout) : Option Layout :=
  (l.closeBlocks (-1)).dropCandidate.map fun l => { l with keysAllowed := false }

def documentMark (l : Layout) (t : Token) : Option Layout :=
  l.leaveBlocks.map fun l => (l.skip 3).push t

def directive (l : Layout) : Option Layout := do
  let l ← l.leaveBlocks
  let (t, cursor) ← readDirective l.cursor
  some ({ l with cursor }.push t)

def openFlow (l : Layout) (t : Token) : Option Layout := do
  let l ← l.noteCandidate
  some ({ l with keysAllowed := true, candidate := none, outer := l.candidate :: l.outer }.mark t)

def closeFlow (l : Layout) (t : Token) : Option Layout := do
  let l ← l.dropCandidate
  let l := match l.outer with
    | [] => l
    | candidate :: outer => { l with candidate, outer }
  some ({ l with keysAllowed := false }.mark t)

def comma (l : Layout) : Option Layout :=
  l.dropCandidate.map fun l => { l with keysAllowed := true }.mark .comma

def item (l : Layout) : Option Layout := do
  if !l.inFlow && !l.keysAllowed then none
  let l ← (l.openBlock l.column l.count .blockSequence).dropCandidate
  some ({ l with keysAllowed := true }.mark .item)

def explicitKey (l : Layout) : Option Layout := do
  if !l.inFlow && !l.keysAllowed then none
  let l ← (l.openBlock l.column l.count .blockMapping).dropCandidate
  some ({ l with keysAllowed := !l.inFlow }.mark .key)

/-- The colon before a value: a candidate becomes a key. -/
def value (l : Layout) : Option Layout :=
  match l.candidate with
  | some c =>
    let l := (l.pushAfter c.before .key).openBlock c.position.column c.before .blockMapping
    some ({ l with candidate := none, keysAllowed := false }.mark .value)
  | none =>
    if !l.inFlow && !l.keysAllowed then none
    else
      let l := l.openBlock l.column l.count .blockMapping
      some ({ l with keysAllowed := !l.inFlow }.mark .value)

/-- A token that may start a key and after which no key may start. -/
def atom (l : Layout) (read : Cursor → Option (Token × Cursor)) : Option Layout := do
  let l ← l.noteCandidate
  let (t, cursor) ← read l.cursor
  some ({ l with cursor, keysAllowed := false }.push t)

def quoted (l : Layout) (single : Bool) : Option Layout :=
  l.atom fun c => do
    let c := c.drop 1
    let (text, c) ← if single then readSingle [] none c.rest c.position
      else readDouble [] none c.rest c.position
    some (.scalar (String.ofList text) false, c)

/-- A plain scalar; a line break at its end allows keys again. -/
def plain (l : Layout) : Option Layout := do
  let l ← l.noteCandidate
  let s ← readPlain l.inFlow (l.indent + 1) [] none l.cursor.rest l.cursor.position
  some ({ l with cursor := s.cursor, keysAllowed := s.broken }.push
    (.scalar (String.ofList s.text) true))

def block (l : Layout) (folded : Bool) : Option Layout := do
  let l ← l.dropCandidate
  let (text, cursor) ← readBlock folded l.indent (l.cursor.drop 1)
  some ({ l with cursor, keysAllowed := true }.push (.scalar (String.ofList text) false))

def startsPlain (flow : Bool) (c : Char) (rest : List Char) : Bool :=
  if c == '-' then !rest.head?.any isBlank
  else if c == '?' || c == ':' then !flow && !atGap rest
  else !("#,[]\x7b\x7d&*!|>'\"%@\x60".toList.contains c) && !atGap (c :: rest)

def dispatch (l : Layout) (c : Char) (rest : List Char) : Option Layout :=
  let atMargin := l.column == 0
  if atMargin && c == '%' then l.directive
  else if atMargin && tripled '-' (c :: rest) then l.documentMark .documentStart
  else if atMargin && tripled '.' (c :: rest) then l.documentMark .documentEnd
  else if c == '[' then l.openFlow .flowSequence
  else if c == '\x7b' then l.openFlow .flowMapping
  else if c == ']' then l.closeFlow .flowSequenceEnd
  else if c == '\x7d' then l.closeFlow .flowMappingEnd
  else if c == ',' then l.comma
  else if c == '-' && atGap rest then l.item
  else if c == '?' && (l.inFlow || atGap rest) then l.explicitKey
  else if c == ':' && (l.inFlow || atGap rest) then l.value
  else if c == '*' then l.atom fun c => (readName c).map fun (n, c) => (.aliasOf n, c)
  else if c == '&' then l.atom fun c => (readName c).map fun (n, c) => (.anchor n, c)
  else if c == '!' then l.atom (readTag l.inFlow)
  else if c == '|' && !l.inFlow then l.block false
  else if c == '>' && !l.inFlow then l.block true
  else if c == '\'' then l.quoted true
  else if c == '"' then l.quoted false
  else if startsPlain l.inFlow c rest then l.plain
  else none

/-- Reads on to the end of the text. Each token is longer than nothing. -/
def finish (l : Layout) : Option (List Token) :=
  let (keysAllowed, cursor) := skipGap l.inFlow l.keysAllowed false l.cursor.rest l.cursor.position
  match { l with keysAllowed, cursor }.dropStale with
  | none => none
  | some l' =>
    let l' := l'.closeBlocks l'.column
    match l'.cursor.rest with
    | [] => l'.leaveBlocks.map (·.tokens.reverse)
    | c :: rest =>
      match l'.dispatch c rest with
      | none => none
      | some next =>
        if next.cursor.rest.length < l.cursor.rest.length then finish next else none
termination_by l.cursor.rest.length

end Layout

def Token.ofText? (text : String) : Option (List Token) :=
  if text.toList.all isAllowed then (Layout.start (unifyBreaks text.toList)).finish else none

end Registry.Yaml
