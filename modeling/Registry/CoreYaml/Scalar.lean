import Registry.CoreYaml.Cursor
import Registry.Yaml.Scalar

/-!
# Scalars of YAML settings

Reading the three spellings of a scalar. A scalar must stay right of the column of the block around
it, and so must a closing quote.
-/

namespace Registry.CoreYaml

open Yaml (Gap Block Chomping)

def endsPlain (flow : Bool) : List Char → Bool
  | ':' :: cs => atGap cs || (flow && atFlowMark cs)
  | cs => flow && atFlowMark cs

/-- The rest of a plain scalar and where it ends. `text` is what was read, last character first, and
`gap` the blanks since then. A line that has a tab left of the column `indent` may hold nothing more
than a comment. -/
def readPlain (flow : Bool) (indent : Int) :
    (text : List Char) → (gap : Option Gap) → Skipping → List Char → Spot →
      Option (List Char × Cursor)
  | text, _, _, [], s => some (text.reverse, ⟨[], s⟩)
  | text, gap, mode, c :: cs, s =>
    if c = '\n' then
      readPlain flow indent text (some ((gap.getD .empty).addBreak c)) .anything cs (s.step c)
    else match mode with
      | .comment => readPlain flow indent text gap .comment cs (s.step c)
      | .blanks =>
        if isBlank c then readPlain flow indent text gap .blanks cs (s.step c)
        else if c = '#' then readPlain flow indent text gap .comment cs (s.step c)
        else none
      | .anything =>
        if isBlank c then
          let g := gap.getD .empty
          if g.broken ∧ c = '\t' ∧ s.column < indent then
            readPlain flow indent text gap .blanks cs (s.step c)
          else readPlain flow indent text (some (g.addBlank c)) .anything cs (s.step c)
        else if gap.isSome &&
            ((!flow && s.column < indent) || (s.margin && atDocumentMark (c :: cs)) || c == '#') then
          some (text.reverse, ⟨c :: cs, s⟩)
        else if gap.isSome && flow && c == '-' && atFlowMark cs then none
        else if endsPlain flow (c :: cs) then some (text.reverse, ⟨c :: cs, s⟩)
        else readPlain flow indent (c :: Yaml.joinGap text gap) none .anything cs (s.step c)

def plain? (flow : Bool) (parent : Int) (c : Cursor) : Option (List Char × Cursor) := do
  let indent := parent + 1
  if flow && c.spot.column < indent then none
  if c.spot.margin && atDocumentMark c.rest then none
  if flow && c.rest.head? == some '-' && atFlowMark (c.rest.drop 1) then none
  let (text, c) ← readPlain flow indent [] none .anything c.rest c.spot
  if text.isEmpty then none else some (text, c)

/-- Whether a quoted scalar may go on at a place behind a gap. -/
def resumes (indent : Int) (gap : Option Gap) (s : Spot) (cs : List Char) : Bool :=
  gap.isNone || (indent ≤ s.column && !(s.column == 0 && atDocumentMark cs))

/-- A gap with one more blank or line break; a tab must not stand left of a column at the start of a
line. -/
def addToGap? (indent : Int) (gap : Option Gap) (c : Char) (s : Spot) : Option Gap :=
  let g := gap.getD .empty
  if c = '\n' then some (g.addBreak c)
  else if g.broken ∧ c = '\t' ∧ s.column < indent then none
  else some (g.addBlank c)

/-- The rest of a scalar in single quotes, where a quote is written twice. -/
def readSingle (indent : Int) :
    (text : List Char) → (gap : Option Gap) → List Char → Spot → Option (List Char × Cursor)
  | _, _, [], _ => none
  | text, gap, c :: cs, s =>
    if isBlank c ∨ c = '\n' then
      match addToGap? indent gap c s with
      | some g => readSingle indent text (some g) cs (s.step c)
      | none => none
    else if !resumes indent gap s (c :: cs) then none
    else if c = '\'' then
      match cs with
      | '\'' :: cs =>
        readSingle indent ('\'' :: Yaml.joinGap text gap) none cs (s.over ['\'', '\''])
      | cs => some ((Yaml.joinGap text gap).reverse, ⟨cs, s.step c⟩)
    else readSingle indent (c :: Yaml.joinGap text gap) none cs (s.step c)

/-- The rest of a scalar in double quotes. An escaped line break starts a gap that stands for its
later breaks alone. -/
def readDouble (indent : Int) :
    (text : List Char) → (gap : Option Gap) → List Char → Spot → Option (List Char × Cursor)
  | _, _, [], _ => none
  | text, gap, c :: cs, s =>
    if isBlank c ∨ c = '\n' then
      match addToGap? indent gap c s with
      | some g => readDouble indent text (some g) cs (s.step c)
      | none => none
    else if !resumes indent gap s (c :: cs) then none
    else if c = '"' then some ((Yaml.joinGap text gap).reverse, ⟨cs, s.step c⟩)
    else if c = '\\' then
      let text := Yaml.joinGap text gap
      match cs with
      | 'x' :: a :: b :: cs =>
        match Yaml.codeEscape? [a, b] with
        | some e => readDouble indent (e :: text) none cs (s.over ['\\', 'x', a, b])
        | none => none
      | 'u' :: a :: b :: c :: d :: cs =>
        match Yaml.codeEscape? [a, b, c, d] with
        | some e => readDouble indent (e :: text) none cs (s.over ['\\', 'u', a, b, c, d])
        | none => none
      | 'U' :: a :: b :: c :: d :: e :: f :: g :: h :: cs =>
        match Yaml.codeEscape? [a, b, c, d, e, f, g, h] with
        | some i =>
          readDouble indent (i :: text) none cs (s.over ['\\', 'U', a, b, c, d, e, f, g, h])
        | none => none
      | '\n' :: cs => readDouble indent text (some .escaped) cs (s.over ['\\', '\n'])
      | c :: cs =>
        match Yaml.letterEscape? c with
        | some d => readDouble indent (d :: text) none cs (s.over ['\\', c])
        | none => none
      | [] => none
    else readDouble indent (c :: Yaml.joinGap text gap) none cs (s.step c)

/-- Whether a text may follow a quoted scalar. Outside flow collections a key ends on the line on
which it starts. -/
def followsQuoted (flow sameLine : Bool) : List Char → Bool
  | [] => true
  | c :: _ => c == '\n' || (flow && (c == ',' || c == ']' || c == '\x7d')) ||
    (c == ':' && (flow || sameLine))

def quoted? (flow : Bool) (indent : Int) (single : Bool) (c : Cursor) :
    Option (List Char × Cursor) := do
  let line := c.spot.line
  let c := c.drop 1
  let (text, c) ← if single then readSingle indent [] none c.rest c.spot
    else readDouble indent [] none c.rest c.spot
  let (_, c) ← c.skipBlanks?
  if followsQuoted flow (c.spot.line == line) c.rest then some (text, c) else none

/-- The widest indentation among the first line that is not empty and the empty lines before it. -/
def widestIndent : (widest column : Nat) → List Char → Nat
  | widest, column, [] => max widest column
  | widest, column, c :: cs =>
    if c = ' ' then widestIndent widest (column + 1) cs
    else if c = '\n' then widestIndent (max widest column) 0 cs
    else max widest column

/-- Reads the lines of a block that are indented by `indent`, and empty ones. Lines that need not be
indented end at the mark of a document's end. -/
def readLines (folded : Bool) (indent : Nat) :
    Block → (inLine : Bool) → List Char → Spot → Block × Cursor
  | b, _, [], s => (b, ⟨[], s⟩)
  | b, true, c :: cs, s =>
    if c = '\n' then readLines folded indent { b with first := [c] } false cs (s.step c)
    else readLines folded indent (b.push c) true cs (s.step c)
  | b, false, c :: cs, s =>
    if s.column < indent ∧ c = ' ' then readLines folded indent b false cs (s.step c)
    else if c = '\n' then
      readLines folded indent { b with later := b.later ++ [c] } false cs (s.step c)
    else if s.column = indent ∧ ¬(indent = 0 ∧ tripled '.' (c :: cs)) then
      readLines folded indent ((b.beginLine folded (isBlank c)).push c) true cs (s.step c)
    else (b, ⟨c :: cs, s⟩)

/-- The text of a block without content that ends with the whole text. -/
def emptyBlock (chomping : Chomping) (breaks : List Char) : List Char :=
  match chomping with
  | .strip => []
  | .clip => ['\n']
  | .keep => if breaks.isEmpty then ['\n'] else breaks

/-- The block scalar after its indicator, inside a block of the given column. Where the whole text
ends with it behind its indentation, a line break is taken to follow. -/
def block? (folded : Bool) (parent : Int) (c : Cursor) : Option (List Char × Cursor) := do
  let line := c.spot.line
  let (chomping, width, count) ← Yaml.blockHeader? c.rest
  let c := (← (c.drop count).endLine?).drop 1
  if c.rest.head? == some '\t' then none
  let indent := match width with
    | some n => if 0 ≤ parent then parent.toNat + n else n
    | none =>
      let widest := max (widestIndent 0 0 c.rest) (parent + 1).toNat
      if 0 < parent then max widest 1 else widest
  let (b, c) := readLines folded indent ⟨[], [], [], false⟩ false c.rest c.spot
  if c.rest.isEmpty then
    if b.text.isEmpty then
      some (if c.spot.line = line then [] else emptyBlock chomping b.later, c)
    else
      let first := if max indent 1 ≤ c.spot.column then b.first ++ ['\n'] else b.first
      some ({ b with first }.finish chomping, c)
  else if b.text.isEmpty ∧ c.spot.column < indent ∧ parent < c.spot.column then none
  else some (b.finish chomping, c)

end Registry.CoreYaml
