import Registry.Yaml.Token
import Registry.Text.Percent

/-!
# YAML scalars

Reading the three spellings of a scalar: plain, quoted, and as a block of lines. Line breaks inside a
plain or quoted scalar fold: one break is a space, and of several the first one goes.
-/

namespace Registry.Yaml

structure Gap where
  /-- The blanks before the first line break. -/
  blanks : List Char
  first : List Char
  later : List Char
  broken : Bool

namespace Gap

def empty : Gap := ⟨[], [], [], false⟩

/-- The gap that starts with an escaped line break. -/
def escaped : Gap := ⟨[], [], [], true⟩

/-- A gap with one more blank; at the start of a line it does not matter. -/
def addBlank (g : Gap) (c : Char) : Gap :=
  if g.broken then g else { g with blanks := g.blanks ++ [c] }

def addBreak (g : Gap) (c : Char) : Gap :=
  if g.broken then { g with later := g.later ++ [c] } else ⟨[], [c], [], true⟩

def add (g : Gap) (c : Char) : Gap := if isBreak c then g.addBreak c else g.addBlank c

def text (g : Gap) : List Char :=
  if g.broken then
    if g.first = ['\n'] then (if g.later.isEmpty then [' '] else g.later) else g.first ++ g.later
  else g.blanks

end Gap

def isFlowMark (c : Char) : Bool := c == ',' || c == '[' || c == ']' || c == '\x7b' || c == '\x7d'

/-- Whether a text starts with a character that must not follow a colon in a flow collection. -/
def colonClash : List Char → Bool
  | c :: _ => isFlowMark c || c == '?'
  | [] => false

/-- What reading a plain scalar gives: the text, where it ends, and whether a line break came last. -/
structure Plain where
  text : List Char
  cursor : Cursor
  broken : Bool

/-- The rest of a plain scalar. `text` is what was read, last character first, and `gap` the blanks
since then. The scalar ends at a colon before a gap, at a comment, at a document mark, where a line
is indented less than `indent`, and inside a flow collection at its notation. -/
def readPlain (flow : Bool) (indent : Int) :
    (text : List Char) → (gap : Option Gap) → List Char → Position → Option Plain
  | text, gap, [], p => some ⟨text.reverse, ⟨[], p⟩, gap.any (·.broken)⟩
  | text, gap, c :: cs, p =>
    if isBlank c || isBreak c then
      let g := gap.getD .empty
      if g.broken && c == '\t' && p.column < indent then none
      else readPlain flow indent text (some (g.add c)) cs (p.step c)
    else
      let stop := gap.isSome &&
        ((!flow && p.column < indent) || c == '#' || (p.column == 0 && atDocumentMark (c :: cs)))
      if stop then some ⟨text.reverse, ⟨c :: cs, p⟩, gap.any (·.broken)⟩
      else if flow && c == ':' && colonClash cs then none
      else if (c == ':' && atGap cs) || (flow && isFlowMark c) then
        some ⟨text.reverse, ⟨c :: cs, p⟩, gap.any (·.broken)⟩
      else
        let joined := match gap with
          | some g => g.text.reverse ++ text
          | none => text
        readPlain flow indent (c :: joined) none cs (p.step c)

def letterEscape? : Char → Option Char
  | '0' => some (Char.ofNat 0)
  | 'a' => some (Char.ofNat 7)
  | 'b' => some (Char.ofNat 8)
  | 't' | '\t' => some '\t'
  | 'n' => some '\n'
  | 'v' => some (Char.ofNat 11)
  | 'f' => some (Char.ofNat 12)
  | 'r' => some '\r'
  | 'e' => some (Char.ofNat 27)
  | ' ' => some ' '
  | '"' => some '"'
  | '/' => some '/'
  | '\\' => some '\\'
  | 'N' => some (Char.ofNat 0x85)
  | '_' => some (Char.ofNat 0xa0)
  | 'L' => some (Char.ofNat 0x2028)
  | 'P' => some (Char.ofNat 0x2029)
  | _ => none

def codeEscape? (digits : List Char) : Option Char := do
  let n ← digits.foldlM (fun n c => (Text.Percent.hexValue? c).map (16 * n + ·)) 0
  if n.isValidChar then some (Char.ofNat n) else none

def joinGap (text : List Char) : Option Gap → List Char
  | some g => g.text.reverse ++ text
  | none => text

/-- Whether a document mark stands where a quoted scalar goes on after a gap. -/
def markInQuotes (gap : Option Gap) (p : Position) (cs : List Char) : Bool :=
  gap.isSome && p.column == 0 && atDocumentMark cs

/-- The rest of a scalar in single quotes, where a quote is written twice. -/
def readSingle : (text : List Char) → (gap : Option Gap) → List Char → Position →
    Option (List Char × Cursor)
  | _, _, [], _ => none
  | text, gap, '\'' :: '\'' :: cs, p =>
    readSingle ('\'' :: joinGap text gap) none cs ((p.step '\'').step '\'')
  | text, gap, '\'' :: cs, p => some ((joinGap text gap).reverse, ⟨cs, p.step '\''⟩)
  | text, gap, c :: cs, p =>
    if markInQuotes gap p (c :: cs) then none
    else if isBlank c || isBreak c then
      readSingle text (some ((gap.getD .empty).add c)) cs (p.step c)
    else readSingle (c :: joinGap text gap) none cs (p.step c)

/-- The rest of a scalar in double quotes. An escaped line break starts a gap that stands for its
later breaks alone. -/
def readDouble : (text : List Char) → (gap : Option Gap) → List Char → Position →
    Option (List Char × Cursor)
  | _, _, [], _ => none
  | text, gap, '"' :: cs, p => some ((joinGap text gap).reverse, ⟨cs, p.step '"'⟩)
  | text, gap, '\\' :: 'x' :: a :: b :: cs, p =>
    match codeEscape? [a, b] with
    | some c => readDouble (c :: joinGap text gap) none cs (p.over ['\\', 'x', a, b])
    | none => none
  | text, gap, '\\' :: 'u' :: a :: b :: c :: d :: cs, p =>
    match codeEscape? [a, b, c, d] with
    | some e => readDouble (e :: joinGap text gap) none cs (p.over ['\\', 'u', a, b, c, d])
    | none => none
  | text, gap, '\\' :: 'U' :: a :: b :: c :: d :: e :: f :: g :: h :: cs, p =>
    match codeEscape? [a, b, c, d, e, f, g, h] with
    | some i =>
      readDouble (i :: joinGap text gap) none cs (p.over ['\\', 'U', a, b, c, d, e, f, g, h])
    | none => none
  | text, gap, '\\' :: c :: cs, p =>
    if isBreak c then readDouble (joinGap text gap) (some .escaped) cs ((p.step '\\').step c)
    else match letterEscape? c with
      | some d => readDouble (d :: joinGap text gap) none cs ((p.step '\\').step c)
      | none => none
  | text, gap, c :: cs, p =>
    if markInQuotes gap p (c :: cs) then none
    else if isBlank c || isBreak c then
      readDouble text (some ((gap.getD .empty).add c)) cs (p.step c)
    else readDouble (c :: joinGap text gap) none cs (p.step c)

inductive Chomping where
  | strip
  | clip
  | keep

/-- A block scalar while it is read: the text, last character first, the break that ended the last
line, the breaks after it, and whether that line started with a blank. -/
structure Block where
  text : List Char
  first : List Char
  later : List Char
  leadingBlank : Bool

namespace Block

/-- A block whose next line starts. A folded block joins two lines by a space unless one of them
starts with a blank. -/
def beginLine (folded : Bool) (b : Block) (blankLine : Bool) : Block :=
  let joined :=
    if folded && b.first == ['\n'] && !b.leadingBlank && !blankLine then
      if b.later.isEmpty then ' ' :: b.text else b.text
    else b.first.reverse ++ b.text
  ⟨b.later.reverse ++ joined, [], [], blankLine⟩

def push (b : Block) (c : Char) : Block := { b with text := c :: b.text }

def finish (chomping : Chomping) (b : Block) : List Char :=
  b.text.reverse ++ match chomping with
    | .strip => []
    | .clip => b.first
    | .keep => b.first ++ b.later

end Block

/-- The widest indentation among the first line that is not empty and the empty lines before it. A
tab in it is an error. -/
def widestIndent : (widest column : Nat) → List Char → Option Nat
  | widest, column, [] => some (max widest column)
  | widest, column, c :: cs =>
    if c = ' ' then widestIndent widest (column + 1) cs
    else if c = '\t' then none
    else if isBreak c then widestIndent (max widest column) 0 cs
    else some (max widest column)

/-- Reads the lines of a block that are indented by `indent` or more, and empty ones. -/
def readLines (folded : Bool) (indent : Nat) :
    Block → (inLine : Bool) → List Char → Position → Option (Block × Cursor)
  | b, _, [], p => some (b, ⟨[], p⟩)
  | b, true, c :: cs, p =>
    if isBreak c then readLines folded indent { b with first := [c] } false cs (p.step c)
    else readLines folded indent (b.push c) true cs (p.step c)
  | b, false, c :: cs, p =>
    if p.column < indent ∧ c = ' ' then readLines folded indent b false cs (p.step c)
    else if p.column < indent ∧ c = '\t' then none
    else if isBreak c then
      readLines folded indent { b with later := b.later ++ [c] } false cs (p.step c)
    else if p.column = indent then
      readLines folded indent ((b.beginLine folded (isBlank c)).push c) true cs (p.step c)
    else some (b, ⟨c :: cs, p⟩)

def chomping? : Char → Option Chomping
  | '+' => some .keep
  | '-' => some .strip
  | _ => none

/-- The header at the start of a text: chomping, indentation relative to the parent, and how many
characters it has. -/
def blockHeader? (cs : List Char) : Option (Chomping × Option Nat × Nat) :=
  let width? (d : Char) : Option Nat := if d.isDigit then some (d.toNat - 48) else none
  let (chomping, width, count) : Chomping × Option Nat × Nat := match cs with
    | a :: b :: _ =>
      match chomping? a, chomping? b, width? a, width? b with
      | some m, _, _, some n => (m, some n, 2)
      | some m, _, _, none => (m, none, 1)
      | none, some m, some n, _ => (m, some n, 2)
      | none, none, some n, _ => (.clip, some n, 1)
      | none, _, none, _ => (.clip, none, 0)
    | [a] =>
      match chomping? a, width? a with
      | some m, _ => (m, none, 1)
      | none, some n => (.clip, some n, 1)
      | none, none => (.clip, none, 0)
    | [] => (.clip, none, 0)
  if width = some 0 then none else some (chomping, width, count)

/-- Skips blanks and a comment up to the line break, which is skipped too. -/
def endLine (c : Cursor) : Option Cursor :=
  let (_, c) := c.span isBlank
  let c := match c.rest with
    | '#' :: _ => (c.span fun d => !isBreak d).2
    | _ => c
  match c.rest with
  | [] => some c
  | d :: _ => if isBreak d then some (c.drop 1) else none

/-- The block scalar after its indicator, inside a block of the given indentation. -/
def readBlock (folded : Bool) (parent : Int) (c : Cursor) : Option (List Char × Cursor) := do
  let (chomping, width, count) ← blockHeader? c.rest
  let c ← endLine (c.drop count)
  let indent ← match width with
    | some n => some (if 0 ≤ parent then parent.toNat + n else n)
    | none => (widestIndent 0 0 c.rest).map fun n => max (max n (parent + 1).toNat) 1
  let (b, c) ← readLines folded indent ⟨[], [], [], false⟩ false c.rest c.position
  some (b.finish chomping, c)

end Registry.Yaml
