import Registry.Yaml.Token

/-!
# Places in YAML settings

How a YAML text of settings is walked through. Only a line feed breaks lines here, once carriage
returns are unified with it; places are counted in characters; and the character NUL ends the text.
-/

namespace Registry.CoreYaml

/-- The lines of a text up to its end, each ended by a line feed. -/
def unifyBreaks : List Char → List Char
  | '\r' :: '\n' :: cs => '\n' :: unifyBreaks cs
  | '\r' :: cs => '\n' :: unifyBreaks cs
  | c :: cs => if c.toNat = 0 then [] else c :: unifyBreaks cs
  | [] => []

def isBlank (c : Char) : Bool := c == ' ' || c == '\t'

def isFlowMark (c : Char) : Bool := c == ',' || c == '[' || c == ']' || c == '\x7b' || c == '\x7d'

def atFlowMark (cs : List Char) : Bool := cs.head?.any isFlowMark

def atLineEnd (cs : List Char) : Bool := cs.head?.all (· == '\n')

/-- Whether a text is at its end, at a blank or at the end of a line. -/
def atGap (cs : List Char) : Bool := cs.head?.all fun c => isBlank c || c == '\n'

/-- Whether a text starts with three times the same character and a gap. -/
def tripled (c : Char) : List Char → Bool
  | a :: b :: d :: rest => a == c && b == c && d == c && atGap rest
  | _ => false

def atDocumentMark (cs : List Char) : Bool := tripled '-' cs || tripled '.' cs

structure Spot where
  index : Nat
  line : Nat
  column : Nat
  /-- Whether there is nothing but blanks before it on its line. -/
  margin : Bool
  deriving DecidableEq, Repr

def Spot.step (s : Spot) (c : Char) : Spot :=
  if c = '\n' then ⟨s.index + 1, s.line + 1, 0, true⟩
  else ⟨s.index + 1, s.line, s.column + 1, s.margin && isBlank c⟩

def Spot.over (s : Spot) (cs : List Char) : Spot := cs.foldl Spot.step s

structure Cursor where
  rest : List Char
  spot : Spot
  deriving Repr

namespace Cursor

def start (text : List Char) : Cursor := ⟨text, ⟨0, 0, 0, true⟩⟩

def drop (c : Cursor) (count : Nat) : Cursor := ⟨c.rest.drop count, c.spot.over (c.rest.take count)⟩

/-- The longest start of a text whose characters satisfy a test, and the cursor behind it. -/
def span (c : Cursor) (p : Char → Bool) : List Char × Cursor :=
  let taken := c.rest.takeWhile p
  (taken, ⟨c.rest.dropWhile p, c.spot.over taken⟩)

/-- The cursor behind a reader that gives what it leaves of the text. -/
def through {α : Type} (c : Cursor) (read : List Char → Option (α × List Char)) :
    Option (α × Cursor) :=
  (read c.rest).map fun (a, rest) => (a, c.drop (c.rest.length - rest.length))

/-- Skips blanks and a comment, which has to stand behind a blank: the blanks, and the cursor behind
the comment. -/
def skipBlanks? (c : Cursor) : Option (List Char × Cursor) :=
  let (blanks, c) := c.span isBlank
  match c.rest with
  | '#' :: _ => if blanks.isEmpty then none else some (blanks, (c.span (· != '\n')).2)
  | _ => some (blanks, c)

/-- The cursor at the end of a line that holds nothing else but blanks and a comment. -/
def endLine? (c : Cursor) : Option Cursor := do
  let (_, c) ← c.skipBlanks?
  if atLineEnd c.rest then some c else none

end Cursor

inductive Skipping where
  /-- Content ends it. -/
  | anything
  /-- No content may come. -/
  | blanks
  /-- All that comes belongs to a comment. -/
  | comment
  deriving DecidableEq, Repr

/-- Skips blanks, comments and line breaks; a line break outside flow collections allows keys. Content
must not follow a tab that stands left of the innermost block's column, with nothing but blanks
before it. -/
def skipGap (flow : Bool) (indent : Int) :
    Skipping → (keysAllowed : Bool) → List Char → Spot → Option (Bool × Cursor)
  | _, allowed, [], s => some (allowed, ⟨[], s⟩)
  | mode, allowed, c :: cs, s =>
    if c = '\n' then skipGap flow indent .anything (allowed || !flow) cs (s.step c)
    else match mode with
      | .comment => skipGap flow indent .comment allowed cs (s.step c)
      | .blanks =>
        if isBlank c then skipGap flow indent .blanks allowed cs (s.step c)
        else if c = '#' then skipGap flow indent .comment allowed cs (s.step c)
        else none
      | .anything =>
        if c = '\t' ∧ s.margin ∧ s.column < indent then
          skipGap flow indent .blanks allowed cs (s.step c)
        else if isBlank c then skipGap flow indent .anything allowed cs (s.step c)
        else if c = '#' then skipGap flow indent .comment allowed cs (s.step c)
        else some (allowed, ⟨c :: cs, s⟩)

end Registry.CoreYaml
