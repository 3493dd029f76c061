/-!
# YAML tokens

The tokens of a YAML stream, and the characters that a stream may hold. Line breaks are unified
before anything else is read: a carriage return, a line feed, both together and U+0085 all count as
one line feed; U+2028 and U+2029 break lines and stay what they are.
-/

namespace Registry.Yaml

inductive Token where
  /-- The directive that states the version. -/
  | version (major minor : Nat)
  /-- The directive that gives a tag handle its meaning. -/
  | handle (name meaning : String)
  | documentStart
  | documentEnd
  | blockSequence
  | blockMapping
  | blockEnd
  | flowSequence
  | flowSequenceEnd
  | flowMapping
  | flowMappingEnd
  | item
  | comma
  | key
  | value
  | aliasOf (name : String)
  | anchor (name : String)
  | tag (handle suffix : String)
  /-- A scalar; `plain` ones stand without quotes and without a block indicator. -/
  | scalar (text : String) (plain : Bool)
  deriving DecidableEq, Repr

def isAllowed (c : Char) : Bool :=
  let n := c.toNat
  n == 9 || n == 10 || n == 13 || (0x20 ≤ n && n ≤ 0x7e) || n == 0x85 ||
  (0xa0 ≤ n && n ≤ 0xd7ff) || (0xe000 ≤ n && n ≤ 0xfffd) || 0x10000 ≤ n

/-- Makes every line break but U+2028 and U+2029 a line feed. -/
def unifyBreaks : List Char → List Char
  | '\r' :: '\n' :: cs => '\n' :: unifyBreaks cs
  | '\r' :: cs => '\n' :: unifyBreaks cs
  | c :: cs => (if c.toNat = 0x85 then '\n' else c) :: unifyBreaks cs
  | [] => []

/-- Whether a character ends a line, line breaks being unified. -/
def isBreak (c : Char) : Bool := c == '\n' || c.toNat == 0x2028 || c.toNat == 0x2029

def isBlank (c : Char) : Bool := c == ' ' || c == '\t'

def atGap : List Char → Bool
  | [] => true
  | c :: _ => isBlank c || isBreak c

def isNameChar (c : Char) : Bool := c.isAlphanum || c == '_' || c == '-'

/-- Whether a text starts with three times the same character and a gap. -/
def tripled (c : Char) : List Char → Bool
  | a :: b :: d :: rest => a == c && b == c && d == c && atGap rest
  | _ => false

def atDocumentMark (cs : List Char) : Bool := tripled '-' cs || tripled '.' cs

structure Position where
  index : Nat
  line : Nat
  column : Nat
  deriving DecidableEq, Repr

def Position.step (p : Position) (c : Char) : Position :=
  let index := p.index + c.utf8Size
  if isBreak c then ⟨index, p.line + 1, 0⟩ else ⟨index, p.line, p.column + 1⟩

def Position.over (p : Position) (cs : List Char) : Position := cs.foldl Position.step p

structure Cursor where
  rest : List Char
  position : Position
  deriving Repr

def Cursor.drop (c : Cursor) (count : Nat) : Cursor :=
  ⟨c.rest.drop count, c.position.over (c.rest.take count)⟩

/-- The longest start of a text whose characters satisfy a test, and the cursor behind it. -/
def Cursor.span (c : Cursor) (p : Char → Bool) : List Char × Cursor :=
  let taken := c.rest.takeWhile p
  (taken, ⟨c.rest.dropWhile p, c.position.over taken⟩)

end Registry.Yaml
