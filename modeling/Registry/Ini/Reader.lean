import Registry.Text.Blank
import Registry.Text.Percent
import Registry.Text.Split
import Registry.Value

/-!
# Reading INI

The sections of an INI text, each with its keys; keys before the first section stand on their own.
Every value is a text. Of sections with the same name the last one counts, and so does the last of
equal keys in a section. Comments start at the margin.
-/

namespace Registry.Ini

/-- The character of a one-letter escape; a line break stands for nothing. -/
def letterEscape? : Char → Option (List Char)
  | '0' => some [Char.ofNat 0]
  | 'a' => some [Char.ofNat 7]
  | 'b' => some [Char.ofNat 8]
  | 't' => some ['\t']
  | 'r' => some ['\r']
  | 'n' => some ['\n']
  | '\n' => some []
  | _ => none

/-- The character whose code four hexadecimal digits spell; the first may be a plus sign. -/
def codeEscape? (a b c d : Char) : Option Char := do
  let digits := if a = '+' then [b, c, d] else [a, b, c, d]
  let n ← digits.foldlM (fun n c => (Text.Percent.hexValue? c).map (16 * n + ·)) 0
  if n.isValidChar then some (Char.ofNat n) else none

/-- The text up to a character that ends it, with its escapes resolved, and what is left from that
character on. At the end of the whole text it ends only if it may (`toEnd`). An escape of no meaning
stands for itself, and an escaped character ends nothing. -/
def readUntil (ends : Char → Bool) (toEnd : Bool) : List Char → Option (List Char × List Char)
  | [] => if toEnd then some ([], []) else none
  | '\\' :: 'x' :: a :: b :: c :: d :: rest =>
    match codeEscape? a b c d with
    | some e => (readUntil ends toEnd rest).map fun (cs, r) => (e :: cs, r)
    | none => none
  | '\\' :: c :: rest =>
    if c = 'x' then none
    else (readUntil ends toEnd rest).map fun (cs, r) => ((letterEscape? c).getD ['\\', c] ++ cs, r)
  | c :: rest =>
    if ends c then some ([], c :: rest)
    else if c = '\\' then none
    else (readUntil ends toEnd rest).map fun (cs, r) => (c :: cs, r)

def isBreak (c : Char) : Bool := c == '\n' || c == '\r'

def trimmed (cs : List Char) : String := Text.trim (String.ofList cs)

/-- The value behind the mark of a key: the rest of its line, the first part of it in quotes or
not. -/
def readValue (s : List Char) : Option (String × List Char) := do
  let s := s.dropWhile fun c => Text.isBlank c && !isBreak c
  let (quoted, s) ← match s with
    | q :: rest =>
      if q = '"' ∨ q = '\'' then
        (readUntil (· == q) false rest).map fun (cs, r) => (cs, r.drop 1)
      else some ([], s)
    | [] => some ([], s)
  let (cs, s) ← readUntil isBreak true s
  some (trimmed (quoted ++ cs), s)

/-- A text while it is being read: the sections so far, the open one last. -/
structure State where
  top : Fields
  sections : List (String × Fields)

def State.add (s : State) (key value : String) : State :=
  match s.sections.reverse with
  | [] => { s with top := s.top.insert key (.string value) }
  | (name, fields) :: earlier =>
    { s with sections := (earlier.reverse) ++ [(name, fields.insert key (.string value))] }

/-- What is left of a text behind blanks and line breaks, and whether it starts at the margin. -/
def skipBlanks : (atMargin : Bool) → List Char → Bool × List Char
  | margin, [] => (margin, [])
  | margin, c :: rest =>
    if c = '\n' then skipBlanks true rest
    else if Text.isBlank c then skipBlanks false rest
    else (margin, c :: rest)

def readLine (state : State) (atMargin : Bool) (s : List Char) : Option (State × List Char) :=
  match s with
  | [] => none
  | '[' :: rest => do
    let (name, r) ← readUntil (· == ']') false rest
    some ({ state with sections := state.sections ++ [(trimmed name, [])] }, r.drop 1)
  | c :: rest =>
    if c = ';' ∨ c = '#' then
      if atMargin then some (state, rest.dropWhile (· != '\n')) else none
    else do
      let (key, r) ← readUntil (fun c => c == '=' || c == ':') false (c :: rest)
      let key := trimmed key
      if key.isEmpty then none
      let (value, r) ← readValue (r.drop 1)
      some (state.add key value, r)

def readLines (state : State) (atMargin : Bool) (s : List Char) : Option State :=
  match skipBlanks atMargin s with
  | (_, []) => some state
  | (margin, t) =>
    match readLine state margin t with
    | none => none
    | some (state, r) => if r.length < s.length then readLines state false r else none
termination_by s.length

def read? (text : String) : Option Fields :=
  (readLines ⟨[], []⟩ true text.toList).map fun state =>
    state.sections.foldl (fun fields (name, entries) => fields.insert name (.mapping entries))
      state.top

end Registry.Ini
