import Registry.CoreYaml.Cursor
import Registry.Text.Percent

/-!
# Tags, anchors and directives of YAML settings

Reading a tag, the name of an anchor or alias, and a directive line. The meaning of a version does not
matter, and a directive of another name counts as one that gives the empty handle no meaning.
-/

namespace Registry.CoreYaml

open Yaml (Token isNameChar)

def isUriChar (c : Char) : Bool :=
  c.isAlphanum || "-#;/?:@&=+$,_.!~*'()[]%".toList.contains c

def isTagChar (c : Char) : Bool := isUriChar c && !isFlowMark c && c != '!'

def byte? (a b : Char) : Option Nat := do
  some (16 * (← Text.Percent.hexValue? a) + (← Text.Percent.hexValue? b))

/-- The text of characters that satisfy a test, with its escapes resolved, and what follows. An escape
is one byte, or two that spell the upper and lower half of a character's code. -/
def readEscaped (p : Char → Bool) : List Char → Option (List Char × List Char)
  | '%' :: a :: b :: cs => do
    let upper ← byte? a b
    if upper < 0x80 then
      let (text, rest) ← readEscaped p cs
      some (Char.ofNat upper :: text, rest)
    else match cs with
      | '%' :: a :: b :: cs => do
        let lower ← byte? a b
        let code := 256 * upper + lower
        if upper / 32 ≠ 6 ∨ lower / 64 ≠ 2 ∨ !code.isValidChar then none
        let (text, rest) ← readEscaped p cs
        some (Char.ofNat code :: text, rest)
      | _ => none
  | c :: cs =>
    if !p c then some ([], c :: cs)
    else if c = '%' then none
    else (readEscaped p cs).map fun (text, rest) => (c :: text, rest)
  | [] => some ([], [])

/-- A tag handle, from its exclamation mark on: `!`, `!name` or `!name!`. -/
def readHandle : List Char → Option (List Char × List Char)
  | '!' :: cs =>
    let name := cs.takeWhile isNameChar
    match cs.dropWhile isNameChar with
    | '!' :: rest => some ('!' :: name ++ ['!'], rest)
    | rest => some ('!' :: name, rest)
  | _ => none

/-- A tag: a suffix between angle brackets, or a handle and a suffix. The tag `!` alone has no
handle. -/
def readTag (cs : List Char) : Option (Token × List Char) :=
  match cs with
  | '!' :: '<' :: cs => do
    let (suffix, rest) ← readEscaped isUriChar cs
    match rest with
    | '>' :: rest => some (.tag "" (String.ofList suffix), rest)
    | _ => none
  | cs => do
    let (handle, rest) ← readHandle cs
    let (suffix, rest) ← readEscaped isTagChar rest
    if 2 ≤ handle.length ∧ handle.getLast? = some '!' then
      if suffix.isEmpty then none
      else some (.tag (String.ofList handle) (String.ofList suffix), rest)
    else
      let suffix := handle.drop 1 ++ suffix
      some (if suffix.isEmpty then .tag "" "!" else .tag "!" (String.ofList suffix), rest)

/-- A tag and the gap or, inside a flow collection, the notation that has to follow it. -/
def tag? (flow : Bool) (c : Cursor) : Option (Token × Cursor) := do
  let (t, c) ← c.through readTag
  if atGap c.rest || (flow && atFlowMark c.rest) then some (t, c) else none

def isAnchorChar (c : Char) : Bool :=
  !isBlank c && c != '\n' && c.toNat != 0xfeff && !isFlowMark c

def name? (c : Cursor) : Option (String × Cursor) :=
  let (name, c) := (c.drop 1).span isAnchorChar
  if name.isEmpty then none else some (String.ofList name, c)

/-- What follows a number of at most nine digits. -/
def dropNumber? (cs : List Char) : Option (List Char) :=
  let ds := cs.takeWhile Char.isDigit
  if ds.isEmpty || 9 < ds.length then none else some (cs.dropWhile Char.isDigit)

def dropVersion? (cs : List Char) : Option (List Char) := do
  match ← dropNumber? (cs.dropWhile isBlank) with
  | '.' :: cs => dropNumber? cs
  | _ => none

def readMeaning (cs : List Char) : Option (Token × List Char) := do
  let (handle, cs) ← readHandle (cs.dropWhile isBlank)
  if handle.length ≠ 1 ∧ handle.getLast? ≠ some '!' then none
  let cs := cs.dropWhile isBlank
  if !cs.head?.any fun c => c == '!' || isTagChar c then none
  let (meaning, rest) ← readEscaped isUriChar cs
  if atGap rest then some (.handle (String.ofList handle) (String.ofList meaning), rest) else none

def readDirective (cs : List Char) : Option (Token × List Char) :=
  let name := (cs.drop 1).takeWhile isNameChar
  let rest := (cs.drop 1).dropWhile isNameChar
  if name.isEmpty || !atGap rest then none
  else match String.ofList name with
    | "YAML" => (dropVersion? rest).map (.version 1 2, ·)
    | "TAG" => readMeaning rest
    | _ => some (.handle "" "", rest.dropWhile (· != '\n'))

def directive? (c : Cursor) : Option (Token × Cursor) := do
  let (t, c) ← c.through readDirective
  some (t, (← c.endLine?).drop 1)

end Registry.CoreYaml
