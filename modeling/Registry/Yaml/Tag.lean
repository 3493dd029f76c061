import Registry.Yaml.Scalar
import Registry.Text.Utf8

/-!
# YAML tags, anchors and directives

Reading a tag, the name of an anchor or alias, and a directive line.
-/

namespace Registry.Yaml

/-- Whether a character may stand in a tag; flow notation only in a tag between angle brackets. -/
def isTagChar (verbatim : Bool) (c : Char) : Bool :=
  isNameChar c || ";/?:@&=+$.%!~*'()".toList.contains c ||
    (verbatim && (c == ',' || c == '[' || c == ']'))

/-- How many bytes the character that a lead byte starts has. -/
def byteCount? (lead : Nat) : Option Nat :=
  if lead < 0x80 then some 1
  else if lead / 32 = 6 then some 2
  else if lead / 16 = 14 then some 3
  else if lead / 8 = 30 then some 4
  else none

/-- Resolves the escapes in the characters of a tag. `due` counts the bytes that the character
being spelled still lacks; they must be escaped too. -/
def tagBytes : (due : Nat) → List Char → Option (List UInt8)
  | 0, [] => some []
  | _ + 1, [] => none
  | due, '%' :: a :: b :: cs => do
    let x ← Text.Percent.hexValue? a
    let y ← Text.Percent.hexValue? b
    let byte := 16 * x + y
    let left ← match due with
      | 0 => (byteCount? byte).map (· - 1)
      | due + 1 => if byte / 64 = 2 then some due else none
    let rest ← tagBytes left cs
    some (UInt8.ofNat byte :: rest)
  | due, c :: cs =>
    if c = '%' ∨ due ≠ 0 then none
    else (tagBytes 0 cs).map (Text.Utf8.encodeChar c ++ ·)

def tagText? (cs : List Char) : Option String :=
  (tagBytes 0 cs).map fun bytes => String.ofList (Text.Utf8.decodeLossy bytes)

/-- A tag handle, from its exclamation mark on: `!`, `!name` or `!name!`. -/
def readHandle (c : Cursor) : Option (List Char × Cursor) :=
  match c.rest with
  | '!' :: _ =>
    let (name, c) := (c.drop 1).span isNameChar
    match c.rest with
    | '!' :: _ => some ('!' :: name ++ ['!'], c.drop 1)
    | _ => some ('!' :: name, c)
  | _ => none

def tagEnds (flow : Bool) (cs : List Char) : Bool :=
  atGap cs || (flow && cs.head? == some ',')

/-- A tag: a suffix between angle brackets, or a handle and a suffix. The tag `!` alone has no
handle. -/
def readTag (flow : Bool) (c : Cursor) : Option (Token × Cursor) := do
  let (token, c) ← match c.rest with
    | '!' :: '<' :: _ =>
      let (cs, c) := (c.drop 2).span (isTagChar true)
      if cs.isEmpty then none
      match c.rest with
      | '>' :: _ => (tagText? cs).map fun suffix => (Token.tag "" suffix, c.drop 1)
      | _ => none
    | _ =>
      let (handle, c) ← readHandle c
      let (cs, c) := c.span (isTagChar false)
      if 2 ≤ handle.length ∧ handle.getLast? = some '!' then
        if cs.isEmpty then none
        (tagText? cs).map fun suffix => (Token.tag (String.ofList handle) suffix, c)
      else
        (tagText? cs).map fun suffix =>
          let suffix := String.ofList (handle.drop 1) ++ suffix
          (if suffix.isEmpty then Token.tag "" "!" else Token.tag "!" suffix, c)
  if tagEnds flow c.rest then some (token, c) else none

def anchorEnds (cs : List Char) : Bool :=
  atGap cs || cs.head?.any ("?:,]\x7d%@\x60".toList.contains ·)

def readName (c : Cursor) : Option (String × Cursor) :=
  let (name, c) := (c.drop 1).span isNameChar
  if name.isEmpty || !anchorEnds c.rest then none else some (String.ofList name, c)

def readVersionPart (c : Cursor) : Option (Nat × Cursor) :=
  let (ds, c) := c.span Char.isDigit
  if ds.isEmpty || 9 < ds.length then none
  else some (ds.foldl (fun n d => 10 * n + (d.toNat - 48)) 0, c)

/-- A directive, from its percent sign on to the end of its line. -/
def readDirective (c : Cursor) : Option (Token × Cursor) := do
  let (name, c) := (c.drop 1).span isNameChar
  if !atGap c.rest then none
  let (token, c) ← match String.ofList name with
    | "YAML" => do
      let (_, c) := c.span isBlank
      let (major, c) ← readVersionPart c
      match c.rest with
      | '.' :: _ =>
        let (minor, c) ← readVersionPart (c.drop 1)
        some (Token.version major minor, c)
      | _ => none
    | "TAG" => do
      let (_, c) := c.span isBlank
      let (handle, c) ← readHandle c
      if handle.length ≠ 1 ∧ handle.getLast? ≠ some '!' then none
      if !c.rest.head?.any isBlank then none
      let (_, c) := c.span isBlank
      let (cs, c) := c.span (isTagChar true)
      if cs.isEmpty || !atGap c.rest then none
      let meaning ← tagText? cs
      some (Token.handle (String.ofList handle) meaning, c)
    | _ => none
  let c ← endLine c
  some (token, c)

end Registry.Yaml
