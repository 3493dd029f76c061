import Registry.Decimal.Shortest
import Registry.Text.Percent
import Registry.Toml.Text

/-!
# Writing TOML

Strings are written in the first spelling that needs no escapes: between double quotes, between
single quotes, and the same on several lines. Where all of them need some, double quotes stand.
-/

namespace Registry.Toml

def longestRun (c : Char) (cs : List Char) : Nat :=
  (cs.foldl (fun (longest, current) d =>
    let current := if d = c then current + 1 else 0
    (max longest current, current)) (0, 0)).1

/-- Whether a character can be written only by a code or a letter. -/
def needsCode (c : Char) : Bool := !isText c && c != '\n'

def codeOf (c : Char) : List Char :=
  '\\' :: 'u' :: (List.range 4).reverse.map fun i => Text.Percent.hexDigit (c.toNat / Nat.pow 16 i % 16)

/-- Writes the characters of a string between double quotes. Of several quotes in a row, as many as
the spelling allows stand for themselves. -/
def escapeAll (long : Bool) : (quotes : Nat) → List Char → List Char
  | _, [] => []
  | quotes, c :: cs =>
    if c = '"' then
      if long && quotes < 2 then c :: escapeAll long (quotes + 1) cs
      else '\\' :: c :: escapeAll long 0 cs
    else
      let written := if c = '\\' then ['\\', '\\']
        else if c = Char.ofNat 8 then ['\\', 'b']
        else if c = '\t' then ['\\', 't']
        else if c = '\n' then (if long then ['\n'] else ['\\', 'n'])
        else if c = Char.ofNat 12 then ['\\', 'f']
        else if c = '\r' then ['\\', 'r']
        else if needsCode c then codeOf c
        else [c]
      written ++ escapeAll long 0 cs

/-- How a string is written: with which quotes, and whether on several lines. -/
structure Spelling where
  quote : Char
  long : Bool
  deriving DecidableEq, Repr

def spelling (cs : List Char) : Spelling :=
  let codes := cs.any needsCode
  let escapes := cs.contains '\\'
  let lines := cs.contains '\n'
  let double := longestRun '"' cs
  let single := longestRun '\'' cs
  if !codes && !escapes && double = 0 && !lines then ⟨'"', false⟩
  else if !codes && single = 0 && !lines then ⟨'\'', false⟩
  else if !codes && !escapes && double ≤ 2 then ⟨'"', true⟩
  else if !codes && single ≤ 2 then ⟨'\'', true⟩
  else ⟨'"', lines⟩

def quote (s : String) : List Char :=
  let cs := s.toList
  let spelling := spelling cs
  let mark := List.replicate (if spelling.long then 3 else 1) spelling.quote
  let start := if spelling.long && cs.contains '\n' then ['\n'] else []
  let written := if spelling.quote = '"' then escapeAll spelling.long 0 cs else cs
  mark ++ start ++ written ++ mark

inductive Scalar where
  | text (s : String)
  | natural (n : Nat)
  | boolean (b : Bool)
  deriving DecidableEq, Repr

def Scalar.written : Scalar → List Char
  | text s => quote s
  | natural n => Decimal.digitChars n
  | boolean b => if b then "true".toList else "false".toList

def tableLines (name : String) (entries : List (String × Scalar)) : List (List Char) :=
  ('[' :: name.toList ++ [']']) :: entries.map fun (key, v) => key.toList ++ " = ".toList ++ v.written

def written (tables : List (String × List (String × Scalar))) : String :=
  let blocks := tables.map fun (name, entries) =>
    (tableLines name entries).flatMap fun line => line ++ ['\n']
  String.ofList (blocks.intersperse ['\n']).flatten

end Registry.Toml
