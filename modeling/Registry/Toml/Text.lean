import Registry.Text.Percent

/-!
# TOML strings

The four spellings of a string: between double quotes with escapes or between single quotes without,
each on one line or between triple quotes on several. A line break counts as one character.
-/

namespace Registry.Toml

def isText (c : Char) : Bool := c == '\t' || (0x20 ≤ c.toNat && c.toNat ≠ 0x7f)

def isBlank (c : Char) : Bool := c == ' ' || c == '\t'

def atBreak : List Char → Bool
  | '\n' :: _ | '\r' :: '\n' :: _ => true
  | _ => false

def codeEscape? (digits : List Char) : Option Char := do
  let n ← digits.foldlM (fun n c => (Text.Percent.hexValue? c).map (16 * n + ·)) 0
  if n.isValidChar then some (Char.ofNat n) else none

def letterEscape? : Char → Option Char
  | 'b' => some (Char.ofNat 8)
  | 't' => some '\t'
  | 'n' => some '\n'
  | 'f' => some (Char.ofNat 12)
  | 'r' => some '\r'
  | '"' => some '"'
  | '\\' => some '\\'
  | _ => none

/-- Resolves the escapes of a string. On several lines (`long`), a backslash at the end of a line
stands for nothing, together with all blanks and line breaks behind it, which are being skipped. -/
def unescape (long : Bool) : (skipping : Bool) → List Char → Option (List Char)
  | _, [] => some []
  | _, '\\' :: 'u' :: a :: b :: c :: d :: rest => do
    let code ← codeEscape? [a, b, c, d]
    (unescape long false rest).map (code :: ·)
  | _, '\\' :: 'U' :: a :: b :: c :: d :: e :: f :: g :: h :: rest => do
    let code ← codeEscape? [a, b, c, d, e, f, g, h]
    (unescape long false rest).map (code :: ·)
  | _, '\\' :: c :: rest =>
    match letterEscape? c with
    | some d => (unescape long false rest).map (d :: ·)
    | none =>
      if long && atBreak ((c :: rest).dropWhile isBlank) then unescape long true rest else none
  | skipping, '\r' :: '\n' :: rest =>
    if !long then none
    else if skipping then unescape long true rest
    else (unescape long false rest).map ('\n' :: ·)
  | skipping, c :: rest =>
    if c = '\\' then none
    else if skipping && (isBlank c || c == '\n') then unescape long true rest
    else if isText c || (long && c == '\n') then (unescape long false rest).map (c :: ·)
    else none

/-- The text up to the quote that ends a string on one line, and what follows the quote. -/
def spanQuoted (quote : Char) (escapes : Bool) : List Char → Option (List Char × List Char)
  | [] => none
  | c :: rest =>
    if c = quote then some ([], rest)
    else if escapes && c = '\\' then
      match rest with
      | [] => none
      | d :: rest => (spanQuoted quote escapes rest).map fun (cs, r) => (c :: d :: cs, r)
    else (spanQuoted quote escapes rest).map fun (cs, r) => (c :: cs, r)

/-- The text up to the three quotes that end a string on several lines, and what follows them. Up to
two quotes before those belong to the text. -/
def spanLong (quote : Char) (escapes : Bool) : List Char → Option (List Char × List Char)
  | [] => none
  | c :: rest =>
    if (List.replicate 3 quote).isPrefixOf (c :: rest) then
      let extra := ((rest.drop 2).takeWhile (· == quote)).take 2
      some (extra, rest.drop (2 + extra.length))
    else if escapes && c = '\\' then
      match rest with
      | [] => none
      | d :: rest => (spanLong quote escapes rest).map fun (cs, r) => (c :: d :: cs, r)
    else (spanLong quote escapes rest).map fun (cs, r) => (c :: cs, r)

def literal (long : Bool) : List Char → Option (List Char)
  | [] => some []
  | '\r' :: '\n' :: rest => if long then (literal long rest).map ('\n' :: ·) else none
  | c :: rest =>
    if isText c || (long && c == '\n') then (literal long rest).map (c :: ·) else none

/-- A string without its first line break, if it starts with one. -/
def dropBreak : List Char → List Char
  | '\n' :: rest | '\r' :: '\n' :: rest => rest
  | cs => cs

def characters (quote : Char) (long : Bool) (cs : List Char) : Option (List Char) :=
  if quote = '"' then unescape long false cs else literal long cs

def readShort (quote : Char) (s : List Char) : Option (String × List Char) := do
  let (cs, rest) ← spanQuoted quote (quote == '"') s
  some (String.ofList (← characters quote false cs), rest)

def readString (s : List Char) : Option (String × List Char) :=
  match s with
  | q :: r =>
    if q ≠ '"' ∧ q ≠ '\'' then none
    else if [q, q].isPrefixOf r then do
      let (cs, rest) ← spanLong q (q == '"') (dropBreak (r.drop 2))
      some (String.ofList (← characters q true cs), rest)
    else readShort q r
  | [] => none

end Registry.Toml
