import Registry.Decimal.Numeral
import Registry.Decimal.Word
import Registry.Text.Blank
import Registry.Text.Mark
import Registry.Text.Split
import Registry.Text.Word
import Registry.Value

/-!
# Reading JSON5

The value of a JSON5 text, or none: JSON with comments, keys without quotes, strings between single
quotes, commas at the end, and more spellings of numbers. Integers have 64 bits and a sign, or 32
bits without one in hexadecimal digits; other numbers must be finite unless they are spelled as words.
-/

namespace Registry.Json5

def isBreak (c : Char) : Bool :=
  c == '\n' || c == '\r' || c.toNat == 0x2028 || c.toNat == 0x2029

def isSpace (c : Char) : Bool := (Text.isBlank c && c.toNat != 0x85) || c.toNat == 0xfeff

def closeComment? : List Char → Option (List Char)
  | '*' :: '/' :: rest => some rest
  | _ :: rest => closeComment? rest
  | [] => none

theorem length_closeComment? {s r : List Char} (h : closeComment? s = some r) :
    r.length < s.length := by
  fun_induction closeComment? s with
  | case1 rest =>
    simp only [Option.some.injEq] at h
    simp only [← h, List.length_cons]
    omega
  | case2 _ rest _ ih =>
    have := ih h
    simp only [List.length_cons]
    omega
  | case3 => simp at h

def skip (s : List Char) : List Char :=
  match s with
  | '/' :: '/' :: rest => skip (rest.dropWhile (!isBreak ·))
  | '/' :: '*' :: rest =>
    match _h : closeComment? rest with
    | some r => skip r
    | none => '/' :: '*' :: rest
  | c :: rest => if isSpace c then skip rest else c :: rest
  | [] => []
termination_by s.length
decreasing_by
  · have := (List.dropWhile_suffix (!isBreak ·) (l := rest)).length_le
    simp only [List.length_cons]
    omega
  · have := length_closeComment? _h
    simp only [List.length_cons]
    omega
  · simp

def hex4? (a b c d : Char) : Option Nat := Decimal.naturalIn? 16 [a, b, c, d]

/-- The character that one code unit or a pair of surrogates at the start of a text spells, and what
follows. -/
def readUnits? : List Char → Option (Char × List Char)
  | a :: b :: c :: d :: rest => do
    let n ← hex4? a b c d
    if 0xdc00 ≤ n ∧ n ≤ 0xdfff then none
    if n < 0xd800 ∨ 0xdfff < n then return (Char.ofNat n, rest)
    match rest with
    | '\\' :: 'u' :: e :: f :: g :: h :: rest =>
      let m ← hex4? e f g h
      if m < 0xdc00 ∨ 0xdfff < m then none
      some (Char.ofNat (0x10000 + (n - 0xd800) * 0x400 + (m - 0xdc00)), rest)
    | _ => none
  | _ => none

/-- The character that an escape of one letter stands for: itself, unless it has a meaning. -/
def letterEscape? (c : Char) : Option Char :=
  match c with
  | 'b' => some (Char.ofNat 8)
  | 'f' => some (Char.ofNat 12)
  | 'n' => some '\n'
  | 'r' => some '\r'
  | 't' => some '\t'
  | 'v' => some (Char.ofNat 11)
  | '0' => some (Char.ofNat 0)
  | c => if c.isDigit then none else some c

/-- What an escape behind a backslash stands for, and what follows it. An escaped line break stands
for nothing. -/
def readEscape? : List Char → Option (List Char × List Char)
  | 'x' :: a :: b :: rest =>
    (Decimal.naturalIn? 16 [a, b]).map fun n => ([Char.ofNat n], rest)
  | 'u' :: rest => (readUnits? rest).map fun (c, r) => ([c], r)
  | '\r' :: '\n' :: rest => some ([], rest)
  | c :: rest =>
    if isBreak c then some ([], rest)
    else if c = 'x' then none
    else (letterEscape? c).map fun d => ([d], rest)
  | [] => none

def readString (quote : Char) (s : List Char) : Option (List Char × List Char) :=
  match s with
  | [] => none
  | c :: rest =>
    if c = quote then some ([], rest)
    else if c = '\n' ∨ c = '\r' then none
    else if c = '\\' then
      match readEscape? rest with
      | none => none
      | some (cs, r) =>
        if r.length ≤ rest.length then (readString quote r).map fun (ds, t) => (cs ++ ds, t) else none
    else (readString quote rest).map fun (ds, t) => (c :: ds, t)
termination_by s.length

def isNamePart (c : Char) : Bool := Text.isWordChar c || c == '$'

def isNameStart (c : Char) : Bool :=
  isNamePart c && !c.isDigit && !Text.isMark c && c.toNat != 0x200c && c.toNat != 0x200d

/-- The characters of a key without quotes, which may be escaped, and what follows it. -/
def readName (first : Bool) (s : List Char) : Option (List Char × List Char) :=
  match s with
  | [] => some ([], [])
  | '\\' :: 'u' :: rest =>
    match readUnits? rest with
    | none => none
    | some (c, r) =>
      if r.length ≤ rest.length then (readName false r).map fun (cs, t) => (c :: cs, t) else none
  | c :: rest =>
    if if first then isNameStart c else isNamePart c then
      (readName false rest).map fun (cs, t) => (c :: cs, t)
    else some ([], c :: rest)
termination_by s.length

def readKey (s : List Char) : Option (String × List Char) := do
  let (cs, r) ← match s with
    | '"' :: rest => readString '"' rest
    | '\'' :: rest => readString '\'' rest
    | s => (readName true s).filter fun (cs, _) => !cs.isEmpty
  some (String.ofList cs, r)

/-- An exponent at the start of a text, as far as it is one, and what follows. -/
def readExponent (s : List Char) : List Char × List Char :=
  match s with
  | e :: rest =>
    let (sign, ds) := Decimal.signPart rest
    let digits := ds.takeWhile Char.isDigit
    if (e = 'e' ∨ e = 'E') ∧ !digits.isEmpty then
      (e :: sign.toList ++ digits, ds.dropWhile Char.isDigit)
    else ([], s)
  | [] => ([], [])

/-- The digits of a whole number: a single zero or digits that do not start with one. -/
def readWhole (s : List Char) : List Char × List Char :=
  match s with
  | '0' :: rest => (['0'], rest)
  | s => (s.takeWhile Char.isDigit, s.dropWhile Char.isDigit)

def readWord? (s : List Char) : Option (Float × List Char) :=
  if "Infinity".toList.isPrefixOf s then some (Float.ofBits 0x7ff0000000000000, s.drop 8)
  else if "NaN".toList.isPrefixOf s then some (Float.ofBits 0x7ff8000000000000, s.drop 3)
  else none

/-- A number at the start of a text, and what follows it. Words and hexadecimal digits take no plus
sign, hexadecimal digits no minus sign either. -/
def readNumber (s : List Char) : Option (Number × List Char) := do
  let (sign, t) := Decimal.signPart s
  let negate (x : Float) : Float := if sign = some '-' then -x else x
  match t with
  | '0' :: x :: rest =>
    if (x = 'x' ∨ x = 'X') ∧ rest.head?.any fun c => (Decimal.digitIn? 16 c).isSome then
      let isHex (c : Char) : Bool := (Decimal.digitIn? 16 c).isSome
      let n ← Decimal.naturalIn? 16 (rest.takeWhile isHex)
      if sign.isSome ∨ 0x100000000 ≤ n then none
      return (.integer n, rest.dropWhile isHex)
  | _ => pure ()
  match readWord? t with
  | some (x, rest) => if sign = some '+' then none else some (.real (negate x), rest)
  | none =>
    let (whole, r) := readWhole t
    let (fraction, r) := match r with
      | '.' :: r => (some (r.takeWhile Char.isDigit), r.dropWhile Char.isDigit)
      | r => (none, r)
    if whole.isEmpty ∧ (fraction.getD []).isEmpty then none
    let (exponent, r) := readExponent r
    if fraction.isNone ∧ exponent.isEmpty then
      let n : Int := Decimal.ofDigits whole
      let z := if sign = some '-' then -n else n
      if Decimal.fitsSigned z then some (.integer z, r) else none
    else
      let d ← Decimal.decimal? (whole ++ '.' :: fraction.getD [] ++ exponent)
      if d.toFloat.isInf then none else some (.real (negate d.toFloat), r)

def readItems (readValue : List Char → Option (Value × List Char)) (s : List Char) :
    Option (List Value × List Char) :=
  match skip s with
  | ']' :: r => some ([], r)
  | t =>
    match readValue t with
    | none => none
    | some (v, r) =>
      match skip r with
      | ',' :: r =>
        if r.length < s.length then (readItems readValue r).map fun (vs, r) => (v :: vs, r) else none
      | ']' :: r => some ([v], r)
      | _ => none
termination_by s.length

def readEntry (readValue : List Char → Option (Value × List Char)) (s : List Char) :
    Option ((String × Value) × List Char) := do
  let (key, r) ← readKey s
  match skip r with
  | ':' :: r =>
    let (v, r) ← readValue (skip r)
    some ((key, v), r)
  | _ => none

def readEntries (readValue : List Char → Option (Value × List Char)) (s : List Char) :
    Option (Fields × List Char) :=
  match skip s with
  | '\x7d' :: r => some ([], r)
  | t =>
    match readEntry readValue t with
    | none => none
    | some (e, r) =>
      match skip r with
      | ',' :: r =>
        if r.length < s.length then (readEntries readValue r).map fun (es, r) => (e :: es, r)
        else none
      | '\x7d' :: r => some ([e], r)
      | _ => none
termination_by s.length

def readValue : (depth : Nat) → List Char → Option (Value × List Char)
  | depth + 1, '[' :: r => (readItems (readValue depth) r).map fun (vs, r) => (.sequence vs, r)
  | depth + 1, '\x7b' :: r =>
    (readEntries (readValue depth) r).map fun (es, r) => (.mapping (Table.ofEntries es), r)
  | _, '"' :: r => (readString '"' r).map fun (cs, r) => (.string (String.ofList cs), r)
  | _, '\'' :: r => (readString '\'' r).map fun (cs, r) => (.string (String.ofList cs), r)
  | _, s =>
    if "null".toList.isPrefixOf s then some (.null, s.drop 4)
    else if "true".toList.isPrefixOf s then some (.boolean true, s.drop 4)
    else if "false".toList.isPrefixOf s then some (.boolean false, s.drop 5)
    else (readNumber s).map fun (n, r) => (.number n, r)

/-- The value of a JSON5 text. It nests no deeper than it is long. -/
def read? (text : String) : Option Value := do
  let s := text.toList
  let (v, r) ← readValue s.length (skip s)
  if (skip r).isEmpty then some v else none

end Registry.Json5
