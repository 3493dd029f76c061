import Registry.Decimal.Numeral
import Registry.Decimal.Word
import Registry.Value

/-!
# Reading RON

The value of a RON text, or none. Structures with named parts and maps are mappings, whose keys are
texts; structures without names, tuples and lists are sequences; an option is its content or null, and
so is a unit. Names of structures do not count. Values nest to a depth of 128.
-/

namespace Registry.Ron

def isSpace (c : Char) : Bool := c == ' ' || c == '\t' || c == '\n' || c == '\r'

/-- What is left of a text behind the end of a comment, which may hold other comments; `open_` counts
those around it. -/
def closeComment? : (open_ : Nat) → List Char → Option (List Char)
  | n, '/' :: '*' :: rest => closeComment? (n + 1) rest
  | 0, '*' :: '/' :: rest => some rest
  | n + 1, '*' :: '/' :: rest => closeComment? n rest
  | n, _ :: rest => closeComment? n rest
  | _, [] => none

theorem length_closeComment? {n : Nat} {s r : List Char} (h : closeComment? n s = some r) :
    r.length < s.length := by
  fun_induction closeComment? n s <;> simp_all <;> omega

/-- What is left of a text behind blanks, line breaks and comments; none if a comment does not end. -/
def skip? (s : List Char) : Option (List Char) :=
  match s with
  | '/' :: '/' :: rest => skip? (rest.dropWhile (· != '\n'))
  | '/' :: '*' :: rest =>
    match _h : closeComment? 0 rest with
    | some r => skip? r
    | none => none
  | c :: rest => if c = '/' then none else if isSpace c then skip? rest else some (c :: rest)
  | [] => some []
termination_by s.length
decreasing_by
  · have := (List.dropWhile_suffix (· != '\n') (l := rest)).length_le
    simp only [List.length_cons]
    omega
  · have := length_closeComment? _h
    simp only [List.length_cons]
    omega
  · simp

/-- What is left of a text behind some marks, with blanks behind each. -/
def skipMarks? (marks : List String) (s : List Char) : Option (List Char) :=
  marks.foldlM (fun s mark =>
    if mark.toList.isPrefixOf s then skip? (s.drop mark.length) else none) s

/-- What is left of a text behind a comma, if one is due, and whether there is one. -/
def skipComma? (s : List Char) : Option (Bool × List Char) :=
  match skip? s with
  | some (',' :: rest) => (skip? rest).map (true, ·)
  | r => r.map (false, ·)

def isNameStart (c : Char) : Bool := c.isAlpha || c == '_'

def isNamePart (c : Char) : Bool := c.isAlphanum || c == '_'

/-- Whether a name that is marked as raw may hold a character. -/
def isRawPart (c : Char) : Bool := isNamePart c || c == '.' || c == '+' || c == '-'

/-- A name at the start of a text, and what follows it. The start of a raw string is no name. -/
def readName (s : List Char) : Option (String × List Char) :=
  match s with
  | 'r' :: '#' :: c :: rest =>
    if isRawPart c then
      some (String.ofList ((c :: rest).takeWhile isRawPart), (c :: rest).dropWhile isRawPart)
    else none
  | 'r' :: '"' :: _ | ['r', '#'] | ['r'] => none
  | c :: _ =>
    if isNameStart c then some (String.ofList (s.takeWhile isNamePart), s.dropWhile isNamePart)
    else none
  | [] => none

def dropWord? (word : String) (s : List Char) : Option (List Char) :=
  let rest := s.drop word.length
  if word.toList.isPrefixOf s && !rest.head?.any isNamePart then some rest else none

/-- The digits of an escape between braces, one to six, and what follows the closing brace. -/
def readBraced? (s : List Char) : Option (List Char × List Char) :=
  let digits := s.takeWhile (· != '\x7d')
  if digits.isEmpty ∨ 6 < digits.length then none
  else match s.dropWhile (· != '\x7d') with
    | _ :: rest => some (digits, rest)
    | [] => none

def readEscape? (s : List Char) : Option (Char × List Char) :=
  let simple (c : Char) (rest : List Char) : Option (Char × List Char) := some (c, rest)
  match s with
  | '\'' :: rest => simple '\'' rest
  | '"' :: rest => simple '"' rest
  | '\\' :: rest => simple '\\' rest
  | 'n' :: rest => simple '\n' rest
  | 'r' :: rest => simple '\r' rest
  | 't' :: rest => simple '\t' rest
  | '0' :: rest => simple (Char.ofNat 0) rest
  | 'x' :: a :: b :: rest => (Decimal.naturalIn? 16 [a, b]).map fun n => (Char.ofNat n, rest)
  | 'u' :: '\x7b' :: rest => do
    let (digits, rest) ← readBraced? rest
    let n ← Decimal.naturalIn? 16 digits
    if n.isValidChar then some (Char.ofNat n, rest) else none
  | _ => none

def readString (s : List Char) : Option (List Char × List Char) :=
  match s with
  | [] => none
  | '"' :: rest => some ([], rest)
  | '\\' :: rest =>
    match readEscape? rest with
    | none => none
    | some (c, r) =>
      if r.length ≤ rest.length then (readString r).map fun (cs, t) => (c :: cs, t) else none
  | c :: rest => (readString rest).map fun (cs, t) => (c :: cs, t)
termination_by s.length

/-- The rest of a raw string up to a quote with as many hashes as it was opened with, and what
follows. -/
def readRaw (hashes : Nat) : List Char → Option (List Char × List Char)
  | [] => none
  | c :: rest =>
    if c = '"' ∧ (List.replicate hashes '#').isPrefixOf rest then some ([], rest.drop hashes)
    else (readRaw hashes rest).map fun (cs, t) => (c :: cs, t)

def readRawString (s : List Char) : Option (List Char × List Char) :=
  match s.dropWhile (· == '#') with
  | '"' :: rest => readRaw (s.takeWhile (· == '#')).length rest
  | _ => none

def readChar (s : List Char) : Option (Char × List Char) := do
  let (c, rest) ← match s with
    | '\\' :: rest => readEscape? rest
    | c :: rest => if c = '\'' then none else some (c, rest)
    | [] => none
  match rest with
  | '\'' :: rest => some (c, rest)
  | _ => none

def isRealChar (c : Char) : Bool :=
  c.isDigit || c == 'e' || c == 'E' || c == '.' || c == '+' || c == '-' || c == '_'

def isIntegerChar (c : Char) : Bool := (Decimal.digitIn? 16 c).isSome || c == '_'

def numberWords : List (String × Float) :=
  let infinity := Float.ofBits 0x7ff0000000000000
  let nan := Float.ofBits 0x7ff8000000000000
  [("inf", infinity), ("+inf", infinity), ("-inf", -infinity), ("NaN", nan), ("+NaN", nan),
    ("-NaN", -nan)]

def readReal (s : List Char) : Option (Float × List Char) :=
  match numberWords.findSome? fun (word, x) => (dropWord? word s).map (x, ·) with
  | some r => some r
  | none => do
    let cs := s.takeWhile isRealChar
    if cs.contains '_' then none
    let (sign, ds) := Decimal.signPart cs
    let x := (← Decimal.decimal? ds).toFloat
    some (if sign = some '-' then -x else x, s.dropWhile isRealChar)

/-- The base that a spelling announces, and its digits. -/
def basePart : List Char → Nat × List Char
  | '0' :: 'x' :: cs => (16, cs)
  | '0' :: 'o' :: cs => (8, cs)
  | '0' :: 'b' :: cs => (2, cs)
  | cs => (10, cs)

/-- An integer at the start of a text, and what follows it. With a sign it has 64 bits with one,
else 64 bits without. -/
def readInteger (s : List Char) : Option (Int × List Char) := do
  let (sign, t) := Decimal.signPart s
  let (base, t) := basePart t
  let digits := t.takeWhile isIntegerChar
  if digits.head? = some '_' then none
  let n : Int ← (Decimal.naturalIn? base (digits.filter (· != '_'))).map Int.ofNat
  let z := if sign = some '-' then -n else n
  if if sign.isSome then Decimal.fitsSigned z else Decimal.fitsUnsigned z then
    some (z, t.dropWhile isIntegerChar)
  else none

/-- A number at the start of a text, and what follows it. An integer that needs more than 64 bits
with a sign becomes a binary64 number. -/
def readNumber (s : List Char) : Option (Number × List Char) :=
  let (_, t) := Decimal.signPart s
  let isReal := (t.takeWhile isIntegerChar).length < (t.takeWhile isRealChar).length
  let real := (readReal s).map fun (x, r) => (Number.real x, r)
  match if isReal then none else readInteger s with
  | some (z, r) =>
    if Decimal.fitsSigned z then some (.integer z, r)
    else some (.real (Decimal.toFloat ⟨z.toNat, 0⟩), r)
  | none => real

def readItems (close : Char) (readValue : List Char → Option (Value × List Char))
    (s : List Char) : Option (List Value × List Char) :=
  match skip? s with
  | none | some [] => none
  | some (c :: t) =>
    if c = close then some ([], t)
    else match readValue (c :: t) with
      | none => none
      | some (v, r) =>
        match skipComma? r with
        | none => none
        | some (true, r) =>
          if r.length < s.length then
            (readItems close readValue r).map fun (vs, r) => (v :: vs, r)
          else none
        | some (false, r) => if r.head? = some close then some ([v], r.drop 1) else none
termination_by s.length

def readEntry (readKey : List Char → Option (String × List Char))
    (readValue : List Char → Option (Value × List Char)) (s : List Char) :
    Option ((String × Value) × List Char) := do
  let (key, r) ← readKey s
  match ← skip? r with
  | ':' :: r =>
    let (v, r) ← readValue (← skip? r)
    some ((key, v), r)
  | _ => none

def readEntries (close : Char) (readKey : List Char → Option (String × List Char))
    (readValue : List Char → Option (Value × List Char)) (s : List Char) :
    Option (Fields × List Char) :=
  match skip? s with
  | none | some [] => none
  | some (c :: t) =>
    if c = close then some ([], t)
    else match readEntry readKey readValue (c :: t) with
      | none => none
      | some (e, r) =>
        match skipComma? r with
        | none => none
        | some (true, r) =>
          if r.length < s.length then
            (readEntries close readKey readValue r).map fun (es, r) => (e :: es, r)
          else none
        | some (false, r) => if r.head? = some close then some ([e], r.drop 1) else none
termination_by s.length

/-- Whether the parts of a structure have names, given what follows its opening mark. -/
def hasNames (s : List Char) : Bool :=
  match (skip? s).bind readName with
  | some (_, r) => ((skip? r).bind List.head?) == some ':'
  | none => false

def readOption (readValue : List Char → Option (Value × List Char)) (s : List Char) :
    Option (Value × List Char) := do
  let (v, r) ← readValue (← skipMarks? ["("] (← skip? s))
  match ← skipComma? r with
  | (_, ')' :: r) => some (v, r)
  | _ => none

def readWord (s : List Char) : Option (Value × List Char) :=
  let words : List (String × Value) :=
    [("true", .boolean true), ("false", .boolean false), ("None", .null),
      ("inf", .number (.real (Float.ofBits 0x7ff0000000000000))),
      ("-inf", .number (.real (-Float.ofBits 0x7ff0000000000000))),
      ("NaN", .number (.real (Float.ofBits 0x7ff8000000000000)))]
  words.findSome? fun (word, v) => (dropWord? word s).map (v, ·)

/-- A structure behind its name, if it has one: what is between its parentheses, or null. -/
def readStructure (readValue : List Char → Option (Value × List Char)) (named : Bool)
    (s : List Char) : Option (Value × List Char) :=
  match s with
  | '(' :: r =>
    if !named && r.head? == some ')' then some (.null, r.drop 1)
    else if hasNames r then
      (readEntries ')' readName readValue r).map fun (es, r) => (.mapping (Table.ofEntries es), r)
    else (readItems ')' readValue r).map fun (vs, r) => (.sequence vs, r)
  | s => if named then some (.null, s) else none

def keyOf (readValue : List Char → Option (Value × List Char)) (s : List Char) :
    Option (String × List Char) := do
  let (v, r) ← readValue s
  match v with
  | .string key => some (key, r)
  | _ => none

def readWith (readValue : List Char → Option (Value × List Char)) (s : List Char) :
    Option (Value × List Char) :=
  match readWord s with
  | some r => some r
  | none =>
    match dropWord? "Some" s, readName s with
    | some r, _ => readOption readValue r
    | none, some (_, r) => (skip? r).bind (readStructure readValue true)
    | none, none =>
      match s with
      | '(' :: _ => readStructure readValue false s
      | '[' :: r => (readItems ']' readValue r).map fun (vs, r) => (.sequence vs, r)
      | '\x7b' :: r =>
        (readEntries '\x7d' (keyOf readValue) readValue r).map fun (es, r) =>
          (.mapping (Table.ofEntries es), r)
      | '"' :: r => (readString r).map fun (cs, r) => (.string (String.ofList cs), r)
      | 'r' :: r => (readRawString r).map fun (cs, r) => (.string (String.ofList cs), r)
      | '\'' :: r => (readChar r).map fun (c, r) => (.string (String.ofList [c]), r)
      | '.' :: _ => (readReal s).map fun (x, r) => (.number (.real x), r)
      | c :: _ =>
        if c.isDigit ∨ c = '+' ∨ c = '-' then (readNumber s).map fun (n, r) => (.number n, r)
        else none
      | [] => none

/-- A value at the start of a text, with at most `depth` levels of values that hold others. -/
def readValue : (depth : Nat) → List Char → Option (Value × List Char)
  | 0 => readWith fun _ => none
  | depth + 1 => readWith (readValue depth)

def depthLimit : Nat := 128

/-- The features that a text may ask for. They change nothing here. -/
def features : List String := ["unwrap_newtypes", "implicit_some", "unwrap_variant_newtypes"]

def skipFeatures? (s : List Char) : Option (List Char) :=
  match readName s with
  | none => none
  | some (name, r) =>
    if !features.contains name then none
    else match skipComma? r with
      | none => none
      | some (more, r) =>
        if !r.head?.any isNamePart then some r
        else if more ∧ r.length < s.length then skipFeatures? r
        else none
termination_by s.length

def skipAttributes? (s : List Char) : Option (List Char) :=
  if s.head? = some '#' then
    match skipMarks? ["#", "!", "[", "enable", "("] s with
    | none => none
    | some r =>
      match (skipFeatures? r).bind (skipMarks? [")", "]"]) with
      | none => none
      | some r => if r.length < s.length then skipAttributes? r else none
  else some s
termination_by s.length

def read? (text : String) : Option Value := do
  let s ← skipAttributes? (← skip? text.toList)
  let (v, r) ← readValue depthLimit s
  if (← skip? r).isEmpty then some v else none

end Registry.Ron
