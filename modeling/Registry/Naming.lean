import Registry.Text.Case
import Registry.Text.Split

/-!
# Naming

Names in Pascal, camel and snake case, and the namespaces of dotted names. A name may have parts
between dots, and between double colons; each part is converted on its own, but the first of several
between double colons stays.
-/

namespace Registry

/-- The words that are written in capitals as a whole. -/
structure Naming where
  acronyms : List String := []

namespace Naming

def common : Naming :=
  ⟨["ID", "URL", "UUID", "API", "HTTP", "JSON", "XML", "SQL", "URI", "UI", "IO"]⟩

/-- The small letters and digits at the start of a text, and the words behind them. A word is a
capital letter with the small letters and digits after it; where `mixed` is set, small letters and
digits make a word also without one. -/
def runAndWords (mixed : Bool) : List Char → List Char × List (List Char)
  | [] => ([], [])
  | c :: cs =>
    let (run, words) := runAndWords mixed cs
    if c.isLower || c.isDigit then (c :: run, words)
    else if c.isUpper then ([], (c :: run) :: words)
    else ([], if mixed && !run.isEmpty then run :: words else words)

/-- The words of a text without underscores. -/
def caseWords (cs : List Char) : List (List Char) :=
  let mixed := !cs.head?.any Char.isUpper
  let (run, words) := runAndWords mixed cs
  if mixed && !run.isEmpty then run :: words else words

/-- The words of a name: between underscores if there are any, else by case. -/
def words (cs : List Char) : List (List Char) :=
  if cs.contains '_' then cs.splitOn '_' else caseWords cs

/-- A text cut before each capital letter but the first character. -/
def cutBeforeCapitals : List Char → List (List Char)
  | [] => [[]]
  | c :: cs =>
    match cs, cutBeforeCapitals cs with
    | d :: _, part :: parts => if d.isUpper then [c] :: part :: parts else (c :: part) :: parts
    | _, _ => [[c]]

def splitColons : List Char → List (List Char)
  | ':' :: ':' :: cs => [] :: splitColons cs
  | c :: cs =>
    match splitColons cs with
    | part :: parts => (c :: part) :: parts
    | [] => [[c]]
  | [] => [[]]

def joined (separator : List Char) (parts : List (List Char)) : List Char :=
  (parts.intersperse separator).flatten

def perDotted (convert : List Char → List Char) (cs : List Char) : List Char :=
  joined ['.'] ((cs.splitOn '.').map convert)

def perPart (convert : List Char → List Char) (name : String) : String :=
  String.ofList <| match splitColons name.toList with
    | [] => []
    | [part] => perDotted convert part
    | head :: rest => joined [':', ':'] (head :: rest.map (perDotted convert))

def capitalize : List Char → List Char
  | [] => []
  | c :: cs => Text.upperChar c ++ cs.map Char.toLower

/-- A word in Pascal case: an acronym is written in capitals. -/
def caseWord (n : Naming) (word : List Char) : List Char :=
  let capitals := Text.upper word
  if n.acronyms.contains (String.ofList capitals) then capitals else capitalize word

def pascalPart (n : Naming) (part : List Char) : List Char := (words part).flatMap n.caseWord

/-- A part in camel case. Without underscores, one that starts with no capital letter stays. -/
def camelPart (part : List Char) : List Char :=
  let camel (parts : List (List Char)) : List Char :=
    match parts with
    | [] => []
    | first :: rest => Text.lower first ++ rest.flatMap capitalize
  if part.contains '_' then camel (part.splitOn '_')
  else if part.head?.any Char.isUpper then camel (cutBeforeCapitals part)
  else part

/-- A part in snake case: an underscore before each capital letter but the first character. -/
def snakePart : List Char → List Char
  | [] => []
  | c :: cs => c.toLower :: cs.flatMap fun d => if d.isUpper then ['_', d.toLower] else [d.toLower]

def pascal (n : Naming) (name : String) : String := perPart n.pascalPart name

def camel (name : String) : String := perPart camelPart name

def snake (name : String) : String := perPart snakePart name

def stripNamespace (name : String) : String := ((Text.cutAtLast? '.' name).map Prod.snd).getD name

/-- A namespace inside another one; either may be empty. -/
def concatNamespace (inner outer : String) : String :=
  if outer.isEmpty then inner else if inner.isEmpty then outer else outer ++ "." ++ inner

/-- The namespace of a dotted name inside another namespace. The empty name has none. -/
def namespaceOf (name outer : String) : String :=
  if name.isEmpty then ""
  else match Text.cutAtLast? '.' name with
    | some (inner, _) => concatNamespace inner outer
    | none => outer

def namespaceDot (name outer : String) : String :=
  let ns := namespaceOf name outer
  if ns.isEmpty then "" else ns ++ "."

def stripDots (name : String) : String := Text.replaceChar '.' [] name

end Naming

end Registry
