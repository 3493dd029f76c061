import Registry.Value
import Registry.Text.Split
import Registry.Decimal.Shortest

/-!
# Pointers

A pointer names a place in a value by tokens: keys of mappings and indices of sequences. In a text,
each token follows a slash, `~1` stands for a slash and `~0` for a tilde. Main statements: escaping
and unescaping a token are inverse, and a pointer's text gives back its tokens.
-/

namespace Registry

namespace Pointer

def escapeChars : List Char → List Char
  | [] => []
  | c :: cs =>
    (if c = '~' then ['~', '0'] else if c = '/' then ['~', '1'] else [c]) ++ escapeChars cs

/-- The token of its written form, character by character. A tilde that starts no escape stands for
itself. -/
def unescapeChars : List Char → List Char
  | '~' :: '0' :: cs => '~' :: unescapeChars cs
  | '~' :: '1' :: cs => '/' :: unescapeChars cs
  | c :: cs => c :: unescapeChars cs
  | [] => []

def escape (token : String) : String := String.ofList (escapeChars token.toList)

def unescape (token : String) : String := String.ofList (unescapeChars token.toList)

def ofTokens (tokens : List String) : String :=
  tokens.foldr (fun token rest => "/" ++ escape token ++ rest) ""

/-- The tokens of a pointer; none if the text is neither empty nor starts with a slash. -/
def tokens? (pointer : String) : Option (List String) :=
  match pointer.toList with
  | [] => some []
  | '/' :: cs => some ((cs.splitOn '/').map fun token => String.ofList (unescapeChars token))
  | _ => none

/-- The pointer that a fragment names: leading `#` are dropped, a missing first slash is added. -/
def ofFragment (fragment : String) : String :=
  match fragment.toList.dropWhile (· == '#') with
  | [] => ""
  | '/' :: cs => String.ofList ('/' :: cs)
  | cs => String.ofList ('/' :: cs)

/-- The index that a token names in a sequence: decimal digits without a leading zero. -/
def index? (token : String) : Option Nat :=
  let cs := token.toList
  if cs.isEmpty || !cs.all Char.isDigit || (cs.head? == some '0' && cs.length != 1) then none
  else some (Decimal.ofDigits cs)

theorem unescapeChars_escapeChars (cs : List Char) : unescapeChars (escapeChars cs) = cs := by
  induction cs with
  | nil => rfl
  | cons c cs ih =>
    by_cases h : c = '~'
    · subst h; simp [escapeChars, unescapeChars, ih]
    · by_cases h' : c = '/'
      · subst h'; simp [escapeChars, unescapeChars, ih]
      · simp only [escapeChars, h, h', if_false, List.cons_append, List.nil_append]
        rw [unescapeChars, ih]
        · simp [h]
        · simp [h]

theorem slash_not_mem_escapeChars (cs : List Char) : '/' ∉ escapeChars cs := by
  induction cs with
  | nil => simp [escapeChars]
  | cons c cs ih =>
    by_cases h : c = '~'
    · subst h; simp [escapeChars, ih]
    · by_cases h' : c = '/'
      · subst h'; simp [escapeChars, ih]
      · simp [escapeChars, h, h', ih, Ne.symm h']

@[simp] theorem unescape_escape (token : String) : unescape (escape token) = token := by
  simp [unescape, escape, unescapeChars_escapeChars]

end Pointer

namespace Value

def child? (v : Value) (token : String) : Option Value :=
  match v with
  | mapping fields => Table.get? fields token
  | sequence items => (Pointer.index? token).bind (items[·]?)
  | _ => none

def at? (v : Value) : List String → Option Value
  | [] => some v
  | token :: rest => (v.child? token).bind (·.at? rest)

def modifyAt (f : Value → Value) (v : Value) : List String → Value
  | [] => f v
  | token :: rest =>
    match v.child? token with
    | none => v
    | some child =>
      let changed := modifyAt f child rest
      match v with
      | mapping fields => .mapping (Table.insert fields token changed)
      | sequence items =>
        match Pointer.index? token with
        | some i => .sequence (items.set i changed)
        | none => v
      | v => v

def fragmentTokens? (fragment : String) : Option (List String) :=
  Pointer.tokens? (Pointer.ofFragment fragment)

def lookup (v : Value) (fragment : String) : Option Value :=
  (fragmentTokens? fragment).bind v.at?

def modify (v : Value) (fragment : String) (f : Value → Value) : Value :=
  match fragmentTokens? fragment with
  | some tokens => v.modifyAt f tokens
  | none => v

theorem at?_append (v : Value) (front back : List String) :
    v.at? (front ++ back) = (v.at? front).bind (·.at? back) := by
  induction front generalizing v with
  | nil => rfl
  | cons token rest ih =>
    simp only [List.cons_append, at?]
    cases v.child? token with
    | none => rfl
    | some child => simpa using ih child

end Value

end Registry
