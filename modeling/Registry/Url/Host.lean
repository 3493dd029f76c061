import Registry.Url.Basic
import Registry.Url.Domain
import Registry.Text.Split

/-!
# Hosts

The written form of a host: a domain in small letters and ASCII; an IPv4 address in four decimal
parts; an IPv6 address in brackets, its longest run of zero pieces left out.
-/

namespace Registry.Url

/-- The number that a part of an address spells: hexadecimal after `0x`, octal after a zero. The
inner option is empty where it exceeds 32 bits. -/
def ipv4Part? (cs : List Char) : Option (Option Nat) :=
  let read (base : Nat) (ds : List Char) : Option (Option Nat) :=
    if ds.all fun d => (Text.Percent.hexValue? d).any (· < base) then
      let n := ds.foldl (fun n d => base * n + (Text.Percent.hexValue? d).getD 0) 0
      some (if n < 0x100000000 then some n else none)
    else none
  match cs with
  | [] => none
  | '0' :: 'x' :: ds | '0' :: 'X' :: ds => read 16 ds
  | '0' :: d :: ds => read 8 (d :: ds)
  | ds => read 10 ds

/-- Whether the last label of a domain is a number, one empty label after it aside. -/
def endsInNumber (labels : List (List Char)) : Bool :=
  let isNumber (l : List Char) := (!l.isEmpty && l.all Char.isDigit) || (ipv4Part? l).isSome
  match labels.reverse with
  | [] :: last :: _ => isNumber last
  | last :: _ => isNumber last
  | [] => false

def ipv4? (labels : List (List Char)) : Option Nat := do
  let labels := if labels.getLast? = some [] then labels.dropLast else labels
  if 4 < labels.length then none
  let numbers ← labels.mapM fun l => (ipv4Part? l).bind id
  let last ← numbers.getLast?
  let front := numbers.dropLast
  if front.any (255 < ·) ∨ Nat.pow 256 (4 - front.length) ≤ last then none
  some ((front.zipIdx.foldl (fun n (x, i) => n + x * Nat.pow 256 (3 - i)) 0) + last)

def ipv4Text (n : Nat) : String :=
  ".".intercalate ([3, 2, 1, 0].map fun i => ToString.toString (n / Nat.pow 256 i % 256))

def ipv6Piece? (cs : List Char) : Option Nat :=
  if cs.isEmpty || 4 < cs.length then none
  else cs.foldlM (fun n c => (Text.Percent.hexValue? c).map (16 * n + ·)) 0

/-- The two pieces that a decimal part at the end stands for. -/
def ipv6Tail? (cs : List Char) : Option (List Nat) := do
  let parts := cs.splitOn '.'
  if parts.length ≠ 4 then none
  let ns ← parts.mapM fun p =>
    if p.isEmpty || 3 < p.length || !p.all Char.isDigit || (p.head? == some '0' && p.length != 1)
      then none
    else
      let n := p.foldl (fun n c => 10 * n + (c.toNat - 48)) 0
      if n < 256 then some n else none
  match ns with
  | [a, b, c, d] => some [256 * a + b, 256 * c + d]
  | _ => none

/-- The pieces between colons; only the last group may end with a decimal part. -/
def ipv6Pieces? (lastGroup : Bool) (cs : List Char) : Option (List Nat) :=
  if cs.isEmpty then some []
  else
    let parts := cs.splitOn ':'
    let front := parts.dropLast
    let last := parts.getLast?.getD []
    match front.mapM ipv6Piece?, ipv6Piece? last with
    | some ns, some n => some (ns ++ [n])
    | some ns, none => if lastGroup then (ipv6Tail? last).map (ns ++ ·) else none
    | none, _ => none

def cutDoubleColon? : List Char → Option (List Char × List Char)
  | ':' :: ':' :: cs => some ([], cs)
  | c :: cs => (cutDoubleColon? cs).map fun (a, b) => (c :: a, b)
  | [] => none

def ipv6? (cs : List Char) : Option (List Nat) :=
  match cutDoubleColon? cs with
  | none => (ipv6Pieces? true cs).filter (·.length == 8)
  | some (front, back) => do
    let a ← ipv6Pieces? false front
    let b ← ipv6Pieces? true back
    if 7 < a.length + b.length then none
    some (a ++ List.replicate (8 - a.length - b.length) 0 ++ b)

/-- The longest run of zeros: where it starts and how long it is, the first one of equal length. -/
def longestZeros (pieces : List Nat) : Nat × Nat :=
  let runAt (i : Nat) : Nat := ((pieces.drop i).takeWhile (· == 0)).length
  (List.range pieces.length).foldl (fun best i => if best.2 < runAt i then (i, runAt i) else best)
    (0, 0)

def hexText (n : Nat) : String := String.ofList (Nat.toDigits 16 n)

def ipv6Text (pieces : List Nat) : String :=
  let (start, length) := longestZeros pieces
  let join (ns : List Nat) : String := ":".intercalate (ns.map hexText)
  let body := if length < 2 then join pieces
    else join (pieces.take start) ++ "::" ++ join (pieces.drop (start + length))
  "[" ++ body ++ "]"

def bracketed? (cs : List Char) : Option String :=
  if cs.getLast? = some ']' ∧ 2 ≤ cs.length then (ipv6? (cs.drop 1).dropLast).map ipv6Text else none

def isBadInDomain (c : Char) : Bool :=
  c.toNat ≤ 0x20 || c.toNat == 0x7f || "#%/:<>?@[\\]^|".toList.contains c

def domain? (cs : List Char) : Option String :=
  if cs.head? = some '[' then bracketed? cs
  else do
    let decoded ← Text.Utf8.decode? (Text.Percent.decode cs)
    let ascii ← Domain.toAscii? decoded
    if ascii.isEmpty || ascii.any isBadInDomain then none
    else
      let labels := ascii.splitOn '.'
      if endsInNumber labels then (ipv4? labels).map ipv4Text else some (String.ofList ascii)

def isBadInHost (c : Char) : Bool :=
  c.toNat == 0 || c.toNat == 9 || c.toNat == 10 || c.toNat == 13 ||
    " #/:<>?@[\\]^|".toList.contains c

def generalHost? (cs : List Char) : Option String :=
  if cs.head? = some '[' then bracketed? cs
  else if cs.any isBadInHost then none
  else some (escape keptBare cs)

end Registry.Url
