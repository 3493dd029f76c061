import Registry.Text.Canonical
import Registry.Text.Case
import Registry.Text.Direction
import Registry.Text.Joining
import Registry.Url.DomainTable
import Registry.Url.Punycode

/-!
# Domains

The written form of a domain: its characters mapped to those that domains hold, in canonical form,
and each label with a character above ASCII spelled in Punycode. A label may not start with a mark,
may hold the two joiners only where they change how its letters look, and keeps to one direction if
any label of the domain is written from right to left.
-/

namespace Registry.Url.Domain

open Registry.Text

/-- What a character comes to, unless no domain may hold it. -/
def mapChar? (c : Char) : Option (List Char) :=
  let n := c.toNat
  if n < 0x80 then some [c.toLower]
  else if inRanges forbiddenRanges n then none
  else if inRanges ignoredRanges n then some []
  else if inRanges keptRanges n then some [c]
  else some ((findText? domainRuns c).getD (lowerChar c))

def map? (cs : List Char) : Option (List Char) :=
  if cs.all (·.toNat < 0x80) then some (cs.map Char.toLower)
  else (cs.mapM mapChar?).map fun texts => canonical texts.flatten

def punycodeMark : List Char := ['x', 'n', '-', '-']

def isAscii (label : List Char) : Bool := label.all (·.toNat < 0x80)

/-- The label that a text behind the mark of Punycode spells: one that needs it and is as mapping
would leave it. -/
def decodeLabel? (cs : List Char) : Option (List Char) := do
  if 2000 < cs.length then none
  let label ← Punycode.decode? cs
  if !isAscii label && map? label == some label && Punycode.encode label == cs then some label
  else none

def readLabel? (label : List Char) : Option (List Char) :=
  if punycodeMark.isPrefixOf label then decodeLabel? (label.drop 4) else some label

def writeLabel (label : List Char) : List Char :=
  if isAscii label then label else punycodeMark ++ Punycode.encode label

/-- Whether a character parts letters that would join, or joins letters that would not. -/
def isJoiner (c : Char) : Bool := c.toNat == 0x200c || c.toNat == 0x200d

/-- Whether each joiner has an effect: it follows a sign that kills a vowel, or it parts two letters
that join. What stands before the text is given last first. -/
def joinersFit : (before : List Char) → List Char → Bool
  | _, [] => true
  | before, c :: cs =>
    let parts := c.toNat == 0x200c &&
      (before.find? (!isTransparent ·)).any joinsBehind &&
      (cs.find? (!isTransparent ·)).any joinsBefore
    let fits := !isJoiner c || before.head?.any (combiningClass · == 9) || (!before.isEmpty && parts)
    fits && joinersFit (c :: before) cs

def isLabel (label : List Char) : Bool :=
  !label.head?.any isMark && joinersFit [] label && (isAscii label || label.length ≤ 1000)

/-- Whether a character makes its domain one with two directions. -/
def turnsDirection (c : Char) : Bool :=
  let d := direction c
  d == .rightToLeft || d == .arabicNumber

/-- Whether a label keeps to the direction of its first character. Marks at its end do not count. -/
def keepsDirection (label : List Char) : Bool :=
  match label.map direction with
  | [] => true
  | first :: rest =>
    let rest := (rest.reverse.dropWhile (· == .nonspacing)).reverse
    match first with
    | .leftToRight =>
      rest.all (fun d => d != .rightToLeft && d != .arabicNumber) &&
        rest.getLast?.all fun d => d == .leftToRight || d == .europeanNumber
    | .rightToLeft =>
      rest.all (· != .leftToRight) && !(rest.contains .europeanNumber && rest.contains .arabicNumber) &&
        rest.getLast?.all fun d => d != .neutral
    | _ => false

def labels? (cs : List Char) : Option (List (List Char)) := do
  let labels ← ((← map? cs).splitOn '.').mapM readLabel?
  let turns := labels.any (·.any turnsDirection)
  if labels.all fun l => isLabel l && (!turns || keepsDirection l) then some labels else none

def toAscii? (cs : List Char) : Option (List Char) :=
  (labels? cs).map fun labels => ((labels.map writeLabel).intersperse ['.']).flatten

end Registry.Url.Domain
