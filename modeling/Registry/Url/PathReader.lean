import Registry.Url.Basic

/-!
# Reading paths

The path that a text denotes. A segment that is a dot, written out or escaped, goes; one of two dots
takes the segment before it along, unless that is a drive letter. In a `file` URL empty segments at
the start go, and a drive letter as the first segment is written with a colon.
-/

namespace Registry.Url

/-- A piece of a path text and whether a slash ends it. -/
abbrev PathPiece := List Char × Bool

def isSlash (special : Bool) (c : Char) : Bool := c == '/' || (special && c == '\\')

def endsPath (c : Char) : Bool := c == '?' || c == '#'

/-- The pieces of a path text; the last one has no slash after it. -/
def pathPieces (special : Bool) : List Char → List PathPiece
  | [] => [([], false)]
  | c :: cs =>
    if isSlash special c then ([], true) :: pathPieces special cs
    else match pathPieces special cs with
      | (piece, slash) :: rest => (c :: piece, slash) :: rest
      | [] => [([c], false)]

/-- An escaped dot reads like a dot. -/
def unescapeDots : List Char → List Char
  | '%' :: '2' :: 'e' :: cs => '.' :: unescapeDots cs
  | '%' :: '2' :: 'E' :: cs => '.' :: unescapeDots cs
  | c :: cs => c :: unescapeDots cs
  | [] => []

def isSingleDot (piece : List Char) : Bool := unescapeDots piece == ['.']

def isDoubleDot (piece : List Char) : Bool := unescapeDots piece == ['.', '.']

/-- Whether a segment starts like a drive: a letter and a colon or a bar. -/
def startsWithDrive : List Char → Bool
  | c :: d :: rest => c.isAlpha && (d == ':' || d == '|') && (rest.isEmpty || rest.head? == some '\\')
  | _ => false

def isNormalDrive (segment : List Char) : Bool :=
  match segment with
  | [c, ':'] => c.isAlpha
  | _ => false

def isDrive (segment : List Char) : Bool :=
  match segment with
  | [c, d] => c.isAlpha && (d == ':' || d == '|')
  | _ => false

/-- A path as far as it is written, last character first. -/
abbrev Draft := List Char

namespace Draft

def root : Draft := ['/']

def lastSegment (d : Draft) : List Char := (d.takeWhile (· != '/')).reverse

/-- Whether there is a single segment that is a drive letter. -/
def isLoneDrive (d : Draft) : Bool := isNormalDrive (d.reverse.drop 1)

def startsWithDrive (d : Draft) : Bool :=
  isNormalDrive ((d.reverse.drop 1).takeWhile (· != '/'))

def close (d : Draft) : Draft := if d.head? = some '/' then d else '/' :: d

/-- Drops a slash at the end, unless it is the first one or ends a segment that starts like a
drive. -/
def dropSlash : Draft → Draft
  | '/' :: before =>
    if before.contains '/' && !Url.startsWithDrive (lastSegment before) then before
    else '/' :: before
  | d => d

/-- Removes the last segment. In a `file` URL a drive letter stays. -/
def parent (kind : Kind) (d : Draft) : Draft :=
  if kind = .file && isNormalDrive d.lastSegment then d else d.dropWhile (· != '/')

/-- Writes a chunk of the segment that starts behind `start` characters. In a `file` URL a lone
drive letter is a segment of its own. -/
def addChunk (kind : Kind) (written : Draft × Nat) (chunk : List Char) : Draft × Nat :=
  let (d, start) := written
  let escaped := (Text.Percent.encode keptInPath chunk).reverse
  if kind = .file && !chunk.isEmpty && d.isLoneDrive then (escaped ++ '/' :: d, start + 1)
  else (escaped ++ d, start)

def addPiece (kind : Kind) (d : Draft) (piece : PathPiece) : Draft :=
  let (text, slash) := piece
  let (written, start) := (text.splitOn '\t').foldl (addChunk kind) (d, d.length)
  let before : Draft := written.drop (written.length - start)
  let segment := (written.take (written.length - start)).reverse
  if isDoubleDot segment then
    let d := before.dropSlash.parent kind
    if slash then d.close else d
  else if isSingleDot segment then before.close
  else
    let d :=
      if kind = .file && start == 1 && isDrive segment then ':' :: segment.take 1 ++ before
      else written
    if slash then '/' :: d else d

def addText (kind : Kind) (d : Draft) (text : List Char) : Draft :=
  (pathPieces kind.isSpecial text).foldl (addPiece kind) d

/-- The path that is written. In a `file` URL empty segments at the start go, but not the last
one. -/
def toPath (kind : Kind) (d : Draft) : Path :=
  match d.reverse with
  | [] => .segments []
  | _ :: cs =>
    let cs := if kind = .file then cs.dropWhile (· == '/') else cs
    .segments ((cs.splitOn '/').map String.ofList)

end Draft

def Path.toDraft (p : Path) : Draft := p.toString.toList.reverse

end Registry.Url
