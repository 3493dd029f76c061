import Registry.Text.Utf8
import Registry.Text.Split

/-!
# Disks

Files and directories by path. A relative path starts at the working directory. A step to the parent
of a directory works only where that directory exists, and the root is its own parent. Names and paths
have a greatest length, in bytes.
-/

namespace Registry

/-- A place below the root, from the outermost name on. -/
abbrev Place := List String

structure Disk where
  here : Place
  directories : List Place
  files : List (Place × List UInt8)

namespace Disk

def empty (here : Place) : Disk :=
  ⟨here, (List.range here.length).map fun i => here.take (i + 1), []⟩

def isDirectory (d : Disk) (p : Place) : Bool := p.isEmpty || d.directories.contains p

def file? (d : Disk) (p : Place) : Option (List UInt8) := d.files.lookup p

def isAbsolute (path : String) : Bool := Text.startsWith path "/"

def origin (d : Disk) (path : String) : Place := if isAbsolute path then [] else d.here

def isNameInLimit (name : String) : Bool := name.utf8ByteSize ≤ 255

/-- Whether a path may be looked at: it is short enough, and no name contains the character NUL. -/
def isUsable (path : String) : Bool := path.utf8ByteSize < 4096 && !path.toList.contains (Char.ofNat 0)

/-- The names on a path and whether it has to be a directory. -/
def steps (path : String) : List String × Bool :=
  let names := (Text.pieces '/' path).filter fun name => !name.isEmpty && name != "."
  let last := (Text.pieces '/' path).getLast?.getD ""
  (names, last == "" || last == "." || last == "..")

def walk (d : Disk) : Place → List String → Option Place
  | here, [] => some here
  | here, name :: rest =>
    if name = ".." then walk d here.dropLast rest
    else if d.isDirectory (here ++ [name]) then walk d (here ++ [name]) rest
    else none

/-- The place of a file that a path leads to, whether or not there is one. -/
def filePlace? (d : Disk) (path : String) : Option Place :=
  let (names, mustBeDirectory) := steps path
  if mustBeDirectory || !isUsable path || !names.all isNameInLimit then none
  else (d.walk (d.origin path) names.dropLast).map (· ++ names.getLast?.toList)

def readBytes (d : Disk) (path : String) : Option (List UInt8) := (d.filePlace? path).bind d.file?

/-- The text of the file at a path; none unless it is well formed. -/
def readText (d : Disk) (path : String) : Option String := do
  let cs ← Text.Utf8.decode? (← d.readBytes path)
  some (String.ofList cs)

def pathExists (d : Disk) (path : String) : Bool :=
  !path.isEmpty && ((d.walk (d.origin path) (steps path).1).isSome || (d.readBytes path).isSome)

def makeAlong (d : Disk) : Place → List String → Option Disk
  | _, [] => some d
  | here, name :: rest =>
    if name = ".." then makeAlong d here.dropLast rest
    else
      let place := here ++ [name]
      if d.isDirectory place then makeAlong d place rest
      else if (d.file? place).isSome || !isNameInLimit name then none
      else makeAlong { d with directories := d.directories ++ [place] } place rest

def makeDirectories (d : Disk) (path : String) : Option Disk :=
  if isUsable path then d.makeAlong (d.origin path) (steps path).1 else none

def putFile (d : Disk) (p : Place) (bytes : List UInt8) : Disk :=
  if (d.file? p).isSome then
    { d with files := d.files.map fun e => if e.1 = p then (p, bytes) else e }
  else { d with files := d.files ++ [(p, bytes)] }

/-- Writes a file into a directory that is there. -/
def write (d : Disk) (path : String) (bytes : List UInt8) : Option Disk :=
  match d.filePlace? path with
  | some place => if d.isDirectory place then none else some (d.putFile place bytes)
  | none => none

/-- The path of a file in a directory; an absolute one stands for itself. -/
def join (directory name : String) : String :=
  if isAbsolute name || directory.isEmpty then name
  else if Text.endsWith directory "/" then directory ++ name
  else directory ++ "/" ++ name

/-- Writes several files into a directory that is made first: their paths, and what is there
afterwards even if that fails. -/
def writeAll (d : Disk) (directory : String) (files : List (String × String)) :
    Option (List String) × Disk :=
  match d.makeDirectories directory with
  | none => (none, d)
  | some d => go files d
where
  go : List (String × String) → Disk → Option (List String) × Disk
    | [], d => (some [], d)
    | (name, text) :: rest, d =>
      let path := join directory name
      match d.write path (Text.Utf8.encode text.toList) with
      | none => (none, d)
      | some d =>
        let (paths, d) := go rest d
        (paths.map (path :: ·), d)

/-- A disk with a file at a path and the directories around it, as far as they can be made. -/
def withFile (d : Disk) (path : String) (bytes : List UInt8) : Disk :=
  match d.makeAlong (d.origin path) (steps path).1.dropLast with
  | some d => (d.write path bytes).getD d
  | none => d

/-- The files below the working directory, by their paths from there. -/
def filesHere (d : Disk) : List (String × List UInt8) :=
  d.files.filterMap fun (place, bytes) =>
    if d.here.isPrefixOf place then
      some (String.intercalate "/" (place.drop d.here.length), bytes)
    else none

end Disk

end Registry
