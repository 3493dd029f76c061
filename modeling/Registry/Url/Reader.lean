import Registry.Url.Host
import Registry.Url.PathReader

/-!
# Reading URLs

The URL that a text denotes, alone or relative to another URL, by the rules of the URL standard.
Blanks and control characters around a text do not count, nor do tabs and line breaks inside it.
-/

namespace Registry.Url

def trim (cs : List Char) : List Char :=
  let outer (c : Char) : Bool := c.toNat ≤ 0x20
  ((cs.dropWhile outer).reverse.dropWhile outer).reverse

def isBreak (c : Char) : Bool := c == '\t' || c == '\n' || c == '\r'

def isSchemeChar (c : Char) : Bool := c.isAlphanum || c == '+' || c == '-' || c == '.'

def cutScheme? (cs : List Char) : Option (String × List Char) :=
  match Text.cut? ':' cs with
  | some (name, rest) =>
    if name.head?.any Char.isAlpha && name.all isSchemeChar then
      some (String.ofList (name.map Char.toLower), rest)
    else none
  | none => none

def readSuffix (kind : Kind) (cs : List Char) : Option String × Option String :=
  let fragment (cs : List Char) : String := escape keptInFragment cs
  match cs with
  | '#' :: f => (none, some (fragment f))
  | '?' :: rest =>
    let q := rest.takeWhile (· != '#')
    let query := escape (keptInQuery kind.isSpecial) q
    match rest.dropWhile (· != '#') with
    | _ :: f => (some query, some (fragment f))
    | [] => (some query, none)
  | _ => (none, none)

/-- A URL completed by a path text, behind the path that is written already, and what follows the
path. -/
def withPath (u : Url) (before : Draft) (cs : List Char) : Url :=
  let (query, fragment) := readSuffix u.kind (cs.dropWhile (!endsPath ·))
  let path := (before.addText u.kind (cs.takeWhile (!endsPath ·))).toPath u.kind
  { u with path, query, fragment }

/-- A URL completed by the text behind its authority. Where a path is due, a first slash is part of
what separates it. -/
def withPathStart (u : Url) (cs : List Char) : Url :=
  match cs with
  | c :: rest =>
    if isSlash u.kind.isSpecial c then u.withPath .root rest
    else if !u.kind.isSpecial && endsPath c then
      let (query, fragment) := readSuffix u.kind cs
      { u with path := .segments [], query, fragment }
    else u.withPath .root cs
  | [] => if u.kind.isSpecial then u.withPath .root [] else { u with path := .segments [] }

def ofScheme (scheme : String) : Url :=
  { scheme, userinfo := "", host := none, port := none, path := .segments [], query := none
    fragment := none }

def endsAuthority (special : Bool) (c : Char) : Bool := isSlash special c || endsPath c

def userinfoText (cs : List Char) : String :=
  match Text.cut? ':' cs with
  | none => escape keptInUserinfo cs
  | some (name, password) =>
    escape keptInUserinfo name ++
      if password.isEmpty then "" else ":" ++ escape keptInUserinfo password

/-- The user information before the host, and what follows it. An empty one must be followed by a
host. -/
def cutUserinfo? (special : Bool) (cs : List Char) : Option (String × List Char) :=
  let front := cs.takeWhile (!endsAuthority special ·)
  match Text.cutLast? '@' front with
  | none => some ("", cs)
  | some (user, host) =>
    let rest := host ++ cs.drop front.length
    if user.isEmpty && host.isEmpty && rest.head?.isSome then none
    else some (userinfoText user, rest)

/-- Where the host of a text ends: at a colon outside brackets or where the authority ends. -/
def spanHost (special : Bool) : (inBrackets : Bool) → List Char → List Char × List Char
  | _, [] => ([], [])
  | inside, c :: cs =>
    if (c == ':' && !inside) || endsAuthority special c then ([], c :: cs)
    else
      let (host, rest) := spanHost special (if c == '[' then true else if c == ']' then false else inside) cs
      (c :: host, rest)

def readPort? (cs : List Char) : Option (Option Nat × List Char) :=
  match cs with
  | ':' :: rest =>
    let ds := rest.takeWhile Char.isDigit
    let after := rest.dropWhile Char.isDigit
    let n := ds.foldl (fun n d => 10 * n + (d.toNat - 48)) 0
    if 65535 < n then none
    else if after.head?.any fun c => !(endsAuthority true c) then none
    else some (if ds.isEmpty then none else some n, after)
  | _ => some (none, cs)

def readAuthority (scheme : String) (cs : List Char) : Option Url := do
  let special := (Kind.ofScheme scheme).isSpecial
  let (userinfo, cs) ← cutUserinfo? special cs
  let (hostText, cs) := spanHost special false cs
  if hostText.isEmpty && (special || !userinfo.isEmpty || cs.head? == some ':') then none
  let host ← if special then domain? hostText else generalHost? hostText
  let (port, cs) ← readPort? cs
  let port := if port == defaultPort? scheme then none else port
  some ({ ofScheme scheme with userinfo, host := some host, port }.withPathStart cs)

def readGeneral (scheme : String) (cs : List Char) : Option Url :=
  match cs with
  | '/' :: '/' :: rest => readAuthority scheme rest
  | '/' :: rest => some ((ofScheme scheme).withPath .root rest)
  | _ =>
    let (query, fragment) := readSuffix .general (cs.dropWhile (!endsPath ·))
    let path := Path.rootless (escape keptBare (cs.takeWhile (!endsPath ·)))
    some { ofScheme scheme with path, query, fragment }

/-- A URL with the path of another one, and the query and fragment of the text. -/
def withSuffix (base : Url) (cs : List Char) : Url :=
  match cs with
  | [] => { base with fragment := none }
  | '#' :: f => { base with fragment := some (escape keptInFragment f) }
  | _ =>
    let (query, fragment) := readSuffix base.kind cs
    { base with query, fragment }

def parentPath (u : Url) : Draft :=
  let d := u.path.toDraft.parent u.kind
  if d.isEmpty then .root else d

def slashCount (cs : List Char) : Nat := (cs.takeWhile (isSlash true)).length

def readRelative (base : Url) (cs : List Char) : Option Url :=
  match cs with
  | [] | '?' :: _ | '#' :: _ => some (base.withSuffix cs)
  | c :: rest =>
    if isSlash true c then
      if slashCount cs < 2 then some (base.withPath .root rest)
      else if "//".toList.isPrefixOf cs then readAuthority base.scheme (cs.drop 2)
      else readAuthority base.scheme (cs.drop (slashCount cs))
    else some (base.withPath base.parentPath cs)

/-- The path of a `file` URL without breaks, behind what is read of it, last character first. Between a
drive letter and what follows it in its segment a tab stays, which ends a chunk there. -/
def keepDriveBreaks : (read : List Char) → List Char → List Char
  | read, [] => read.reverse
  | read, c :: cs =>
    if endsPath c then read.reverse ++ (c :: cs).filter (!isBreak ·)
    else if isBreak c then
      let behindDrive := match read with
        | [':', d] => d.isAlpha
        | ':' :: d :: e :: _ => d.isAlpha && isSlash true e
        | _ => false
      let goesOn := (cs.find? (!isBreak ·)).any fun d => !(isSlash true d || endsPath d)
      keepDriveBreaks (if behindDrive && goesOn then '\t' :: read else read) cs
    else keepDriveBreaks (c :: read) cs

def startsWithDriveSegment (cs : List Char) : Bool :=
  isDrive (cs.take 2) && (cs.drop 2).head?.all fun c => endsAuthority true c

def localFile : Url := { ofScheme "file" with host := some "" }

/-- The text of a `file` URL behind two slashes: a host, unless there is a drive letter, and a path.
Without a host the first slash already ends an empty segment. A host goes where the path turns out to
start with a drive letter. -/
def readFileHost (cs : List Char) : Option Url := do
  let hostText := cs.takeWhile (!endsAuthority true ·)
  if isDrive hostText then some (localFile.withPath .root cs)
  else
    let rest := cs.drop hostText.length
    let host ← if hostText.isEmpty then some "" else domain? hostText
    if host.isEmpty || host == "localhost" then some (localFile.withPath .root rest)
    else
      let rest := if rest.head?.any (isSlash true) then rest.drop 1 else rest
      let draft := Draft.root.addText .file (rest.takeWhile (!endsPath ·))
      let host := if draft.startsWithDrive then "" else host
      some ({ localFile with host := some host }.withPath .root rest)

def readFile (base : Option Url) (cs : List Char) : Option Url :=
  match cs with
  | c :: d :: rest =>
    if isSlash true c && isSlash true d then readFileHost rest else readShort (c :: d :: rest)
  | cs => readShort cs
where
  readShort (cs : List Char) : Option Url :=
    match cs, base with
    | c :: rest, _ =>
      if isSlash true c then
        match startsWithDriveSegment rest, base with
        | false, some b =>
          match b.path with
          | .segments (s :: _) =>
            if isNormalDrive s.toList then
              some (localFile.withPath ('/' :: (Path.segments [s]).toDraft) rest)
            else some ({ localFile with host := b.host }.withPath .root rest)
          | _ => some ({ localFile with host := b.host }.withPath .root rest)
        | _, _ => some (localFile.withPath .root rest)
      else match base with
        | none => some (localFile.withPath .root cs)
        | some b =>
          if endsPath c then some (b.withSuffix cs)
          else if startsWithDriveSegment cs then some (localFile.withPath .root cs)
          else some (b.withPath b.parentPath cs)
    | [], some b => some (b.withSuffix [])
    | [], none => some (localFile.withPath .root [])

def read? (base : Option Url) (text : String) : Option Url :=
  let trimmed := trim text.toList
  let cs := trimmed.filter (!isBreak ·)
  match cutScheme? cs with
  | some (scheme, rest) =>
    match Kind.ofScheme scheme with
    | .file =>
      readFile (base.filter (·.scheme == "file"))
        (keepDriveBreaks [] ((trimmed.dropWhile (· != ':')).drop 1))
    | .special =>
      match base with
      | some b =>
        if slashCount rest < 2 && b.scheme == scheme then readRelative b rest
        else readAuthority scheme (rest.drop (slashCount rest))
      | none => readAuthority scheme (rest.drop (slashCount rest))
    | .general => readGeneral scheme rest
  | none =>
    match base with
    | none => none
    | some b =>
      match cs, b.path with
      | '#' :: _, _ => some (b.withSuffix cs)
      | _, .rootless _ => none
      | _, .segments _ =>
        if b.kind = .file then readFile (some b) (keepDriveBreaks [] trimmed)
        else readRelative b cs

def ofText? (text : String) : Option Url := read? none text

def join? (base : Url) (reference : String) : Option Url := read? (some base) reference

/-- A URL behind an authority has the host and port that are read, and what is read of the path. -/
theorem readAuthority_eq_some {scheme : String} {cs : List Char} {u : Url}
    (h : readAuthority scheme cs = some u) :
    let special := (Kind.ofScheme scheme).isSpecial
    ∃ info rest host port after, cutUserinfo? special cs = some (info, rest) ∧
      (if special then domain? (spanHost special false rest).1
        else generalHost? (spanHost special false rest).1) = some host ∧
      readPort? (spanHost special false rest).2 = some (port, after) ∧
      u = { ofScheme scheme with
        userinfo := info
        host := some host
        port := if port == defaultPort? scheme then none else port }.withPathStart after := by
  intro special
  unfold readAuthority at h
  simp only [Option.bind_eq_bind, Option.bind_eq_some_iff] at h
  obtain ⟨⟨info, rest⟩, hinfo, h⟩ := h
  dsimp only at h
  split at h
  · cases h
  · split at h <;>
    · next hspecial =>
      obtain ⟨host, hhost, h⟩ := Option.bind_eq_some_iff.1 h
      obtain ⟨⟨port, after⟩, hport, h⟩ := Option.bind_eq_some_iff.1 h
      refine ⟨info, rest, host, port, after, hinfo, ?_, hport, (Option.some.inj h).symm⟩
      simpa [special, hspecial] using hhost

/-- A `file` URL that stands alone has a path behind its host. -/
theorem readFile_none_eq_some {cs : List Char} {u : Url} (h : readFile none cs = some u) :
    ∃ host rest, u = { localFile with host := some host }.withPath .root rest := by
  have hroot : ∀ cs, some (localFile.withPath .root cs) = some u →
      ∃ host rest, u = { localFile with host := some host }.withPath .root rest :=
    fun cs h => ⟨"", cs, (Option.some.inj h).symm⟩
  have hshort : ∀ cs, readFile.readShort none cs = some u →
      ∃ host rest, u = { localFile with host := some host }.withPath .root rest := by
    intro cs h
    unfold readFile.readShort at h
    split at h
    · split at h
      · split at h
        · next hbase => cases hbase
        · exact hroot _ h
      · exact hroot _ h
    · next hbase => cases hbase
    · exact hroot _ h
  unfold readFile at h
  split at h
  · split at h
    · unfold readFileHost at h
      simp only [Option.bind_eq_bind] at h
      split at h
      · exact hroot _ h
      · split at h <;>
        · obtain ⟨host, -, h⟩ := Option.bind_eq_some_iff.1 h
          split at h
          · exact hroot _ h
          · exact ⟨_, _, (Option.some.inj h).symm⟩
    · exact hshort _ h
  · exact hshort _ h

end Registry.Url
