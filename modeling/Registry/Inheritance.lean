import Registry.Model
import Registry.Reference
import Registry.Url.Reader
import Registry.Value.Merge
import Registry.Value.Pointer
import Registry.Version

/-!
# Inheritance

A message may name another one as its base and takes over what it does not define itself, along the
whole chain of bases. Messages on a cycle take over nothing. Afterwards no message names a base.
-/

namespace Registry.Inheritance

def baseAttribute : String := "basemessageurl"

def collection : String := "messages"

/-- The attribute that holds the id of a message, which no message takes over. -/
def idAttribute : String := "messageid"

/-- The names of the group collections whose groups declare messages. -/
def groupCollections (m : Model) : List String :=
  (m.groups.filter fun g => (g.resource? collection).isSome).map (·.plural)

def pointerOf (plural groupId messageId : String) : String :=
  Pointer.ofTokens [plural, groupId, collection, messageId]

def messagesOfGroup (plural groupId : String) (group : Value) : Table Fields :=
  match (group.get? collection).bind Value.fields? with
  | none => []
  | some messages =>
    messages.filterMap fun (id, message) => message.fields?.map (pointerOf plural groupId id, ·)

def messages (m : Model) (document : Value) : Table Fields :=
  (groupCollections m).flatMap fun plural =>
    match (document.get? plural).bind Value.fields? with
    | none => []
    | some groups => groups.flatMap fun (id, group) => messagesOfGroup plural id group

/-- The pointer that the path of a URL spells, from the first group collection on. -/
def pointerOfPath? (m : Model) (path : String) : Option String :=
  let segments := ((Text.pieces '/' path).filter (!·.isEmpty)).map Text.Percent.unescape
  match segments.dropWhile (!m.isGroupCollection ·) with
  | [] => none
  | segments => some (Pointer.ofTokens segments)

/-- The pointer of a fragment that leads somewhere as it is, with all that stands behind the `#`. -/
def wholeFragment? (document : Value) (text : String) : Option String := do
  let (_, fragment) ← Text.cutAt? '#' (Text.trim text)
  let pointer := Pointer.ofFragment fragment
  if (document.lookup pointer).isSome then some pointer else none

/-- The pointer that a base reference leads to. A fragment counts whole if it leads somewhere,
because ids may hold a colon; otherwise the name of a type at its end does not count. -/
def basePointer? (m : Model) (document : Value) (text : String) : Option String :=
  match wholeFragment? document text with
  | some pointer => some pointer
  | none =>
    match Reference.ofText text with
    | .fragment path _ => some (Pointer.ofFragment ("#" ++ path))
    | .external _ (some fragment) _ => some (Pointer.ofFragment fragment)
    | .external location none _ =>
      pointerOfPath? m (((Url.ofText? location).map (·.path.toString)).getD location)

/-- The messages of a document, and the pointers of the bases that they name. -/
structure Lineage where
  document : Value
  messages : Table Fields
  bases : Table String

namespace Lineage

def ofDocument (m : Model) (document : Value) : Lineage :=
  let messages := Inheritance.messages m document
  { document, messages
    bases := messages.filterMap fun (pointer, message) =>
      ((message.textAt? baseAttribute).bind (basePointer? m document)).map (pointer, ·) }

/-- The message that a message names as its base; none if the base is no message. -/
def parent? (l : Lineage) (pointer : String) : Option String :=
  (l.bases.get? pointer).filter (l.messages.has ·)

/-- Whether so many steps along the bases lead to a message. -/
def leadsTo (l : Lineage) (target : String) : Nat → String → Bool
  | 0, _ => false
  | steps + 1, pointer =>
    match l.parent? pointer with
    | none => false
    | some parent => parent == target || leadsTo l target steps parent

def isCyclic (l : Lineage) (pointer : String) : Bool :=
  l.leadsTo pointer l.messages.length pointer

/-- What a message takes over from a base: its latest version, if it has versions, without what
belongs to the base alone. -/
def inheritable (base : Value) : Option Fields := do
  let fields ← match base.latestVersion? with
    | some (_, version) => version.fields?
    | none => base.fields?
  some ((fields.swapErase baseAttribute).swapErase idAttribute)

/-- A message with all that it takes over. The number bounds the length of the chain. -/
def resolve (l : Lineage) : (bound : Nat) → (pointer : String) → Fields
  | 0, pointer => ((l.messages.get? pointer).getD []).swapErase baseAttribute
  | bound + 1, pointer =>
    let message := (l.messages.get? pointer).getD []
    let full :=
      if l.isCyclic pointer then message
      else match l.bases.get? pointer with
        | none => message
        | some base =>
          let found := if l.messages.has base then some (.mapping (resolve l bound base))
            else l.document.lookup base
          match found.bind inheritable with
          | some fields => message.merge fields
          | none => message
    full.swapErase baseAttribute

def resolved (l : Lineage) (pointer : String) : Fields := l.resolve l.messages.length pointer

end Lineage

def mapMessages (m : Model) (change : (pointer : String) → Fields → Fields) (root : Fields) : Fields :=
  (groupCollections m).eraseDups.foldl (fun root plural =>
    (root.changeAt plural (fun groups (_ : Unit) =>
      (groups.mapValues fun groupId group => group.onMapping fun group =>
        (group.changeAt collection (fun messages (_ : Unit) =>
          (messages.mapValues fun id message =>
            message.onMapping (change (pointerOf plural groupId id)), ())) ()).1, ())) ()).1) root

def inherit (m : Model) (root : Fields) : Fields :=
  let l := Lineage.ofDocument m (.mapping root)
  mapMessages m (fun pointer _ => l.resolved pointer) root

end Registry.Inheritance
