import Registry.Discovery
import Registry.Reference
import Registry.Value.Pointer

/-!
# Lint

What is wrong with a composed document: containers that are no mappings, default versions that do not
exist, and fragment references that lead nowhere. A group collection that the model does not know is
worth a warning.
-/

namespace Registry

namespace Lint

inductive Problem where
  | rootNotMapping
  /-- A collection of groups or resources, with the words for what it should map ids to. -/
  | collectionNotMapping (name content : String)
  | groupNotMapping (singular id : String)
  | resourceNotMapping (singular id : String)
  | versionsNotMapping
  /-- The default version is none of the versions. -/
  | unknownDefaultVersion (id : String)
  | defaultWithoutVersions (id : String)
  | unknownCollection (name : String)
  | unresolvedReference (reference : String)
  deriving DecidableEq, Repr

namespace Problem

def code : Problem → String
  | rootNotMapping => "not-a-mapping"
  | collectionNotMapping .. => "collection-not-mapping"
  | groupNotMapping .. => "group-not-mapping"
  | resourceNotMapping .. => "resource-not-mapping"
  | versionsNotMapping => "versions-not-mapping"
  | unknownDefaultVersion _ | defaultWithoutVersions _ => "unknown-default-version"
  | unknownCollection _ => "unknown-collection"
  | unresolvedReference _ => "unresolved-reference"

def message : Problem → String
  | rootNotMapping => "document root is not a mapping"
  | collectionNotMapping name content => "'" ++ name ++ "' must be a mapping of " ++ content
  | groupNotMapping singular id | resourceNotMapping singular id =>
    singular ++ " '" ++ id ++ "' is not a mapping"
  | versionsNotMapping => "'versions' must be a mapping"
  | unknownDefaultVersion id => "defaultversionid '" ++ id ++ "' names no existing version"
  | defaultWithoutVersions id => "defaultversionid '" ++ id ++ "' set but resource has no versions"
  | unknownCollection name =>
    "'" ++ name ++ "' is not a group collection of the registry model"
  | unresolvedReference reference =>
    "reference '" ++ reference ++ "' does not resolve in this document"

/-- Whether a problem leaves the document valid. -/
def isWarning : Problem → Bool
  | defaultWithoutVersions _ | unknownCollection _ => true
  | _ => false

end Problem

structure Finding where
  path : String
  problem : Problem
  deriving DecidableEq, Repr

def below (path key : String) : String := if path.isEmpty then key else path ++ "." ++ key

def lintVersions (path : String) (resource : Fields) : List Finding :=
  match resource.get? "versions", resource.textAt? "defaultversionid" with
  | none, none => []
  | none, some id => [⟨path, .defaultWithoutVersions id⟩]
  | some (.mapping versions), some id =>
    if Table.has versions id then [] else [⟨path, .unknownDefaultVersion id⟩]
  | some (.mapping _), none => []
  | some _, _ => [⟨path, .versionsNotMapping⟩]

def lintResource (type : ResourceType) (path id : String) (resource : Value) : List Finding :=
  match resource with
  | .mapping resource => lintVersions (path ++ "." ++ id) resource
  | _ => [⟨path ++ "." ++ id, .resourceNotMapping type.singular id⟩]

def lintResources (path : String) (group : Fields) (type : ResourceType) : List Finding :=
  let path := path ++ "." ++ type.plural
  match group.get? type.plural with
  | none => []
  | some (.mapping resources) => resources.flatMap fun (id, v) => lintResource type path id v
  | some _ => [⟨path, .collectionNotMapping type.plural ("id to " ++ type.singular)⟩]

def lintGroup (type : GroupType) (path id : String) (group : Value) : List Finding :=
  match group with
  | .mapping group => type.resources.flatMap (lintResources (path ++ "." ++ id) group)
  | _ => [⟨path ++ "." ++ id, .groupNotMapping type.singular id⟩]

def lintCollection (type : GroupType) (path : String) (v : Value) : List Finding :=
  match v with
  | .mapping groups => groups.flatMap fun (id, group) => lintGroup type path id group
  | _ => [⟨path, .collectionNotMapping type.plural "group id to group"⟩]

def lintEntry (m : Model) (key : String) (v : Value) : List Finding :=
  match m.collection? key with
  | some type => lintCollection type key v
  | none =>
    if Text.endsWith key "groups" && v.isMapping then [⟨key, .unknownCollection key⟩] else []

def resolves (root : Value) (reference : String) : Bool :=
  (root.lookup (Reference.ofText reference).withoutTypeName).isSome

/-- The problem with a text under a key, if it is a fragment reference that leads nowhere. -/
def lintText (root : Value) (path key s : String) : List Finding :=
  if Discovery.isReferenceKey key && Text.startsWith s "#" && !resolves root s then
    [⟨path, .unresolvedReference s⟩]
  else []

mutual

def lintReferences (root : Value) (path : String) : Value → List Finding
  | .mapping fields => lintReferencesInFields root path fields
  | .sequence items => lintReferencesInItems root path 0 items
  | _ => []

def lintReferencesInFields (root : Value) (path : String) : List (String × Value) → List Finding
  | [] => []
  | (key, .string s) :: rest =>
    lintText root (below path key) key s ++ lintReferencesInFields root path rest
  | (key, v) :: rest =>
    lintReferences root (below path key) v ++ lintReferencesInFields root path rest

def lintReferencesInItems (root : Value) (path : String) (index : Nat) : List Value → List Finding
  | [] => []
  | v :: rest =>
    lintReferences root (path ++ "[" ++ toString index ++ "]") v ++
      lintReferencesInItems root path (index + 1) rest

end

/-- All problems of a document, those of its shape first. -/
def findings (m : Model) (document : Value) : List Finding :=
  match document with
  | .mapping root =>
    (root.flatMap fun (key, v) => lintEntry m key v) ++ lintReferences document "" document
  | _ => [⟨"", .rootNotMapping⟩]

def errors (m : Model) (document : Value) : List Finding :=
  (findings m document).filter (!·.problem.isWarning)

def warnings (m : Model) (document : Value) : List Finding :=
  (findings m document).filter (·.problem.isWarning)

end Lint

end Registry
