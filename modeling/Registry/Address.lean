import Registry.Location
import Registry.Model

/-!
# Addresses

The place of a URL in the hierarchy of a registry: group type, group, resource collection, resource,
`versions`, version. The registry's root is all that stands before the first segment that names a
group collection. A location that is not read over HTTP is at the root of a registry without a URL.
-/

namespace Registry

inductive Level where
  | registry
  | groupType
  | group
  | resourceCollection
  | resource
  | versionCollection
  | version
  | unknown
  deriving DecidableEq, Repr

namespace Level

/-- The level that so many segments below the root lead to. -/
def ofDepth : Nat → Level
  | 0 => registry
  | 1 => groupType
  | 2 => group
  | 3 => resourceCollection
  | 4 => resource
  | 5 => versionCollection
  | 6 => version
  | _ => unknown

def name : Level → String
  | registry => "registry"
  | groupType => "group_type"
  | group => "group_instance"
  | resourceCollection => "resource_collection"
  | resource => "resource"
  | versionCollection => "version_collection"
  | version => "version"
  | unknown => "unknown"

end Level

structure Address where
  /-- The scheme and host of the registry; empty for a local document. -/
  base : String
  /-- The segments of the path before the first group collection. -/
  outer : List String
  /-- The segments from the first group collection on. -/
  inner : List String
  deriving DecidableEq, Repr

namespace Address

def fileRoot : Address := ⟨"", [], []⟩

def root (a : Address) : String := a.outer.foldl (fun root segment => root ++ "/" ++ segment) a.base

def segments (a : Address) : List String := a.outer ++ a.inner

def level (a : Address) : Level := .ofDepth a.inner.length

def groupType? (a : Address) : Option String := a.inner[0]?

def groupId? (a : Address) : Option String := a.inner[1]?

def collection? (a : Address) : Option String := a.inner[2]?

def resourceId? (a : Address) : Option String := a.inner[3]?

def versionId? (a : Address) : Option String := a.inner[5]?

def ofUrl (isCollection : String → Bool) (u : Url) : Address :=
  { base := u.scheme ++ "://" ++ u.hostAndPort
    outer := u.pathSegments.takeWhile (!isCollection ·)
    inner := u.pathSegments.dropWhile (!isCollection ·) }

def ofLocation (isCollection : String → Bool) (location : String) : Address :=
  match (Url.ofText? location).filter Url.isHttp with
  | some u => ofUrl isCollection u
  | none => fileRoot

def looksLikeCollection (segment : String) : Bool :=
  Text.endsWith segment "groups" || segment == "endpoints"

/-- The address of a location by the group types of a model. -/
def inModel (m : Model) (location : String) : Address :=
  ofLocation m.isGroupCollection location

/-- The address of a location by the usual form of the names of group collections. -/
def byConvention (location : String) : Address := ofLocation looksLikeCollection location

end Address

end Registry
