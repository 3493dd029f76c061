import Registry.Fetcher
import Registry.Model

/-!
# Entries

An entry document in the form of a registry: collections given by URL are put in, and the document
of a single group is put under its id in the collection of its group type.
-/

namespace Registry.Entry

/-- The collection that a fetched mapping holds: a registry has it under its name. -/
def collectionIn (plural : String) (fields : Fields) : Fields :=
  match fields.get? plural with
  | some (.mapping inner) => inner
  | _ => fields.swapErase plural

/-- Puts in the collection of a group type, if the document gives it by URL alone. -/
def inlineCollection (headers : Headers) (type : GroupType) (root : Fields) (f : Fetcher) :
    Fields × Fetcher :=
  let urlKey := type.plural ++ "url"
  if root.has type.plural then (root, f)
  else match root.textAt? urlKey with
    | none => (root, f)
    | some url =>
      let root := root.swapErase urlKey
      let ((_, document), f) := f.fetch url headers .reuse
      match document with
      | some (.mapping fields) =>
        (root.insert type.plural (.mapping (collectionIn type.plural fields)), f)
      | _ => (root, f)

def inlineCollections (m : Model) (headers : Headers) (root : Fields) (f : Fetcher) :
    Fields × Fetcher :=
  m.groups.foldl (fun (root, f) type => inlineCollection headers type root f) (root, f)

/-- The group type of a document that is a single group, and the id of the group. -/
def groupOf? (m : Model) (root : Fields) : Option (GroupType × String) :=
  m.groups.findSome? fun type => (root.textAt? type.idAttribute).map (type, ·)

/-- Puts the document of a single group under its id. -/
def wrap (m : Model) (root : Fields) : Fields :=
  if root.keys.any m.isGroupCollection then root
  else match groupOf? m root with
    | some (type, id) => [(type.plural, .mapping [(id, .mapping root)])]
    | none => root

def normalize (m : Model) (headers : Headers) (root : Fields) (f : Fetcher) : Fields × Fetcher :=
  let (root, f) := inlineCollections m headers root f
  (wrap m root, f)

end Registry.Entry
