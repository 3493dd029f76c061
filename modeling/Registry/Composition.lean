import Registry.Address
import Registry.Discovery
import Registry.Fetcher
import Registry.Value.Merge

/-!
# Composition

One document out of an entry and everything it refers to. The references are followed depth first;
each document found is merged where its location places it, and fills only what is missing there.
-/

namespace Registry

/-- The location that a reference leads to, seen from an address. A relative one needs a registry
with a URL. -/
def Address.locate? (context : Address) (reference : String) : Option String :=
  let reference := Location.stripFragment reference
  if Location.hasScheme reference then some reference
  else if context.root.isEmpty then none
  else Location.join? (context.root ++ "/")
    (String.ofList (reference.toList.dropWhile (· == '/')))

namespace Composition

/-- The resource collection of an address: its own segment if the model knows it, else the first one
that the group type declares. -/
def collectionName (m : Model) (a : Address) : String :=
  match a.collection?.filter fun segment => (m.resource? segment).isSome with
  | some segment => segment
  | none => ((a.groupType?.bind m.firstResource?).map (·.plural)).getD "resources"

/-- Puts a document under a key; if there is a mapping already, fills only what it lacks. -/
def fill (fields : Fields) (key : String) (document : Value) : Fields :=
  match fields.get? key with
  | none => fields ++ [(key, document)]
  | some existing => fields.insert key (existing.merge document)

def fillEach (fields : Fields) (document : Value) : Fields :=
  match document.fields? with
  | some entries => entries.foldl (fun fields e => fill fields e.1 e.2) fields
  | none => fields

def mergeAt (m : Model) (a : Address) (document : Value) (root : Fields) : Fields :=
  match a.inner with
  | [] =>
    match document.fields? with
    | some groups => groups.foldl (fun root e =>
        if m.isGroupCollection e.1 then root.within e.1 (fillEach · e.2) else root) root
    | none => root
  | [groupType] => root.within groupType (fillEach · document)
  | [groupType, groupId] => root.within groupType (fill · groupId document)
  | [groupType, groupId, _] =>
    root.within groupType (·.within groupId (·.within (collectionName m a) (fillEach · document)))
  | [groupType, groupId, _, resourceId] =>
    root.within groupType (·.within groupId
      (·.within (collectionName m a) (fill · resourceId document)))
  | [groupType, groupId, _, resourceId, _] =>
    root.within groupType (·.within groupId (·.within (collectionName m a)
      (·.within resourceId (·.within "versions" (fillEach · document)))))
  | [groupType, groupId, _, resourceId, _, versionId] =>
    root.within groupType (·.within groupId (·.within (collectionName m a)
      (·.within resourceId (·.within "versions" (fill · versionId document)))))
  | _ => root

def mergeAtLocation (m : Model) (composed : Fields) (location : String) (document : Value) : Fields :=
  mergeAt m (Address.inModel m location) document composed

/-- Whether a value is a mapping with some group collection. -/
def isSelfDescribing (m : Model) (entry : Value) : Bool :=
  entry.fields?.any fun fields => fields.keys.any m.isGroupCollection

/-- The entry alone, at the place that its address gives it. One that shows its own group
collections, or whose address has no group type, is the registry itself. -/
def seed (m : Model) (a : Address) (entry : Value) : Fields :=
  if isSelfDescribing m entry then entry.fields?.getD []
  else match a.groupType?, a.groupId? with
    | none, _ => entry.fields?.getD []
    | some groupType, none => [(groupType, entry)]
    | some groupType, some groupId => [(groupType, .mapping [(groupId, entry)])]

def isPresent (m : Model) (composed : Fields) (location : String) : Bool :=
  let a := Address.inModel m location
  match a.inner with
  | [groupType, groupId, _, resourceId] =>
    ((((composed.get? groupType).bind (·.get? groupId)).bind (·.get? (collectionName m a))).bind
      (·.get? resourceId)).isSome
  | _ => false

end Composition

structure Dependencies where
  /-- The documents found, by location, in the order in which they were found. -/
  resolved : Table Value
  /-- The locations that are being followed. -/
  pending : List String
  /-- The locations that the latest entry leads to. -/
  reached : List String

namespace Dependencies

def start : Dependencies := ⟨[], [], []⟩

def markPending (d : Dependencies) (location : String) : Dependencies :=
  if d.pending.contains location then d else { d with pending := d.pending ++ [location] }

def isPending (d : Dependencies) (location : String) : Bool := d.pending.contains location

def leave (d : Dependencies) (location : String) : Dependencies :=
  { d with pending := d.pending.filter (· ≠ location) }

def addReached (d : Dependencies) (location : String) : Dependencies :=
  if d.reached.contains location then d else { d with reached := d.reached ++ [location] }

theorem resolved_markPending (d : Dependencies) (location : String) :
    (d.markPending location).resolved = d.resolved := by
  unfold markPending
  split <;> rfl

theorem reached_markPending (d : Dependencies) (location : String) :
    (d.markPending location).reached = d.reached := by
  unfold markPending
  split <;> rfl

theorem resolved_addReached (d : Dependencies) (location : String) :
    (d.addReached location).resolved = d.resolved := by
  unfold addReached
  split <;> rfl

theorem pending_addReached (d : Dependencies) (location : String) :
    (d.addReached location).pending = d.pending := by
  unfold addReached
  split <;> rfl

end Dependencies

inductive Visit where
  | enter (location : String)
  /-- All that a location leads to has been followed. -/
  | leave (location : String)

namespace Composition

/-- The locations that a document at `context` leads to, other than the one it was asked for at. -/
def nested (m : Model) (location context : String) (document : Value) : List Visit :=
  let a := Address.inModel m context
  ((Discovery.references m document).filterMap a.locate?).filter (· ≠ location) |>.map .enter

/-- Follows one location. What is left to visit after it is given only if the location is reached
for the first time. -/
def enter (m : Model) (headers : Headers) (location : String) (d : Dependencies) (f : Fetcher) :
    Dependencies × Fetcher × Option (List Visit) :=
  match d.resolved.get? location with
  | some document =>
    if d.reached.contains location then (d, f, none)
    else (d.addReached location, f, some (nested m location location document))
  | none =>
    if d.isPending location then (d, f, none)
    else
      let ((found, document), f) := f.fetch location headers .reuse
      match document with
      | none => (d, f, none)
      | some document =>
        let d := { d with resolved := d.resolved ++ [(location, document)] }
        (((d.markPending location).addReached location), f,
          some (nested m location found document ++ [.leave location]))

/-- Follows references depth first. The number exceeds that of the locations that are still to be
reached. -/
def walk (m : Model) (headers : Headers) (bound : Nat) (visits : List Visit) (d : Dependencies)
    (f : Fetcher) : Dependencies × Fetcher :=
  match bound, visits with
  | _, [] => (d, f)
  | bound, .leave location :: rest => walk m headers bound rest (d.leave location) f
  | 0, .enter _ :: rest => walk m headers 0 rest d f
  | bound + 1, .enter location :: rest =>
    match enter m headers location d f with
    | (d, f, none) => walk m headers (bound + 1) rest d f
    | (d, f, some more) => walk m headers bound (more ++ rest) d f
termination_by (bound, visits.length)

/-- A walk keeps whatever entering and leaving a location keep. -/
theorem walk_preserves {m : Model} {headers : Headers} {P : Dependencies → Fetcher → Prop}
    (hleave : ∀ d f location, P d f → P (d.leave location) f)
    (henter : ∀ d f location, P d f →
      P (enter m headers location d f).1 (enter m headers location d f).2.1)
    (bound : Nat) (visits : List Visit) {d : Dependencies} {f : Fetcher} (h : P d f) :
    P (walk m headers bound visits d f).1 (walk m headers bound visits d f).2 := by
  fun_induction walk m headers bound visits d f with
  | case1 => exact h
  | case2 d f bound location rest ih => exact ih (hleave d f location h)
  | case3 d f location rest ih => exact ih h
  | case4 d f bound location rest d' f' heq ih =>
    have hentered := henter d f location h
    rw [heq] at hentered
    exact ih hentered
  | case5 d f bound location rest d' f' more heq ih =>
    have hentered := henter d f location h
    rw [heq] at hentered
    exact ih hentered

/-- A number greater than that of the locations that can be reached: those known already, those that
the source serves, and the first one, which may have a fragment. -/
def bound (d : Dependencies) (f : Fetcher) : Nat :=
  f.source.extent + d.resolved.length + f.cache.length + 2

def resolve (m : Model) (headers : Headers) (location : String) (d : Dependencies) (f : Fetcher) :
    Option Value × Dependencies × Fetcher :=
  let (d, f) := walk m headers (bound d f) [.enter location] d f
  (d.resolved.get? location, d, f)

/-- The locations that an entry leads to and that it does not hold already. -/
def roots (m : Model) (entryLocation : String) (composed : Fields) : List String :=
  let a := Address.inModel m entryLocation
  let key := Location.stripFragment entryLocation
  ((Discovery.references m (.mapping composed)).filterMap a.locate?).filter fun location =>
    location ≠ key && !isPresent m composed location

def mergeAll (m : Model) (resolved : Table Value) (composed : Fields) (locations : List String) :
    Fields :=
  locations.foldl (fun composed location =>
    match resolved.get? location with
    | some document => mergeAtLocation m composed location document
    | none => composed) composed

def compose (m : Model) (headers : Headers) (location : String) (entry : Value) (d : Dependencies)
    (f : Fetcher) : Fields × Dependencies × Fetcher :=
  let seeded := seed m (Address.inModel m location) entry
  let d := { d with reached := [] }
  let (d, f) := walk m headers (bound d f) ((roots m location seeded).map .enter) d f
  (mergeAll m d.resolved seeded d.reached, d, f)

end Composition

end Registry
