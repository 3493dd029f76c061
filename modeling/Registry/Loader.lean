import Registry.Composition
import Registry.Defaults
import Registry.Entry
import Registry.Inheritance
import Registry.Payload
import Registry.Stack

/-!
# Loading

Definitions are fetched, brought into the form of a registry, composed with what they refer to,
given their payloads, inherited attributes and defaults, and filtered. A loader carries what a run
has read and met.
-/

namespace Registry

structure LoadOptions where
  /-- The document is wanted as it was fetched. -/
  schemaStyle : Bool := false
  /-- Only message groups whose id has this part are kept. -/
  messageGroupFilter : Option String := none
  /-- Only endpoints whose id has this part are kept. -/
  endpointFilter : Option String := none

structure Loader where
  model : Model
  fetcher : Fetcher
  dependencies : Dependencies
  schemaReferences : List String
  schemaFiles : List String

/-- What a load gives: a location, and the document if there is one. -/
abbrev Loaded := String × Option Value

namespace Loader

def start (model : Model) (source : Source) (policy : ParsePolicy) : Loader :=
  { model, fetcher := .start source policy, dependencies := .start, schemaReferences := []
    schemaFiles := [] }

/-- Keeps only the groups of a collection whose id has a part. -/
def keepGroups (collection : String) (part : Option String) (root : Fields) : Fields :=
  match part, root.get? collection with
  | some part, some (.mapping groups) =>
    root.insert collection (.mapping (groups.filter fun e => Text.contains e.1 part))
  | _, _ => root

def applyFilters (options : LoadOptions) (root : Fields) : Fields :=
  keepGroups "endpoints" options.endpointFilter
    (keepGroups "messagegroups" options.messageGroupFilter root)

/-- What follows the composition of a document: payloads, inheritance, defaults. -/
def settle (m : Model) (headers : Headers) (root : Fields) (f : Fetcher) :
    Except Fault Fields × Fetcher :=
  let (root, f) := Payload.populateAll m headers root f
  match Defaults.complete m (Inheritance.inherit m root) with
  | (root, none) => (.ok root, f)
  | (_, some fault) => (.error fault, f)

def process (l : Loader) (location : String) (document : Value) (headers : Headers)
    (options : LoadOptions) (composing : Bool) : Except Fault Value × Loader :=
  match document with
  | .mapping root =>
    let (root, f) := Entry.normalize l.model headers root l.fetcher
    let (root, d, f) := if composing then
        Composition.compose l.model headers location (.mapping root) l.dependencies f
      else (root, l.dependencies, f)
    let (result, f) := settle l.model headers root f
    (result.map fun root => .mapping (applyFilters options root),
      { l with fetcher := f, dependencies := d })
  | _ => (.error (.invalidDocument location .notMapping), l)

def loadOne (l : Loader) (location : String) (headers : Headers) (options : LoadOptions)
    (composing : Bool) : Except Fault Loaded × Loader :=
  let ((found, document), f) := l.fetcher.fetch location headers .once
  let l := { l with fetcher := f }
  match document with
  | none => (.ok (found, none), l)
  | some document =>
    if options.schemaStyle then (.ok (found, some document), l)
    else
      let (result, l) := l.process found document headers options composing
      (result.map fun document => (found, some document), l)

def load (l : Loader) (location : String) (headers : Headers) (options : LoadOptions) :
    Except Fault Loaded × Loader :=
  l.loadOne location headers options false

def loadWithDependencies (l : Loader) (location : String) (headers : Headers)
    (options : LoadOptions) : Except Fault Loaded × Loader :=
  l.loadOne location headers options true

/-- The documents of a stack, one on top of the other: where the last one was found and the whole.
One that is missing ends the stack, and its location is the result. -/
def stack (headers : Headers) : List String → (lower : Option (String × Fields)) → Loader →
    Except Fault (String × Option Fields) × Loader
  | [], lower, l => (.ok (match lower with
      | some (location, root) => (location, some root)
      | none => ("", none)), l)
  | location :: rest, lower, l =>
    let ((found, document), f) := l.fetcher.fetch location headers .once
    match document with
    | none => (.ok (location, none), { l with fetcher := f })
    | some (.mapping root) =>
      let (root, f) := Entry.normalize l.model headers root f
      let whole := match lower with
        | some (_, base) => Stack.overlay l.model base root
        | none => root
      stack headers rest (some (found, whole)) { l with fetcher := f }
    | some _ => (.error (.invalidDocument found .notMapping), { l with fetcher := f })

def loadStacked (l : Loader) (locations : List String) (headers : Headers) (options : LoadOptions) :
    Except Fault Loaded × Loader :=
  match stack headers locations none l with
  | (.error fault, l) => (.error fault, l)
  | (.ok (location, none), l) => (.ok (location, none), l)
  | (.ok (location, some root), l) =>
    let (result, l) := l.process location (.mapping root) headers options true
    (result.map fun document => (location, some document), l)

def addSchemaFile (l : Loader) (location : String) : Loader :=
  if l.schemaFiles.contains location then l
  else { l with schemaFiles := l.schemaFiles ++ [location] }

def addSchemaReference (l : Loader) (reference : String) : Loader :=
  if l.schemaReferences.contains reference then l
  else { l with schemaReferences := l.schemaReferences ++ [reference] }

/-- Loads a schema document as it is, even if it was met before. -/
def loadSchemaDocument (l : Loader) (location : String) (headers : Headers) :
    Option Value × Loader :=
  let ((found, document), f) := l.fetcher.fetch location headers .reuse
  let l := { l with fetcher := f }
  (document, if document.isSome then l.addSchemaFile found else l)

def resetRun (l : Loader) : Loader :=
  { l with fetcher := l.fetcher.reset, dependencies := .start, schemaReferences := []
           schemaFiles := [] }

end Loader

end Registry
