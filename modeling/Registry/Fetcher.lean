import Registry.Source
import Registry.Location

/-!
# Fetching

Documents read from a source, each location once. Failed reads are kept like successful ones. The
locations met so far, as they were asked for and as they were found, are the handled ones.
-/

namespace Registry

inductive FetchMode where
  /-- A handled document is left out. -/
  | once
  /-- A handled document is given again. -/
  | reuse
  deriving DecidableEq, Repr

/-- What a read gave: where the document was found, and the document if there is one. -/
structure CachedRead where
  location : String
  document : Option Value

structure Fetcher where
  source : Source
  policy : ParsePolicy
  handled : List String
  cache : Table CachedRead
  /-- The last location that was read over HTTP. -/
  currentUrl : Option String
  /-- The requests made so far, the latest one first. -/
  requests : List Request

namespace Fetcher

def start (source : Source) (policy : ParsePolicy) : Fetcher :=
  { source, policy, handled := [], cache := [], currentUrl := none, requests := [] }

/-- The key under which a schema's version object keeps an attribute. -/
def attributeKey (name : String) : String :=
  if name = "defaultversionid" then "versionid" else name

/-- The version object that the registry's attributes describe, with the document as its schema. -/
def withAttributes (attributes : Table String) (document : Value) : Value :=
  let fields : Fields := attributes.foldl
    (fun fields e => fields.insert (attributeKey e.1) (.string e.2)) []
  .mapping (fields.insert "schema" document)

/-- The document of a raw one; none if it is blank or cannot be parsed. -/
def parse (policy : ParsePolicy) (raw : RawDocument) : Option Value :=
  if Text.blank raw.text then none
  else (Document.read? policy raw.text).map fun document =>
    if raw.attributes.has "schemaid" then withAttributes raw.attributes document else document

def readOf (policy : ParsePolicy) (location : String) : Option RawDocument → CachedRead
  | some raw => ⟨raw.location, parse policy raw⟩
  | none => ⟨location, none⟩

def addHandled (f : Fetcher) (location : String) : Fetcher :=
  if f.handled.contains location then f else { f with handled := f.handled ++ [location] }

/-- What reading a location gives, asking the source only if it was not asked before. -/
def consult (f : Fetcher) (location : String) (headers : Headers) : CachedRead × Fetcher :=
  match f.cache.get? location with
  | some read => (read, f)
  | none =>
    let request : Request := ⟨location, headers⟩
    let read := readOf f.policy location (f.source.answer f.requests request)
    (read, { f with cache := f.cache ++ [(location, read)], requests := request :: f.requests })

def noteCurrent (f : Fetcher) (location : String) : Fetcher :=
  if Location.isHttp location then { f with currentUrl := some location } else f

/-- Fetches a document: where it was found, and the document unless it is missing or left out. -/
def fetch (f : Fetcher) (location : String) (headers : Headers) (mode : FetchMode) :
    (String × Option Value) × Fetcher :=
  let key := Location.stripFragment location
  if mode = .once ∧ f.handled.contains key then ((key, none), f)
  else
    let (read, f) := f.consult key headers
    let f := f.noteCurrent read.location
    if mode = .once ∧ read.location ≠ key ∧ f.handled.contains read.location then
      ((read.location, none), f.addHandled key)
    else ((read.location, read.document), (f.addHandled key).addHandled read.location)

def isHandled (f : Fetcher) (location : String) : Bool :=
  f.handled.contains (Location.stripFragment location)

def markHandled (f : Fetcher) (location : String) : Fetcher :=
  f.addHandled (Location.stripFragment location)

def clearHandled (f : Fetcher) : Fetcher := { f with handled := [] }

def setCurrentUrl (f : Fetcher) (location : Option String) : Fetcher :=
  { f with currentUrl := location }

/-- Forgets everything but the requests made. -/
def reset (f : Fetcher) : Fetcher := { f with handled := [], cache := [], currentUrl := none }

end Fetcher

end Registry
