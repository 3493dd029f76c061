import Registry.Table
import Registry.Document

/-!
# Sources

Where documents are read from. What a source answers may depend on all that it was asked before, so
one that changes between two reads is a source too.
-/

namespace Registry

abbrev Headers := Table String

structure Request where
  location : String
  headers : Headers
  deriving DecidableEq, Repr

structure RawDocument where
  /-- The location where the document was found in the end, without a fragment. -/
  location : String
  text : String
  /-- What the registry says about the document, by small names in order. -/
  attributes : Table String
  deriving DecidableEq, Repr

structure Source where
  /-- How many locations it serves at most. -/
  extent : Nat
  /-- The answer to a request after other ones, the latest of them first; none if the read fails. -/
  answer : (earlier : List Request) → Request → Option RawDocument

namespace Source

/-- The source that holds some documents, whatever was asked before. -/
def ofDocuments (documents : Table RawDocument) : Source :=
  { extent := documents.length, answer := fun _ request => documents.get? request.location }

/-- Every answer depends on the location alone. -/
def Stable (s : Source) : Prop :=
  ∃ f : String → Option RawDocument, ∀ earlier request, s.answer earlier request = f request.location

theorem stable_ofDocuments (documents : Table RawDocument) : (ofDocuments documents).Stable :=
  ⟨documents.get?, fun _ _ => rfl⟩

end Source

end Registry
