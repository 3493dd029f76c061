import Registry.Model

/-!
# Discovery

The references to other parts of a registry that a document holds: texts under the key of a
reference, or in a sequence, with the name of a group collection between slashes.
-/

namespace Registry.Discovery

def isReferenceKey (key : String) : Bool :=
  let key := Text.lowerAscii key
  Text.endsWith key "uri" || Text.endsWith key "url" || Text.contains key "ref"

/-- Whether a text refers to a group collection of another document. -/
def isCandidate (m : Model) (text : String) : Bool :=
  !Text.startsWith text "#" && m.groups.any fun g => Text.contains text ("/" ++ g.plural ++ "/")

mutual

def occurrences (m : Model) : Value → List String
  | .mapping fields => occurrencesInFields m fields
  | .sequence items => occurrencesInItems m items
  | _ => []

def occurrencesInFields (m : Model) : List (String × Value) → List String
  | [] => []
  | (key, .string s) :: rest =>
    (if isReferenceKey key && isCandidate m s then [s] else []) ++ occurrencesInFields m rest
  | (_, v) :: rest => occurrences m v ++ occurrencesInFields m rest

def occurrencesInItems (m : Model) : List Value → List String
  | [] => []
  | .string s :: rest => (if isCandidate m s then [s] else []) ++ occurrencesInItems m rest
  | v :: rest => occurrences m v ++ occurrencesInItems m rest

end

/-- The references in a document, each at its first occurrence. -/
def references (m : Model) (document : Value) : List String := (occurrences m document).eraseDups

end Registry.Discovery
