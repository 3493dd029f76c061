import Registry.Json.Reader
import Registry.Yaml.Reader
import Registry.Text.Blank
import Registry.Text.Split

/-!
# Documents

The value of a fetched text: JSON if it is JSON, else YAML, else, where the policy permits it, the
text itself. Schema payloads are often neither JSON nor YAML.
-/

namespace Registry

inductive ParsePolicy where
  /-- It is kept as a string, as is a YAML text that is a single scalar. -/
  | permissive
  | strict
  deriving DecidableEq, Repr

namespace Document

/-- Whether a text starts with an assignment of the third syntax version. -/
def startsProto3 (cs : List Char) : Bool :=
  "syntax".toList.isPrefixOf cs &&
    match Text.trimStart (cs.drop 6) with
    | '=' :: rest => "\"proto3\"".toList.isPrefixOf (Text.trimStart rest)
    | _ => false

def declaresProto3 (text : String) : Bool := (Text.suffixes text.toList).any startsProto3

def holdsProto3 (doc : Value) : Bool := doc.text?.any declaresProto3

/-- The document of a YAML text under the permissive policy. -/
def keepCollections (text : String) : Option Value → Value
  | some (.mapping fields) => .mapping fields
  | some (.sequence items) => .sequence items
  | _ => .string text

/-- The document of a text; none if the strict policy refuses it. -/
def read? (policy : ParsePolicy) (text : String) : Option Value :=
  match Json.read? text with
  | some v => some v
  | none =>
    match policy with
    | .permissive =>
      if declaresProto3 text then some (.string text)
      else some (keepCollections text (Yaml.read? text))
    | .strict => Yaml.read? text

end Document

end Registry
