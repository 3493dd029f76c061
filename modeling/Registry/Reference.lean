import Registry.Text.Blank
import Registry.Text.Split

/-!
# References

A reference points into the document it stands in by a fragment, or at another document by a
location, possibly with a fragment. A fragment may end in a colon and the name of a type. Main
statements: the parts of a reference and its separators are the text that was read.
-/

namespace Registry

inductive Reference where
  /-- A place in the same document; the path is the text behind the `#`. -/
  | fragment (path : String) (typeName : Option String)
  | external (location : String) (fragment : Option String) (typeName : Option String)
  deriving DecidableEq, Repr

namespace Reference

def isTypeName (name : String) : Bool := !name.isEmpty && !name.toList.contains '/'

/-- Divides a fragment into its path and the name of a type behind the last colon. -/
def cutTypeName (fragment : String) : String × Option String :=
  match Text.cutAtLast? ':' fragment with
  | some (path, name) => if isTypeName name then (path, some name) else (fragment, none)
  | none => (fragment, none)

/-- The reference that a text denotes; blanks around it do not count. -/
def ofText (text : String) : Reference :=
  let text := Text.trim text
  match Text.cutAt? '#' text with
  | none => external text none none
  | some (location, behind) =>
    let (path, typeName) := cutTypeName behind
    if location.isEmpty then fragment path typeName
    else external location (if path.isEmpty then none else some path) typeName

def isFragment : Reference → Bool
  | fragment .. => true
  | external .. => false

def typeName? : Reference → Option String
  | fragment _ typeName | external _ _ typeName => typeName

def withoutTypeName : Reference → String
  | fragment path _ => "#" ++ path
  | external location (some f) _ => location ++ "#" ++ f
  | external location none _ => location

theorem cutTypeName_some {text path name : String} (h : cutTypeName text = (path, some name)) :
    text = path ++ ":" ++ name ∧ isTypeName name = true ∧ ':' ∉ name.toList := by
  unfold cutTypeName Text.cutAtLast? at h
  cases hc : Text.cutLast? ':' text.toList with
  | none => simp [hc] at h
  | some p =>
    obtain ⟨before, after⟩ := p
    simp only [hc, Option.map_some] at h
    by_cases hn : isTypeName (String.ofList after) = true
    · simp only [hn, if_true, Prod.mk.injEq, Option.some.injEq] at h
      obtain ⟨rfl, rfl⟩ := h
      obtain ⟨htext, hcolon⟩ := Text.cutLast?_eq_some hc
      refine ⟨?_, hn, by simpa using hcolon⟩
      apply String.ext
      simp [htext]
    · simp [hn] at h

end Reference

end Registry
