import Registry.Url.Reader

/-!
# Locations

Where a document is read from: a URL or the path of a file. A scheme of a single letter is the
letter of a drive and makes no URL.
-/

namespace Registry.Location

def hasScheme (text : String) : Bool := (Url.ofText? text).any fun u => 1 < u.scheme.length

def isHttp (text : String) : Bool := (Url.ofText? text).any Url.isHttp

def stripFragment (text : String) : String := ((Text.cutAt? '#' text).map Prod.fst).getD text

/-- A reference as it reads at a base; none if that is needed and no URL, or gives none. -/
def join? (base reference : String) : Option String :=
  if hasScheme reference then some reference
  else do
    let base ← Url.ofText? base
    let url ← base.join? reference
    some url.toString

theorem hash_not_mem_stripFragment (text : String) : '#' ∉ (stripFragment text).toList := by
  unfold stripFragment Text.cutAt?
  cases h : Text.cut? '#' text.toList with
  | none => simpa [h] using Text.cut?_eq_none.1 h
  | some p =>
    obtain ⟨before, after⟩ := p
    simpa [h] using (Text.cut?_eq_some h).2

theorem stripFragment_of_not_mem {text : String} (h : '#' ∉ text.toList) :
    stripFragment text = text := by
  simp [stripFragment, Text.cutAt?, Text.cut?_eq_none.2 h]

end Registry.Location
