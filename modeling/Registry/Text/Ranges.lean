/-!
# Tables of characters

Closed ranges of code points, and runs of characters that stand for other texts.
-/

namespace Registry.Text

def inRanges (ranges : List (Nat × Nat)) (n : Nat) : Bool :=
  ranges.any fun r => r.1 ≤ n && n ≤ r.2

/-- Characters with successive code points and the texts that they stand for, with blanks between
the texts. -/
structure TextRun where
  first : Nat
  text : String

namespace TextRun

def texts (r : TextRun) : List (List Char) := r.text.toList.splitOn ' '

def entries (r : TextRun) : List (Char × List Char) :=
  (r.texts.zipIdx r.first).map fun (text, n) => (Char.ofNat n, text)

/-- The text that a character of the run stands for. There are no more texts than bytes. -/
def find? (r : TextRun) (c : Char) : Option (List Char) :=
  if r.first ≤ c.toNat ∧ c.toNat - r.first < r.text.utf8ByteSize then r.texts[c.toNat - r.first]?
  else none

end TextRun

def findText? (runs : List TextRun) (c : Char) : Option (List Char) := runs.findSome? (·.find? c)

end Registry.Text
