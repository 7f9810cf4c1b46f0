/-!
Words compared without regard to the case of the letters `A` to `Z`. Every
other character stands for itself only.
-/

namespace SqlSelect.Text

/-- Two texts are alike when they agree up to the case of ASCII letters. -/
def alike (s t : String) : Bool := s.toList.map Char.toLower == t.toList.map Char.toLower

theorem alike_iff {s t : String} :
    alike s t = true ↔ s.toList.map Char.toLower = t.toList.map Char.toLower := by
  simp [alike]

/-- What follows `word` at the start of a text, or nothing when the text does
not start with it. The word is given in lower case. -/
def afterWord? (word cs : List Char) : Option (List Char) :=
  if (cs.take word.length).map Char.toLower = word then some (cs.drop word.length) else none

end SqlSelect.Text
