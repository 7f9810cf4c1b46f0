import SqlSelect.Text.Blank

/-!
Aliased names. `base as label` is split at the word `as`, in either case, where
it stands between two runs of blanks. The first such place counts, and both
runs are dropped whole.
-/

namespace SqlSelect.Alias

/-- The second letter of the word; the long `s` is a case of it too. -/
def isLetterS (c : Char) : Bool := c == 's' || c == 'S' || c == 'ſ'

/-- What follows the word and the blanks after it, of which there is at least one. -/
def afterKeyword? : List Char → Option (List Char)
  | a :: s :: blank :: rest =>
      if (a == 'a' || a == 'A') && isLetterS s && Text.isBlank blank then
        some (Text.trimStart rest)
      else none
  | _ => none

/-- A run of blanks that does not lead to the word leads to it from none of its later
blanks either. -/
def splitChars? : List Char → Option (List Char × List Char)
  | [] => none
  | c :: cs =>
      match if Text.isBlank c then afterKeyword? (Text.trimStart cs) else none with
      | some label => some ([], label)
      | none => (splitChars? cs).map fun (base, label) => (c :: base, label)

def split? (name : String) : Option (String × String) :=
  (splitChars? name.toList).map fun (base, label) => (String.ofList base, String.ofList label)

def join (base label : String) : String := base ++ " as " ++ label

end SqlSelect.Alias
