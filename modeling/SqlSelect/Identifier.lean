/-!
Identifiers between quotes. A quote inside an identifier is written twice, so that
the first one that stands alone ends it. Brackets have no such escape.
-/

namespace SqlSelect.Identifier

def doubled (mark : Char) (cs : List Char) : List Char :=
  cs.flatMap fun c => if c = mark then [mark, mark] else [c]

@[simp] theorem doubled_nil (mark : Char) : doubled mark [] = [] := rfl

@[simp] theorem doubled_cons (mark c : Char) (cs : List Char) :
    doubled mark (c :: cs) = (if c = mark then [mark, mark] else [c]) ++ doubled mark cs := rfl

/-- Double quotes are written twice as well, and a star is left alone: it stands for all
columns. -/
def backticked (name : String) : String :=
  if name = "*" then name
  else "`" ++ String.ofList (doubled '\x60' (doubled '"' name.toList)) ++ "`"

def doubleQuoted (name : String) : String :=
  "\"" ++ String.ofList (doubled '"' name.toList) ++ "\""

def bracketed (name : String) : String :=
  if name = "*" then name else "[" ++ name ++ "]"

end SqlSelect.Identifier
