import SqlSelect.Dialect
import SqlSelect.Identifier

/-!
Three dialects. They differ in how they quote an identifier, in the operators they
add and in how far they leave the phrases of conditions as they are.
-/

namespace SqlSelect.Dialect

def mysql (tablePrefix : String) : Dialect :=
  common ⟨Identifier.backticked, tablePrefix⟩ ["sounds like"]

def ansi (tablePrefix : String) : Dialect := common ⟨Identifier.doubleQuoted, tablePrefix⟩ []

/-- Placeholders that tell documents, texts and nulls from other values. -/
def kindPlaceholder : Value → String
  | .json _ => "cast(? as json)"
  | .text _ => ":s"
  | .null => ":n"
  | _ => "?"

/-- A dialect with bracketed identifiers and placeholders by kind, in which a bitwise
operation yields a number and has to be compared with zero. -/
def bracketed (tablePrefix : String) : Dialect where
  quote := Identifier.bracketed
  tablePrefix := tablePrefix
  operators := ["@>", "contains"]
  placeholder := kindPlaceholder
  bitwise column op value :=
    "(" ++ Phrase.compare (Naming.column ⟨Identifier.bracketed, tablePrefix⟩) kindPlaceholder
      column op value ++ ") <> 0"

end SqlSelect.Dialect
