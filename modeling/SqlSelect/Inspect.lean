import SqlSelect.Text.Quoted

/-!
Texts that show a value with the names of its parts, for people to read.
-/

namespace SqlSelect.Inspect

def list (items : List String) : String := "[" ++ ", ".intercalate items ++ "]"

def tagged (name : String) (arguments : List String) : String :=
  name ++ "(" ++ ", ".intercalate arguments ++ ")"

def record (name : String) (fields : List (String × String)) : String :=
  name ++ " \x7b " ++ ", ".intercalate (fields.map fun (field, text) => field ++ ": " ++ text) ++
    " \x7d"

def optional {α : Type} (inspect : α → String) : Option α → String
  | none => "None"
  | some a => tagged "Some" [inspect a]

def bool (b : Bool) : String := if b then "true" else "false"

end SqlSelect.Inspect
