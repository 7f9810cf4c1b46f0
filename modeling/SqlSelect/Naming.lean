import SqlSelect.Alias

/-!
How a dialect writes names. Every part of a dotted name becomes an identifier
of its own. Tables and their aliases carry a prefix; so does the qualifier of a
column, which names a table.
-/

namespace SqlSelect

structure Naming where
  /-- Writes one part of a name as an identifier. -/
  quote : String → String
  tablePrefix : String := ""

namespace Naming

def parts (name : String) : List String := (name.toList.splitOn '.').map String.ofList

/-- The prefix belongs to the last part of a table name. In a dotted name the dots of
the prefix separate parts like any other. -/
def tableParts (n : Naming) (table : String) : List String :=
  match (parts table).reverse with
  | last :: schema :: rest => (schema :: rest).reverse ++ parts (n.tablePrefix ++ last)
  | _ => [n.tablePrefix ++ table]

def bareTable (n : Naming) (table : String) : String :=
  ".".intercalate ((n.tableParts table).map n.quote)

def table (n : Naming) (name : String) : String :=
  match Alias.split? name with
  | some (base, label) => n.bareTable base ++ " as " ++ n.quote (n.tablePrefix ++ label)
  | none => n.bareTable name

/-- The first of several parts names the table. -/
def path (n : Naming) : List String → String
  | [] => ""
  | [part] => n.quote part
  | qualifier :: rest => ".".intercalate (n.table qualifier :: rest.map n.quote)

/-- The alias of a column is one identifier and has no prefix. -/
def column (n : Naming) (name : String) : String :=
  match Alias.split? name with
  | some (base, label) => n.path (parts base) ++ " as " ++ n.quote label
  | none => n.path (parts name)

def columns (n : Naming) (names : List String) : String :=
  ", ".intercalate (names.map n.column)

end Naming

end SqlSelect
