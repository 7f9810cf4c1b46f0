import SqlSelect.Naming
import SqlSelect.Condition

/-!
Dialects of SQL. A dialect says how names, placeholders and the tests of
conditions are written; it may leave the tests to the common phrases. Statements are
put together in a frame, and the frames of all dialects drop connectors and join
clauses in the same way.
-/

namespace SqlSelect

namespace Phrase

def negation (negated : Bool) : String := if negated then "not " else ""

variable (column : String → String) (placeholder : Value → String)

def compare (name : String) (op : Operator) (value : Value) : String :=
  column name ++ " " ++ op.spelling ++ " " ++ placeholder value

def placeholders (values : List Value) : String := ", ".intercalate (values.map placeholder)

/-- Nothing is among no values, and everything is outside of them; the column
then has no place in the phrase. -/
def among (name : String) (values : List Value) (negated : Bool) : String :=
  if values.isEmpty then if negated then "1 = 1" else "0 = 1"
  else column name ++ " " ++ negation negated ++ "in (" ++ placeholders placeholder values ++ ")"

def null (name : String) (negated : Bool) : String :=
  column name ++ " is " ++ negation negated ++ "null"

def between (name : String) (low high : Value) (negated : Bool) : String :=
  column name ++ " " ++ negation negated ++ "between " ++ placeholder low ++ " and " ++
    placeholder high

end Phrase

/-- How the parts of a statement are written and put together. -/
@[ext] structure Frame where
  column : String → String
  columns : List String → String
  table : String → String
  /-- A condition without its connector. -/
  condition : Condition → String
  /-- Drops the connector that joins the first condition to nothing. -/
  dropConnector : String → String
  joinClauses : List String → String

/-- The where clause, empty where there are no conditions. -/
def Frame.whereClause (f : Frame) (conditions : List Condition) : String :=
  if conditions.isEmpty then ""
  else "where " ++ f.dropConnector (" ".intercalate
    (conditions.map fun c => c.connector.word ++ " " ++ f.condition c))

structure Dialect extends Naming where
  /-- Operators beyond those of the catalog. -/
  operators : List String := []
  /-- What stands in a statement for a bound value. -/
  placeholder : Value → String := fun _ => "?"
  compare : String → Operator → Value → String := Phrase.compare toNaming.column placeholder
  bitwise : String → Operator → Value → String := compare
  among : String → List Value → Bool → String := Phrase.among toNaming.column placeholder
  null : String → Bool → String := Phrase.null toNaming.column
  between : String → Value → Value → Bool → String := Phrase.between toNaming.column placeholder

namespace Dialect

/-- The dialect that leaves the placeholders and the tests to the common phrases. -/
def common (n : Naming) (operators : List String) : Dialect := { toNaming := n, operators }

def placeholders (d : Dialect) (values : List Value) : String :=
  Phrase.placeholders d.placeholder values

def condition (d : Dialect) (c : Condition) : String :=
  match c.test with
  | .compare op value => d.compare c.column op value
  | .bitwise op value => d.bitwise c.column op value
  | .among values negated => d.among c.column values negated
  | .null negated => d.null c.column negated
  | .between low high negated => d.between c.column low high negated

/-- The text without the one connector it starts with, if it starts with any. -/
def dropConnector (text : String) : String :=
  let cs := text.toList
  String.ofList
    ((Text.afterWord? "and ".toList cs <|> Text.afterWord? "or ".toList cs).getD cs)

/-- The clauses of a statement with single spaces between them; empty ones are
left out. -/
def joinClauses (clauses : List String) : String :=
  " ".intercalate (clauses.filter (!·.isEmpty))

def frame (d : Dialect) : Frame where
  column := d.column
  columns := d.columns
  table := d.table
  condition := d.condition
  dropConnector := dropConnector
  joinClauses := joinClauses

def whereClause (d : Dialect) (conditions : List Condition) : String :=
  d.frame.whereClause conditions

end Dialect

end SqlSelect
