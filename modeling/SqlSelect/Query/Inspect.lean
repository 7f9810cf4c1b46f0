import SqlSelect.Query
import SqlSelect.Value.Inspect

/-!
Queries shown with all that has been asked of them.
-/

namespace SqlSelect

open Inspect (record tagged optional bool)

def Operator.inspect (op : Operator) : String := tagged "Operator" [Text.quoted op.spelling]

def Connector.inspect : Connector → String
  | and => "And"
  | or => "Or"

def Condition.inspect (c : Condition) : String :=
  let shown (name : String) (fields : List (String × String)) : String :=
    record name (("column", Text.quoted c.column) :: fields ++
      [("boolean", c.connector.inspect)])
  match c.test with
  | .compare op value => shown "Basic" [("operator", op.inspect), ("value", value.inspect)]
  | .bitwise op value => shown "Bitwise" [("operator", op.inspect), ("value", value.inspect)]
  | .among values negated =>
      shown "In" [("values", Inspect.list (values.map (·.inspect))), ("negated", bool negated)]
  | .null negated => shown "Null" [("negated", bool negated)]
  | .between low high negated =>
      shown "Between" [("low", low.inspect), ("high", high.inspect), ("negated", bool negated)]

def Bindings.inspect (b : Bindings) : String :=
  record "Bindings" [("lists", Inspect.list (Category.all.map fun category =>
    Inspect.list ((b.get category).map (·.inspect))))]

namespace Query

def inspect (q : Query) : String :=
  record "QuerySpec"
    [("table", optional Text.quoted q.table),
      ("selects", Inspect.list (q.columns.map Text.quoted)),
      ("wheres", Inspect.list (q.conditions.map (·.inspect))),
      ("bindings", q.bindings.inspect)]

/-- A query shown as the one part of its builder. -/
def inspectBuilder (q : Query) : String := record "Builder" [("spec", q.inspect)]

end Query

end SqlSelect
