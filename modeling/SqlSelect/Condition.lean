import SqlSelect.Operator
import SqlSelect.Value

/-!
Conditions of a query: a column, the test it must pass and the connector that
joins the condition to the one before it.
-/

namespace SqlSelect

inductive Connector where
  | and
  | or
  deriving DecidableEq, Repr, Inhabited

def Connector.word : Connector → String
  | and => "and"
  | or => "or"

instance : ToString Connector := ⟨Connector.word⟩

inductive Test where
  | compare (op : Operator) (value : Value)
  /-- A comparison whose operator is a bitwise one. -/
  | bitwise (op : Operator) (value : Value)
  | among (values : List Value) (negated : Bool)
  | null (negated : Bool)
  | between (low high : Value) (negated : Bool)
  deriving BEq, Repr

/-- The values a test binds, in the order of its placeholders. -/
def Test.bindings : Test → List Value
  | compare _ value => [value]
  | bitwise _ value => [value]
  | among values _ => values
  | null _ => []
  | between low high _ => [low, high]

structure Condition where
  column : String
  test : Test
  connector : Connector := .and
  deriving BEq, Repr

def Condition.bindings (c : Condition) : List Value := c.test.bindings

end SqlSelect
