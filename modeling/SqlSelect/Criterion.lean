import SqlSelect.Condition
import SqlSelect.Error

/-!
What a caller asks of the rows: one comparison or a group of them, with the
operator and the value in slots that hold any value. Reading a criterion gives
conditions whose operators all come from the catalog or the dialect.
-/

namespace SqlSelect

inductive Criterion where
  | single (column : String) (operator : Option Value) (value : Value)
  /-- Entries `[column, value]` or `[column, operator, value]`. -/
  | group (entries : List (List Value))
  deriving Repr

def Operator.refuses (op : Operator) (value : Value) : Bool := value.isNull && !op.comparesNull

namespace Criterion

def ofTriples (triples : List (String × Value × Value)) : Criterion :=
  .group (triples.map fun (column, operator, value) => [.text column, operator, value])

/-- What is no known operator takes the place of the value, to be compared for
equality. -/
def resolve (operators : List String) (operator : Option Value) (value : Value) :
    Except Error (Operator × Value) :=
  match operator with
  | none => .ok (.equal, value)
  | some given =>
      match given.text?.bind (Operator.lookup · operators) with
      | none => .ok (.equal, given)
      | some known =>
          if known.refuses value then .error (.argument .nullComparison)
          else .ok (known, value)

def splitEntry (index : Nat) (entry : List Value) :
    Except Error (String × Option Value × Value) :=
  match entry with
  | [.text column, value] => .ok (column, none, value)
  | [.text column, operator, value] => .ok (column, some operator, value)
  | [column, _] => .error (.argument (.columnNotText index column.typeName))
  | [column, _, _] => .error (.argument (.columnNotText index column.typeName))
  | _ => .error (.malformedGroup index entry.length)

/-- Of an array only the first scalar is compared with. -/
def comparison (operators : List String) (connector : Connector)
    (column : String) (operator : Option Value) (value : Value) : Except Error Condition := do
  let (op, bound) ← resolve operators operator value.firstScalar
  return ⟨column, if op.isBitwise then .bitwise op bound else .compare op bound, connector⟩

/-- The conditions of entries of which the first is at `index` in its group. -/
def entryConditions (operators : List String) (connector : Connector) (index : Nat) :
    List (List Value) → Except Error (List Condition)
  | [] => .ok []
  | entry :: entries => do
      let (column, operator, value) ← splitEntry index entry
      let first ← comparison operators connector column operator value
      let others ← entryConditions operators connector (index + 1) entries
      return first :: others

def conditions (operators : List String) (connector : Connector) :
    Criterion → Except Error (List Condition)
  | single column operator value => do
      let condition ← comparison operators connector column operator value
      return [condition]
  | group entries => entryConditions operators connector 0 entries

end Criterion

end SqlSelect
