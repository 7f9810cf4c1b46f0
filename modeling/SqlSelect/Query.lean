import SqlSelect.Bindings
import SqlSelect.Criterion
import SqlSelect.Dialect

/-!
Select queries: the table, the columns, the conditions and the values bound to
their placeholders. Every operation gives a new query, and appending a condition
binds its values along with it.
-/

namespace SqlSelect

structure Query where
  /-- The table, with an alias if it has one. -/
  table : Option String := none
  columns : List String := ["*"]
  conditions : List Condition := []
  bindings : Bindings := {}
  deriving BEq, Repr, Inhabited

namespace Query

/-- The columns without those that occur before, in their order. -/
def keepFirst (columns : List String) : List String :=
  columns.foldl (fun kept column => if column ∈ kept then kept else kept ++ [column]) []

def setTable (q : Query) (table : String) : Query := { q with table := some table }

def ofTable (table : String) : Query := setTable {} table

def setAliasedTable (q : Query) (table label : String) : Query :=
  q.setTable (Alias.join table label)

/-- Replaces the columns. No columns stand for all of them. -/
def select (q : Query) (columns : List String) : Query :=
  { q with columns := if columns.isEmpty then ["*"] else keepFirst columns }

def selectAlso (q : Query) (columns : List String) : Query := q.select (q.columns ++ columns)

def push (q : Query) (condition : Condition) : Query :=
  { q with
    conditions := q.conditions ++ [condition]
    bindings := q.bindings.append condition.bindings .filter }

def pushAll (q : Query) (conditions : List Condition) : Query := conditions.foldl push q

@[simp] theorem conditions_push (q : Query) (c : Condition) :
    (q.push c).conditions = q.conditions ++ [c] := rfl

@[simp] theorem bindings_push (q : Query) (c : Condition) :
    (q.push c).bindings.toList = q.bindings.toList ++ c.bindings := by
  simp [push]

@[simp] theorem pushAll_nil (q : Query) : q.pushAll [] = q := rfl

@[simp] theorem pushAll_cons (q : Query) (c : Condition) (cs : List Condition) :
    q.pushAll (c :: cs) = (q.push c).pushAll cs := rfl

/-- Appends the conditions of a criterion, all of them or, where the criterion has
a fault, none. -/
def filter (q : Query) (operators : List String) (criterion : Criterion)
    (connector : Connector) : Except Error Query := do
  let conditions ← criterion.conditions operators connector
  return q.pushAll conditions

/-- Asks for a column to be among the scalars of the values. -/
def among (q : Query) (column : String) (values : List Value) (negated : Bool)
    (connector : Connector) : Query :=
  q.push ⟨column, .among (Value.flattenAll values) negated, connector⟩

def null (q : Query) (column : String) (negated : Bool) (connector : Connector) : Query :=
  q.push ⟨column, .null negated, connector⟩

/-- Asks for a column to be between the first scalars of two values. -/
def between (q : Query) (column : String) (low high : Value) (negated : Bool)
    (connector : Connector) : Query :=
  q.push ⟨column, .between low.firstScalar high.firstScalar negated, connector⟩

/-- Binds the scalars of a value without a condition. -/
def bind (q : Query) (value : Value) (category : Category) : Query :=
  { q with bindings := q.bindings.append value.flatten category }

end Query

/-- The statement that a query stands for. -/
def Frame.compile (f : Frame) (q : Query) : Except Error String :=
  match q.table with
  | none => .error .missingTable
  | some table =>
      .ok (f.joinClauses
        ["select " ++ f.columns q.columns, "from " ++ f.table table, f.whereClause q.conditions])

def Query.compile (q : Query) (d : Dialect) : Except Error String := d.frame.compile q

section Compile

variable {q : Query} {table : String}

theorem Frame.compile_of_tableless (h : q.table = none) (f : Frame) :
    f.compile q = .error .missingTable := by
  rw [compile, h]

theorem Frame.compile_of_table (h : q.table = some table) (f : Frame) :
    f.compile q = .ok (f.joinClauses
      ["select " ++ f.columns q.columns, "from " ++ f.table table,
        f.whereClause q.conditions]) := by
  rw [compile, h]

end Compile

end SqlSelect
