import SqlSelect.Query

/-!
The calls by which a query is built, as data, so that runs of calls can be
spoken about. A call that is refused leaves the query as it was.
-/

namespace SqlSelect

inductive Call where
  | table (name : String)
  | aliasedTable (name label : String)
  | select (columns : List String)
  | selectAlso (columns : List String)
  | filter (criterion : Criterion) (connector : Connector)
  | among (column : String) (values : List Value) (negated : Bool) (connector : Connector)
  | null (column : String) (negated : Bool) (connector : Connector)
  | between (column : String) (low high : Value) (negated : Bool) (connector : Connector)
  | bind (value : Value) (category : String)
  deriving Repr

namespace Call

/-- The query after a call, under a dialect with these operators. -/
def apply (operators : List String) (q : Query) : Call → Except Error Query
  | table name => .ok (q.setTable name)
  | aliasedTable name label => .ok (q.setAliasedTable name label)
  | select columns => .ok (q.select columns)
  | selectAlso columns => .ok (q.selectAlso columns)
  | filter criterion connector => q.filter operators criterion connector
  | among column values negated connector => .ok (q.among column values negated connector)
  | null column negated connector => .ok (q.null column negated connector)
  | between column low high negated connector =>
      .ok (q.between column low high negated connector)
  | bind value category => do
      let category ← Category.ofName? category
      return q.bind value category

/-- The query that a call leaves in use: the new one, or the earlier one where the
call is refused. -/
def step (operators : List String) (q : Query) (call : Call) : Query :=
  match call.apply operators q with
  | .ok next => next
  | .error _ => q

def run (operators : List String) (q : Query) (calls : List Call) : Query :=
  calls.foldl (step operators) q

end Call

end SqlSelect
