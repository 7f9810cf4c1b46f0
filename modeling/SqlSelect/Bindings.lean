import SqlSelect.Error
import SqlSelect.Value

/-!
Bound values, kept by the part of the statement whose placeholders they fill.
The parts are listed in the order in which a statement has them.
-/

namespace SqlSelect

inductive Category where
  /-- The placeholders of the where clause. -/
  | filter
  deriving DecidableEq, Repr

namespace Category

def name : Category → String
  | filter => "where"

/-- All categories, in the order of their placeholders. -/
def all : List Category := [filter]

def ofName? (name : String) : Except Error Category :=
  match all.find? (·.name == name) with
  | some category => .ok category
  | none => .error (.argument (.unknownCategory name))

instance : ToString Category := ⟨name⟩

end Category

structure Bindings where
  filter : List Value := []
  deriving BEq, Repr, Inhabited

namespace Bindings

/-- The values bound for one category, in the order in which they were bound. -/
def get (b : Bindings) : Category → List Value
  | .filter => b.filter

def append (b : Bindings) (values : List Value) : Category → Bindings
  | .filter => { b with filter := b.filter ++ values }

def toList (b : Bindings) : List Value := Category.all.flatMap b.get

def size (b : Bindings) : Nat := b.toList.length

@[simp] theorem toList_empty : toList {} = [] := rfl

@[simp] theorem toList_append (b : Bindings) (values : List Value) (category : Category) :
    (b.append values category).toList = b.toList ++ values := by
  cases category
  simp [append, toList, get, Category.all]

end Bindings

end SqlSelect
