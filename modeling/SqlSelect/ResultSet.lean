import SqlSelect.Error
import SqlSelect.Json

/-!
What a connection answers: rows, which are JSON objects keyed by column, and the
fields they have. A row is decoded into a record one member at a time.
-/

namespace SqlSelect

/-- The members of a row, in ascending order of the columns. -/
abbrev Row := List (String × Json)

structure Field where
  name : String
  typeName : String
  deriving DecidableEq, Repr

structure ResultSet where
  rows : List Row := []
  fields : List Field := []
  deriving Repr, Inhabited

namespace ResultSet

def size (r : ResultSet) : Nat := r.rows.length

def isEmpty (r : ResultSet) : Bool := r.rows.isEmpty

/-- Every row decoded, or the error of the first row that cannot be. -/
def decode {α : Type} (r : ResultSet) (decodeRow : Row → Except Error α) :
    Except Error (List α) :=
  r.rows.mapM decodeRow

end ResultSet

namespace Row

/-- The member of a row that a record cannot do without. -/
def required {α : Type} (key : String) (read : Json → Option α) (row : Row) : Except Error α :=
  match (Json.lookup key row).bind read with
  | some a => .ok a
  | none => .error .unreadable

/-- The member of a row in whose absence a record has its default. -/
def optional {α : Type} (key : String) (read : Json → Option α) (default : α) (row : Row) :
    Except Error α :=
  match Json.lookup key row with
  | none => .ok default
  | some _ => required key read row

end Row

namespace Json

def text? : Json → Option String
  | string s => some s
  | _ => none

/-- An integer from `low` to `high`. -/
def intIn? (low high : Int) : Json → Option Int
  | number (.int n) => if low ≤ n ∧ n ≤ high then some n else none
  | _ => none

def list? {α : Type} (read : Json → Option α) : Json → Option (List α)
  | array items => items.mapM read
  | _ => none

def nullable? {α : Type} (read : Json → Option α) : Json → Option (Option α)
  | null => some none
  | json => (read json).map some

end Json

end SqlSelect
