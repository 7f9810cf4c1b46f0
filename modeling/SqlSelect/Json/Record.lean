import SqlSelect.Json.Tree

/-!
Records in JSON texts. A record is an object whose members are its fields in any
order, among members of other names, or an array of the fields in their own order.
What the fields hold is taken from their trees.
-/

namespace SqlSelect.Json.Tree

/-- Whether every member has a name and no field occurs twice. -/
def isRecord (fields : List String) (members : List (Option String × Tree)) : Bool :=
  members.all (·.1.isSome) && fields.all fun field => members.countP (·.1 == some field) ≤ 1

/-- The trees of a record's fields, as far as they are there. -/
def fields? (fields : List String) : Tree → Option (List (Option Tree))
  | object members =>
      if isRecord fields members then some (fields.map (member? · members)) else none
  | array items =>
      if items.length ≤ fields.length then
        some ((List.range fields.length).map fun i => items[i]?)
      else none
  | _ => none

/-- What a field holds, or the default where it is left out. -/
def orDefault {α : Type} (read : Tree → Option α) (default : α) : Option Tree → Option α
  | none => some default
  | some t => read t

def text? : Tree → Option String
  | string s => s
  | _ => none

/-- An integer from `low` to `high`. -/
def intIn? (low high : Int) : Tree → Option Int
  | number n => n.int?.filter fun k => low ≤ k && k ≤ high
  | _ => none

/-- An integer below `bound` and not below zero. -/
def natBelow? (bound : Nat) (t : Tree) : Option Nat := (t.intIn? 0 (bound - 1)).map Int.toNat

def nullable? {α : Type} (read : Tree → Option α) : Tree → Option (Option α)
  | null => some none
  | t => (read t).map some

def ofNullable {α : Type} (write : α → Tree) : Option α → Tree
  | none => null
  | some a => write a

def ofText (s : String) : Tree := string (some s)

def ofNat (n : Nat) : Tree := number (.ofInt n)

/-- The object of these fields, in this order. -/
def ofFields (fields : List (String × Tree)) : Tree :=
  object (fields.map fun (name, t) => (some name, t))

end SqlSelect.Json.Tree
