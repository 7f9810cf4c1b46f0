import SqlSelect.Json
import SqlSelect.Json.Tree
import SqlSelect.Number.Reading
import SqlSelect.Number.Shortest

/-!
JSON values as syntax trees. A value is taken from a tree whole or not at all, and
the tree made of a value has the members of objects in ascending order of keys.
-/

namespace SqlSelect

/-- Floating-point numbers stand in JSON with a point where their first digit counts
units from `10 ^ -5` to `10 ^ 15`. -/
def Binary64.jsonLayout : Layout := ⟨-5, 15, .even⟩

/-- Numbers of the narrower format stand with a point from `10 ^ -6` to `10 ^ 12`. -/
def Binary32.jsonLayout : Layout := ⟨-6, 12, .even⟩

namespace Json

/-- What is no number of JSON is written as `null`. -/
def Tree.ofBinary64 (x : Binary64) : Tree :=
  if x.isFinite then .number (x.numeral Binary64.jsonLayout) else .null

def Tree.ofBinary32 (x : Binary32) : Tree :=
  if x.isFinite then .number (x.numeral Binary32.jsonLayout) else .null

/-- Integers of 64 bits, signed or unsigned. -/
def inWord (n : Int) : Bool := -0x8000000000000000 ≤ n && n ≤ 0xFFFFFFFFFFFFFFFF

/-- A numeral is an integer if it has the form of one and fits in 64 bits. -/
def Number.ofNumeral? (n : Numeral) : Option Number :=
  match n.int?.filter inWord with
  | some k => some (.int k)
  | none => n.float?.map fun f => .float (.ofFloat f)

def Number.toTree : Number → Tree
  | int n => .number (.ofInt n)
  | float x => .ofBinary64 x

mutual

def ofTree? : Tree → Option Json
  | .null => some null
  | .bool b => some (bool b)
  | .number n => (Number.ofNumeral? n).map number
  | .string s => s.map string
  | .array items => (ofItems? items).map array
  | .object members => (ofMembers? members).map fun ms => object (ofMembers ms)

def ofItems? : List Tree → Option (List Json)
  | [] => some []
  | t :: ts => do
      let first ← ofTree? t
      let others ← ofItems? ts
      return first :: others

def ofMembers? : List (Option String × Tree) → Option (List (String × Json))
  | [] => some []
  | (key, t) :: ms => do
      let key ← key
      let first ← ofTree? t
      let others ← ofMembers? ms
      return (key, first) :: others

end

mutual

def toTree : Json → Tree
  | null => .null
  | bool b => .bool b
  | number n => n.toTree
  | string s => .string (some s)
  | array items => .array (toTrees items)
  | object members => .object (toTreeMembers members)

def toTrees : List Json → List Tree
  | [] => []
  | j :: js => toTree j :: toTrees js

def toTreeMembers : List (String × Json) → List (Option String × Tree)
  | [] => []
  | (key, j) :: ms => (some key, toTree j) :: toTreeMembers ms

end

/-- The most containers that may be open at one place of a text from which values
are taken. -/
def depthLimit : Nat := 127

end Json

end SqlSelect
