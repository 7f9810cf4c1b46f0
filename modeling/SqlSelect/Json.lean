import SqlSelect.Number.Binary

/-!
JSON values. An object is the list of its members in ascending order of the
keys, each key once, so that two objects with the same members are one value
whatever the order in which they were written.
-/

namespace SqlSelect

namespace Json

/-- A number is an integer as long as it fits in 64 bits, signed or unsigned. -/
inductive Number where
  | int (n : Int)
  | float (x : Binary64)
  deriving DecidableEq, Repr

def Number.equals : Number → Number → Bool
  | .int m, .int n => m == n
  | .float x, .float y => x.equals y
  | _, _ => false

end Json

inductive Json where
  | null
  | bool (b : Bool)
  | number (n : Json.Number)
  | string (s : String)
  | array (items : List Json)
  | object (members : List (String × Json))
  deriving Repr, Inhabited

namespace Json

/-- Puts a member at its place among members in ascending order of keys. A
member with the same key is replaced. -/
def insert (key : String) (value : Json) :
    List (String × Json) → List (String × Json)
  | [] => [(key, value)]
  | (k, v) :: rest =>
      if key < k then (key, value) :: (k, v) :: rest
      else if key = k then (key, value) :: rest
      else (k, v) :: insert key value rest

/-- The object with these members; of two with the same key the later counts. -/
def ofMembers (members : List (String × Json)) : List (String × Json) :=
  members.foldl (fun acc m => insert m.1 m.2 acc) []

def lookup (key : String) (members : List (String × Json)) : Option Json :=
  (members.find? (·.1 == key)).map (·.2)

mutual

/-- Equality of JSON values, numbers by their numeric equality. -/
def equals : Json → Json → Bool
  | null, null => true
  | bool a, bool b => a == b
  | number m, number n => m.equals n
  | string s, string t => s == t
  | array xs, array ys => equalItems xs ys
  | object ms, object ns => equalMembers ms ns
  | _, _ => false

def equalItems : List Json → List Json → Bool
  | [], [] => true
  | x :: xs, y :: ys => equals x y && equalItems xs ys
  | _, _ => false

def equalMembers : List (String × Json) → List (String × Json) → Bool
  | [], [] => true
  | (k, x) :: ms, (l, y) :: ns => k == l && equals x y && equalMembers ms ns
  | _, _ => false

end

end Json

end SqlSelect
