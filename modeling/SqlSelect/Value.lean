import SqlSelect.Json

/-!
Values bound to the placeholders of a statement. Arrays nest to any depth;
everything that is not an array is a scalar. Binding an array means binding its
scalars, depth first.
-/

namespace SqlSelect

inductive Value where
  | null
  | bool (b : Bool)
  | int32 (n : Int32)
  | int64 (n : Int64)
  | float32 (x : Binary32)
  | float64 (x : Binary64)
  | text (s : String)
  | bytes (data : List UInt8)
  | json (document : Json)
  | array (items : List Value)
  deriving Repr, Inhabited

namespace Value

def isNull : Value → Bool
  | null => true
  | _ => false

def isArray : Value → Bool
  | array _ => true
  | _ => false

/-- The name of the SQL type that a value of this kind has. -/
def typeName : Value → String
  | null => "NULL"
  | bool _ => "BOOLEAN"
  | int32 _ => "INTEGER"
  | int64 _ => "BIGINT"
  | float32 _ => "FLOAT"
  | float64 _ => "DOUBLE"
  | text _ => "VARCHAR"
  | bytes _ => "BLOB"
  | json _ => "JSON"
  | array _ => "ARRAY"

def text? : Value → Option String
  | text s => some s
  | _ => none

mutual

/-- The scalars of a value, depth first. A scalar is its own only one. -/
def flatten : Value → List Value
  | array items => flattenAll items
  | scalar => [scalar]

def flattenAll : List Value → List Value
  | [] => []
  | v :: vs => flatten v ++ flattenAll vs

end

@[simp] theorem flattenAll_cons (v : Value) (vs : List Value) :
    flattenAll (v :: vs) = flatten v ++ flattenAll vs := rfl

@[simp] theorem flatten_array (items : List Value) :
    flatten (array items) = flattenAll items := rfl

theorem flattenAll_eq_flatMap (vs : List Value) : flattenAll vs = vs.flatMap flatten := by
  induction vs with
  | nil => rfl
  | cons v vs ih => rw [flattenAll_cons, ih, List.flatMap_cons]

/-- The first scalar, or `NULL` where an array has none. -/
def firstScalar (v : Value) : Value := v.flatten.headD null

mutual

/-- Equality of values: of one kind, floating-point numbers by their numeric
equality. -/
def equals : Value → Value → Bool
  | null, null => true
  | bool a, bool b => a == b
  | int32 m, int32 n => m == n
  | int64 m, int64 n => m == n
  | float32 x, float32 y => x.equals y
  | float64 x, float64 y => x.equals y
  | text s, text t => s == t
  | bytes a, bytes b => a == b
  | json a, json b => a.equals b
  | array vs, array ws => equalAll vs ws
  | _, _ => false

def equalAll : List Value → List Value → Bool
  | [], [] => true
  | v :: vs, w :: ws => equals v w && equalAll vs ws
  | _, _ => false

end

instance : BEq Value := ⟨equals⟩

end Value

end SqlSelect
