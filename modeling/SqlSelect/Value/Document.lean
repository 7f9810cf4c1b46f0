import SqlSelect.Error
import SqlSelect.Json.Document
import SqlSelect.Json.Record
import SqlSelect.Value

/-!
Bindable values as JSON texts. A value is an object of one member, which names its
kind; `NULL` is the name of its kind alone.
-/

namespace SqlSelect.Value

def byte? (t : Json.Tree) : Option UInt8 := (t.natBelow? UInt8.size).map .ofNat

def scalar? (kind : String) (t : Json.Tree) : Option Value :=
  match kind, t with
  | "Null", .null => some null
  | "Bool", .bool b => some (bool b)
  | "I32", t => (t.intIn? (-0x80000000) 0x7FFFFFFF).map fun n => int32 (.ofInt n)
  | "I64", t => (t.intIn? (-0x8000000000000000) 0x7FFFFFFFFFFFFFFF).map fun n => int64 (.ofInt n)
  | "F32", .number n => (Json.Number.ofNumeral? n).map fun
      | .int k => float32 (.ofInt k)
      | .float x => float32 (.ofFloat (.ofBits x.bits))
  | "F64", .number n => (Json.Number.ofNumeral? n).map fun
      | .int k => float64 (.ofInt k)
      | .float x => float64 x
  | "String", .string s => s.map text
  | "Bytes", .array items => (items.mapM byte?).map bytes
  | "Json", t => (Json.ofTree? t).map json
  | _, _ => none

mutual

def ofTree? : Json.Tree → Option Value
  | .string (some s) => if s = "Null" then some null else none
  | .object [member] => ofMember? member
  | _ => none

def ofMember? : Option String × Json.Tree → Option Value
  | (some kind, t) =>
      match t with
      | .array items =>
          if kind = "Array" then (ofItems? items).map array else scalar? kind (.array items)
      | t => scalar? kind t
  | _ => none

def ofItems? : List Json.Tree → Option (List Value)
  | [] => some []
  | t :: ts => do
      let first ← ofTree? t
      let others ← ofItems? ts
      return first :: others

end

def read (s : String) : Except Error Value :=
  match (Json.Tree.read? s).filter (·.depth ≤ Json.depthLimit) |>.bind ofTree? with
  | some v => .ok v
  | none => .error .unreadable

mutual

def toTree : Value → Json.Tree
  | null => .string (some "Null")
  | bool b => .object [(some "Bool", .bool b)]
  | int32 n => .object [(some "I32", .number (.ofInt n.toInt))]
  | int64 n => .object [(some "I64", .number (.ofInt n.toInt))]
  | float32 x => .object [(some "F32", .ofBinary32 x)]
  | float64 x => .object [(some "F64", .ofBinary64 x)]
  | text s => .object [(some "String", .string (some s))]
  | bytes data =>
      .object [(some "Bytes", .array (data.map fun b => .number (.ofInt b.toNat)))]
  | json j => .object [(some "Json", j.toTree)]
  | array items => .object [(some "Array", .array (toTrees items))]

def toTrees : List Value → List Json.Tree
  | [] => []
  | v :: vs => toTree v :: toTrees vs

end

def write (v : Value) : String := v.toTree.render

end SqlSelect.Value
