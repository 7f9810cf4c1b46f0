import SqlSelect.Inspect
import SqlSelect.Number.Shortest
import SqlSelect.Value

/-!
Values shown with their kinds.
-/

namespace SqlSelect

/-- Floating-point numbers are shown with a point from `10 ^ -4` to below `10 ^ 16`. -/
def Inspect.numberLayout : Layout := ⟨-4, 15, .up⟩

def Inspect.numeral (n : Numeral) : String := String.ofList (n.text [])

def Inspect.infinite (negative : Bool) : String := if negative then "-inf" else "inf"

def Binary32.inspect (x : Binary32) : String :=
  if x.isNaN then "NaN"
  else if x.isFinite then Inspect.numeral (x.numeral Inspect.numberLayout)
  else Inspect.infinite x.isNegative

def Binary64.inspect (x : Binary64) : String :=
  if x.isNaN then "NaN"
  else if x.isFinite then Inspect.numeral (x.numeral Inspect.numberLayout)
  else Inspect.infinite x.isNegative

namespace Json

open Inspect (tagged)

def Number.inspect : Number → String
  | int n => tagged "Number" [toString n]
  | float x => tagged "Number" [x.inspect]

mutual

def inspect : Json → String
  | null => "Null"
  | bool b => tagged "Bool" [Inspect.bool b]
  | number n => n.inspect
  | string s => tagged "String" [Text.quoted s]
  | array items => "Array " ++ Inspect.list (inspectItems items)
  | object members =>
      "Object \x7b" ++ ", ".intercalate (inspectMembers members) ++ "\x7d"

def inspectItems : List Json → List String
  | [] => []
  | j :: js => inspect j :: inspectItems js

def inspectMembers : List (String × Json) → List String
  | [] => []
  | (key, j) :: ms => (Text.quoted key ++ ": " ++ inspect j) :: inspectMembers ms

end

end Json

namespace Value

open Inspect (tagged)

mutual

def inspect : Value → String
  | null => "Null"
  | bool b => tagged "Bool" [Inspect.bool b]
  | int32 n => tagged "I32" [toString n.toInt]
  | int64 n => tagged "I64" [toString n.toInt]
  | float32 x => tagged "F32" [x.inspect]
  | float64 x => tagged "F64" [x.inspect]
  | text s => tagged "String" [Text.quoted s]
  | bytes data => tagged "Bytes" [Inspect.list (data.map fun b => toString b.toNat)]
  | json j => tagged "Json" [j.inspect]
  | array items => tagged "Array" [Inspect.list (inspectItems items)]

def inspectItems : List Value → List String
  | [] => []
  | v :: vs => inspect v :: inspectItems vs

end

end Value

end SqlSelect
