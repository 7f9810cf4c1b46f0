import SqlSelect.Calendar
import SqlSelect.Decimal
import SqlSelect.Operator
import SqlSelect.Uuid
import SqlSelect.Value

/-!
Conversions into bindable values. What SQL has no kind of its own for is bound
as its text, and what is absent as `NULL`.
-/

namespace SqlSelect

class ToValue (α : Type) where
  toValue : α → Value

export ToValue (toValue)

namespace Value

instance : ToValue Value := ⟨id⟩
instance : ToValue Unit := ⟨fun _ => null⟩
instance : ToValue Bool := ⟨bool⟩
instance : ToValue Int32 := ⟨int32⟩
instance : ToValue Int64 := ⟨int64⟩
instance : ToValue Binary32 := ⟨float32⟩
instance : ToValue Binary64 := ⟨float64⟩
instance : ToValue String := ⟨text⟩
instance : ToValue Json := ⟨json⟩

/-- Every unsigned 32-bit number is a signed 64-bit one. -/
instance : ToValue UInt32 := ⟨fun n => int64 (Int64.ofNat n.toNat)⟩

instance : ToValue ByteArray := ⟨fun data => bytes data.data.toList⟩

instance {α : Type} [ToValue α] : ToValue (List α) := ⟨fun items => array (items.map toValue)⟩

instance {α : Type} [ToValue α] : ToValue (Option α) where
  toValue
    | none => null
    | some a => toValue a

instance : ToValue Operator := ⟨fun op => text op.spelling⟩
instance : ToValue Uuid := ⟨fun u => text u.text⟩
instance : ToValue Date := ⟨fun d => text d.text⟩
instance : ToValue DateTime := ⟨fun t => text t.text⟩
instance : ToValue Instant := ⟨fun t => text t.utc.text⟩
instance : ToValue Decimal := ⟨fun d => text d.text⟩

end Value

end SqlSelect
