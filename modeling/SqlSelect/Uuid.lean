import SqlSelect.Number.Digits

/-!
Universally unique identifiers: 128 bits, written as 32 hexadecimal digits in
five groups.
-/

namespace SqlSelect

structure Uuid where
  bits : BitVec 128
  deriving DecidableEq, Repr

namespace Uuid

/-- Digits cut into groups of the given sizes. -/
def groups : List Nat → List Char → List (List Char)
  | [], _ => []
  | size :: sizes, digits => digits.take size :: groups sizes (digits.drop size)

def text (u : Uuid) : String :=
  String.ofList (['-'].intercalate
    (groups [8, 4, 4, 4, 12] (Digits.padTo 32 (Nat.toDigits 16 u.bits.toNat))))

instance : ToString Uuid := ⟨text⟩

end Uuid

end SqlSelect
