import SqlSelect.Number.Digits

/-!
Decimal numbers with a fixed count of fraction digits. The count is part of the
number's text: a zero with two places reads `0.00`.
-/

namespace SqlSelect

/-- The number `mantissa / 10 ^ scale`. -/
structure Decimal where
  mantissa : Int
  scale : Nat
  deriving DecidableEq, Repr

namespace Decimal

def text (d : Decimal) : String :=
  let digits := Digits.padded (d.scale + 1) d.mantissa.natAbs
  let places := digits.length - d.scale
  String.ofList ((if d.mantissa < 0 then ['-'] else []) ++ digits.take places ++
    if d.scale = 0 then [] else '.' :: digits.drop places)

instance : ToString Decimal := ⟨text⟩

end Decimal

end SqlSelect
