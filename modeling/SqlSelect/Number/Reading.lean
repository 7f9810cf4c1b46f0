import SqlSelect.Number.Binary
import SqlSelect.Number.Numeral

/-!
Floating-point numbers read from numerals. The digits are gathered into one
64-bit number for as long as it has room; the digits after that are left out, and
those of them before the point count as powers of ten. One multiplication or
division by a power of ten makes the result, so that it can be off by a unit in
the last place. A number too large for the format is refused.
-/

namespace SqlSelect

namespace Numeral

/-- The significand gathered so far, whether there is still room in it, and the
power of ten that it is to be multiplied by. -/
structure Gathered where
  significand : Nat := 0
  full : Bool := false
  power : Int := 0

/-- Takes one digit in, where each digit left out counts `missed` and each digit taken
in counts `taken`. -/
def Gathered.digit (missed taken : Int) (g : Gathered) (c : Char) : Gathered :=
  let next := 10 * g.significand + (c.toNat - '0'.toNat)
  if g.full || next ≥ UInt64.size then { g with full := true, power := g.power + missed }
  else { g with significand := next, power := g.power + taken }

/-- The digits on both sides of the point. After the point the gathering begins anew,
so that a digit may still fit where an earlier one did not. -/
def gathered (n : Numeral) : Gathered :=
  let whole := n.whole.foldl (Gathered.digit 1 0) {}
  n.fraction.foldl (Gathered.digit 0 (-1)) { whole with full := false }

/-- The significand times `10 ^ power`, a power beyond the format taken in steps. -/
def scale? : Nat → Float → Int → Option Float
  | steps, f, power =>
      if power.natAbs ≤ 308 then
        let unit := Float.ofScientific 1 false power.natAbs
        if power ≥ 0 then
          if (f * unit).isInf then none else some (f * unit)
        else some (f / unit)
      else if f == 0.0 then some f
      else if power ≥ 0 then none
      else match steps with
        | 0 => some 0.0
        | steps + 1 => scale? steps (f / 1e308) (power + 308)

/-- The largest exponent that is told from larger ones. -/
def exponentLimit : Nat := 0x7FFFFFFF

def clamp (n : Int) : Int := max (-0x80000000) (min 0x7FFFFFFF n)

def magnitude? (n : Numeral) : Option Float :=
  let g := n.gathered
  let f := (UInt64.ofNat g.significand).toFloat
  match n.exponent with
  | none => scale? 4 f g.power
  | some (negative, digits) =>
      let e := Digits.toNat digits
      if e > exponentLimit then
        if negative || g.significand = 0 then some 0.0 else none
      else scale? 4 f (clamp (if negative then g.power - e else g.power + e))

def float? (n : Numeral) : Option Float :=
  n.magnitude?.map fun f => if n.negative then -f else f

end Numeral

namespace Binary64

def ofFloat (f : Float) : Binary64 := ⟨f.toBits⟩

/-- The nearest number to an integer of 64 bits, signed or unsigned. -/
def ofInt (n : Int) : Binary64 :=
  ofFloat (if n < 0 then (Int64.ofInt n).toFloat else (UInt64.ofNat n.toNat).toFloat)

end Binary64

namespace Binary32

def ofFloat (f : Float) : Binary32 := ⟨f.toFloat32.toBits⟩

def ofInt (n : Int) : Binary32 :=
  ⟨(if n < 0 then (Int64.ofInt n).toFloat32 else (UInt64.ofNat n.toNat).toFloat32).toBits⟩

end Binary32

end SqlSelect
