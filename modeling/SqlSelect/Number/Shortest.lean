import SqlSelect.Number.Binary
import SqlSelect.Number.Numeral

/-!
Shortest decimals. A floating-point number stands for an interval of reals, those
that round to it. Of the decimals in the interval the one with the fewest digits
is written, of several the nearest to the number itself. Everything is computed
with natural numbers.
-/

namespace SqlSelect

/-- The positive number `mantissa * 2 ^ exponent`. -/
structure Magnitude where
  mantissa : Nat
  exponent : Int
  /-- Whether the next smaller number is half as far away as the next larger one. -/
  narrowBelow : Bool
  deriving DecidableEq, Repr

namespace Binary64

def finite (x : Binary64) : Magnitude :=
  let e := (x.magnitude >>> 52).toNat
  let f := (x.magnitude &&& 0xFFFFFFFFFFFFF).toNat
  if e = 0 then ⟨f, -1074, false⟩ else ⟨0x10000000000000 + f, (e : Int) - 1075, f == 0 && e > 1⟩

end Binary64

namespace Binary32

def finite (x : Binary32) : Magnitude :=
  let e := (x.magnitude >>> 23).toNat
  let f := (x.magnitude &&& 0x7FFFFF).toNat
  if e = 0 then ⟨f, -149, false⟩ else ⟨0x800000 + f, (e : Int) - 150, f == 0 && e > 1⟩

end Binary32

/-- Which of two decimals is written that are equally near. -/
inductive Tie where
  | even
  | up
  deriving DecidableEq, Repr

/-- Digits whose first one counts units of `10 ^ lead`. -/
structure Scientific where
  digits : List Char
  lead : Int
  deriving DecidableEq, Repr

namespace Magnitude

/-- The order of `a * 10 ^ i` and `b * 2 ^ j`. -/
def compareScaled (a : Nat) (i : Int) (b : Nat) (j : Int) : Ordering :=
  compare (a * Nat.pow 10 i.toNat * Nat.pow 2 (-j).toNat)
    (b * Nat.pow 2 j.toNat * Nat.pow 10 (-i).toNat)

/-- Whether `d * 10 ^ e` is one of the reals that round to the number. The two ends
of the interval do when the mantissa is even. -/
def readsBack (x : Magnitude) (d : Nat) (e : Int) : Bool :=
  let low := 4 * x.mantissa - if x.narrowBelow then 1 else 2
  let atEnds := x.mantissa % 2 == 0
  let below := compareScaled d e low (x.exponent - 2)
  let above := compareScaled d e (4 * x.mantissa + 2) (x.exponent - 2)
  (below == .gt || (atEnds && below == .eq)) && (above == .lt || (atEnds && above == .eq))

/-- The number as `n / 10 ^ places`. -/
def scaled (x : Magnitude) : Nat × Nat :=
  let places := (-x.exponent).toNat
  (x.mantissa * Nat.pow 2 x.exponent.toNat * Nat.pow 5 places, places)

/-- The decimal of `count` digits nearest to the number `n`, if it reads back. Its
unit is `10 ^ (size - count)`, where `n` has `size` digits before it is divided by
`10 ^ places`. -/
def withDigits? (x : Magnitude) (tie : Tie) (n places size count : Nat) :
    Option (Nat × Int) :=
  let unit := Nat.pow 10 (size - count)
  let n := n * Nat.pow 10 (count - size)
  let d := n / unit
  let rest := n % unit
  let e : Int := size - count - places
  let nearer := if 2 * rest < unit then d
    else if unit < 2 * rest then d + 1
    else if tie = .up || d % 2 == 1 then d + 1 else d
  let farther := if nearer = d then d + 1 else d
  if x.readsBack nearer e then some (nearer, e)
  else if x.readsBack farther e then some (farther, e)
  else none

def scientific (d : Nat) (e : Int) : Scientific :=
  let digits := Digits.ofNat d
  ⟨(digits.reverse.dropWhile (· == '0')).reverse, e + digits.length - 1⟩

/-- Seventeen digits are enough for every number to be read back. -/
def shortest (x : Magnitude) (tie : Tie) : Scientific :=
  if x.mantissa = 0 then ⟨['0'], 0⟩
  else
    let (n, places) := x.scaled
    let size := (Digits.ofNat n).length
    match (List.range 17).findSome? fun k => x.withDigits? tie n places size (k + 1) with
    | some (d, e) => scientific d e
    | none => scientific n (-places)

end Magnitude

/-- How digits are laid out: positionally when the first of them counts units from
`10 ^ lowest` to `10 ^ highest`, with an exponent otherwise. -/
structure Layout where
  lowest : Int
  highest : Int
  tie : Tie

namespace Layout

/-- A positional numeral has at least one digit on either side of its point. -/
def numeral (l : Layout) (negative : Bool) (s : Scientific) : Numeral :=
  if s.lead < l.lowest ∨ l.highest < s.lead then
    { negative, whole := s.digits.take 1, fraction := s.digits.drop 1,
      exponent := some (decide (s.lead < 0), Digits.ofNat s.lead.natAbs) }
  else if s.lead < 0 then
    { negative, whole := ['0'],
      fraction := List.replicate (s.lead.natAbs - 1) '0' ++ s.digits }
  else
    let places := s.lead.toNat + 1
    let fraction := s.digits.drop places
    { negative,
      whole := s.digits.take places ++ List.replicate (places - s.digits.length) '0'
      fraction := if fraction.isEmpty then ['0'] else fraction }

end Layout

def Binary64.numeral (x : Binary64) (l : Layout) : Numeral :=
  l.numeral x.isNegative (x.finite.shortest l.tie)

def Binary32.numeral (x : Binary32) (l : Layout) : Numeral :=
  l.numeral x.isNegative (x.finite.shortest l.tie)

end SqlSelect
