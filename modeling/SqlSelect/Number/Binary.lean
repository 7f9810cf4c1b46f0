/-!
Floating-point numbers as bit patterns in the two binary interchange formats.
They are carried and compared, never computed with: equality tells no zero from
the other and no NaN from itself.
-/

namespace SqlSelect

structure Binary32 where
  bits : UInt32
  deriving DecidableEq, Repr, Inhabited

structure Binary64 where
  bits : UInt64
  deriving DecidableEq, Repr, Inhabited

namespace Binary32

def isNegative (x : Binary32) : Bool := x.bits ≥ 0x80000000

def magnitude (x : Binary32) : UInt32 := x.bits &&& 0x7FFFFFFF

def isNaN (x : Binary32) : Bool := x.magnitude > 0x7F800000

def isFinite (x : Binary32) : Bool := x.magnitude < 0x7F800000

/-- Numeric equality: no NaN equals anything, and the two zeros are equal. -/
def equals (x y : Binary32) : Bool :=
  !x.isNaN && !y.isNaN && (x.bits == y.bits || (x.magnitude == 0 && y.magnitude == 0))

end Binary32

namespace Binary64

def isNegative (x : Binary64) : Bool := x.bits ≥ 0x8000000000000000

def magnitude (x : Binary64) : UInt64 := x.bits &&& 0x7FFFFFFFFFFFFFFF

def isNaN (x : Binary64) : Bool := x.magnitude > 0x7FF0000000000000

def isFinite (x : Binary64) : Bool := x.magnitude < 0x7FF0000000000000

/-- Numeric equality: no NaN equals anything, and the two zeros are equal. -/
def equals (x y : Binary64) : Bool :=
  !x.isNaN && !y.isNaN && (x.bits == y.bits || (x.magnitude == 0 && y.magnitude == 0))

end Binary64

end SqlSelect
