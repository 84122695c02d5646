import Mathlib.Algebra.Group.Int.Defs

/-!
# Times

A `struct timeval` holds seconds and microseconds.  The system calls give it normalised;
what a program computes with it need not be.
-/

namespace McKernelTest.Posix

/-- `struct timeval`. -/
structure Timeval where
  tvSec : Int
  tvUsec : Int
  deriving DecidableEq, Repr

namespace Timeval

/-- The seconds are a `long`, and the microseconds are less than a second. -/
structure Normalised (time : Timeval) : Prop where
  least : -2 ^ 63 ≤ time.tvSec
  greatest : time.tvSec < 2 ^ 63
  nonneg : 0 ≤ time.tvUsec
  small : time.tvUsec < 1000000

/-- A time in microseconds. -/
def micros (time : Timeval) : Int :=
  time.tvSec * 1000000 + time.tvUsec

end Timeval

end McKernelTest.Posix
