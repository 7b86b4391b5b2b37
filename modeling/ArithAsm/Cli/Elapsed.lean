import ArithAsm.Number.Dyadic

/-!
The time that a goal took, as the text of its seconds.
-/

namespace ArithAsm

structure Clock where
  start : Int := 0
  stop : Int := 0
  deriving DecidableEq

namespace Clock

def secondLength : Nat := 1000000000

def places : Nat := 4

/-- The seconds between the readings, first as a double-precision number and then in decimal; a
clock that was set back shows a minus sign, also in front of zeros. -/
def seconds (clock : Clock) : Text :=
  let nanoseconds := clock.stop - clock.start
  let number := Dyadic.nearest Dyadic.doublePrecision nanoseconds.natAbs secondLength
  let magnitude := number.fixed places
  if nanoseconds < 0 then '-' :: magnitude else magnitude

end Clock

end ArithAsm
