import ArithAsm.Text.Decimal

/-!
Quotients with as many binary digits as a machine number has, and their decimal text with a fixed
number of places. Both roundings are to the nearest value, a half going to the even neighbour,
and both are exact otherwise.
-/

namespace ArithAsm

/-- The natural number nearest to `n / d`; a half goes to the even neighbour. -/
def roundedQuotient (n d : Nat) : Nat :=
  let below := n / d
  let twice := 2 * (n % d)
  if twice < d then below
  else if d < twice then below + 1
  else below + below % 2

/-- The number `mantissa * 2 ^ exponent`. -/
structure Dyadic where
  mantissa : Nat
  exponent : Int
  deriving DecidableEq

namespace Dyadic

def doublePrecision : Nat := 53

def scaled (n d : Nat) (exponent : Int) : Nat × Nat :=
  (n <<< (-exponent).toNat, d <<< exponent.toNat)

/-- The number nearest to `n / d` among those with `bits` binary digits. The exponent makes the
quotient, in its units, at least `2 ^ (bits - 1)` and less than `2 ^ bits`. -/
def nearest (bits n d : Nat) : Dyadic :=
  let guess : Int := n.log2 - d.log2 - bits + 1
  let (top, bottom) := scaled n d guess
  let exponent := if top < bottom <<< (bits - 1) then guess - 1 else guess
  let (top, bottom) := scaled n d exponent
  ⟨roundedQuotient top bottom, exponent⟩

def fixed (places : Nat) (number : Dyadic) : Text :=
  let unit := Nat.pow 10 places
  let units := roundedQuotient
    ((number.mantissa <<< number.exponent.toNat) * unit) (1 <<< (-number.exponent).toNat)
  let fraction := Text.ofNat (units % unit)
  Text.ofNat (units / unit) ++ "." ++ List.replicate (places - fraction.length) '0' ++
    fraction

end Dyadic

end ArithAsm
