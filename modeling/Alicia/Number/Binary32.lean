import Mathlib.Data.Rat.Floor

/-!
# Single precision arithmetic

The values of a binary floating point format are rationals, and an operation of the format is the
exact operation followed by a rounding to 24 significant bits, to nearest with ties to even.  The
exponent is unbounded: the format's overflow threshold and its subnormal numbers are not modelled.
-/

namespace Binary32

/-- Round to an integer, to nearest with ties to even. -/
def roundEven (q : ℚ) : Int :=
  let down := q.floor
  if q - down < 1 / 2 then down
  else if q - down = 1 / 2 then (if down % 2 = 0 then down else down + 1)
  else down + 1

/-- The exponent `e` with `2 ^ e ≤ q < 2 ^ (e + 1)`, for a positive `q`. -/
def exponent (q : ℚ) : Int :=
  let e : Int := (Nat.log2 q.num.natAbs : Int) - Nat.log2 q.den
  if (2 : ℚ) ^ e ≤ q then e else e - 1

/-- The nearest value with 24 significant bits. -/
def round (q : ℚ) : ℚ :=
  if q = 0 then 0
  else
    let unit := (2 : ℚ) ^ (exponent |q| - 23)
    roundEven (q / unit) * unit

def mul (a b : ℚ) : ℚ := round (a * b)

def div (a b : ℚ) : ℚ := round (a / b)

/-- `static_cast<uint32_t>`: truncate.  Where that value does not fit, the conversion is
undefined in C++ and the model takes it modulo `2 ^ 32`. -/
def toUInt32 (q : ℚ) : UInt32 :=
  UInt32.ofInt (if 0 ≤ q then q.floor else q.ceil)

end Binary32
