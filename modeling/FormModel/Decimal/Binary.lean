/-!
Binary floating point numbers as exact values.  A finite float is, apart from its sign,
`mantissa * 2 ^ exponent`; what is asked of a float below (is it whole, which integer is nearest,
which part lies before the point) is answered in integers from these two numbers.
-/

namespace FormModel

/-- The size of a finite float, `mantissa * 2 ^ exponent`. -/
structure Magnitude where
  mantissa : Nat
  exponent : Int
  deriving DecidableEq, Repr

namespace Magnitude

/-- The size written in the bits of a float; the bits of an infinity or a NaN are read like others. -/
def ofFloat (f : Float) : Magnitude :=
  let bits : Nat := f.toBits.toNat
  let fraction : Nat := bits % 0x10000000000000
  let biased : Nat := bits / 0x10000000000000 % 0x800
  if biased = 0 then ⟨fraction, -1074⟩ else ⟨fraction + 0x10000000000000, (biased : Int) - 1075⟩

/-- The integer part. -/
def floor (m : Magnitude) : Nat :=
  if 0 ≤ m.exponent then m.mantissa <<< m.exponent.toNat
  else m.mantissa >>> (-m.exponent).toNat

/-- Whether nothing stands after the point. -/
def isWhole (m : Magnitude) : Bool :=
  0 ≤ m.exponent || m.mantissa % (1 <<< (-m.exponent).toNat) == 0

/-- The nearest integer, a half going up. -/
def round (m : Magnitude) : Nat :=
  if 0 ≤ m.exponent then m.floor
  else
    let unit := 1 <<< (-m.exponent).toNat
    (2 * m.mantissa + unit) / (2 * unit)

end Magnitude

/-- Whether the sign bit is set; it is for negative zero. -/
def isSigned (f : Float) : Bool := f.toBits.toNat / 0x8000000000000000 == 1

/-- An integer with the sign of `f`. -/
def withSignOf (f : Float) (n : Nat) : Int := if isSigned f then -(n : Int) else n

/-- A finite number without fractional part. -/
def isWhole (f : Float) : Bool := f.isFinite && (Magnitude.ofFloat f).isWhole

/-- The integer part of a finite float, toward zero. -/
def truncate (f : Float) : Int := withSignOf f (Magnitude.ofFloat f).floor

/-- The nearest integer of a finite float, a half going away from zero. -/
def roundAway (f : Float) : Int := withSignOf f (Magnitude.ofFloat f).round

/-- A count read off a float: the integer part, held between `0` and `2 ^ 64 - 1`; a NaN gives `0`. -/
def toCount (f : Float) : Nat :=
  if f.isFinite then min (truncate f).toNat 0xffffffffffffffff
  else if f > 0 then 0xffffffffffffffff
  else 0

/-- Power with a natural exponent by repeated squaring; every product is rounded. -/
def powNat (base : Float) (n : Nat) : Float :=
  go base n 1
where
  go (square : Float) (n : Nat) (acc : Float) : Float :=
    if n = 0 then acc
    else go (square * square) (n / 2) (if n % 2 = 1 then acc * square else acc)
  termination_by n
  decreasing_by omega

end FormModel
