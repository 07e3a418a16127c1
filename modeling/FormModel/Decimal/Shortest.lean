import FormModel.Decimal.Binary

/-!
The decimal text of a float.  The digits are the fewest that read back as the same float and, of
those, the nearest to it.  `shortest` finds them on exact integers; a `FloatLayout` says how they
are set out.
-/

namespace FormModel

/-- The number `digits * 10 ^ exponent`. -/
structure Decimal where
  digits : Nat
  exponent : Int
  deriving DecidableEq, Repr

namespace Decimal

/-- The same number with no zero at the end of its digits; zero itself is `0 * 10 ^ 0`. -/
def trim (d : Decimal) : Decimal :=
  if h : d.digits = 0 then ⟨0, 0⟩
  else if d.digits % 10 = 0 then trim ⟨d.digits / 10, d.exponent + 1⟩
  else d
termination_by d.digits
decreasing_by omega

end Decimal

/-- The reals that round to one float, as multiples of a fourth of its last binary place:
from `low` to `high`, ends included when `closed`, with the float itself at `value`. -/
structure RoundingInterval where
  low : Nat
  value : Nat
  high : Nat
  closed : Bool
  deriving DecidableEq, Repr

namespace RoundingInterval

/-- Halfway to the neighbours on either side.  Below a power of two the neighbour is only half as far,
unless the places are already the smallest ones. -/
def ofMagnitude (m : Magnitude) : RoundingInterval where
  low := 4 * m.mantissa - (if m.mantissa = 0x10000000000000 ∧ -1074 < m.exponent then 1 else 2)
  value := 4 * m.mantissa
  high := 4 * m.mantissa + 2
  closed := m.mantissa % 2 == 0

/-- Whether `point / unit` lies in the interval. -/
def covers (i : RoundingInterval) (point unit : Nat) : Bool :=
  if i.closed then i.low * unit ≤ point && point ≤ i.high * unit
  else i.low * unit < point && point < i.high * unit

/-- Of the two neighbours of the value on the grid of the multiples of `step / unit`, the nearer one that
lies in the interval, as its multiple; if they are equally near, the even one. -/
def nearestOn (i : RoundingInterval) (step unit : Nat) : Option Nat :=
  let below := i.value * unit / step
  let above := below + 1
  let low := i.covers (below * step) unit
  let high := i.covers (above * step) unit
  let doubled := 2 * (i.value * unit)
  let middle := (below + above) * step
  let lowIsNearer := doubled < middle || (doubled == middle && below % 2 == 0)
  if low && (lowIsNearer || !high) then some below
  else if high then some above
  else none

end RoundingInterval

/-- The digits of a positive size: of the grids with one digit, two digits and so on the first that
has a point in the rounding interval.  Seventeen digits always suffice. -/
def Magnitude.shortest (m : Magnitude) : Decimal :=
  let interval := RoundingInterval.ofMagnitude m
  let quarter := m.exponent - 2
  let top := ((Nat.log2 m.mantissa : Int) + m.exponent) * 30103 / 100000 + 1
  let onGrid (count : Nat) : Option Decimal :=
    let place := top - count
    let step := Nat.pow 10 place.toNat <<< (-quarter).toNat
    let unit := Nat.pow 10 (-place).toNat <<< quarter.toNat
    (interval.nearestOn step unit).map fun n => Decimal.trim ⟨n, place⟩
  ((List.range 19).findSome? onGrid).getD ⟨0, 0⟩

/-- How the digits of a float are set out. -/
structure FloatLayout where
  /-- Scientific exponents that are written without an exponent; `none` for all of them. -/
  positional : Option (Int × Int)
  /-- Whether a whole number written without exponent keeps one digit after the point. -/
  keepsFraction : Bool
  deriving DecidableEq, Repr

namespace FloatLayout

/-- Digits with the point set where the exponent puts it. -/
def positionalText (layout : FloatLayout) (digits : List Char) (exponent : Int) : List Char :=
  let point : Int := digits.length + exponent
  let whole := if layout.keepsFraction then ['.', '0'] else []
  if 0 ≤ exponent then digits ++ List.replicate exponent.toNat '0' ++ whole
  else if 0 < point then digits.take point.toNat ++ '.' :: digits.drop point.toNat
  else '0' :: '.' :: List.replicate (-point).toNat '0' ++ digits

/-- One digit before the point and a signed exponent. -/
def scientificText (digits : List Char) (scientific : Int) : List Char :=
  let mantissa := match digits with
    | [] => []
    | [d] => [d]
    | d :: rest => d :: '.' :: rest
  let sign := if scientific < 0 then '-' else '+'
  mantissa ++ 'e' :: sign :: Nat.toDigits 10 scientific.natAbs

/-- The text of a finite float. -/
def render (layout : FloatLayout) (f : Float) : String :=
  let m := Magnitude.ofFloat f
  let sign := if isSigned f then ['-'] else []
  if m.mantissa = 0 then String.ofList (sign ++ layout.positionalText ['0'] 0)
  else
    let d := m.shortest
    let digits := Nat.toDigits 10 d.digits
    let scientific : Int := digits.length - 1 + d.exponent
    let plain := match layout.positional with
      | none => true
      | some (least, greatest) => decide (least ≤ scientific ∧ scientific ≤ greatest)
    String.ofList (sign ++
      if plain then layout.positionalText digits d.exponent else scientificText digits scientific)

end FloatLayout

end FormModel
