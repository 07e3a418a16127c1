import FormModel.Decimal.Binary
import FormModel.Json

/-!
Numbers by their exact values, whichever kind they are of: `1` and `1.0` are equal here, and an integer of
more than 53 bits is not rounded before it is compared.
-/

namespace FormModel

namespace Number

/-- The exact value, as a signed mantissa and an exponent of two. -/
def scaled : Number → Int × Int
  | .int i _ => (i, 0)
  | .float f _ =>
    let m := Magnitude.ofFloat f
    (withSignOf f m.mantissa, m.exponent)

/-- The values of two numbers in a common unit. -/
def aligned (a b : Number) : Int × Int :=
  let (m, e) := a.scaled
  let (n, k) := b.scaled
  let unit := min e k
  (m <<< (e - unit).toNat, n <<< (k - unit).toNat)

/-- Whether a number is less than another. -/
def isLess (a b : Number) : Bool := (a.aligned b).1 < (a.aligned b).2

/-- Whether two numbers have the same value. -/
def sameValue (a b : Number) : Bool := (a.aligned b).1 == (a.aligned b).2

/-- Whether a number is a whole multiple of another, without rounding. -/
def isExactMultiple (a b : Number) : Bool := (a.aligned b).1 % (a.aligned b).2 == 0

/-- The value of a number that is whole. -/
def whole? : Number → Option Int
  | .int i _ => some i
  | .float f _ => if isWhole f then some (truncate f) else none

end Number

namespace Json

mutual
/-- Equality of values in which numbers count by their value. -/
def sameValue : Json → Json → Bool
  | .null, .null => true
  | .bool a, .bool b => a == b
  | .num a, .num b => a.sameValue b
  | .str a, .str b => a == b
  | .arr a, .arr b => sameValueItems a b
  | .obj a, .obj b => a.length == b.length && sameValueMembers a b
  | _, _ => false

/-- Items of the same values one by one. -/
def sameValueItems : List Json → List Json → Bool
  | [], [] => true
  | a :: as, b :: bs => sameValue a b && sameValueItems as bs
  | _, _ => false

/-- Whether each member of the first list has the same value in the second. -/
def sameValueMembers : List (String × Json) → List (String × Json) → Bool
  | [], _ => true
  | (k, v) :: rest, other =>
    (match Dict.get? other k with
      | some w => sameValue v w
      | none => false) && sameValueMembers rest other
end

/-- Whether no two of the items have the same value. -/
def allDistinct : List Json → Bool
  | [] => true
  | j :: rest => !rest.any (sameValue j) && allDistinct rest

end Json

end FormModel
