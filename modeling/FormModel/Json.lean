import FormModel.Decimal.Shortest
import FormModel.Dict

/-!
JSON values.  An object keeps its members in order, and a number is either an integer of 64 bits or a
finite float; `1` and `1.0` are different values.  The equality of the data model is `Json.same`, which
does not look at the order of the members of an object.
-/

namespace FormModel

/-- A JSON number. -/
inductive Number where
  | int (value : Int) (inRange : -0x8000000000000000 ≤ value ∧ value < 0x10000000000000000)
  | float (value : Float) (finite : value.isFinite = true)
  deriving DecidableEq

/-- A JSON value. -/
inductive Json where
  | null
  | bool (value : Bool)
  | num (value : Number)
  | str (value : String)
  | arr (items : List Json)
  | obj (members : List (String × Json))
  deriving Inhabited

namespace Number

/-- The value as a float; an integer of more than 53 bits is rounded. -/
def toFloat : Number → Float
  | .int i _ => Float.ofInt i
  | .float f _ => f

/-- Equality within one kind of number, under which the two zeros are equal. -/
def same : Number → Number → Bool
  | .int i _, .int j _ => i == j
  | .float f _, .float g _ => f == g
  | _, _ => false

/-- Floats have at least one digit after the point, or an exponent outside of -5 to 15. -/
def floatLayout : FloatLayout where
  positional := some (-5, 15)
  keepsFraction := true

/-- The text of a number. -/
def text : Number → String
  | .int i _ => toString i
  | .float f _ => floatLayout.render f

end Number

namespace Json

/-- A float as a value; infinities and NaN have none. -/
def ofFloat (f : Float) : Json :=
  if h : f.isFinite = true then .num (.float f h) else .null

/-- An integer as a value, kept exactly if it has 64 bits. -/
def ofInt (i : Int) : Json :=
  if h : -0x8000000000000000 ≤ i ∧ i < 0x10000000000000000 then .num (.int i h)
  else ofFloat (Float.ofInt i)

/-- A count as a value. -/
def ofNat (n : Nat) : Json := ofInt n

instance : Coe String Json := ⟨.str⟩
instance : Coe Bool Json := ⟨.bool⟩

/-- The name of the kind of a value. -/
def kind : Json → String
  | .null => "null"
  | .bool _ => "boolean"
  | .num _ => "number"
  | .str _ => "string"
  | .arr _ => "array"
  | .obj _ => "object"

/-- The text of a string value. -/
def string? : Json → Option String
  | .str s => some s
  | _ => none

/-- The flag of a boolean value. -/
def bool? : Json → Option Bool
  | .bool b => some b
  | _ => none

/-- The number of a number value, as a float. -/
def float? : Json → Option Float
  | .num n => some n.toFloat
  | _ => none

/-- The items of an array. -/
def items? : Json → Option (List Json)
  | .arr items => some items
  | _ => none

/-- The members of an object. -/
def members? : Json → Option (Dict Json)
  | .obj members => some members
  | _ => none

/-- The value of the member `key` of an object. -/
def member? (j : Json) (key : String) : Option Json := j.members?.bind (Dict.get? · key)

/-- Whether the value is `null`. -/
def isNull : Json → Bool
  | .null => true
  | _ => false

/-- Whether the value is `true` or `false`. -/
def isBool : Json → Bool
  | .bool _ => true
  | _ => false

/-- Whether the value is a number. -/
def isNum : Json → Bool
  | .num _ => true
  | _ => false

/-- Whether the value is a string. -/
def isStr : Json → Bool
  | .str _ => true
  | _ => false

/-- Whether the value is an array. -/
def isArr : Json → Bool
  | .arr _ => true
  | _ => false

/-- Whether the value is an object. -/
def isObj : Json → Bool
  | .obj _ => true
  | _ => false

/-- Whether the value is an array or an object. -/
def isContainer : Json → Bool
  | .arr _ => true
  | .obj _ => true
  | _ => false

/-- Whether the value is `true` itself. -/
def isTrue : Json → Bool
  | .bool true => true
  | _ => false

/-- Neither `null`, `false`, zero nor the empty string. -/
def isTruthy : Json → Bool
  | .null => false
  | .bool b => b
  | .num n => n.toFloat != 0
  | .str s => !s.isEmpty
  | .arr _ => true
  | .obj _ => true

mutual
/-- Equality of values: members of objects may come in any order. -/
def same : Json → Json → Bool
  | .null, .null => true
  | .bool a, .bool b => a == b
  | .num a, .num b => a.same b
  | .str a, .str b => a == b
  | .arr a, .arr b => sameItems a b
  | .obj a, .obj b => a.length == b.length && sameMembers a b
  | _, _ => false

/-- Items that are the same one by one. -/
def sameItems : List Json → List Json → Bool
  | [], [] => true
  | a :: as, b :: bs => same a b && sameItems as bs
  | _, _ => false

/-- Whether each member of the first list is the same in the second. -/
def sameMembers : List (String × Json) → List (String × Json) → Bool
  | [], _ => true
  | (k, v) :: rest, other =>
    (match Dict.get? other k with
      | some w => same v w
      | none => false) && sameMembers rest other
end

mutual
/-- The number of nodes. -/
def size : Json → Nat
  | .arr items => sizeItems items + 1
  | .obj members => sizeMembers members + 1
  | _ => 1

/-- The number of nodes of all items. -/
def sizeItems : List Json → Nat
  | [] => 0
  | j :: rest => j.size + sizeItems rest

/-- The number of nodes of all members. -/
def sizeMembers : List (String × Json) → Nat
  | [] => 0
  | (_, j) :: rest => j.size + sizeMembers rest
end

mutual
/-- How deeply arrays and objects are nested. -/
def depth : Json → Nat
  | .arr items => depthItems items + 1
  | .obj members => depthMembers members + 1
  | _ => 0

/-- The greatest depth of an item. -/
def depthItems : List Json → Nat
  | [] => 0
  | j :: rest => max j.depth (depthItems rest)

/-- The greatest depth of a member. -/
def depthMembers : List (String × Json) → Nat
  | [] => 0
  | (_, j) :: rest => max j.depth (depthMembers rest)
end

mutual
/-- No object, at any depth, has two members of one name.  The reader makes only such values. -/
def Distinct : Json → Prop
  | .arr items => DistinctItems items
  | .obj members => (Dict.keys members).Nodup ∧ DistinctMembers members
  | _ => True

/-- Every item is free of doubled names. -/
def DistinctItems : List Json → Prop
  | [] => True
  | j :: rest => j.Distinct ∧ DistinctItems rest

/-- Every member is free of doubled names inside. -/
def DistinctMembers : List (String × Json) → Prop
  | [] => True
  | (_, j) :: rest => j.Distinct ∧ DistinctMembers rest
end

theorem size_pos (j : Json) : 0 < j.size := by cases j <;> simp [size]

end Json

end FormModel
