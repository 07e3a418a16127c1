import FormModel.Decimal.Reading
import FormModel.Json
import FormModel.Pointer

/-!
Following pointers into a value.  A token names a member of an object or a position in an array, a dash
the last item.  A token that is no member name but has the form of a condition, `name==text` or
`name!=text`, names the member `name` if its value does, or does not, read as the text.
-/

namespace FormModel

/-- A place directly inside an array or object. -/
inductive Slot where
  | item (index : Nat)
  | member (name : String)
  deriving DecidableEq, Repr

namespace Pointer

/-- The text without blanks around it and without one pair of quotes around that. -/
def unquote (cs : List Char) : List Char :=
  let cs := trimBlanks cs
  let quoted (q : Char) : Bool := 2 ≤ cs.length && cs.head? == some q && cs.getLast? == some q
  if quoted '"' || quoted '\'' then cs.tail.dropLast else cs

/-- Whether a scalar reads as a text; numbers may be written in another way. -/
def readsAs (actual : Json) (expected : String) : Bool :=
  match actual with
  | .str s => s == expected
  | .num n =>
    n.text == expected ||
      (match Decimal.parse? expected with
        | some f => n.toFloat == f
        | none => false)
  | .bool b => (if b then "true" else "false") == expected
  | .null => expected == "null"
  | _ => false

/-- The text before and after the first place where `a` and `b` stand in a row. -/
def splitAtPair (a b : Char) : List Char → Option (List Char × List Char)
  | x :: y :: rest =>
    if x = a ∧ y = b then some ([], rest)
    else (splitAtPair a b (y :: rest)).map fun (before, after) => (x :: before, after)
  | _ => none

/-- A condition on one member of an object. -/
structure Condition where
  name : String
  expected : String
  negated : Bool
  deriving DecidableEq, Repr

/-- The condition that a token states; one with `!=` in it is read as a negated one. -/
def Condition.ofToken? (token : String) : Option Condition :=
  let make (negated : Bool) : List Char × List Char → Condition := fun (name, expected) =>
    ⟨String.ofList name, String.ofList (unquote expected), negated⟩
  match splitAtPair '!' '=' token.toList with
  | some parts => some (make true parts)
  | none => (splitAtPair '=' '=' token.toList).map (make false)

/-- Whether the members include the named one, with a value as the condition asks. -/
def Condition.holds (c : Condition) (members : Dict Json) : Bool :=
  match members.get? c.name with
  | some actual => readsAs actual c.expected != c.negated
  | none => false

/-- The name of the member that a token stands for. -/
def memberName? (members : Dict Json) (token : String) : Option String :=
  if members.has token then some token
  else match Condition.ofToken? token with
    | some c => if c.holds members then some c.name else none
    | none => none

/-- The place that a token stands for, if there is a value at it. -/
def slot? (current : Json) (token : String) : Option Slot :=
  match current with
  | .arr items =>
    if token = "-" then (if items.isEmpty then none else some (.item (items.length - 1)))
    else (index? token).bind fun i => if i < items.length then some (.item i) else none
  | .obj members => (memberName? members token).map .member
  | _ => none

end Pointer

namespace Json

/-- The value at a place. -/
def atSlot? : Json → Slot → Option Json
  | .arr items, .item i => items[i]?
  | .obj members, .member name => Dict.get? members name
  | _, _ => none

/-- The value with another one at a place. -/
def setSlot : Json → Slot → Json → Json
  | .arr items, .item i, value => .arr (items.set i value)
  | .obj members, .member name, value => .obj (Dict.insert members name value)
  | other, _, _ => other

/-- The value that one token leads to. -/
def step? (current : Json) (token : String) : Option Json :=
  (Pointer.slot? current token).bind current.atSlot?

/-- The value that tokens lead to. -/
def getTokens? (root : Json) : Tokens → Option Json
  | [] => some root
  | token :: rest => (root.step? token).bind (getTokens? · rest)

/-- The value that an address leads to. -/
def get? (root : Json) (address : Address) : Option Json := address.parse?.bind root.getTokens?

/-- The value at a pointer. -/
def at? (root : Json) (pointer : String) : Option Json := root.get? (.text pointer)

/-- The tokens from `start` to before `stop`; a negative `stop` counts from the end. -/
def sliceTokens (tokens : Tokens) (start : Nat) (stop : Option Int) : Tokens :=
  let stop := match stop with
    | none => tokens.length
    | some e => if e < 0 then tokens.length - e.natAbs else min e.toNat tokens.length
  (tokens.take stop).drop start

/-- The value that a stretch of the tokens of an address leads to. -/
def getSlice? (root : Json) (address : Address) (start : Nat) (stop : Option Int) : Option Json :=
  address.parse?.bind fun tokens => root.getTokens? (sliceTokens tokens start stop)

/-- Whether an address leads to a value. -/
def has (root : Json) (address : Address) : Bool := (root.get? address).isSome

end Json

end FormModel
