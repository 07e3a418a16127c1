import FormModel.Rule.Schema

/-!
Control templates: the tree of controls that a form is drawn from.  A group has its controls under the
names of properties, a list has them in order, and a leaf holds a value.  A place may be left without a
control.
-/

namespace FormModel

/-- A control with everything inside it. -/
inductive Template where
  | group (controls : List (String × Option Template)) (rules : RuleBag)
  | list (controls : List (Option Template)) (rules : RuleBag)
  | leaf (value : Json) (disabled : Bool) (rules : RuleBag)
  deriving Inhabited

namespace Template

/-- A control for a value without rules. -/
def ofValue (value : Json) : Template := .leaf value false []

/-- The name of the kind of a control. -/
def kind : Template → String
  | group _ _ => "group"
  | list _ _ => "list"
  | leaf _ _ _ => "leaf"

/-- The rules of a control. -/
def rules : Template → RuleBag
  | group _ rules => rules
  | list _ rules => rules
  | leaf _ _ rules => rules

/-- A control with other rules. -/
def withRules : Template → RuleBag → Template
  | group controls _, rules => group controls rules
  | list controls _, rules => list controls rules
  | leaf value disabled _, rules => leaf value disabled rules

/-- The number that digits spell, with an optional plus sign before them and leading zeros allowed. -/
def position? (text : String) : Option Nat :=
  let digits := match text.toList with
    | '+' :: rest => rest
    | cs => cs
  if digits.isEmpty || !digits.all Char.isDigit then none
  else
    let n := digits.foldl (fun n c => n * 10 + (c.toNat - '0'.toNat)) 0
    if n < 0x10000000000000000 then some n else none

/-- The place in a list that a key names; a dash is the last one. -/
def listPosition? (key : String) (length : Nat) : Option Nat :=
  if key = "-" then (if length = 0 then none else some (length - 1)) else position? key

/-- The control under a key. -/
def child? : Template → String → Option Template
  | group controls _, key => (Dict.get? controls key).join
  | list controls _, key => (listPosition? key controls.length).bind fun i => controls[i]?.join
  | leaf _ _ _, _ => none

/-- The control with another one under a key that has one. -/
def setChild : Template → String → Template → Template
  | group controls rules, key, child => group (Dict.insert controls key (some child)) rules
  | list controls rules, key, child =>
    match listPosition? key controls.length with
    | some i => list (controls.set i (some child)) rules
    | none => list controls rules
  | leaf value disabled rules, _, _ => leaf value disabled rules

/-- The control at the end of keys, each followed from the one before. -/
def descendant? (t : Template) : List String → Option Template
  | [] => some t
  | key :: rest => (t.child? key).bind (descendant? · rest)

/-- Replaces the control at the end of keys, if there is one. -/
def updateAt? (t : Template) (keys : List String) (f : Template → Template) : Option Template :=
  match keys with
  | [] => some (f t)
  | key :: rest => do
    let child ← t.child? key
    let child ← child.updateAt? rest f
    return t.setChild key child

/-- The control with the rule that it needs a value. -/
def require (t : Template) : Template := t.withRules (Dict.insert t.rules "required" [])

/-- The names that a schema lists as required, if it has such a list. -/
def requiredNames? (schema : Json) : Option (List String) :=
  ((schema.member? "required").bind Json.items?).map fun names => names.filterMap Json.string?

/-- The control with children required. -/
def requireChildren (t : Template) (names : List String) : Template :=
  names.foldl (fun t name => (t.updateAt? [name] require).getD t) t

/-- The control with the children required that a schema names, and whether there was one. -/
def requireFields (schema : Json) (t : Template) : Bool × Template :=
  let names := (requiredNames? schema).getD []
  (names.any fun name => (t.child? name).isSome, t.requireChildren names)

end Template

end FormModel
