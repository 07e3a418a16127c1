import FormModel.Dict
import FormModel.Pointer

/-!
Generic pointers.  What is known about the items of a list is kept once for all of them, under a pointer
with a dash in place of the position; the fixed slots at the front of a tuple keep theirs.  Where a
structure repeats inside itself, the pointers inside the repetition are folded back to the first
occurrence.
-/

namespace FormModel

/-- Generic pointers of arrays, with the number of fixed slots of each. -/
abbrev ArrayMap := Dict Nat

/-- Pointers to places that repeat an enclosing place, with the pointer to that. -/
abbrev RecursionMap := Dict String

namespace Pointer

/-- Whether the tokens lead to an array that is known; without a map all do. -/
def isKnownArray (arrays : Option ArrayMap) (tokens : Tokens) : Bool :=
  match arrays with
  | none => true
  | some arrays => arrays.has (compile tokens)

/-- Tokens whose dashes are replaced by positions in turn; `before` are the tokens in front of them.  Only
dashes directly inside a known array take a position. -/
def indexTokens (arrays : Option ArrayMap) (before : Tokens) : Tokens → List Nat → Tokens
  | [], _ => []
  | token :: rest, indices =>
    if token = "-" ∧ isKnownArray arrays before then
      match indices with
      | i :: more => toString i :: indexTokens arrays (before ++ [token]) rest more
      | [] => token :: rest
    else token :: indexTokens arrays (before ++ [token]) rest indices

/-- One token in generic form, behind tokens that have it already. -/
def genericToken (arrays : ArrayMap) (before : Tokens) (token : String) : String :=
  match arrays.get? (compile before), index? token with
  | some slots, some i => if slots ≤ i then "-" else token
  | _, _ => token

/-- Tokens in generic form, behind tokens that have it already. -/
def genericTokens (arrays : ArrayMap) (before : Tokens) : Tokens → Tokens
  | [] => []
  | token :: rest =>
    let token := genericToken arrays before token
    token :: genericTokens arrays (before ++ [token]) rest

/-- The generic form of a pointer. -/
def toGeneric? (arrays : ArrayMap) (pointer : String) : Option String :=
  (parse? pointer).map fun tokens => compile (genericTokens arrays [] tokens)

/-- `pointer` with its front `source` replaced by `target`, as often as it has that front. -/
def foldSource (arrays : ArrayMap) (source target : String) : Nat → String → Option String
  | 0, pointer => some pointer
  | fuel + 1, pointer =>
    if isAncestor source pointer false then
      let folded := target ++ String.ofList (pointer.toList.drop source.length)
      (toGeneric? arrays folded).bind (foldSource arrays source target fuel)
    else some pointer

/-- One pass over all entries that lead from a place to a strict ancestor of it. -/
def foldPass (arrays : ArrayMap) : RecursionMap → String → Option String
  | [], pointer => some pointer
  | (source, target) :: rest, pointer =>
    if isAncestor target source true then
      (foldSource arrays source target (pointer.length + 1) pointer).bind (foldPass arrays rest)
    else foldPass arrays rest pointer

/-- Passes until one changes nothing.  Every fold makes the pointer shorter. -/
def foldPasses (refs : RecursionMap) (arrays : ArrayMap) : Nat → String → Option String
  | 0, pointer => some pointer
  | fuel + 1, pointer =>
    match foldPass arrays refs pointer with
    | none => none
    | some folded => if folded = pointer then some pointer else foldPasses refs arrays fuel folded

/-- The generic form of a pointer, folded until no recursive place is its front. -/
def fold? (refs : RecursionMap) (arrays : ArrayMap) (pointer : String) : Option String :=
  (toGeneric? arrays pointer).bind fun generic => foldPasses refs arrays (generic.length + 1) generic

end Pointer

namespace Address

/-- A pointer whose dashes are replaced by positions. -/
def toIndexed? (a : Address) (indices : List Nat) (arrays : Option ArrayMap) : Option String :=
  a.parse?.map fun tokens => Pointer.compile (Pointer.indexTokens arrays [] tokens indices)

/-- The generic form of an address. -/
def toGeneric? (a : Address) (arrays : ArrayMap) : Option String :=
  a.parse?.map fun tokens => Pointer.compile (Pointer.genericTokens arrays [] tokens)

/-- The folded generic form of an address. -/
def fold? (a : Address) (refs : RecursionMap) (arrays : ArrayMap) : Option String :=
  (a.toGeneric? arrays).bind fun generic => Pointer.foldPasses refs arrays (generic.length + 1) generic

end Address

end FormModel
