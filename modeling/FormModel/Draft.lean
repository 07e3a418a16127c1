import FormModel.SchemaType
import FormModel.Unicode.Category

/-!
The drafts of JSON Schema.  A schema names its draft in `$schema`, or betrays it by keywords that only
early drafts have.
-/

namespace FormModel

/-- What is known on the way through a schema of some draft. -/
structure DraftState where
  /-- The number of the draft, once it is known. -/
  draft : Option Nat
  /-- Whether anything has been changed. -/
  changed : Bool
  deriving DecidableEq, Repr, Inhabited

namespace DraftState

/-- Nothing is known and nothing changed. -/
def initial : DraftState := ⟨none, false⟩

/-- The state after a change. -/
def touch (s : DraftState) : DraftState := { s with changed := true }

/-- The state with a draft, unless one is known. -/
def assume (s : DraftState) (n : Nat) : DraftState := { s with draft := s.draft <|> some n }

end DraftState

namespace Draft

/-- The identifier of draft 6. -/
def uri6 : String := "http://json-schema.org/draft-06/schema#"

/-- What is put behind an identifier that has been carried over from `id`. -/
def convertedSuffix : String := "-CONVERTED-TO-DRAFT-06#"

/-- A text without a given beginning. -/
def dropFront? (front : List Char) (cs : List Char) : Option (List Char) :=
  if front.isPrefixOf cs then some (cs.drop front.length) else none

/-- The digit of the draft identifier at the front of a text. -/
def digitAt? (cs : List Char) : Option Char := do
  let cs ← dropFront? "http".toList cs
  let cs := (dropFront? ['s'] cs).getD cs
  let cs ← dropFront? "://json-schema.org/draft-0".toList cs
  match cs with
  | c :: rest =>
    let _ ← dropFront? "/schema#".toList rest
    if Unicode.isDigit c then some c else none
  | [] => none

/-- The digits of all draft identifiers in a text. -/
def digitsIn : List Char → List Char
  | [] => []
  | c :: rest => (digitAt? (c :: rest)).toList ++ digitsIn rest

/-- The draft that a `$schema` text names; a digit of another script names none. -/
def ofUri? (uri : String) : Option (Option Nat) :=
  (digitsIn uri.toList).head?.map Decimal.digit?

/-- Whether a `$schema` text names one of the drafts 1 to 4. -/
def isLegacyUri (uri : String) : Bool := (digitsIn uri.toList).any fun c => '1' ≤ c && c ≤ '4'

end Draft

end FormModel
