import FormModel.Json

/-!
The editions of JSON Schema by which documents are checked.  A schema names its edition in `$schema`; one
that names none is read by the latest.
-/

namespace FormModel

/-- An edition of JSON Schema. -/
inductive Edition where
  | draft4
  | draft6
  | draft7
  | draft2019
  | draft2020
  deriving DecidableEq, Repr

namespace Edition

/-- The place of an edition in time. -/
def rank : Edition → Nat
  | draft4 => 4
  | draft6 => 6
  | draft7 => 7
  | draft2019 => 8
  | draft2020 => 9

/-- The identifier of an edition. -/
def uri : Edition → String
  | draft4 => "http://json-schema.org/draft-04/schema"
  | draft6 => "http://json-schema.org/draft-06/schema"
  | draft7 => "http://json-schema.org/draft-07/schema"
  | draft2019 => "https://json-schema.org/draft/2019-09/schema"
  | draft2020 => "https://json-schema.org/draft/2020-12/schema"

/-- All editions. -/
def all : List Edition := [draft4, draft6, draft7, draft2019, draft2020]

/-- The edition that an identifier names; hash signs at its end do not matter. -/
def ofUri? (text : String) : Option Edition :=
  let name := String.ofList (text.toList.reverse.dropWhile (· == '#')).reverse
  all.find? (·.uri == name)

/-- The edition of a schema, unless it names an unknown one. -/
def ofSchema? (schema : Json) : Option Edition :=
  match (schema.member? "$schema").bind Json.string? with
  | some text => ofUri? text
  | none => some draft2020

/-- Whether other keywords count beside a reference. -/
def readsBesideReference (e : Edition) : Bool := 8 ≤ e.rank

/-- Whether formats are asserted. -/
def assertsFormats (e : Edition) : Bool := e.rank ≤ 7

/-- The keyword that identifies a schema. -/
def idKeyword (e : Edition) : String := if e = draft4 then "id" else "$id"

end Edition

end FormModel
