import FormModel.Coercion
import FormModel.Context
import FormModel.FormData.DateTime
import FormModel.Pointer.Traversal
import FormModel.Pointer.Update

/-!
Form values brought to the types of the schema.  The values are gone through from the root down, and each
one whose place is known is written, converted, to the same place in the result; the others are left out.
-/

namespace FormModel

/-- How form values are written. -/
structure FormatOptions where
  /-- Empty values, arrays and objects are kept. -/
  emptyFields : Bool
  /-- Values that do not fit their type are repaired. -/
  fixErrors : Bool
  deriving DecidableEq, Repr

namespace FormData

/-- Whether the type of a place is known. -/
def isTyped (c : Context) (pointer : String) : Bool :=
  (Dict.get? c.options pointer).any fun o => o.schemaType.isSome

/-- The pointer under which a place is known: its own or the generic one. -/
def knownPointer (c : Context) (pointer : String) : String :=
  if isTyped c pointer then pointer else c.generic pointer

/-- Whether values of a type stand by themselves. -/
def isScalarType (type : String) : Bool := ["string", "integer", "number", "boolean"].contains type

/-- The value to write for a scalar, if there is one. -/
def convert? (options : FormatOptions) (declared value : Json) : Option Json :=
  let converted :=
    if options.fixErrors || (value.isNull && options.emptyFields) then value.repair? declared
    else value.coerce? declared true
  match converted with
  | some v => some v
  | none => if options.emptyFields then some .null else none

/-- The empty container for a required member, if its type is known to be one. -/
def requiredContainer? (c : Context) (generic name : String) : Option Json :=
  match (Dict.get? c.options (Pointer.child generic name)).bind NodeOptions.primaryType? with
  | some "array" => some (.arr [])
  | some "object" => some (.obj [])
  | _ => none

/-- The result with the required containers of an object, where there is nothing yet. -/
def addRequired (c : Context) (generic pointer : String) (names : List String) (result : Json) : Json :=
  names.foldl (fun result name =>
    let target := Pointer.child pointer name
    match requiredContainer? c generic name with
    | some container => if result.has (.text target) then result else result.put target container
    | none => result) result

/-- The result with what is written for a value by the type of its place. -/
def writeTyped (c : Context) (options : FormatOptions) (generic pointer : String) (o : NodeOptions)
    (value result : Json) : Json :=
  let type := o.primaryType?.getD ""
  if type = "null" then result.put pointer .null
  else if (value.hasValue || options.emptyFields) && isScalarType type then
    match convert? options (o.schemaType.getD .null) value with
    | some v => result.put pointer v
    | none => result
  else if type = "object" && !options.emptyFields then addRequired c generic pointer o.required result
  else result

/-- The result with a date and time completed. -/
def writeDateTime (options : FormatOptions) (pointer : String) (o : NodeOptions) (value result : Json) :
    Json :=
  if o.schemaFormat = some "date-time" then
    match value.string?.bind (DateTime.complete? · options.fixErrors) with
    | some text => result.put pointer (.str text)
    | none => result
  else result

/-- The result with what is written for one value. -/
def write (c : Context) (options : FormatOptions) (pointer : String) (value result : Json) : Json :=
  if options.emptyFields && value.isContainer then result.put pointer (Json.emptyContainer value.isArr)
  else
    let generic := knownPointer c pointer
    match (Dict.get? c.options generic).filter fun o => o.schemaType.isSome with
    | none => result
    | some o => writeDateTime options pointer o value (writeTyped c options generic pointer o value result)

/-- Form values with the types of the schema. -/
def format (c : Context) (options : FormatOptions) (data : Json) : Json :=
  if data.isContainer then
    (data.nodes false).foldl (fun result (pointer, value) => write c options pointer value result)
      (Json.emptyContainer data.isArr)
  else data

end FormData

end FormModel
