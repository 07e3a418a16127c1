import FormModel.Context.Reference
import FormModel.Decimal.Binary

/-!
Building the controls of a form from a schema without references, along the data.  The control of a
place is made from the schema there and the data there.  A place that repeats an enclosing one gets a
control of its own only where there is data for it; for the others each repeated structure is built
once, without data, into the library.
-/

namespace FormModel

namespace ControlKind

/-- The type names that a schema node lists. -/
def typeNames (node : Dict Json) : List String :=
  match node.get? "type" with
  | some (.str t) => [t]
  | some (.arr types) => types.filterMap Json.string?
  | _ => []

/-- The kind of the control for a schema. -/
def ofSchema (schema : Json) : ControlKind :=
  match schema with
  | .obj node =>
    let types := typeNames node
    let allows (name : String) : Bool := types.isEmpty || types.contains name
    if (Dict.has node "properties" || Dict.has node "additionalProperties") && allows "object" then group
    else if (Dict.has node "items" || Dict.has node "additionalItems") && allows "array" then list
    else if types.isEmpty && Dict.has node "$ref" then reference
    else leaf
  | _ => leaf

end ControlKind

/-- A place for a control: where its schema stands, the data for it and where that stands, and where the
control is put. -/
structure Site where
  schemaPointer : String
  data : Json
  dataPointer : String
  templatePointer : String

namespace NodeOptions

/-- What a schema node says about its place, added to what is known. -/
def describe (node : Dict Json) (kind : ControlKind) (site : Site) (o : NodeOptions) : NodeOptions :=
  let implied : Option Json :=
    match node.get? "type" with
    | some t => some t
    | none =>
      if node.has "format" then some "string"
      else match kind with
        | .group => some "object"
        | .list => some "array"
        | _ => none
  { o with
    schemaPointer := o.schemaPointer <|> some site.schemaPointer
    schemaType := o.schemaType <|> implied
    schemaFormat := o.schemaFormat <|> (node.get? "format").bind Json.string?
    templatePointer := o.templatePointer <|> some site.templatePointer
    templateType := o.templateType <|> some kind
    disabled := o.disabled || (node.get? "readOnly").any Json.isTrue }

/-- The limits of a list, added to what is known. -/
def bound (minItems maxItems : Nat) (o : NodeOptions) : NodeOptions :=
  { o with minItems := o.minItems <|> some minItems, maxItems := o.maxItems <|> some maxItems }

/-- The required names of a group, added if none are known. -/
def requireNames (names : List String) (o : NodeOptions) : NodeOptions :=
  if o.required.isEmpty then { o with required := names } else o

/-- The number of slots of a tuple, added if it is not known. -/
def slots (n : Nat) (o : NodeOptions) : NodeOptions := { o with tupleItems := o.tupleItems <|> some n }

/-- The number of items a list starts with, added if it is not known. -/
def start (n : Nat) (o : NodeOptions) : NodeOptions := { o with listItems := o.listItems <|> some n }

end NodeOptions

/-- Building, with what is learnt.  Where the levels allowed were not enough, what had been learnt by then
is what remains. -/
abbrev Builder := StateT Context (Except Context)

namespace Builder

/-- The length of a list whose schema sets no other limit. -/
def defaultMaxItems : Nat := 1000

/-- The keywords of a schema; one that is no object has none. -/
def schemaNode (schema : Json) : Dict Json := schema.members?.getD []

/-- A count in the value of a keyword, the part of a number before its point. -/
def countOf? (node : Dict Json) (key : String) : Option Nat :=
  (((node.get? key).bind Json.float?).filter (0 ≤ ·)).map toCount

/-- Whether members beyond the declared ones have controls. -/
def permitsExtra (node : Dict Json) : Bool :=
  match node.get? "additionalProperties" with
  | some (.obj _) => true
  | some (.bool b) => b
  | _ => false

/-- The names of the declared properties. -/
def declaredNames (node : Dict Json) : List String :=
  (((node.get? "properties").bind Json.members?).map Dict.keys).getD []

/-- Names in the order that `ui:order` gives; a star in it stands for the declared names that it leaves
out. -/
def orderedNames (declared : List String) (named : List String) : List String :=
  named.flatMap fun name => if name = "*" then declared.filter fun d => !named.contains d else [name]

/-- The names of the properties in the order of their controls: those declared, and where further members
are permitted those that the data has. -/
def propertyOrder (node : Dict Json) (data : Json) : List String :=
  let names := match (node.get? "ui:order").bind Json.items? with
    | some order => orderedNames (declaredNames node) (order.filterMap Json.string?)
    | none => declaredNames node
  if permitsExtra node then
    ((data.members?.getD []).map (·.1)).foldl
      (fun names name => if names.contains name then names else names ++ [name]) names
  else names

section Build

variable (root : Json) (fillDefaults : Bool) (build : Site → Builder (Option Template))

/-- The generic pointer of the data that a place in the schema describes. -/
def referenceKey? (c : Context) (target : String) : Option String :=
  (Pointer.dataLocation? root target).map c.generic

/-- The place that a schema refers to. -/
def referredPlace? (schema : Json) : Option String :=
  ((schema.member? "$ref").bind Json.string?).bind Reference.target?

/-- Builds a control without data into the library, once. -/
def repeated (key schemaPointer templatePointer : String) : Builder Unit := do
  if Dict.has (← get).library key then return
  modify (·.setEntry key .building)
  match ← build ⟨schemaPointer, .null, key, templatePointer⟩ with
  | some t => modify (·.setEntry key (.ready t))
  | none => modify (·.dropEntry key)

/-- The control for a child whose schema is a reference: built from the schema referred to if there is
data, else taken from the library. -/
def ofReference (site : Site) : Builder (Option Template) := do
  match root.at? site.schemaPointer with
  | none => return none
  | some schema =>
    if ControlKind.ofSchema schema ≠ .reference then return none
    else
      match referredPlace? schema with
      | none => return none
      | some target =>
        if site.data.isNull then
          let c ← get
          return (referenceKey? root c target).bind c.libraryCopy?
        else build { site with schemaPointer := target }

/-- The place of a property of a group, unless the name is neither declared nor permitted. -/
def propertySite? (node : Dict Json) (site : Site) (name : String) : Option Site :=
  let schemaPointer? :=
    if (declaredNames node).contains name then
      some (site.schemaPointer ++ "/properties/" ++ Pointer.escape name)
    else if permitsExtra node then some (site.schemaPointer ++ "/additionalProperties")
    else none
  schemaPointer?.map fun schemaPointer =>
    { schemaPointer
      data := (site.data.member? name).getD .null
      dataPointer := Pointer.child site.dataPointer name
      templatePointer := Pointer.child (site.templatePointer ++ "/controls") name }

/-- The controls of the properties of a group, after those built already. -/
def ofProperties (node : Dict Json) (site : Site) :
    List String → Dict (Option Template) → Builder (Dict (Option Template))
  | [], controls => return controls
  | name :: rest, controls =>
    match propertySite? node site name with
    | none => ofProperties node site rest controls
    | some child => do
      let control ← build child
      let control ← if control.isSome then pure control else ofReference root build child
      ofProperties node site rest (controls.insert name control)

/-- The control for an object. -/
def ofGroup (schema : Json) (rules : RuleBag) (generic : String) (site : Site) : Builder Template := do
  let node := schemaNode schema
  let controls ← ofProperties root build node site (propertyOrder node site.data) []
  match Template.requiredNames? schema with
  | some names => modify (·.learn generic (·.requireNames names))
  | none => pure ()
  return ((Template.group controls rules).requireFields schema).2

/-- The place of an item of a list. -/
def itemSite (site : Site) (schemaPointer : String) (items : List Json) (i : Nat) : Site where
  schemaPointer := schemaPointer
  data := items.getD i .null
  dataPointer := site.dataPointer ++ "/" ++ toString i
  templatePointer := site.templatePointer ++ "/controls/" ++ toString i

/-- The control for a place of a list with or without data: without, it is taken from the library,
unless the place repeats an enclosing one. -/
def ofItem (items : List Json) (recursive : Bool) (key : String) (item : Site) (i : Nat) :
    Builder (Option Template) := do
  if i < items.length then build item
  else if recursive then return none
  else return (← get).libraryCopy? key

/-- The control for a slot of a tuple. -/
def ofSlot (generic : String) (site : Site) (items : List Json) (minItems i : Nat) :
    Builder (Option Template) := do
  let slot := itemSite site (site.schemaPointer ++ "/items/" ++ toString i) items i
  if i < minItems then build slot
  else
    let own := generic ++ "/" ++ toString i
    let key := (← get).generic own
    repeated build key slot.schemaPointer slot.templatePointer
    ofItem build items (key != own) key slot i

/-- The controls for the slots of a tuple, from `i` on. -/
def ofSlots (generic : String) (site : Site) (items : List Json) (minItems : Nat) :
    (i count : Nat) → Builder (List (Option Template))
  | _, 0 => return []
  | i, count + 1 => do
    let control ← ofSlot build generic site items minItems i
    return control :: (← ofSlots generic site items minItems (i + 1) count)

/-- The controls for the items of a list, from `i` on. -/
def ofItems (site : Site) (schemaPointer : String) (items : List Json) (recursive : Bool)
    (key : String) : (i count : Nat) → Builder (List (Option Template))
  | _, 0 => return []
  | i, count + 1 => do
    let control ← ofItem build items recursive key (itemSite site schemaPointer items i) i
    return control :: (← ofItems site schemaPointer items recursive key (i + 1) count)

/-- The place of the schema for all items of a list beyond the slots of a tuple. -/
def itemsSchema? (node : Dict Json) (site : Site) (maxItems : Nat) : Option String :=
  match node.get? "items" with
  | some (.arr slots) =>
    if slots.length < maxItems && (node.get? "additionalItems").any Json.isObj then
      some (site.schemaPointer ++ "/additionalItems")
    else none
  | some (.obj _) => some (site.schemaPointer ++ "/items")
  | _ => none

/-- The controls of a list beyond the slots of a tuple. -/
def ofFurtherItems (generic : String) (site : Site) (items : List Json) (schemaPointer : String)
    (slots minItems maxItems : Nat) : Builder (List (Option Template)) := do
  let c ← get
  let schemaPointer := (Pointer.fold? c.schemaRefs [] schemaPointer).getD schemaPointer
  let own := generic ++ "/-"
  let key := c.generic own
  let recursive := key != own
  repeated build key schemaPointer (site.templatePointer ++ "/controls/-")
  let start := if recursive then 0 else minItems - slots
  modify (·.learn generic (·.start start))
  let wanted := if recursive then 0 else slots + start
  let count := min (max items.length wanted) maxItems
  ofItems build site schemaPointer items recursive key slots (count - slots)

/-- The control for an array. -/
def ofList (node : Dict Json) (rules : RuleBag) (generic : String) (site : Site) : Builder Template := do
  let known := (← get).optionsAt generic
  let minItems := max ((countOf? node "minItems").getD 0) (known.minItems.getD 0)
  let maxItems := min ((countOf? node "maxItems").getD defaultMaxItems) (known.maxItems.getD defaultMaxItems)
  modify (·.learn generic (·.bound minItems maxItems))
  let items := site.data.items?.getD []
  let slots ←
    match node.get? "items" with
    | some (.arr tuple) => do
      let slots := min tuple.length maxItems
      modify (·.learn generic (·.slots slots))
      ofSlots build generic site items minItems 0 slots
    | _ => pure []
  let further ←
    match itemsSchema? node site maxItems with
    | some schemaPointer =>
      ofFurtherItems build generic site items schemaPointer slots.length minItems maxItems
    | none => pure []
  return .list (slots ++ further) rules

/-- The control for a value that is neither object nor array. -/
def leafOf (rules : RuleBag) (generic : String) (data : Json) (c : Context) : Template :=
  .leaf (if data.isContainer then .null else data) (c.optionsAt generic).disabled rules

/-- The control for a place; a place that repeats an enclosing one has none by itself. -/
def ofNode (site : Site) : Builder (Option Template) := do
  match root.at? site.schemaPointer with
  | none => return none
  | some schema =>
    let node := schemaNode schema
    let data :=
      if site.data.isNull && fillDefaults then (node.get? "default").getD site.data else site.data
    let site := { site with data }
    match ControlKind.ofSchema schema with
    | .reference =>
      match referredPlace? schema with
      | none => return none
      | some target =>
        match referenceKey? root (← get) target with
        | none => return none
        | some key =>
          repeated build key target ""
          return none
    | kind =>
      let generic := (← get).generic site.dataPointer
      modify (·.learn generic (·.describe node kind site))
      let rules := RuleBag.ofControl schema
      match kind with
      | .group => return some (← ofGroup root build schema rules generic site)
      | .list => return some (← ofList build node rules generic site)
      | _ => return some (leafOf rules generic data (← get))

end Build

/-- The control for a place, if controls are not nested deeper than `levels`. -/
def within (root : Json) (fillDefaults : Bool) : (levels : Nat) → Site → Builder (Option Template)
  | 0, _ => fun c => .error c
  | levels + 1, site => ofNode root fillDefaults (within root fillDefaults levels) site

/-- A generous number of levels: along every way down, a structure is entered again only with a part of
the data or for a new entry of the library. -/
def enoughLevels (c : Context) (schema data : Json) : Nat :=
  (schema.size + c.dataRefs.length + 2) * (schema.size + 2) * (data.size + 2)

end Builder

/-- The controls for a schema without references and for data, and what has been learnt, if controls are
not nested deeper than `levels`. -/
def Context.buildWithin (c : Context) (fillDefaults : Bool) (schema data : Json) (levels : Nat) :
    Except Context (Option Template × Context) :=
  (Builder.within schema fillDefaults levels ⟨"", data, "", ""⟩).run c

/-- The controls for a schema without references and for data, and what has been learnt; `none` if they
have no end. -/
def Context.build? (c : Context) (fillDefaults : Bool) (schema data : Json) :
    Option (Option Template × Context) :=
  (c.buildWithin fillDefaults schema data (Builder.enoughLevels c schema data)).toOption

/-- The controls for a schema and data with all that has been learnt. -/
structure Compilation where
  template : Option Template
  /-- The schema without references. -/
  schema : Json
  context : Context

/-- The controls for a schema and data; `none` if they have no end.  With `fillDefaults` a value that is
missing is taken from `default`. -/
def compile? (schema data : Json) (fillDefaults : Bool) : Option Compilation := do
  let (compiled, c) ← Context.empty.resolve? schema
  let (template, context) ← c.build? fillDefaults compiled data
  return ⟨template, compiled, context⟩

end FormModel
