import FormModel.Proofs.Build.Calls

/-!
Building laid out as a program: what is asked of the context, what is written to it, and which places are built
on the way can be seen one after the other.  Run with any way to build a place, the program for a place does what
building that place does.
-/

namespace FormModel.Builder

-- What is still to be done before there is a result.
inductive Program (α : Type) where
  | done (a : α)
  | look (next : Context → Program α)
  | learn (generic : String) (f : NodeOptions → NodeOptions) (next : Program α)
  | call (site : Site) (next : Option Template → Program α)
  | enter (key schemaPointer templatePointer : String) (next : Program α)

namespace Program

variable {α β : Type}

-- A program and what is to be done with its result.
def bind : Program α → (α → Program β) → Program β
  | done a, f => f a
  | look next, f => look fun c => (next c).bind f
  | learn generic g next, f => learn generic g (next.bind f)
  | call site next, f => call site fun o => (next o).bind f
  | enter key schemaPointer templatePointer next, f => enter key schemaPointer templatePointer (next.bind f)

instance : Monad Program where
  pure := done
  bind := bind

-- The context as it is.
def context : Program Context := look done

-- Notes something about a place.
def note (generic : String) (f : NodeOptions → NodeOptions) : Program Unit := learn generic f (done ())

-- The control for a place.
def control (site : Site) : Program (Option Template) := call site done

-- Builds a control without data into the library, once.
def repeated (key schemaPointer templatePointer : String) : Program Unit :=
  enter key schemaPointer templatePointer (done ())

-- What a program does, given a way to build places.
def run (build : Site → Builder (Option Template)) : Program α → Builder α
  | done a => pure a
  | look next => do (next (← get)).run build
  | learn generic f next => do
    modify (·.learn generic f)
    next.run build
  | call site next => do (next (← build site)).run build
  | enter key schemaPointer templatePointer next => do
    Builder.repeated build key schemaPointer templatePointer
    next.run build

variable {build : Site → Builder (Option Template)}

section Steps

variable {generic key schemaPointer templatePointer : String} {f : NodeOptions → NodeOptions} {site : Site}

theorem run_done {a : α} : (done a).run build = pure a := rfl

theorem run_look {next : Context → Program α} : (look next).run build = get >>= fun c => (next c).run build := rfl

theorem run_learn {next : Program α} :
    (learn generic f next).run build = modify (·.learn generic f) >>= fun _ => next.run build := rfl

theorem run_call {next : Option Template → Program α} :
    (call site next).run build = build site >>= fun o => (next o).run build := rfl

theorem run_enter {next : Program α} : (enter key schemaPointer templatePointer next).run build =
    Builder.repeated build key schemaPointer templatePointer >>= fun _ => next.run build := rfl

end Steps

@[simp]
theorem run_pure {a : α} : (pure a : Program α).run build = pure a := rfl

@[simp]
theorem run_bind {m : Program α} {f : α → Program β} : (m >>= f).run build = m.run build >>= fun a => (f a).run build := by
  show (m.bind f).run build = _
  induction m
  case done a => simp [bind, run_done]
  case look next hi => simp [bind, run_look, hi]
  case learn generic g next hi => simp [bind, run_learn, hi]
  case call site next hi => simp [bind, run_call, hi]
  case enter key schemaPointer templatePointer next hi => simp [bind, run_enter, hi]

@[simp]
theorem run_context : context.run build = get := by simp [context, run_look, run_done]

@[simp]
theorem run_note {generic : String} {f : NodeOptions → NodeOptions} :
    (note generic f).run build = modify (·.learn generic f) := by simp [note, run_learn, run_done]

@[simp]
theorem run_control {site : Site} : (control site).run build = build site := by simp [control, run_call, run_done]

@[simp]
theorem run_repeated {key schemaPointer templatePointer : String} :
    (repeated key schemaPointer templatePointer).run build =
      Builder.repeated build key schemaPointer templatePointer := by simp [repeated, run_enter, run_done]

section Pieces

variable (root : Json) (fillDefaults : Bool)

-- The control for a child whose schema is a reference.
def ofReference (site : Site) : Program (Option Template) := do
  match root.at? site.schemaPointer with
  | none => return none
  | some schema =>
    if ControlKind.ofSchema schema ≠ .reference then return none
    else
      match referredPlace? schema with
      | none => return none
      | some target =>
        if site.data.isNull then
          let c ← context
          return (referenceKey? root c target).bind c.libraryCopy?
        else control { site with schemaPointer := target }

-- The controls of the properties of a group, after those built already.
def ofProperties (node : Dict Json) (site : Site) :
    List String → Dict (Option Template) → Program (Dict (Option Template))
  | [], controls => return controls
  | name :: rest, controls =>
    match propertySite? node site name with
    | none => ofProperties node site rest controls
    | some child => do
      let o ← control child
      let o ← if o.isSome then pure o else ofReference root child
      ofProperties node site rest (controls.insert name o)

-- The control for an object.
def ofGroup (schema : Json) (rules : RuleBag) (generic : String) (site : Site) : Program Template := do
  let node := schemaNode schema
  let controls ← ofProperties root node site (propertyOrder node site.data) []
  match Template.requiredNames? schema with
  | some names => note generic (·.requireNames names)
  | none => pure ()
  return ((Template.group controls rules).requireFields schema).2

-- The control for a place of a list with or without data.
def ofItem (items : List Json) (recursive : Bool) (key : String) (item : Site) (i : Nat) :
    Program (Option Template) := do
  if i < items.length then control item
  else if recursive then return none
  else return (← context).libraryCopy? key

-- The control for a slot of a tuple.
def ofSlot (generic : String) (site : Site) (items : List Json) (minItems i : Nat) : Program (Option Template) := do
  let slot := itemSite site (site.schemaPointer ++ "/items/" ++ toString i) items i
  if i < minItems then control slot
  else
    let own := generic ++ "/" ++ toString i
    let key := (← context).generic own
    repeated key slot.schemaPointer slot.templatePointer
    ofItem items (key != own) key slot i

-- The controls for the slots of a tuple, from `i` on.
def ofSlots (generic : String) (site : Site) (items : List Json) (minItems : Nat) :
    (i count : Nat) → Program (List (Option Template))
  | _, 0 => return []
  | i, count + 1 => do
    let o ← ofSlot generic site items minItems i
    return o :: (← ofSlots generic site items minItems (i + 1) count)

-- The controls for the items of a list, from `i` on.
def ofItems (site : Site) (schemaPointer : String) (items : List Json) (recursive : Bool)
    (key : String) : (i count : Nat) → Program (List (Option Template))
  | _, 0 => return []
  | i, count + 1 => do
    let o ← ofItem items recursive key (itemSite site schemaPointer items i) i
    return o :: (← ofItems site schemaPointer items recursive key (i + 1) count)

-- The controls of a list beyond the slots of a tuple.
def ofFurtherItems (generic : String) (site : Site) (items : List Json) (schemaPointer : String)
    (slots minItems maxItems : Nat) : Program (List (Option Template)) := do
  let c ← context
  let schemaPointer := (Pointer.fold? c.schemaRefs [] schemaPointer).getD schemaPointer
  let own := generic ++ "/-"
  let key := c.generic own
  let recursive := key != own
  repeated key schemaPointer (site.templatePointer ++ "/controls/-")
  let start := if recursive then 0 else minItems - slots
  note generic (·.start start)
  let wanted := if recursive then 0 else slots + start
  let count := min (max items.length wanted) maxItems
  ofItems site schemaPointer items recursive key slots (count - slots)

-- The control for an array.
def ofList (node : Dict Json) (rules : RuleBag) (generic : String) (site : Site) : Program Template := do
  let known := (← context).optionsAt generic
  let minItems := max ((countOf? node "minItems").getD 0) (known.minItems.getD 0)
  let maxItems := min ((countOf? node "maxItems").getD defaultMaxItems) (known.maxItems.getD defaultMaxItems)
  note generic (·.bound minItems maxItems)
  let items := site.data.items?.getD []
  let slots ←
    match node.get? "items" with
    | some (.arr tuple) => do
      let slots := min tuple.length maxItems
      note generic (·.slots slots)
      ofSlots generic site items minItems 0 slots
    | _ => pure []
  let further ←
    match itemsSchema? node site maxItems with
    | some schemaPointer => ofFurtherItems generic site items schemaPointer slots.length minItems maxItems
    | none => pure []
  return .list (slots ++ further) rules

-- The control for a place; a place that repeats an enclosing one has none by itself.
def ofNode (site : Site) : Program (Option Template) := do
  match root.at? site.schemaPointer with
  | none => return none
  | some schema =>
    let node := schemaNode schema
    let data :=
      if site.data.isNull && fillDefaults then (node.get? "default").getD site.data else site.data
    let site := { site with data }
    match ControlKind.ofSchema schema with
    | .reference =>
      match referredPlace? schema with
      | none => return none
      | some target =>
        match referenceKey? root (← context) target with
        | none => return none
        | some key =>
          repeated key target ""
          return none
    | kind =>
      let generic := (← context).generic site.dataPointer
      note generic (·.describe node kind site)
      let rules := RuleBag.ofControl schema
      match kind with
      | .group => return some (← ofGroup root schema rules generic site)
      | .list => return some (← ofList node rules generic site)
      | _ => return some (leafOf rules generic data (← context))

end Pieces

section Run

variable {root schema : Json} {fillDefaults recursive : Bool} {site item : Site} {node : Dict Json} {names : List String}
  {rules : RuleBag} {generic key place : String} {items : List Json}
  {minItems maxItems slots i count : Nat}

theorem run_ofReference : (ofReference root site).run build = Builder.ofReference root build site := by
  unfold ofReference Builder.ofReference
  cases root.at? site.schemaPointer
  case none => rfl
  case some schema =>
    by_cases hk : ControlKind.ofSchema schema = .reference
    case neg => simp [hk]
    case pos =>
      cases ht : referredPlace? schema
      case none => simp [hk, ht]
      case some target =>
        simp only [hk, ht, ne_eq, not_true_eq_false, if_false]
        cases site.data.isNull <;> simp

theorem run_ofProperties {controls : Dict (Option Template)} :
    (ofProperties root node site names controls).run build = Builder.ofProperties root build node site names controls := by
  induction names generalizing controls
  case nil => rfl
  case cons name names hi =>
    unfold ofProperties Builder.ofProperties
    cases propertySite? node site name
    case none => exact hi
    case some child =>
      simp only [run_bind, run_control]
      refine bind_congr fun o => ?_
      cases o.isSome <;> simp [hi, run_ofReference]

theorem run_ofGroup : (ofGroup root schema rules generic site).run build = Builder.ofGroup root build schema rules generic site := by
  unfold ofGroup Builder.ofGroup
  simp only [run_bind, run_ofProperties]
  refine bind_congr fun controls => ?_
  cases Template.requiredNames? schema <;> simp

theorem run_ofItem : (ofItem items recursive key item i).run build = Builder.ofItem build items recursive key item i := by
  unfold ofItem Builder.ofItem
  by_cases hi : i < items.length
  case pos => simp [hi]
  case neg => cases recursive <;> simp [hi]

theorem run_ofSlot : (ofSlot generic site items minItems i).run build = Builder.ofSlot build generic site items minItems i := by
  unfold ofSlot Builder.ofSlot
  by_cases hi : i < minItems <;> simp [hi, run_ofItem]

theorem run_ofSlots :
    (ofSlots generic site items minItems i count).run build = Builder.ofSlots build generic site items minItems i count := by
  induction count generalizing i
  case zero => rfl
  case succ count hi => simp [ofSlots, Builder.ofSlots, run_ofSlot, hi]

theorem run_ofItems :
    (ofItems site place items recursive key i count).run build = Builder.ofItems build site place items recursive key i count := by
  induction count generalizing i
  case zero => rfl
  case succ count hi => simp [ofItems, Builder.ofItems, run_ofItem, hi]

theorem run_ofFurtherItems : (ofFurtherItems generic site items place slots minItems maxItems).run build =
    Builder.ofFurtherItems build generic site items place slots minItems maxItems := by
  simp [ofFurtherItems, Builder.ofFurtherItems, run_ofItems]

theorem run_further {controls : List (Option Template)} : Program.run build (do
      let further ←
        match itemsSchema? node site maxItems with
        | some place => ofFurtherItems generic site items place slots minItems maxItems
        | none => pure []
      return Template.list (controls ++ further) rules) = do
    let further ←
      match itemsSchema? node site maxItems with
      | some place => Builder.ofFurtherItems build generic site items place slots minItems maxItems
      | none => pure []
    return Template.list (controls ++ further) rules := by
  cases itemsSchema? node site maxItems <;> simp [run_ofFurtherItems]

theorem run_ofList : (ofList node rules generic site).run build = Builder.ofList build node rules generic site := by
  unfold ofList Builder.ofList
  simp only [run_bind, run_context, run_note]
  refine bind_congr fun c => bind_congr fun _ => ?_
  rcases node.get? "items" with _ | (_ | _ | _ | _ | tuple | _)
  case some.arr =>
    simp only [run_bind, run_note, run_ofSlots]
    exact bind_congr fun _ => bind_congr fun _ => run_further
  all_goals exact run_further

theorem run_ofNode : (ofNode root fillDefaults site).run build = Builder.ofNode root fillDefaults build site := by
  unfold ofNode Builder.ofNode
  cases root.at? site.schemaPointer
  case none => rfl
  case some schema =>
    cases hk : ControlKind.ofSchema schema
    case reference =>
      simp only [hk]
      cases referredPlace? schema
      case none => rfl
      case some target =>
        simp only [run_bind, run_context]
        refine bind_congr fun c => ?_
        cases referenceKey? root c target <;> simp
    case group => simp [hk, run_ofGroup]
    case list => simp [hk, run_ofList]
    case leaf => simp [hk]

theorem run_within {levels : Nat} :
    (ofNode root fillDefaults site).run (within root fillDefaults levels) = within root fillDefaults (levels + 1) site :=
  run_ofNode

end Run

end Program

end FormModel.Builder
