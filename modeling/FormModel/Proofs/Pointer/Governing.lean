import FormModel.Pointer.SchemaLocation
import FormModel.Proofs.Json.Parts
import FormModel.Proofs.Pointer.Canonical
import FormModel.Proofs.Pointer.Path

/-!
The places of data and the parts of a schema that govern them.  A walk along data takes one branch of the schema at each
token, and the location it comes to is that of these branches; so walking back gives the tokens, with a dash for the items
that one branch governs together.  Walking back and forth is another matter: a dash is read as the first position, so it
leads back to the branch for further items only if no other branch of the node governs the first item.
-/

namespace FormModel

namespace Pointer

theorem lt_of_index? {token : String} {i : Nat} (h : index? token = some i) : i < 2 ^ 64 := by
  simp only [index?] at h
  repeat' split at h
  case isFalse.isFalse.isTrue hlt => simpa [← Option.some.inj h] using hlt
  all_goals contradiction

/-- A part of a schema node that governs values inside the data. -/
inductive Branch where
  | property (name : String)
  | undeclared
  | slot (i : Nat)
  | item
  | further
  deriving DecidableEq

namespace Branch

/-- The way from a node to the sub-schema of a branch. -/
def path : Branch → Path
  | property name => [.member "properties", .member name]
  | undeclared => [.member "additionalProperties"]
  | slot i => [.member "items", .item i]
  | item => [.member "items"]
  | further => [.member "additionalItems"]

/-- The token that stands for a branch in the data, where one does. -/
def dataToken? : Branch → Option String
  | property name => some name
  | undeclared => none
  | slot i => some (toString i)
  | item | further => some "-"

-- Whether a branch is for the value under a token.
def Governs : Branch → String → Prop
  | property name, key => name = key
  | undeclared, _ => True
  | slot i, key => index? key = some i ∨ i = 0 ∧ (key = "-" ∨ key = "")
  | item, key | further, key => (index? key).isSome ∨ key = "-" ∨ key = ""

end Branch

-- One step of the walk along data.
structure Step (schema : Json) (key : String) (branch : Branch) (sub : Json) : Prop where
  step : schemaStep schema key = some (ofPath branch.path, sub)
  follow : schema.follow? branch.path = some sub
  governs : branch.Governs key
  single : branch = .item → sub.isArr = false

-- The walk along data, with the branch that is taken at each token.
inductive Walk : Json → Tokens → List Branch → Prop
  | done {schema} : Walk schema [] []
  | step {schema key branch sub tokens branches} (h : Step schema key branch sub) (rest : Walk sub tokens branches) :
    Walk schema (key :: tokens) (branch :: branches)

section Walks

variable {schema sub : Json} {node : Dict Json} {branch : Branch} {branches : List Branch} {tokens rest : Tokens}
  {key segment s : String}

theorem ofPath_property {name : String} : ofPath (Branch.property name).path = "/properties/" ++ escape name := by
  rw [ofPath, Branch.path, List.map_cons, List.map_singleton, Slot.token, Slot.token, ← List.singleton_append,
    compile_append, compile_singleton, compile_singleton]
  rfl

theorem ofPath_slot {i : Nat} : ofPath (Branch.slot i).path = "/items/" ++ toString i := by
  rw [ofPath, Branch.path, List.map_cons, List.map_singleton, Slot.token, Slot.token, ← List.singleton_append,
    compile_append, compile_singleton, compile_singleton, escape_toString]
  rfl

theorem exists_branch_of_memberStep (h : memberStep node key = some (segment, sub)) :
    ∃ branch : Branch, segment = ofPath branch.path ∧ (Json.obj node).follow? branch.path = some sub ∧
      branch.Governs key ∧ branch ≠ .item := by
  rw [memberStep] at h
  split at h
  case isFalse => contradiction
  case isTrue =>
    split at h
    case h_1 sub hs =>
      cases h
      refine ⟨.property key, ofPath_property.symm, ?_, rfl, by simp⟩
      simpa [Branch.path, Json.atSlot?, Json.member?_eq_atSlot?] using hs
    case h_2 =>
      split at h
      case h_2 => contradiction
      case h_1 sub hs =>
        split at h
        case isFalse => contradiction
        case isTrue =>
          cases h
          exact ⟨.undeclared, rfl, by simp [Branch.path, Json.atSlot?, hs], trivial, by simp⟩

theorem governs_of_isIndex (h : (key == "-" || key.isEmpty || (index? key).isSome) = true) :
    Branch.Governs .item key ∧ Branch.Governs .further key ∧ Branch.Governs (.slot ((index? key).getD 0)) key := by
  simp only [Bool.or_eq_true, beq_iff_eq, String.isEmpty_iff] at h
  have hi : (index? key).isSome ∨ key = "-" ∨ key = "" := by tauto
  refine ⟨hi, hi, ?_⟩
  cases hk : index? key
  case some => exact .inl hk
  case none => exact .inr ⟨rfl, hi.resolve_left (by simp [hk])⟩

theorem exists_branch_of_itemStep (h : itemStep node key = some (segment, sub)) :
    ∃ branch : Branch, segment = ofPath branch.path ∧ (Json.obj node).follow? branch.path = some sub ∧
      branch.Governs key ∧ (branch = .item → sub.isArr = false) := by
  rw [itemStep] at h
  dsimp only at h
  split at h
  case isFalse => contradiction
  case isTrue hk =>
    obtain ⟨hitem, hfurther, hslot⟩ := governs_of_isIndex (Bool.and_eq_true_iff.mp hk).2
    have hadditional {f : Json → Bool} (hf : ((((Dict.get? node "additionalItems").filter isOpenSchema).filter f).map
        fun sub => ("/additionalItems", sub)) = some (segment, sub)) :
        segment = ofPath Branch.further.path ∧ (Json.obj node).follow? Branch.further.path = some sub := by
      simp only [Option.map_eq_some_iff, Option.filter_eq_some_iff, Prod.mk.injEq] at hf
      obtain ⟨_, ⟨⟨hg, -⟩, -⟩, rfl, rfl⟩ := hf
      exact ⟨rfl, by simp [Branch.path, Json.atSlot?, hg]⟩
    split at h
    case h_1 items hg =>
      split at h
      case h_1 sub hs =>
        cases h
        exact ⟨.slot _, ofPath_slot.symm, by simp [Branch.path, Json.atSlot?, hg, hs], hslot, by simp⟩
      case h_2 =>
        obtain ⟨hs, hf⟩ := hadditional (f := fun _ => true) (by simpa using h)
        exact ⟨.further, hs, hf, hfurther, by simp⟩
    case h_2 members hg =>
      cases h
      exact ⟨.item, rfl, by simp [Branch.path, Json.atSlot?, hg], hitem, fun _ => rfl⟩
    case h_3 =>
      obtain ⟨hs, hf⟩ := hadditional h
      exact ⟨.further, hs, hf, hfurther, by simp⟩

theorem exists_step (h : schemaStep schema key = some (segment, sub)) :
    ∃ branch, segment = ofPath branch.path ∧ Step schema key branch sub := by
  have hstep := h
  unfold schemaStep at h
  split at h
  case h_2 => contradiction
  case h_1 node =>
    split at h
    case h_1 hm =>
      cases h
      have ⟨branch, hs, hf, hg, hi⟩ := exists_branch_of_memberStep hm
      exact ⟨branch, hs, hs ▸ hstep, hf, hg, fun he => absurd he hi⟩
    case h_2 =>
      have ⟨branch, hs, hf, hg, hi⟩ := exists_branch_of_itemStep h
      exact ⟨branch, hs, hs ▸ hstep, hf, hg, hi⟩

theorem Step.bounded (h : Step schema key branch sub) : ∀ slot ∈ branch.path, slot.Bounded := by
  cases branch
  case slot i =>
    have hi : i < 2 ^ 64 := h.governs.elim lt_of_index? fun hz => by omega
    simpa [Branch.path, Slot.Bounded] using hi
  all_goals simp [Branch.path, Slot.Bounded]

/-- The location in a schema that branches lead to. -/
def location (branches : List Branch) : String := ofPath (branches.flatMap Branch.path)

theorem location_cons : location (branch :: branches) = ofPath branch.path ++ location branches := by
  rw [location, location, List.flatMap_cons, ofPath, List.map_append, compile_append, ofPath, ofPath]

theorem exists_walk (h : schemaLocation? schema tokens = some s) :
    ∃ branches, s = location branches ∧ Walk schema tokens branches := by
  induction tokens generalizing schema s
  case nil => exact ⟨[], (Option.some.inj h).symm, .done⟩
  case cons key tokens hi =>
    rw [schemaLocation?] at h
    split at h
    case h_1 => contradiction
    case h_2 segment sub hstep =>
      have ⟨s', hs', he⟩ := Option.map_eq_some_iff.mp h
      have ⟨branch, hb, hstep⟩ := exists_step hstep
      have ⟨branches, hs', hw⟩ := hi hs'
      exact ⟨branch :: branches, by rw [location_cons, ← hb, ← hs', he], .step hstep hw⟩

theorem Walk.follow (h : Walk schema tokens branches) :
    (∃ sub, schema.follow? (branches.flatMap Branch.path) = some sub) ∧
      ∀ slot ∈ branches.flatMap Branch.path, slot.Bounded := by
  induction h
  case done => exact ⟨⟨_, rfl⟩, by simp⟩
  case step h _ hi =>
    obtain ⟨⟨sub, hs⟩, hb⟩ := hi
    refine ⟨⟨sub, by rw [List.flatMap_cons, Json.follow?_append, h.follow, Option.bind_some, hs]⟩, ?_⟩
    simpa only [List.flatMap_cons, List.forall_mem_append] using And.intro h.bounded hb

-- A location never is a single slash.
theorem tokens_location_ne : (branches.flatMap Branch.path).map Slot.token ≠ [""] := by
  cases branches
  case nil => simp
  case cons branch branches => cases branch <;> simp [Branch.path, Slot.token]

theorem parse?_location : parse? (location branches) = some ((branches.flatMap Branch.path).map Slot.token) :=
  parse?_compile tokens_location_ne

theorem Walk.at?_location (h : Walk schema tokens branches) : (schema.at? (location branches)).isSome := by
  have ⟨⟨sub, hs⟩, hb⟩ := h.follow
  rw [location, ofPath, Json.at?_compile tokens_location_ne, Json.getTokens?_path_of_bounded hb hs]
  rfl

section Back

variable {schema sub : Json} {branch : Branch} {name : String} {i : Nat} {rest : Tokens}

theorem bind_cons_eq_map {tokens? : Option Tokens} {token : String} :
    (do return token :: (← tokens?)) = tokens?.map (token :: ·) := by
  cases tokens? <;> rfl

theorem dataTokens?_properties : dataTokens? schema ("properties" :: name :: rest) =
    (schema.member? "properties").bind fun members => (members.member? name).bind fun sub =>
      (do return name :: (← dataTokens? sub rest)) := rfl

theorem dataTokens?_items {token : String} {items : List Json} (h : schema.member? "items" = some (.arr items)) :
    dataTokens? schema ("items" :: token :: rest) =
      (itemAt? (.arr items) token).bind fun p => (do return toString p.1 :: (← dataTokens? p.2 rest)) := by
  rw [dataTokens?, h]
  rfl

theorem dataTokens?_property (h : (schema.member? "properties").bind (·.member? name) = some sub) :
    dataTokens? schema ("properties" :: name :: rest) = (dataTokens? sub rest).map (name :: ·) := by
  have ⟨_, hp, hn⟩ := Option.bind_eq_some_iff.mp h
  rw [dataTokens?_properties, hp, Option.bind_some, hn, Option.bind_some]
  exact bind_cons_eq_map

theorem dataTokens?_undeclared : dataTokens? schema ("additionalProperties" :: rest) = none := by
  rw [dataTokens?.eq_def]
  simp

theorem dataTokens?_slot {items : List Json} (h : schema.member? "items" = some (.arr items)) (hs : items[i]? = some sub)
    (hi : i < 2 ^ 64) : dataTokens? schema ("items" :: toString i :: rest) = (dataTokens? sub rest).map (toString i :: ·) := by
  have hat : itemAt? (.arr items) (toString i) = some (i, sub) := by
    simp only [itemAt?, index?_toString hi, Json.items?, hs, Option.bind_eq_bind, Option.bind_some, Option.pure_def]
  rw [dataTokens?_items h, hat, Option.bind_some]
  exact bind_cons_eq_map

theorem dataTokens?_item (h : schema.member? "items" = some sub) (hs : sub.isArr = false) :
    dataTokens? schema ("items" :: rest) = (dataTokens? sub rest).map ("-" :: ·) := by
  rw [dataTokens?, h]
  cases sub
  case arr => contradiction
  all_goals exact bind_cons_eq_map

theorem dataTokens?_further (h : schema.member? "additionalItems" = some sub) :
    dataTokens? schema ("additionalItems" :: rest) = (dataTokens? sub rest).map ("-" :: ·) := by
  change Option.bind _ _ = _
  rw [h]
  exact bind_cons_eq_map

theorem dataTokens?_path_append (hs : schema.follow? branch.path = some sub) (hb : ∀ slot ∈ branch.path, slot.Bounded)
    (hi : branch = .item → sub.isArr = false) : dataTokens? schema (branch.path.map Slot.token ++ rest) =
      branch.dataToken?.bind fun token => (dataTokens? sub rest).map (token :: ·) := by
  cases branch <;>
    simp only [Branch.path, Json.follow?_cons, Json.follow?_nil, ← Json.member?_eq_atSlot?, Option.bind_fun_some] at hs
  case property name => exact dataTokens?_property hs
  case undeclared => exact dataTokens?_undeclared
  case slot i =>
    obtain ⟨items, hg, hs⟩ := Option.bind_eq_some_iff.mp hs
    cases items
    case arr items => exact dataTokens?_slot hg hs (hb (.item i) (by simp [Branch.path]))
    all_goals contradiction
  case item => exact dataTokens?_item hs (hi rfl)
  case further => exact dataTokens?_further hs

end Back

-- A branch that is not for undeclared members stands for the token it governs, or for all positions at once.
theorem dataToken?_of_governs (hg : branch.Governs key) (hu : branch ≠ .undeclared) (hd : key ≠ "-") (he : key ≠ "") :
    branch.dataToken? = some key ∨
      branch.dataToken? = some "-" ∧ (index? key).isSome ∧ (branch = .item ∨ branch = .further) := by
  cases branch
  case property name => exact .inl (congrArg some hg)
  case undeclared => contradiction
  case slot i =>
    have hi : index? key = some i := hg.resolve_right (by simp [hd, he])
    exact .inl (congrArg some (toString_of_index? hi))
  case item => exact .inr ⟨rfl, hg.resolve_right (by simp [hd, he]), .inl rfl⟩
  case further => exact .inr ⟨rfl, hg.resolve_right (by simp [hd, he]), .inr rfl⟩

theorem Walk.back (h : Walk schema tokens branches) (hu : .undeclared ∉ branches) (hd : "-" ∉ tokens) (he : "" ∉ tokens) :
    ∃ tokens', dataTokens? schema ((branches.flatMap Branch.path).map Slot.token) = some tokens' ∧
      tokens'.length = tokens.length ∧ ∀ (i : Nat) (token : String), tokens[i]? = some token → tokens'[i]? = some token ∨
        tokens'[i]? = some "-" ∧ (index? token).isSome ∧ (branches[i]? = some .item ∨ branches[i]? = some .further) := by
  induction h
  case done => exact ⟨[], rfl, rfl, by simp⟩
  case step schema key branch sub tokens branches h _ hi =>
    simp only [List.mem_cons, not_or] at hu hd he
    have ⟨tokens', ht, hlength, hat⟩ := hi hu.2 hd.2 he.2
    have hkey := dataToken?_of_governs h.governs (Ne.symm hu.1) (Ne.symm hd.1) (Ne.symm he.1)
    obtain ⟨token', htoken⟩ : ∃ token', branch.dataToken? = some token' := hkey.elim (⟨_, ·⟩) (⟨_, ·.1⟩)
    refine ⟨token' :: tokens', ?_, congrArg (· + 1) hlength, fun i token hi => ?_⟩
    case refine_1 =>
      rw [List.flatMap_cons, List.map_append, dataTokens?_path_append h.follow h.bounded h.single, htoken, ht]
      rfl
    case refine_2 =>
      cases i
      case zero => simpa [htoken, ← Option.some.inj hi] using hkey
      case succ i => simpa using hat i token hi

/-- Where the walk along data comes to a location, the location leads to a part of the schema.  The location consists of
the branches that have been taken; with none for undeclared members among them, the walk back gives the tokens of the data,
with dashes for positions of items that are governed by one schema for all of them or for all further ones. -/
theorem schema_location_and_back {schema : Json} {d : Address} {tokens : Tokens} {s : String}
    (hp : d.parse? = some tokens) (hd : "-" ∉ tokens) (he : "" ∉ tokens) (hs : d.toSchemaPointer? schema = some s) :
    (schema.at? s).isSome ∧ ∃ branches, Walk schema tokens branches ∧ s = location branches ∧
      (.undeclared ∉ branches → ∃ d' tokens', (Address.text s).toDataPointer? schema = some d' ∧
        parse? d' = some tokens' ∧ tokens'.length = tokens.length ∧
        ∀ (i : Nat) (token : String), tokens[i]? = some token → tokens'[i]? = some token ∨
          tokens'[i]? = some "-" ∧ (index? token).isSome ∧
            (branches[i]? = some .item ∨ branches[i]? = some .further)) := by
  rw [Address.toSchemaPointer?, hp, Option.bind_some] at hs
  have ⟨branches, hs, hw⟩ := exists_walk hs
  refine ⟨hs ▸ hw.at?_location, branches, hw, hs, fun hu => ?_⟩
  have ⟨tokens', ht, hlength, hat⟩ := hw.back hu hd he
  refine ⟨compile tokens', tokens', ?_, parse?_compile ?_, hlength, hat⟩
  case refine_1 =>
    have hparse : (Address.text s).parse? = _ := hs ▸ parse?_location
    rw [Address.toDataPointer?, hparse, Option.bind_some, ht, Option.map_some]
  case refine_2 =>
    -- The only token would be one of the data, or a dash.
    rintro rfl
    obtain ⟨token, rfl⟩ := List.length_eq_one_iff.mp hlength.symm
    rcases hat 0 token rfl with h | ⟨h, -⟩
    · exact he (by simp_all)
    · simp at h

end Walks

-- A list and an object that share the schemas under which the walks are tried.
def listedSchema : Json := .obj [("type", "object"), ("properties", .obj [
  ("list", .obj [("type", "array"), ("items", .obj [("type", "object"), ("properties", .obj [("x", .obj [])])])])])]

theorem schema_location_and_back_listed :
    (Address.text "/list/3/x").parse? = some ["list", "3", "x"] ∧
      (Address.text "/list/3/x").toSchemaPointer? listedSchema = some "/properties/list/items/properties/x" ∧
      (listedSchema.at? "/properties/list/items/properties/x").isSome :=
  have hp : (Address.text "/list/3/x").parse? = some ["list", "3", "x"] := by rfl
  have hs : (Address.text "/list/3/x").toSchemaPointer? listedSchema = some "/properties/list/items/properties/x" := by rfl
  ⟨hp, hs, (schema_location_and_back hp (by decide) (by decide) hs).1⟩

section Forth

/-- Whether a node is about objects. -/
def hasObjectKeyword (node : Dict Json) : Bool :=
  declaresType node "object" || node.has "properties" || node.has "additionalProperties"

/-- Whether a node is about arrays. -/
def hasArrayKeyword (node : Dict Json) : Bool :=
  declaresType node "array" || node.has "items" || node.has "additionalItems"

/-- The type of the values that a branch is for. -/
def Branch.type : Branch → String
  | property _ | undeclared => "object"
  | slot _ | item | further => "array"

/-- Branches that lead through objects, none of them both about objects and about arrays, each of which declares the type
that the branch is for. -/
inductive Leads : Json → List Branch → Prop
  | done {schema} : Leads schema []
  | step {node inner branch branches} (hb : branch ≠ .undeclared) (ht : declaresType node branch.type = true)
    (hm : (hasObjectKeyword node && hasArrayKeyword node) = false)
    (hs : (Json.obj node).follow? branch.path = some (.obj inner)) (hl : Leads (.obj inner) branches) :
    Leads (.obj node) (branch :: branches)

/-- Whether a branch of a schema other than the one for further items is for the first item. -/
def HasFirst (schema : Json) : Prop :=
  ∃ items, schema.member? "items" = some items ∧ (items.isObj = true ∨ ∃ first rest, items = .arr (first :: rest))

/-- Whether further items are gone to only where no other branch is for the first one. -/
def Unpreceded : Json → List Branch → Prop
  | _, [] => True
  | schema, branch :: rest => (branch = .further → ¬HasFirst schema) ∧
    ∀ sub, schema.follow? branch.path = some sub → Unpreceded sub rest

variable {node inner : Dict Json} {branch : Branch} {branches : List Branch} {tokens : Tokens} {schema : Json}
  {name token d : String} {i : Nat}

theorem schemaStep_property (ht : declaresType node "object" = true)
    (hs : (Json.obj node).follow? (Branch.property name).path = some (.obj inner)) :
    schemaStep (.obj node) name = some (ofPath (Branch.property name).path, .obj inner) := by
  have hg : (node.get? "properties").bind (·.member? name) = some (.obj inner) := by
    simpa [Branch.path, Json.atSlot?, Json.member?_eq_atSlot?] using hs
  rw [ofPath_property, schemaStep, memberStep, ht, Bool.true_or, Bool.true_or, if_pos rfl, hg]

-- At a node that is about arrays, no token is taken for a name.
theorem schemaStep_of_array (ht : declaresType node "array" = true)
    (hm : (hasObjectKeyword node && hasArrayKeyword node) = false) : schemaStep (.obj node) token = itemStep node token := by
  have ho : hasObjectKeyword node = false := by simpa [hasArrayKeyword, ht] using hm
  rw [hasObjectKeyword] at ho
  rw [schemaStep, memberStep, ho]
  rfl

-- The branch that an item is governed by at a node that is about arrays.
theorem itemStep_eq (ht : declaresType node "array" = true)
    (hk : (token == "-" || token.isEmpty || (index? token).isSome) = true) :
    itemStep node token =
      match node.get? "items" with
      | some (.arr items) =>
        match items[(index? token).getD 0]? with
        | some sub => some ("/items/" ++ toString ((index? token).getD 0), sub)
        | none => ((node.get? "additionalItems").filter isOpenSchema).map fun sub => ("/additionalItems", sub)
      | some (.obj members) => some ("/items", .obj members)
      | _ => (((node.get? "additionalItems").filter isOpenSchema).filter Json.isObj).map
          fun sub => ("/additionalItems", sub) := by
  rw [itemStep, ht, hk]
  rfl

theorem itemStep_slot (ht : declaresType node "array" = true) (hi : i < 2 ^ 64)
    (hs : (Json.obj node).follow? (Branch.slot i).path = some (.obj inner)) :
    itemStep node (toString i) = some (ofPath (Branch.slot i).path, .obj inner) := by
  obtain ⟨j, hg, hs⟩ := Option.bind_eq_some_iff.mp hs
  replace hg : node.get? "items" = some j := hg
  have hk : (toString i == "-" || (toString i).isEmpty || (index? (toString i)).isSome) = true := by
    rw [index?_toString hi, Option.isSome_some, Bool.or_true]
  cases j
  case arr items =>
    have hs : items[i]? = some (Json.obj inner) := by simpa [Json.atSlot?] using hs
    rw [itemStep_eq ht hk, hg, index?_toString hi]
    simp only [Option.getD_some, hs, ofPath_slot]
  all_goals contradiction

theorem itemStep_item (ht : declaresType node "array" = true)
    (hs : (Json.obj node).follow? Branch.item.path = some (.obj inner)) :
    itemStep node "-" = some (ofPath Branch.item.path, .obj inner) := by
  have hg : node.get? "items" = some (.obj inner) := by simpa [Branch.path, Json.atSlot?] using hs
  rw [itemStep_eq ht rfl, hg]
  rfl

theorem itemStep_further (ht : declaresType node "array" = true) (hf : ¬HasFirst (.obj node))
    (hs : (Json.obj node).follow? Branch.further.path = some (.obj inner)) :
    itemStep node "-" = some (ofPath Branch.further.path, .obj inner) := by
  have hg : node.get? "additionalItems" = some (.obj inner) := by simpa [Branch.path, Json.atSlot?] using hs
  rw [itemStep_eq ht rfl, hg]
  split
  case h_1 items hi =>
    cases items
    case nil => rfl
    case cons first rest => exact absurd ⟨_, hi, .inr ⟨first, rest, rfl⟩⟩ hf
  case h_2 hi => exact absurd ⟨_, hi, .inl rfl⟩ hf
  case h_3 => rfl

theorem itemStep_first (ht : declaresType node "array" = true) (hf : HasFirst (.obj node)) :
    ∃ (branch : Branch) (sub : Json), itemStep node "-" = some (ofPath branch.path, sub) ∧ (branch = .item ∨ branch = .slot 0) := by
  obtain ⟨items, hg, hi⟩ := hf
  have hg : node.get? "items" = some items := hg
  rw [itemStep_eq ht rfl, hg]
  rcases hi with hi | ⟨first, rest, rfl⟩
  case inl => cases items <;> first | contradiction | exact ⟨.item, _, rfl, .inl rfl⟩
  case inr => exact ⟨.slot 0, first, rfl, .inr rfl⟩

theorem schemaStep_of_leads (ht : declaresType node branch.type = true)
    (hm : (hasObjectKeyword node && hasArrayKeyword node) = false)
    (hs : (Json.obj node).follow? branch.path = some (.obj inner)) (hd : branch.dataToken? = some token)
    (hk : ∀ slot ∈ branch.path, slot.Bounded) (hf : branch = .further → ¬HasFirst (.obj node)) :
    schemaStep (.obj node) token = some (ofPath branch.path, .obj inner) := by
  cases branch <;> cases hd
  case property => exact schemaStep_property ht hs
  case slot i => exact schemaStep_of_array ht hm ▸ itemStep_slot ht (hk (.item i) (by simp [Branch.path])) hs
  case item => exact schemaStep_of_array ht hm ▸ itemStep_item ht hs
  case further => exact schemaStep_of_array ht hm ▸ itemStep_further ht (hf rfl) hs

theorem location_further_ne {s : String} (h : branch = .item ∨ branch = .slot 0) :
    ofPath branch.path ++ s ≠ location (.further :: branches) := by
  intro he
  have he := congrArg String.toList he
  rw [location_cons] at he
  rcases h with rfl | rfl <;> simp [ofPath, Branch.path, Slot.token, compile_eq_ofList, bodyOf, escapeChars, escapeChar] at he

-- A position that has been read back has 64 bits.
theorem bounded_of_dataTokens? {rest : Tokens} (hs : (Json.obj node).follow? branch.path = some (.obj inner))
    (h : dataTokens? (.obj node) (branch.path.map Slot.token ++ rest) = some tokens) : ∀ slot ∈ branch.path, slot.Bounded := by
  cases branch
  case slot i =>
    obtain ⟨j, hg, hs⟩ := Option.bind_eq_some_iff.mp hs
    cases j
    case arr items =>
      have h : dataTokens? (.obj node) ("items" :: toString i :: rest) = some tokens := h
      rw [dataTokens?_items (Json.member?_eq_atSlot?.trans hg)] at h
      simp only [Option.bind_eq_bind, itemAt?, Option.bind_eq_some_iff] at h
      obtain ⟨_, ⟨k, hk, -⟩, -⟩ := h
      have hik : k = i := Slot.eq_item_of_token (toString_of_index? hk)
      simpa [Branch.path, Slot.Bounded] using hik ▸ lt_of_index? hk
    all_goals contradiction
  all_goals simp [Branch.path, Slot.Bounded]

theorem Leads.forth_iff (h : Leads schema branches)
    (ht : dataTokens? schema ((branches.flatMap Branch.path).map Slot.token) = some tokens) :
    branches.map Branch.dataToken? = tokens.map some ∧
      (schemaLocation? schema tokens = some (location branches) ↔ Unpreceded schema branches) := by
  induction h generalizing tokens
  case done =>
    cases ht
    exact ⟨rfl, iff_of_true rfl trivial⟩
  case step node inner branch branches hb htype hm hs _ hi =>
    rw [List.flatMap_cons, List.map_append] at ht
    have hk := bounded_of_dataTokens? hs ht
    rw [dataTokens?_path_append hs hk fun _ => rfl] at ht
    obtain ⟨token, hd, ht⟩ := Option.bind_eq_some_iff.mp ht
    obtain ⟨rest, hrest, rfl⟩ := Option.map_eq_some_iff.mp ht
    have ⟨hmap, hi⟩ := hi hrest
    refine ⟨by rw [List.map_cons, List.map_cons, hd, hmap], ?_⟩
    by_cases hf : branch = .further ∧ HasFirst (.obj node)
    case neg =>
      have hstep := schemaStep_of_leads htype hm hs hd hk fun he hfirst => hf ⟨he, hfirst⟩
      rw [schemaLocation?, hstep, location_cons]
      simp only [Option.map_eq_some_iff, String.append_right_inj, exists_eq_right, hi, Unpreceded, hs, Option.some.injEq,
        forall_eq']
      exact ⟨fun h => ⟨fun he hfirst => hf ⟨he, hfirst⟩, h⟩, fun h => h.2⟩
    case pos =>
      obtain ⟨rfl, hf⟩ := hf
      cases hd
      have ⟨branch, sub, hfirst, hbranch⟩ := itemStep_first htype hf
      refine iff_of_false (fun h => ?_) fun h => h.1 rfl hf
      rw [schemaLocation?, schemaStep_of_array htype hm, hfirst] at h
      obtain ⟨_, -, h⟩ := Option.map_eq_some_iff.mp h
      exact location_further_ne hbranch h

theorem dataToken?_eq_empty : branch.dataToken? = some "" ↔ branch = .property "" := by
  cases branch <;> simp [Branch.dataToken?]

theorem eq_empty_iff_of_dataToken? (h : branches.map Branch.dataToken? = tokens.map some) :
    tokens = [""] ↔ branches = [.property ""] := by
  have hinj : tokens = [""] ↔ tokens.map some = [""].map some := (List.map_injective_iff.mpr (Option.some_injective _)).eq_iff.symm
  rw [hinj, ← h, List.map_singleton, List.map_eq_singleton_iff]
  simp only [dataToken?_eq_empty, exists_eq_right]

/-- A location in a schema, turned into one of the data and back, comes out the same exactly if it is not the one for the
member without a name at the root, and goes to further items only where the node has no other branch for the first item. -/
theorem data_location_and_back_iff {schema : Json} {branches : List Branch} {d : String} (h : Leads schema branches)
    (hd : (Address.text (location branches)).toDataPointer? schema = some d) :
    (Address.text d).toSchemaPointer? schema = some (location branches) ↔
      branches ≠ [.property ""] ∧ Unpreceded schema branches := by
  have hparse : (Address.text (location branches)).parse? = _ := parse?_location
  rw [Address.toDataPointer?, hparse, Option.bind_some] at hd
  obtain ⟨tokens, ht, rfl⟩ := Option.map_eq_some_iff.mp hd
  have ⟨hmap, hiff⟩ := h.forth_iff ht
  by_cases hn : tokens = [""]
  case pos =>
    -- A slash alone is read as the whole document.
    have hb := (eq_empty_iff_of_dataToken? hmap).mp hn
    subst hn hb
    refine iff_of_false (fun h => ?_) fun h => h.1 rfl
    have h : some "" = some (location [.property ""]) := h
    exact absurd (Option.some.inj h) (by decide)
  case neg =>
    have hparse : (Address.text (compile tokens)).parse? = some tokens := parse?_compile hn
    rw [Address.toSchemaPointer?, hparse, Option.bind_some, hiff]
    exact (and_iff_right ((eq_empty_iff_of_dataToken? hmap).not.mp hn)).symm

theorem leads_listed : Leads listedSchema [.property "list", .item, .property "x"] :=
  .step (by simp) rfl rfl rfl (.step (by simp) rfl rfl rfl (.step (by simp) rfl rfl rfl .done))

theorem data_location_and_back_listed : Leads listedSchema [.property "list", .item, .property "x"] ∧
    (Address.text "/properties/list/items/properties/x").toDataPointer? listedSchema = some "/list/-/x" ∧
      (Address.text "/list/-/x").toSchemaPointer? listedSchema = some "/properties/list/items/properties/x" :=
  have hd : (Address.text "/properties/list/items/properties/x").toDataPointer? listedSchema = some "/list/-/x" := by
    decide +kernel
  ⟨leads_listed, hd, (data_location_and_back_iff leads_listed hd).mpr
    ⟨by decide, by simp, fun _ h => ⟨by simp, fun _ h => ⟨by simp, fun _ h => trivial⟩⟩⟩⟩

-- One item with a schema of its own, and a schema for the items after it.
def headedSchema : Json := .obj [("type", "array"), ("items", .arr [.obj []]), ("additionalItems", .obj [])]

theorem further_items_come_back_as_first_item :
    Leads headedSchema [.further] ∧ location [.further] = "/additionalItems" ∧
      (Address.text "/additionalItems").toDataPointer? headedSchema = some "/-" ∧
      (Address.text "/-").toSchemaPointer? headedSchema = some "/items/0" :=
  ⟨.step (by simp) rfl rfl rfl .done, rfl, by rfl, by rfl⟩

end Forth

end Pointer

end FormModel
