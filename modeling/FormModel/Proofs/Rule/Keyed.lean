import FormModel.Proofs.Rule.Agree
import FormModel.Proofs.Rule.Meaning

/-!
The rules of the keywords of a node, in the three places where they are made: for a whole schema, for a member
under `dependencies`, and for a control.  They differ in the keywords that count and in what an exclusive limit
has to be.
-/

namespace FormModel

variable {formats : FormatTable} {node : Dict Json} {key : String} {param : Json} {allowed : String → Bool}
  {isLimit : Json → Bool} {test : Json → Bool}

-- The rule of a keyword beside others.  A limit is strict if the flag beside it says so.
def keyRule? (formats : FormatTable) (allowed : String → Bool) (isLimit : Json → Bool) (node : Dict Json) (key : String)
    (param : Json) : Option Rule :=
  if allowed key = false then none
  else if key = "minimum" then Keyword.limitRule? .minimum ((node.get? "exclusiveMinimum").any Json.isTrue) param
  else if key = "maximum" then Keyword.limitRule? .maximum ((node.get? "exclusiveMaximum").any Json.isTrue) param
  else if (key = "exclusiveMinimum" ∨ key = "exclusiveMaximum") ∧ isLimit param = false then none
  else RuleBag.entryRule? formats key [param]

theorem keyRule?_of_allowed (h : allowed key = true) : keyRule? formats allowed isLimit node key param =
    if key = "minimum" then Keyword.limitRule? .minimum ((node.get? "exclusiveMinimum").any Json.isTrue) param
    else if key = "maximum" then Keyword.limitRule? .maximum ((node.get? "exclusiveMaximum").any Json.isTrue) param
    else if (key = "exclusiveMinimum" ∨ key = "exclusiveMaximum") ∧ isLimit param = false then none
    else RuleBag.entryRule? formats key [param] := if_neg (by simp [h])

-- The test of a keyword of a node, if it makes a rule.
def keyTest? (formats : FormatTable) (allowed : String → Bool) (isLimit : Json → Bool) (node : Dict Json) (key : String) :
    Option (Json → Bool) :=
  ((node.get? key).bind (keyRule? formats allowed isLimit node key)).map Rule.isValid

theorem mem_tests_map {α : Type} {d : Dict α} {f : String → α → Option Rule} (hd : d.keys.Nodup) :
    test ∈ Rule.tests (d.map fun e => f e.1 e.2) ↔ ∃ key, ((d.get? key).bind (f key)).map Rule.isValid = some test := by
  simp only [Rule.mem_tests, List.mem_map, Option.map_bind, Option.bind_eq_some_iff]
  constructor
  case mp =>
    rintro ⟨_, ⟨e, he, rfl⟩, ht⟩
    exact ⟨e.1, e.2, Dict.get?_of_mem hd he, ht⟩
  case mpr =>
    rintro ⟨key, v, hg, ht⟩
    exact ⟨_, ⟨(key, v), Dict.mem_of_get? hg, rfl⟩, ht⟩

section Own

-- The keywords that mean in a schema what they mean on a control.
def ownKey (key : String) : Bool := (Keyword.ofName? key).any Keyword.isSchemaKeyword

theorem name_of_ofName? {k : Keyword} (h : Keyword.ofName? key = some k) : k.name = key := by
  have hp := List.find?_some h
  exact eq_of_beq hp

theorem entryRule?_name {k : Keyword} {params : List Json} :
    RuleBag.entryRule? formats k.name params = k.rule? formats params := by
  rw [RuleBag.entryRule?, Keyword.ofName?_name, Option.bind_some]

theorem entryRule?_minimum {strict : Bool} :
    RuleBag.entryRule? formats "minimum" [param, .bool strict] = Keyword.limitRule? .minimum strict param :=
  entryRule?_name (k := .minimum)

theorem entryRule?_maximum {strict : Bool} :
    RuleBag.entryRule? formats "maximum" [param, .bool strict] = Keyword.limitRule? .maximum strict param :=
  entryRule?_name (k := .maximum)

theorem ownRule?_eq_keyRule? : RuleBag.ownRule? formats node key param = keyRule? formats ownKey Json.isNum node key param := by
  unfold RuleBag.ownRule? RuleBag.ownParams? keyRule? ownKey
  cases hk : Keyword.ofName? key
  case none => rfl
  case some k =>
    obtain rfl := name_of_ofName? hk
    cases k
    case minimum => exact @entryRule?_minimum formats _ _
    case maximum => exact @entryRule?_maximum formats _ _
    case exclusiveMinimum | exclusiveMaximum => cases hn : param.isNum <;> simp [Keyword.name, Keyword.isSchemaKeyword, Option.filter]
    all_goals rfl

theorem mem_tests_own (hd : (Dict.keys node).Nodup) :
    test ∈ Rule.tests (node.map fun e => RuleBag.ownRule? formats node e.1 e.2) ↔
      ∃ key, keyTest? formats ownKey Json.isNum node key = some test := by
  simp only [ownRule?_eq_keyRule?]
  exact mem_tests_map hd

end Own

namespace Keyword

section Member

variable {members triggers spec : Dict Json}

-- The rule of a member under `dependencies`.
def memberRule? (formats : FormatTable) : Json → Option Rule
  | .obj schema => Rule.all? (keywordRules formats schema schema)
  | _ => none

-- What a trigger asks for.
def check? (formats : FormatTable) : Json → Option (List String × List (String × Rule))
  | .arr items => some (namesOf (.arr items), [])
  | .obj spec => some (namesOf ((Dict.get? spec "required").getD .null), propertyRules formats spec)
  | _ => none

theorem memberRules_eq : memberRules formats members = members.filterMap fun e => (memberRule? formats e.2).map (e.1, ·) := by
  induction members
  case nil => rfl
  case cons e members hi =>
    obtain ⟨name, value⟩ := e
    rw [List.filterMap_cons, ← hi]
    cases value
    case obj schema =>
      rw [memberRules, memberRule?]
      cases Rule.all? (keywordRules formats schema schema) <;> rfl
    all_goals simp [memberRules, memberRule?]

theorem dependencyChecks_eq :
    dependencyChecks formats triggers = triggers.filterMap fun e => (check? formats e.2).map (e.1, ·) := by
  induction triggers
  case nil => rfl
  case cons e triggers hi =>
    obtain ⟨trigger, value⟩ := e
    rw [List.filterMap_cons, ← hi]
    cases value
    all_goals simp [dependencyChecks, check?]

theorem propertyRules_eq : propertyRules formats spec =
    memberRules formats (((Dict.get? spec "properties").bind Json.members?).getD []) := by
  induction spec
  case nil => rfl
  case cons e spec hi =>
    obtain ⟨key, value⟩ := e
    by_cases hk : key = "properties"
    case pos => cases value <;> simp [propertyRules, memberRules, Dict.get?, hk, Json.members?]
    case neg => cases value <;> simp [propertyRules, Dict.get?, hk, hi]

theorem keywordRules_eq : keywordRules formats node members = members.map fun e =>
    siblingRule? formats node (if e.1 = "dependencies" then dependencyRule? formats e.2 else none) e.1 e.2 := by
  induction members
  case nil => rfl
  case cons e members hi =>
    obtain ⟨key, param⟩ := e
    rw [keywordRules, hi, List.map_cons]

theorem siblingRule?_eq_keyRule? :
    siblingRule? formats node (if key = "dependencies" then dependencyRule? formats param else none) key param =
      keyRule? formats (fun _ => true) (fun v => !v.isBool) node key param := by
  have hrule : ((ofName? key).bind fun k =>
      k.ruleWith? formats (if key = "dependencies" then dependencyRule? formats param else none) [param]) =
      RuleBag.entryRule? formats key [param] := by
    rw [RuleBag.entryRule?]
    cases hk : ofName? key
    case none => rfl
    case some k =>
      obtain rfl := name_of_ofName? hk
      cases k <;> rfl
  unfold siblingRule? keyRule?
  rw [hrule]
  by_cases hmin : key = "minimum"
  case pos => simp [hmin]
  case neg => simp [hmin, or_comm]

theorem mem_tests_member (hd : (Dict.keys node).Nodup) : test ∈ Rule.tests (keywordRules formats node node) ↔
    ∃ key, keyTest? formats (fun _ => true) (fun v => !v.isBool) node key = some test := by
  rw [keywordRules_eq]
  simp only [siblingRule?_eq_keyRule?]
  exact mem_tests_map hd

end Member

end Keyword

namespace RuleBag

section Control

variable {bag : RuleBag} {keys more : List String} {limit exclusive : String} {types : List SchemaType}

-- The parameters of a keyword for a control.
def controlParams? (node : Dict Json) (key : String) : Option (List Json) :=
  (node.get? key).bind fun param =>
    if key = "minimum" then some [param, .bool ((node.get? "exclusiveMinimum").any Json.isTrue)]
    else if key = "maximum" then some [param, .bool ((node.get? "exclusiveMaximum").any Json.isTrue)]
    else if (key = "exclusiveMinimum" ∨ key = "exclusiveMaximum") ∧ param.isBool = true then none
    else some [param]

-- The keywords for values of a type.
def typeKeys : SchemaType → List String
  | .string => ["pattern", "format", "minLength", "maxLength"]
  | .number => ["minimum", "maximum", "exclusiveMinimum", "exclusiveMaximum", "multipleOf", "type"]
  | .integer => ["minimum", "maximum", "exclusiveMinimum", "exclusiveMaximum", "multipleOf", "type"]
  | .object => ["minProperties", "maxProperties", "dependencies"]
  | .array => ["minItems", "maxItems", "uniqueItems"]
  | .boolean => []
  | .null => []

-- A bag with the named keywords of a node, as a control has them.
structure Copied (node : Dict Json) (keys : List String) (bag : RuleBag) : Prop where
  nodup : (Dict.keys bag).Nodup
  get? : ∀ key, Dict.get? bag key = if key ∈ keys then controlParams? node key else none

theorem Copied.get?_eq_none (h : Copied node keys bag) (hn : node.get? key = none) : Dict.get? bag key = none := by
  rw [h.get?, controlParams?, hn]
  exact ite_self _

theorem nodup_copy (h : (Dict.keys bag).Nodup) : (Dict.keys (copy node bag keys)).Nodup := by
  induction keys generalizing bag
  case nil => exact h
  case cons k keys hi =>
    rw [copy, List.foldl_cons]
    refine hi ?_
    split
    case h_1 => exact Dict.nodup_keys_insert _ h
    case h_2 => exact h

theorem get?_copy : Dict.get? (copy node bag keys) key =
    if key ∈ keys then ((node.get? key).map ([·])).or (bag.get? key) else bag.get? key := by
  induction keys generalizing bag
  case nil => rfl
  case cons k keys hi =>
    rw [copy, List.foldl_cons, ← copy, hi]
    cases hv : Dict.get? node k
    case none =>
      by_cases hk : key = k
      case pos => simp [hk, hv]
      case neg => simp [hk]
    case some param =>
      by_cases hk : key = k
      case pos => simp [hk, hv, Dict.get?_insert]
      case neg => simp [hk, Ne.symm hk, Dict.get?_insert]

theorem Copied.copy (h : Copied node keys bag)
    (hm : ∀ key ∈ more, key ∉ ["minimum", "exclusiveMinimum", "maximum", "exclusiveMaximum"]) :
    Copied node (keys ++ more) (copy node bag more) where
  nodup := nodup_copy h.nodup
  get? key := by
    rw [get?_copy]
    by_cases hk : key ∈ more
    case neg => simp [hk, h.get?]
    case pos =>
      have hne := hm key hk
      simp only [List.mem_cons, List.not_mem_nil, or_false, not_or] at hne
      cases hv : Dict.get? node key
      case none => simp [hk, h.get?_eq_none hv, controlParams?, hv]
      case some param => simp [hk, controlParams?, hv, hne]

theorem Copied.copyLimit (limit exclusive : String) (h : Copied node keys bag) (hp : controlParams? node limit =
      (node.get? limit).map fun param => [param, .bool ((node.get? exclusive).any Json.isTrue)]) :
    Copied node (keys ++ [limit]) (copyLimit node limit exclusive bag) := by
  unfold RuleBag.copyLimit
  split
  case h_1 param hv =>
    rw [hv, Option.map_some] at hp
    refine ⟨Dict.nodup_keys_insert _ h.nodup, fun key => ?_⟩
    rw [Dict.get?_insert, h.get?]
    by_cases hk : limit = key
    case pos => simp [← hk, hp]
    case neg => simp [hk, Ne.symm hk]
  case h_2 hv =>
    rw [hv, Option.map_none] at hp
    refine ⟨h.nodup, fun key => ?_⟩
    rw [h.get?]
    by_cases hk : limit = key
    case pos => simp [← hk, hp]
    case neg => simp [Ne.symm hk]

-- Whether the parameters are only a flag.
def isFlag : List Json → Bool
  | .bool _ :: _ => true
  | _ => false

theorem nodup_dropFlag (h : (Dict.keys bag).Nodup) : (Dict.keys (dropFlag bag exclusive)).Nodup := by
  unfold dropFlag
  split
  case h_1 =>
    rw [Dict.erase, Dict.keys_filter (f := (· != exclusive))]
    exact h.filter _
  case h_2 => exact h

theorem get?_dropFlag : Dict.get? (dropFlag bag exclusive) key =
    if key = exclusive then (bag.get? key).filter (!isFlag ·) else bag.get? key := by
  unfold dropFlag
  split
  case h_1 hv =>
    rw [Dict.get?_erase]
    by_cases hk : key = exclusive
    case pos => simp [hk, hv, isFlag, Option.filter]
    case neg => simp [hk, Ne.symm hk]
  case h_2 hn =>
    split
    case isFalse => rfl
    case isTrue hk =>
      subst hk
      cases hv : Dict.get? bag key
      case none => rfl
      case some params =>
        have hf : isFlag params = false := by
          unfold isFlag
          split
          case h_1 => exact absurd hv (hn _ _)
          case h_2 => rfl
        simp [Option.filter, hf]

theorem Copied.addNumber (h : Copied node keys bag) : Copied node (keys ++ typeKeys .number) (addType.addNumber node bag) := by
  have hmin := h.copyLimit "minimum" "exclusiveMinimum" (by cases hv : Dict.get? node "minimum" <;> simp [controlParams?, hv])
  have hmax := hmin.copyLimit "maximum" "exclusiveMaximum" (by cases hv : Dict.get? node "maximum" <;> simp [controlParams?, hv])
  rw [addType.addNumber]
  refine ⟨nodup_dropFlag (nodup_dropFlag (nodup_copy hmax.nodup)), fun key => ?_⟩
  simp only [get?_dropFlag, get?_copy]
  by_cases hk : key ∈ ["exclusiveMinimum", "exclusiveMaximum", "multipleOf", "type"]
  case neg =>
    rw [if_neg hk, hmax.get?]
    simp only [List.mem_cons, List.not_mem_nil, or_false, not_or] at hk
    simp [hk, typeKeys]
  case pos =>
    have hmem : key ∈ keys ++ typeKeys .number := by simp_all [typeKeys]
    rw [if_pos hk, if_pos hmem]
    cases hv : Dict.get? node key
    case none => simp [hmax.get?_eq_none hv, controlParams?, hv]
    case some param =>
      simp only [List.mem_cons, List.not_mem_nil, or_false] at hk
      obtain rfl | rfl | rfl | rfl := hk
      all_goals cases param <;> simp [controlParams?, hv, isFlag, Json.isBool, Option.filter]

theorem Copied.addType (h : Copied node keys bag) (type : SchemaType) :
    Copied node (keys ++ typeKeys type) (addType node bag type) := by
  cases type
  case number | integer => exact h.addNumber
  case string | object | array => exact h.copy (by decide)
  case boolean | null => exact (List.append_nil keys).symm ▸ h

theorem Copied.addTypes (h : Copied node keys bag) :
    Copied node (keys ++ types.flatMap typeKeys) (types.foldl (RuleBag.addType node) bag) := by
  induction types generalizing keys bag
  case nil => simpa using h
  case cons type types hi =>
    rw [List.foldl_cons, List.flatMap_cons, ← List.append_assoc]
    exact hi (h.addType type)

-- The types of a node.
def typesOf (node : Dict Json) : List SchemaType := ((node.get? "type").map SchemaType.listOf).getD []

-- The keywords that a control of some types has as rules.
def controlKey (types : List SchemaType) (key : String) : Bool := (types.flatMap typeKeys ++ ["enum", "const"]).contains key

theorem copied_ofControl : Copied node ((typesOf node).flatMap typeKeys ++ ["enum", "const"]) (ofControl (.obj node)) := by
  have hnil : Copied node [] [] := ⟨List.nodup_nil, fun _ => rfl⟩
  exact hnil.addTypes.copy (by decide)

theorem bind_entryRule?_ofControl : ((ofControl (.obj node)).get? key).bind (entryRule? formats key) =
    (node.get? key).bind (keyRule? formats (controlKey (typesOf node)) (fun v => !v.isBool) node key) := by
  rw [copied_ofControl.get?]
  cases hc : controlKey (typesOf node) key
  case false =>
    have hk : key ∉ (typesOf node).flatMap typeKeys ++ ["enum", "const"] := by simpa [controlKey] using hc
    rw [if_neg hk]
    cases Dict.get? node key <;> simp [keyRule?, hc]
  case true =>
    have hk : key ∈ (typesOf node).flatMap typeKeys ++ ["enum", "const"] := by simpa [controlKey] using hc
    rw [if_pos hk, controlParams?]
    cases Dict.get? node key
    case none => rfl
    case some param =>
      rw [Option.bind_some, Option.bind_some, keyRule?_of_allowed hc]
      by_cases hmin : key = "minimum"
      case pos => simp [hmin, entryRule?_minimum]
      by_cases hmax : key = "maximum"
      case pos => simp [hmax, entryRule?_maximum]
      by_cases hx : (key = "exclusiveMinimum" ∨ key = "exclusiveMaximum") ∧ param.isBool = true <;> simp [hmin, hmax, hx]

theorem mem_tests_control : test ∈ Rule.tests ((ofControl (.obj node)).map fun e => entryRule? formats e.1 e.2) ↔
    ∃ key, keyTest? formats (controlKey (typesOf node)) (fun v => !v.isBool) node key = some test := by
  rw [mem_tests_map copied_ofControl.nodup]
  simp only [bind_entryRule?_ofControl]
  rfl

end Control

end RuleBag

end FormModel
