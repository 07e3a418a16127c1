import FormModel.Proofs.Draft.Retype
import FormModel.Proofs.Draft.Steps

/-!
Schemas that say nothing in the words of earlier drafts.
-/

namespace FormModel.Draft

-- The keywords that are taken away if they are set.
def setKeys : List String := ["contentEncoding", "disallow", "requires"]

-- The keywords that are taken away if they hold a flag.
def flagKeys : List String :=
  ["minimumCanEqual", "exclusiveMinimum", "maximumCanEqual", "exclusiveMaximum", "optional", "required"]

-- A node without the keywords of earlier drafts, but for `type` and `$schema`.
structure Prepared (node : Dict Json) : Prop where
  unset : ∀ key ∈ setKeys, (node.get? key).any Json.isTruthy = false
  flagless : ∀ key ∈ flagKeys, (node.get? key).any Json.isBool = false
  extended : (node.get? "extends").any Json.isContainer = false
  dependencies : ∀ deps, node.get? "dependencies" = some (.obj deps) → ∀ e ∈ deps, e.2.isStr = false
  maxDecimal : (node.get? "maxDecimal").any Json.isNum = false
  divisibleBy : node.get? "divisibleBy" = none
  -- Beside `properties`, a list of required names has nothing but names in it, or no names at all.
  required : ∀ properties names, node.get? "properties" = some (.obj properties) →
    node.get? "required" = some (.arr names) → (∀ n ∈ names, n.isStr = true) ∨ ∀ n ∈ names, n.isStr = false
  id : ∀ id, node.get? "id" = some (.str id) → Dict.has node "$id" = true

-- A node without the keywords of earlier drafts.
structure Settled (node : Dict Json) : Prop extends Prepared node where
  type : ∀ t, node.get? "type" = some t → t.isTruthy = false ∨ NamesStandardTypes t
  uri : ∀ uri, node.get? "$schema" = some (.str uri) → isLegacyUri uri = false

-- A schema without the keywords of earlier drafts, itself and wherever it has schemas in it.
inductive Modern : Json → Prop where
  | scalar {value : Json} (h : value.isContainer = false) : Modern value
  | items {items : List Json} (h : ∀ item ∈ items, Modern item) : Modern (.arr items)
  | node {node : Dict Json} (hs : Settled node) (hi : ∀ e ∈ node, ∀ schema ∈ schemasAt e.1 e.2, Modern schema) :
    Modern (.obj node)

-- The keywords that decide whether a node is prepared, but for `dependencies` and `properties`.
def preparedKeys : List String := setKeys ++ flagKeys ++ ["extends", "maxDecimal", "divisibleBy", "id", "$id"]

section Congr

variable {node node' : Dict Json}

theorem prepared_nil : Prepared [] := by constructor <;> simp

theorem Prepared.congr (hp : Prepared node) (h : ∀ key ∈ preparedKeys, node'.get? key = node.get? key)
    (hd : ∀ deps, node'.get? "dependencies" = some (.obj deps) → ∀ e ∈ deps, e.2.isStr = false)
    (hs : ∀ declared, node'.get? "properties" = some (.obj declared) →
      ∃ declared, node.get? "properties" = some (.obj declared)) : Prepared node' where
  unset key hk := by
    rw [h key (by simp [preparedKeys, hk])]
    exact hp.unset key hk
  flagless key hk := by
    rw [h key (by simp [preparedKeys, hk])]
    exact hp.flagless key hk
  extended := by
    rw [h _ (by decide)]
    exact hp.extended
  dependencies := hd
  maxDecimal := by
    rw [h _ (by decide)]
    exact hp.maxDecimal
  divisibleBy := by
    rw [h _ (by decide)]
    exact hp.divisibleBy
  required declared names hp' hr := by
    have ⟨_, hp'⟩ := hs declared hp'
    exact hp.required _ names hp' (h "required" (by decide) ▸ hr)
  id := by
    rw [Dict.has, h _ (by decide), h _ (by decide)]
    exact hp.id

-- The steps for `type` and `$schema` write to no other keywords.
theorem Prepared.congr_off (hp : Prepared node)
    (h : ∀ key, key ∉ ["type", "$schema", "description"] → node'.get? key = node.get? key) : Prepared node' :=
  hp.congr (fun key hk => h key ((by decide : ∀ key ∈ preparedKeys, key ∉ ["type", "$schema", "description"]) key hk))
    (h "dependencies" (by decide) ▸ hp.dependencies) fun declared hd => ⟨declared, h "properties" (by decide) ▸ hd⟩

theorem settled_of_get?_eq_none
    (h : ∀ key ∈ "dependencies" :: "properties" :: "type" :: "$schema" :: preparedKeys, node.get? key = none) :
    Settled node where
  toPrepared := prepared_nil.congr (fun key hk => h key (by simp [hk])) (by simp [h]) (by simp [h])
  type := by simp [h]
  uri := by simp [h]

end Congr

section Converted

variable {convert : Json → DraftState → Option (Json × DraftState)} {state : DraftState} {changed : Bool}
  {node node' : Dict Json} {key : String}

theorem get?_of_converted (h : List.Forall₂ (fun e e' => e'.1 = e.1 ∧ Converted convert state changed e.1 e.2 e'.2) node node')
    (hs : holdsSchema key = false) (hn : holdsNamedSchemas key = false) : node'.get? key = node.get? key := by
  cases hv' : node'.get? key
  case none =>
    rw [Dict.get?_eq_none, Dict.keys_of_forall₂ h] at hv'
    exact (Dict.get?_eq_none.mpr hv').symm
  case some v' =>
    have ⟨v, hv, hc⟩ := Dict.exists_get?_of_forall₂ h hv'
    rw [hv, hc.eq hs hn]

-- Converting the schemas inside a node leaves what is said outside of them.
theorem Settled.converted (h : List.Forall₂ (fun e e' => e'.1 = e.1 ∧ Converted convert state changed e.1 e.2 e'.2) node node')
    (hk : ∀ v st v' st', convert v st = some (v', st') → v'.isStr = v.isStr) (hs : Settled node) : Settled node' := by
  have hg : ∀ key, holdsSchema key = false → holdsNamedSchemas key = false → node'.get? key = node.get? key :=
    fun _ => get?_of_converted h
  have hd : ∀ key members', holdsSchema key = false → node'.get? key = some (.obj members') →
      ∃ members, node.get? key = some (.obj members) ∧ ∀ e' ∈ members', ∃ e ∈ members, e'.2.isStr = e.2.isStr := by
    intro key members' hs hv'
    have ⟨v, hv, hc⟩ := Dict.exists_get?_of_forall₂ h hv'
    cases hc
    case schema => simp_all
    case named members hm =>
      refine ⟨members, hv, fun e' he' => ?_⟩
      have ⟨e, he, _, _, hi, _⟩ := exists_mem_of_forall₂ hm he'
      exact ⟨e, he, hk _ _ _ _ hi⟩
    case alone => exact ⟨members', hv, fun e he => ⟨e, he, rfl⟩⟩
  refine ⟨hs.toPrepared.congr (fun key hm => ?_) ?_ ?_, ?_, ?_⟩
  · have hk := (by decide : ∀ key ∈ preparedKeys, holdsSchema key = false ∧ holdsNamedSchemas key = false) key hm
    exact hg key hk.1 hk.2
  · intro deps' hv' e' he'
    have ⟨deps, hv, hm⟩ := hd _ _ (by decide) hv'
    have ⟨e, he, hstr⟩ := hm e' he'
    exact hstr ▸ hs.dependencies deps hv e he
  · intro declared' hv'
    have ⟨declared, hv, _⟩ := hd _ _ (by decide) hv'
    exact ⟨declared, hv⟩
  · exact hg "type" (by decide) (by decide) ▸ hs.type
  · exact hg "$schema" (by decide) (by decide) ▸ hs.uri

end Converted

end FormModel.Draft
