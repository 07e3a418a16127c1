import FormModel.Proofs.Build.Group
import Mathlib.Data.List.Induction

/-!
The order of the controls of a group.  Which names have a control and where it stands is told by what the schema declares and
orders and by what the data has, whatever is repeated among them.
-/

namespace FormModel

namespace Builder

variable {node : Dict Json} {data : Json} {xs seen declared named : List String} {name x y : String}

section FirstMentions

-- Whether a name is mentioned in a list before another one.
def Before (xs : List String) (x y : String) : Prop := xs.idxOf x < xs.idxOf y

theorem before_cons : Before (name :: xs) x y ↔ name ≠ y ∧ (name = x ∨ Before xs x y) := by
  unfold Before
  by_cases hy : name = y
  case pos => simp [hy]
  case neg =>
    rw [List.idxOf_cons_ne _ hy, and_iff_right hy]
    by_cases hx : name = x
    case pos => simp [hx]
    case neg => rw [List.idxOf_cons_ne _ hx, Nat.succ_lt_succ_iff, or_iff_right hx]

theorem Before.append_right {ys : List String} (hx : x ∈ xs) (hy : y ∈ xs) : Before (xs ++ ys) x y ↔ Before xs x y := by
  rw [Before, List.idxOf_append_of_mem hx, List.idxOf_append_of_mem hy, Before]

theorem before_append_of_not_mem {ys : List String} (hx : x ∉ xs) :
    Before (xs ++ ys) x y ↔ y ∉ xs ∧ Before ys x y := by
  unfold Before
  by_cases hy : y ∈ xs
  case pos =>
    have hlt := List.idxOf_lt_length_of_mem hy
    rw [List.idxOf_append_of_notMem hx, List.idxOf_append_of_mem hy]
    exact ⟨fun h => absurd h (by omega), fun h => absurd hy h.1⟩
  case neg =>
    rw [List.idxOf_append_of_notMem hx, List.idxOf_append_of_notMem hy, Nat.add_lt_add_iff_left]
    exact (and_iff_right hy).symm

theorem Before.of_filter {p : String → Bool} (hy : p y = true) (h : Before (xs.filter p) x y) : Before xs x y := by
  induction xs
  case nil => exact h
  case cons name xs hi =>
    cases hp : p name
    case false =>
      rw [List.filter_cons_of_neg (Bool.eq_false_iff.mp hp)] at h
      refine before_cons.mpr ⟨?_, .inr (hi h)⟩
      rintro rfl
      simp [hp] at hy
    case true =>
      rw [List.filter_cons_of_pos hp, before_cons] at h
      exact before_cons.mpr (h.imp_right (·.imp_right hi))

-- Names that come from different entries stand in the order of the entries, and those from one entry as there.
theorem before_flatMap {f : String → List String} (hd : ∀ a ∈ xs, ∀ b ∈ xs, ∀ z, z ∈ f a → z ∈ f b → a = b) {a b : String}
    (ha : a ∈ xs) (hb : b ∈ xs) (hx : x ∈ f a) (hy : y ∈ f b) (h : Before (xs.flatMap f) x y) :
    Before xs a b ∨ (a = b ∧ Before (f a) x y) := by
  induction xs
  case nil => contradiction
  case cons entry xs hi =>
    rw [List.flatMap_cons] at h
    by_cases hxe : x ∈ f entry
    case pos =>
      obtain rfl := hd a ha entry List.mem_cons_self x hx hxe
      by_cases hab : a = b
      case pos => exact .inr ⟨hab, (Before.append_right hx (hab ▸ hy)).mp h⟩
      case neg => exact .inl (before_cons.mpr ⟨hab, .inl rfl⟩)
    case neg =>
      obtain ⟨hye, h⟩ := (before_append_of_not_mem hxe).mp h
      have hae : a ≠ entry := fun he => hxe (he ▸ hx)
      have hbe : b ≠ entry := fun he => hye (he ▸ hy)
      have hd' : ∀ a ∈ xs, ∀ b ∈ xs, ∀ z, z ∈ f a → z ∈ f b → a = b := fun a ha b hb =>
        hd a (List.mem_cons_of_mem _ ha) b (List.mem_cons_of_mem _ hb)
      refine (hi hd' (List.mem_of_ne_of_mem hae ha) (List.mem_of_ne_of_mem hbe hb) h).imp_left fun h => ?_
      exact before_cons.mpr ⟨hbe.symm, .inr h⟩

theorem mem_addNew : x ∈ addNew seen name ↔ x ∈ seen ∨ x = name := by
  by_cases h : name ∈ seen
  case pos =>
    rw [addNew_of_mem h]
    exact ⟨.inl, fun hx => hx.elim id (· ▸ h)⟩
  case neg => rw [addNew_of_not_mem h, List.mem_append, List.mem_singleton]

theorem mem_foldl_addNew : x ∈ xs.foldl addNew seen ↔ x ∈ seen ∨ x ∈ xs := by
  induction xs generalizing seen
  case nil => simp
  case cons name xs hi => rw [List.foldl_cons, hi, mem_addNew, List.mem_cons, or_assoc]

-- Leaving names out makes no difference to the order of the others.
theorem filter_foldl_addNew {p : String → Bool} :
    (xs.filter p).foldl addNew (seen.filter p) = (xs.foldl addNew seen).filter p := by
  induction xs generalizing seen
  case nil => rfl
  case cons name xs hi =>
    cases hp : p name
    case false =>
      have hsame : (addNew seen name).filter p = seen.filter p := by
        by_cases h : name ∈ seen
        case pos => rw [addNew_of_mem h]
        case neg => simp [addNew_of_not_mem h, hp]
      rw [List.filter_cons_of_neg (Bool.eq_false_iff.mp hp), List.foldl_cons, ← hi, hsame]
    case true =>
      have hadd : (addNew seen name).filter p = addNew (seen.filter p) name := by
        by_cases h : name ∈ seen
        case pos => rw [addNew_of_mem h, addNew_of_mem (List.mem_filter.mpr ⟨h, hp⟩)]
        case neg => rw [addNew_of_not_mem h, addNew_of_not_mem fun hm => h (List.mem_filter.mp hm).1]; simp [hp]
      rw [List.filter_cons_of_pos hp, List.foldl_cons, List.foldl_cons, ← hi, hadd]

-- Whether a name that has been mentioned already is left out at once or at last makes no difference.
theorem foldl_addNew_foldl_addNew : (xs.foldl addNew seen).foldl addNew [] = (seen ++ xs).foldl addNew [] := by
  induction xs generalizing seen
  case nil => rw [List.append_nil, List.foldl_nil]
  case cons name xs hi =>
    have hadd : (addNew seen name).foldl addNew [] = (seen ++ [name]).foldl addNew [] := by
      by_cases h : name ∈ seen
      case pos =>
        rw [addNew_of_mem h, List.foldl_append, List.foldl_cons, List.foldl_nil, addNew_of_mem]
        exact mem_foldl_addNew.mpr (.inr h)
      case neg => rw [addNew_of_not_mem h]
    rw [List.foldl_cons, hi, List.foldl_append, hadd, ← List.foldl_append, List.append_assoc, List.singleton_append]

theorem pairwise_before : (xs.foldl addNew []).Pairwise (Before xs) := by
  induction xs using List.reverseRecOn
  case nil => exact .nil
  case append_singleton xs name hi =>
    have hmem : ∀ x ∈ xs.foldl addNew [], x ∈ xs := fun x hx => (mem_foldl_addNew.mp hx).resolve_left List.not_mem_nil
    have hbefore : (xs.foldl addNew []).Pairwise (Before (xs ++ [name])) :=
      hi.imp_of_mem fun hx hy => (Before.append_right (hmem _ hx) (hmem _ hy)).mpr
    rw [List.foldl_append, List.foldl_cons, List.foldl_nil]
    by_cases h : name ∈ xs.foldl addNew []
    case pos =>
      rw [addNew_of_mem h]
      exact hbefore
    case neg =>
      rw [addNew_of_not_mem h, List.pairwise_append]
      refine ⟨hbefore, List.pairwise_singleton _ _, fun x hx y hy => ?_⟩
      have hnew : name ∉ xs := fun hm => h (mem_foldl_addNew.mpr (.inr hm))
      rw [List.mem_singleton.mp hy, Before, List.idxOf_append_of_mem (hmem x hx), List.idxOf_append_of_notMem hnew]
      exact Nat.lt_of_lt_of_le (List.idxOf_lt_length_of_mem (hmem x hx)) (Nat.le_add_right _ _)

end FirstMentions

-- The names in `ui:order`, if that is a list.
def order? (node : Dict Json) : Option (List String) :=
  ((node.get? "ui:order").bind Json.items?).map (·.filterMap Json.string?)

-- The names of the members of an object.
def dataNames (data : Json) : List String := (data.members?.getD []).map (·.1)

-- Where a name stands: at the place in the order that names it, or that of the star if it is declared and not named there, or
-- behind the order.  Those that have a place in common stand as they are declared, and behind the order as they are in the data.
def place (node : Dict Json) (data : Json) (name : String) : Nat × Nat :=
  match order? node with
  | none =>
    if name ∈ declaredNames node then (0, (declaredNames node).idxOf name) else (1, (dataNames data).idxOf name)
  | some named =>
    if name ∈ named ∧ name ≠ "*" then (named.idxOf name, 0)
    else if name ∈ declaredNames node ∧ "*" ∈ named ∧ name ≠ "*" then (named.idxOf "*", (declaredNames node).idxOf name)
    else (named.length, (dataNames data).idxOf name)

-- What the names of the controls of a group are, and in which order they stand.
structure FollowsOrder (node : Dict Json) (data : Json) (names : List String) : Prop where
  declared : ∀ name ∈ declaredNames node, name ≠ "*" → (name ∈ names ↔
    order? node = none ∨ (∃ named, order? node = some named ∧ (name ∈ named ∨ "*" ∈ named)) ∨
      (permitsExtra node = true ∧ name ∈ dataNames data))
  further : ∀ name ∉ declaredNames node, (name ∈ names ↔
    permitsExtra node = true ∧ (name ∈ dataNames data ∨ ∃ named, order? node = some named ∧ name ∈ named ∧ name ≠ "*"))
  inOrder : names.Pairwise fun x y => Prod.Lex (· < ·) (· < ·) (place node data x) (place node data y)

section Mentioned

-- The names that are mentioned by the order, the declared ones if there is none.
def mentioned (node : Dict Json) : List String :=
  match order? node with
  | none => declaredNames node
  | some named => orderedNames (declaredNames node) named

-- The names that only the data mentions.
def furtherNames (node : Dict Json) (data : Json) : List String := if permitsExtra node then dataNames data else []

theorem foldl_addNew_propertyOrder :
    (propertyOrder node data).foldl addNew [] = (mentioned node ++ furtherNames node data).foldl addNew [] := by
  have horder : propertyOrder node data = (furtherNames node data).foldl addNew (mentioned node) := by
    unfold propertyOrder furtherNames mentioned order?
    cases (node.get? "ui:order").bind Json.items? <;> cases permitsExtra node <;> rfl
  rw [horder, foldl_addNew_foldl_addNew]

theorem mem_orderedNames : name ∈ orderedNames declared named ↔
    (name ∈ named ∧ name ≠ "*") ∨ (name ∈ declared ∧ "*" ∈ named ∧ name ∉ named) := by
  simp only [orderedNames, List.mem_flatMap]
  constructor
  case mp =>
    intro ⟨entry, he, hn⟩
    split at hn
    case isTrue hstar =>
      have ⟨hd, hn⟩ := List.mem_filter.mp hn
      exact .inr ⟨hd, hstar ▸ he, by simpa using hn⟩
    case isFalse hstar =>
      obtain rfl := List.mem_singleton.mp hn
      exact .inl ⟨he, hstar⟩
  case mpr =>
    rintro (⟨hn, hstar⟩ | ⟨hd, hstar, hn⟩)
    · exact ⟨name, hn, by rw [if_neg hstar]; exact List.mem_singleton_self _⟩
    · exact ⟨"*", hstar, by simp [hd, hn]⟩

-- The names that an entry of the order stands for.
def entryNames (declared named : List String) (entry : String) : List String :=
  if entry = "*" then declared.filter fun d => !named.contains d else [entry]

theorem orderedNames_eq : orderedNames declared named = named.flatMap (entryNames declared named) := rfl

-- The place of a name that the order mentions.
def placeIn (declared named : List String) (name : String) : Nat × Nat :=
  if name ∈ named then (named.idxOf name, 0) else (named.idxOf "*", declared.idxOf name)

theorem placeIn_of_mem {entry : String} (he : entry ∈ named) (hn : name ∈ entryNames declared named entry) :
    placeIn declared named name = (named.idxOf entry, if entry = "*" then declared.idxOf name else 0) := by
  unfold entryNames at hn
  split at hn
  case isTrue hstar =>
    have hnew : name ∉ named := by simpa using (List.mem_filter.mp hn).2
    rw [placeIn, if_neg hnew, if_pos hstar, hstar]
  case isFalse hstar =>
    obtain rfl := List.mem_singleton.mp hn
    rw [placeIn, if_pos he, if_neg hstar]

theorem lex_placeIn (hx : x ∈ orderedNames declared named) (hy : y ∈ orderedNames declared named)
    (h : Before (orderedNames declared named) x y) :
    Prod.Lex (· < ·) (· < ·) (placeIn declared named x) (placeIn declared named y) := by
  rw [orderedNames_eq] at hx hy h
  obtain ⟨a, ha, hxa⟩ := List.mem_flatMap.mp hx
  obtain ⟨b, hb, hyb⟩ := List.mem_flatMap.mp hy
  have hd : ∀ a ∈ named, ∀ b ∈ named, ∀ z, z ∈ entryNames declared named a → z ∈ entryNames declared named b → a = b := by
    intro a ha b hb z hza hzb
    have he := (placeIn_of_mem ha hza).symm.trans (placeIn_of_mem hb hzb)
    exact (List.idxOf_inj ha).mp (Prod.mk.inj he).1
  rw [placeIn_of_mem ha hxa, placeIn_of_mem hb hyb]
  obtain hlt | ⟨rfl, hlt⟩ := before_flatMap hd ha hb hxa hyb h
  · exact .left _ _ hlt
  · by_cases hstar : a = "*"
    case pos =>
      rw [if_pos hstar, if_pos hstar]
      rw [entryNames, if_pos hstar] at hyb hlt
      exact .right _ (hlt.of_filter (List.mem_filter.mp hyb).2)
    case neg =>
      rw [entryNames, if_neg hstar, List.mem_singleton] at hxa hyb
      exact absurd hlt (by rw [hxa, hyb]; exact Nat.lt_irrefl _)

-- Where the names begin that only the data mentions.
def behind (node : Dict Json) : Nat := ((order? node).map List.length).getD 1

theorem place_of_not_mem (h : name ∉ mentioned node) : place node data name = (behind node, (dataNames data).idxOf name) := by
  unfold mentioned at h
  unfold place behind
  cases ho : order? node
  case none =>
    simp only [ho] at h ⊢
    exact if_neg h
  case some named =>
    simp only [ho] at h ⊢
    rw [mem_orderedNames, not_or] at h
    rw [if_neg h.1, if_neg, Option.map_some, Option.getD_some]
    exact fun ⟨hd, hstar, hn⟩ => h.2 ⟨hd, hstar, fun hm => h.1 ⟨hm, hn⟩⟩

theorem place_of_mem (ho : order? node = some named) (hn : name ∈ orderedNames (declaredNames node) named) :
    place node data name = placeIn (declaredNames node) named name := by
  unfold place
  simp only [ho]
  obtain h | ⟨hd, hstar, hnew⟩ := mem_orderedNames.mp hn
  · rw [if_pos h, placeIn, if_pos h.1]
  · have hne : name ≠ "*" := fun he => hnew (he ▸ hstar)
    rw [if_neg fun h => hnew h.1, if_pos ⟨hd, hstar, hne⟩, placeIn, if_neg hnew]

theorem place_lt_behind (h : name ∈ mentioned node) : (place node data name).1 < behind node := by
  unfold mentioned at h
  unfold behind
  cases ho : order? node <;> simp only [ho] at h
  case none => simp [place, ho, h]
  case some named =>
    obtain ⟨entry, he, hn⟩ := List.mem_flatMap.mp h
    rw [place_of_mem ho h, placeIn_of_mem he hn, Option.map_some, Option.getD_some]
    exact List.idxOf_lt_length_of_mem he

theorem lex_place_of_mentioned (hx : x ∈ mentioned node) (hy : y ∈ mentioned node) (h : Before (mentioned node) x y) :
    Prod.Lex (· < ·) (· < ·) (place node data x) (place node data y) := by
  unfold mentioned at hx hy h
  cases ho : order? node <;> simp only [ho] at hx hy h
  case none =>
    have hplace : ∀ name ∈ declaredNames node, place node data name = (0, (declaredNames node).idxOf name) := fun name hn => by
      simp [place, ho, hn]
    rw [hplace x hx, hplace y hy]
    exact .right _ h
  case some named =>
    rw [place_of_mem ho hx, place_of_mem ho hy]
    exact lex_placeIn hx hy h

-- What is mentioned first has the lower place.
theorem lex_place (hx : x ∈ mentioned node ++ furtherNames node data)
    (h : Before (mentioned node ++ furtherNames node data) x y) :
    Prod.Lex (· < ·) (· < ·) (place node data x) (place node data y) := by
  by_cases hxm : x ∈ mentioned node
  case pos =>
    by_cases hym : y ∈ mentioned node
    case pos => exact lex_place_of_mentioned hxm hym ((Before.append_right hxm hym).mp h)
    case neg =>
      have hlt : (place node data x).1 < behind node := place_lt_behind hxm
      rw [place_of_not_mem hym]
      exact Prod.lex_def.mpr (.inl hlt)
  case neg =>
    obtain ⟨hym, h⟩ := (before_append_of_not_mem hxm).mp h
    have hfurther : x ∈ furtherNames node data := (List.mem_append.mp hx).resolve_left hxm
    rw [place_of_not_mem hxm, place_of_not_mem hym]
    unfold furtherNames at h hfurther
    split at h
    case isTrue => exact .right _ h
    case isFalse hc => exact absurd hfurther (by simp [hc])

end Mentioned

section Controls

theorem mem_mentioned_of_declared (hd : name ∈ declaredNames node) (hn : name ≠ "*") :
    name ∈ mentioned node ↔ order? node = none ∨ ∃ named, order? node = some named ∧ (name ∈ named ∨ "*" ∈ named) := by
  unfold mentioned
  cases order? node
  case none => simp [hd]
  case some named =>
    simp only [mem_orderedNames, hd, hn, true_and, and_true, ne_eq, not_false_eq_true, reduceCtorEq, false_or, Option.some.injEq,
      exists_eq_left']
    by_cases h : name ∈ named <;> simp [h]

theorem mem_mentioned_of_not_declared (hd : name ∉ declaredNames node) :
    name ∈ mentioned node ↔ ∃ named, order? node = some named ∧ name ∈ named ∧ name ≠ "*" := by
  unfold mentioned
  cases order? node
  case none => simp [hd]
  case some named => simp [mem_orderedNames, hd]

theorem mem_furtherNames : name ∈ furtherNames node data ↔ permitsExtra node = true ∧ name ∈ dataNames data := by
  unfold furtherNames
  cases permitsExtra node <;> simp

theorem followsOrder_names : FollowsOrder node data (((propertyOrder node data).filter (admits node)).foldl addNew []) := by
  have hnames : ((propertyOrder node data).filter (admits node)).foldl addNew [] =
      ((mentioned node ++ furtherNames node data).foldl addNew []).filter (admits node) := by
    rw [← foldl_addNew_propertyOrder, ← filter_foldl_addNew, List.filter_nil]
  have hmem : ∀ name, name ∈ ((propertyOrder node data).filter (admits node)).foldl addNew [] ↔
      (name ∈ mentioned node ∨ name ∈ furtherNames node data) ∧ admits node name = true := by
    simp [hnames, mem_foldl_addNew]
  constructor
  case declared =>
    intro name hd hn
    rw [hmem, mem_mentioned_of_declared hd hn, mem_furtherNames, and_iff_left (by simp [admits, hd]), or_assoc]
  case further =>
    intro name hd
    have hadmits : admits node name = permitsExtra node := by simp [admits, hd]
    rw [hmem, mem_mentioned_of_not_declared hd, mem_furtherNames, hadmits]
    constructor
    case mp =>
      rintro ⟨h, hopen⟩
      exact ⟨hopen, h.symm.imp_left And.right⟩
    case mpr =>
      rintro ⟨hopen, h⟩
      exact ⟨h.symm.imp_right (And.intro hopen), hopen⟩
  case inOrder =>
    rw [hnames]
    refine (pairwise_before.imp_of_mem fun hx _ => lex_place ?_).filter _
    exact (mem_foldl_addNew.mp hx).resolve_left List.not_mem_nil

end Controls

end Builder

-- Wherever the control of a place is a group, the order of its schema and whether that permits more than it declares say which
-- names have controls, each of them one, and how these stand.  The control under a name may be empty, as of a repetition that has
-- no data.
theorem controls_follow_order {root schema : Json} {fillDefaults : Bool} {levels : Nat} {site : Site} {c c' : Context}
    {template : Option Template} (hs : root.at? site.schemaPointer = some schema) (hg : ControlKind.ofSchema schema = .group)
    (h : Builder.within root fillDefaults levels site c = .ok (template, c')) :
    ∃ names, template.bind Template.controlNames? = some names ∧
      Builder.FollowsOrder (Builder.schemaNode schema) (Builder.nodeData fillDefaults schema site.data) names := by
  cases levels
  case zero => contradiction
  case succ levels => exact ⟨_, Builder.controlNames?_ofNode hs hg h, Builder.followsOrder_names⟩

-- An order that names a property twice, one that is not declared, and the star in between.
def orderedSchema : Json :=
  .obj [("type", "object"), ("ui:order", .arr ["c", "extra", "*", "c"]),
    ("properties", .obj [("a", .obj [("type", "string")]), ("b", .obj []), ("c", .obj [])]), ("additionalProperties", true)]

def orderedData : Json := .obj [("nested", .obj []), ("a", "x"), ("extra", "y")]

theorem controls_follow_order_orderedSchema : ∃ template c',
    Builder.within orderedSchema false 2 ⟨"", orderedData, "", ""⟩ Context.empty = .ok (template, c') ∧
      template.bind Template.controlNames? = some ["c", "extra", "a", "b", "nested"] ∧
      Builder.FollowsOrder (Builder.schemaNode orderedSchema) orderedData ["c", "extra", "a", "b", "nested"] := by
  have hbuilt : (Builder.within orderedSchema false 2 ⟨"", orderedData, "", ""⟩ Context.empty).toOption.bind
      (·.1.bind Template.controlNames?) = some ["c", "extra", "a", "b", "nested"] := by decide
  obtain ⟨⟨template, c'⟩, hb, hn⟩ := Option.bind_eq_some_iff.mp hbuilt
  have h : Builder.within orderedSchema false 2 ⟨"", orderedData, "", ""⟩ Context.empty = .ok (template, c') := by
    cases hw : Builder.within orderedSchema false 2 ⟨"", orderedData, "", ""⟩ Context.empty <;> rw [hw] at hb
    case error => contradiction
    case ok => exact congrArg _ (Option.some.inj hb)
  obtain ⟨names, hnames, hf⟩ := controls_follow_order rfl rfl h
  obtain rfl := Option.some.inj (hnames.symm.trans hn)
  exact ⟨template, c', h, hn, hf⟩

end FormModel
