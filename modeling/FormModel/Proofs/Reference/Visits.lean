import FormModel.Proofs.Pointer.Path
import FormModel.Proofs.Reference.Ends
import FormModel.Proofs.Reference.Members
import Mathlib.Logic.Relation

/-!
The way through a schema on which references are taken away.  It goes into members and items, and from a reference
to the schema that it leads to, which is placed where the reference stood.
-/

namespace FormModel

namespace Reference

-- A value on the way: where it comes from, where it is placed, and what is around it.
structure Site where
  node : Json
  source : String
  place : Path
  around : List Enclosing

namespace Site

-- Where a schema is come from and placed, for the ones inside it.
def enclosing (s : Site) : Enclosing := ⟨s.source, Pointer.ofPath s.place⟩

-- The site of the value of a member.
def member (s : Site) (key : String) (value : Json) : Site :=
  ⟨value, Pointer.child s.source key, s.place ++ [.member key], s.around ++ [s.enclosing]⟩

-- The site of an item.
def item (s : Site) (i : Nat) (value : Json) : Site :=
  ⟨value, s.source ++ "/" ++ toString i, s.place ++ [.item i], s.around⟩

-- The site of a schema placed where a reference to it stood.
def referred (s : Site) (target : String) (merged : Dict Json) : Site :=
  ⟨.obj merged, target, s.place, s.around ++ [⟨target, Pointer.ofPath s.place⟩]⟩

-- Whether a site holds a reference to what is around it, which has been placed at `ancestor`.
def Repeats (s : Site) (ancestor : String) : Prop :=
  ∃ members ref target, s.node = .obj members ∧ text? members = some ref ∧ target? ref = some target ∧
    placed? s.around target = some ancestor

end Site

-- One step on the way.
inductive Step (root : Json) (s : Site) : Site → Prop where
  | member {members : Dict Json} {key : String} {value : Json} (hn : s.node = .obj members) (ht : text? members = none)
    (hk : isDefinitions key = false) (hv : isVerbatim key = false) (hm : members.get? key = some value) :
    Step root s (s.member key value)
  | item {items : List Json} {i : Nat} {value : Json} (hn : s.node = .arr items) (hi : items[i]? = some value) :
    Step root s (s.item i value)
  | follow {members merged : Dict Json} {ref target : String} (hn : s.node = .obj members) (ht : text? members = some ref)
    (htarget : target? ref = some target) (hp : placed? s.around target = none)
    (hr : Reference.referred root target members = .obj merged) : Step root s (s.referred target merged)

-- Whether the way from one site comes to another.
abbrev Visits (root : Json) : Site → Site → Prop := Relation.ReflTransGen (Step root)

-- Where the way starts.
def start (root : Json) : Site := ⟨root, "", [], []⟩

variable {root node : Json} {s s' : Site} {ancestor : String} {refs refs' refs₁ : RecursionMap}

theorem Step.prefix_place (h : Step root s s') : s.place <+: s'.place := by
  cases h
  case member | item => exact List.prefix_append ..
  case follow => exact List.prefix_rfl

theorem Visits.prefix_place (h : Visits root s s') : s.place <+: s'.place := by
  induction h
  case refl => exact List.prefix_rfl
  case tail _ hs hi => exact hi.trans hs.prefix_place

section Distinct

variable {members merged : Dict Json} {target : String}

theorem distinct_of_getTokens? {tokens : Tokens} {v : Json} (hd : node.Distinct) (h : node.getTokens? tokens = some v) :
    v.Distinct := by
  induction tokens generalizing node
  case nil => exact Option.some.inj h ▸ hd
  case cons token tokens hi =>
    obtain ⟨u, hu, h⟩ := Option.bind_eq_some_iff.mp h
    obtain ⟨_, _, hu⟩ := Option.bind_eq_some_iff.mp hu
    exact hi (hd.atSlot hu) h

-- The schema put in place of a reference has one member of each name, as the one referred to has.
theorem distinct_referred (hr : root.Distinct) (hd : (Json.obj members).Distinct)
    (h : referred root target members = .obj merged) : (Json.obj merged).Distinct := by
  obtain ⟨schema, rfl, hs⟩ := exists_of_referred h
  have hs : (Json.obj schema).Distinct := by
    rcases hs with ⟨tokens, hs⟩ | rfl
    case inl => exact distinct_of_getTokens? hr hs
    case inr => exact ⟨List.nodup_nil, trivial⟩
  refine ⟨Dict.nodup_keys_extend hs.1, Json.distinctMembers_iff.mpr fun e he => ?_⟩
  rcases Dict.mem_extend he with he | he
  case inl => exact Json.distinctMembers_iff.mp hs.2 e he
  case inr => exact Json.distinctMembers_iff.mp hd.2 e (List.mem_of_mem_filter he)

theorem Step.distinct (h : Step root s s') (hr : root.Distinct) (hd : s.node.Distinct) : s'.node.Distinct := by
  cases h
  case member hn _ _ _ hm =>
    rw [hn] at hd
    exact Json.distinctMembers_iff.mp hd.2 _ (Dict.mem_of_get? hm)
  case item hn hi =>
    rw [hn] at hd
    exact Json.distinctItems_iff.mp hd _ (List.mem_of_getElem? hi)
  case follow hn _ _ _ hm =>
    rw [hn] at hd
    exact distinct_referred hr hd hm

theorem Visits.distinct (h : Visits root s s') (hr : root.Distinct) (hd : s.node.Distinct) : s'.node.Distinct := by
  induction h
  case refl => exact hd
  case tail _ hs hi => exact hs.distinct hr hi

end Distinct

section Notes

-- What has been noted on a way through some sites: nothing is lost, and what is new has been noted at a repetition.
structure Notes (visited : Site → Prop) (refs refs' : RecursionMap) : Prop where
  kept : ∀ location, refs.has location = true → refs'.has location = true
  noted : ∀ location ancestor, refs'.get? location = some ancestor → refs.get? location = some ancestor ∨
    ∃ s, visited s ∧ s.Repeats ancestor ∧ Pointer.ofPath s.place = location

variable {visited visited' : Site → Prop}

theorem Notes.refl : Notes visited refs refs := ⟨fun _ => id, fun _ _ => .inl⟩

theorem Notes.trans (h : Notes visited refs refs₁) (h' : Notes visited refs₁ refs') : Notes visited refs refs' where
  kept location hl := h'.kept location (h.kept location hl)
  noted location ancestor hl := (h'.noted location ancestor hl).elim (h.noted location ancestor) .inr

theorem Notes.mono (h : Notes visited refs refs') (hv : ∀ s, visited s → visited' s) : Notes visited' refs refs' where
  kept := h.kept
  noted location ancestor hl := (h.noted location ancestor hl).imp_right fun ⟨s, hs, hr⟩ => ⟨s, hv s hs, hr⟩

theorem notes_insert (hr : s.Repeats ancestor) (hv : visited s) :
    Notes visited refs (Dict.insert refs (Pointer.ofPath s.place) ancestor) where
  kept location hl := by
    rw [Dict.has, Dict.get?_insert]
    split
    case isTrue => rfl
    case isFalse => exact hl
  noted location ancestor' hl := by
    rw [Dict.get?_insert] at hl
    split at hl
    case isTrue he => exact .inr ⟨s, hv, Option.some.inj hl ▸ hr, he⟩
    case isFalse => exact .inl hl

variable {expand : Json → String → String → List Enclosing → Inliner Json} {out : Json} {members : Dict Json} {ref : String}

-- Whether what is noted where a reference is followed is noted on the way from there.
def NotesBelow (root : Json) (expand : Json → String → String → List Enclosing → Inliner Json) : Prop :=
  ∀ {merged target place around out refs refs'}, (Json.obj merged).Distinct →
    expand (.obj merged) target (Pointer.ofPath place) around refs = some (out, refs') →
    Notes (Visits root ⟨.obj merged, target, place, around⟩) refs refs'

theorem notes_inlineReference (hr : root.Distinct) (he : NotesBelow root expand) (hn : s.node = .obj members)
    (hd : (Json.obj members).Distinct) (ht : text? members = some ref)
    (h : inlineReference root expand ref members (Pointer.ofPath s.place) s.around refs = some (out, refs')) :
    Notes (Visits root s) refs refs' := by
  cases htarget : target? ref
  case none =>
    simp only [inlineReference, htarget] at h
    cases h
    exact .refl
  case some target =>
    cases hp : placed? s.around target
    case some ancestor =>
      simp only [inlineReference, htarget, hp] at h
      cases h
      exact notes_insert ⟨members, ref, target, hn, ht, htarget, hp⟩ .refl
    case none =>
      simp only [inlineReference, htarget, hp] at h
      cases hmerged : referred root target members
      case obj merged =>
        simp only [hmerged] at h
        exact (he (distinct_referred hr hd hmerged) h).mono fun _ => .head (.follow hn ht htarget hp hmerged)
      all_goals
        simp only [hmerged] at h
        cases h
        exact .refl

mutual
theorem notes_inlineNode (hr : root.Distinct) (he : NotesBelow root expand) : (node : Json) → {source : String} →
    {place : Path} → {around : List Enclosing} → {out : Json} → {refs refs' : RecursionMap} → node.Distinct →
    inlineNode root expand node source (Pointer.ofPath place) around refs = some (out, refs') →
    Notes (Visits root ⟨node, source, place, around⟩) refs refs'
  | .obj members, source, place, around, out, refs, refs', hd, h => by
    cases ht : text? members
    case some ref =>
      simp only [inlineNode, ht] at h
      exact notes_inlineReference (s := ⟨.obj members, source, place, around⟩) hr he rfl hd ht h
    case none =>
      simp only [inlineNode, ht] at h
      obtain ⟨members', _, hm, h⟩ := bind_eq_some.mp h
      cases h
      refine notes_inlineMembers hr he members hd.2 (fun e hmem hk hv s' => .head ?_) hm
      exact Step.member (s := ⟨.obj members, source, place, around⟩) rfl ht hk hv (Dict.get?_of_mem hd.1 hmem)
  | .arr items, source, place, around, out, refs, refs', hd, h => by
    rw [inlineNode] at h
    obtain ⟨items', _, hi, h⟩ := bind_eq_some.mp h
    cases h
    refine notes_inlineItems hr he items hd (fun i value hi s' => .head ?_) hi
    exact Step.item (s := ⟨.arr items, source, place, around⟩) rfl (by simpa using hi)
  | .null, _, _, _, _, _, _, _, h | .bool _, _, _, _, _, _, _, _, h | .num _, _, _, _, _, _, _, _, h
  | .str _, _, _, _, _, _, _, _, h => by
    cases h
    exact .refl

theorem notes_inlineMembers (hr : root.Distinct) (he : NotesBelow root expand) : (members : List (String × Json)) →
    {source : String} → {place : Path} → {around : List Enclosing} → {members' : List (String × Json)} →
    {refs refs' : RecursionMap} → {visited : Site → Prop} → Json.DistinctMembers members →
    (∀ e ∈ members, isDefinitions e.1 = false → isVerbatim e.1 = false → ∀ s',
      Visits root ⟨e.2, Pointer.child source e.1, place ++ [.member e.1], around⟩ s' → visited s') →
    inlineMembers root expand members source (Pointer.ofPath place) around refs = some (members', refs') →
    Notes visited refs refs'
  | [], _, _, _, _, _, _, _, _, _, h => by
    cases h
    exact .refl
  | (key, value) :: rest, source, place, around, members', refs, refs', visited, hd, hv, h => by
    have ⟨hvalue, hv⟩ := List.forall_mem_cons.mp hv
    rw [inlineMembers] at h
    cases hk : isDefinitions key
    case true =>
      rw [if_pos hk] at h
      exact notes_inlineMembers hr he rest hd.2 hv h
    case false =>
      simp only [hk, Bool.false_eq_true, if_false] at h
      cases hver : isVerbatim key
      case true =>
        simp only [hver, if_true, pure_bind] at h
        obtain ⟨rest', _, hrest, h⟩ := bind_eq_some.mp h
        cases h
        exact notes_inlineMembers hr he rest hd.2 hv hrest
      case false =>
        simp only [hver, Bool.false_eq_true, if_false] at h
        obtain ⟨value', _, hn, h⟩ := bind_eq_some.mp h
        obtain ⟨rest', _, hrest, h⟩ := bind_eq_some.mp h
        cases h
        rw [← Pointer.ofPath_concat] at hn
        exact ((notes_inlineNode hr he value hd.1 hn).mono (hvalue hk hver)).trans (notes_inlineMembers hr he rest hd.2 hv hrest)

theorem notes_inlineItems (hr : root.Distinct) (he : NotesBelow root expand) {n : Nat} : (items : List Json) →
    {source : String} → {place : Path} → {around : List Enclosing} → {items' : List Json} →
    {refs refs' : RecursionMap} → {visited : Site → Prop} → Json.DistinctItems items →
    (∀ i value, items[i]? = some value → ∀ s',
      Visits root ⟨value, source ++ "/" ++ toString (n + i), place ++ [.item (n + i)], around⟩ s' → visited s') →
    inlineItems root expand n items source (Pointer.ofPath place) around refs = some (items', refs') →
    Notes visited refs refs'
  | [], _, _, _, _, _, _, _, _, _, h => by
    cases h
    exact .refl
  | item :: rest, source, place, around, items', refs, refs', visited, hd, hv, h => by
    rw [inlineItems] at h
    obtain ⟨item', _, hn, h⟩ := bind_eq_some.mp h
    obtain ⟨rest', _, hrest, h⟩ := bind_eq_some.mp h
    cases h
    rw [← Pointer.ofPath_concat_item] at hn
    refine ((notes_inlineNode hr he item hd.1 hn).mono (hv 0 item rfl)).trans (notes_inlineItems hr he rest hd.2 ?_ hrest)
    intro i value hi
    have hv := hv (i + 1) value hi
    rwa [Nat.add_comm i 1, ← Nat.add_assoc] at hv
end

theorem notesBelow_inline (hr : root.Distinct) (levels : Nat) : NotesBelow root (inline root levels) := by
  induction levels
  case zero =>
    intro _ _ _ _ _ _ _ _ h
    exact nomatch h
  case succ levels hi =>
    intro _ _ _ _ _ _ _ hd h
    exact notes_inlineNode hr hi _ hd h

end Notes

section Becomes

variable {expand : Json → String → String → List Enclosing → Inliner Json} {out value : Json} {noted : RecursionMap}
  {members members' : Dict Json} {items items' : List Json} {source key : String} {place : Path} {around : List Enclosing}
  {ref target : String} {i n : Nat}

-- What is left of a member is in what is left of the members, and what is noted there is kept.
theorem exists_inlineMember (hr : root.Distinct) (he : NotesBelow root expand) (hd : Json.DistinctMembers members)
    (hk : isDefinitions key = false) (hv : isVerbatim key = false) (hm : members.get? key = some value)
    (h : inlineMembers root expand members source (Pointer.ofPath place) around refs = some (members', refs')) :
    ∃ value' refs₁ refs₁', Dict.get? members' key = some value' ∧ (∀ l, Dict.has refs₁' l = true → Dict.has refs' l = true) ∧
      inlineNode root expand value (Pointer.child source key) (Pointer.ofPath (place ++ [.member key])) around refs₁ =
        some (value', refs₁') := by
  induction members generalizing members' refs
  case nil => contradiction
  case cons e rest hi =>
    obtain ⟨key', value'⟩ := e
    rw [inlineMembers] at h
    cases hk' : isDefinitions key'
    case true =>
      rw [if_pos hk'] at h
      have hne : key' ≠ key := fun heq => by simp [← heq, hk'] at hk
      rw [Dict.get?, if_neg hne] at hm
      exact hi hd.2 hm h
    case false =>
      simp only [hk', Bool.false_eq_true, if_false] at h
      cases hv' : isVerbatim key'
      case true =>
        simp only [hv', if_true, pure_bind] at h
        obtain ⟨rest', _, hrest, h⟩ := bind_eq_some.mp h
        cases h
        have hne : key' ≠ key := fun heq => by simp [← heq, hv'] at hv
        rw [Dict.get?, if_neg hne] at hm ⊢
        exact hi hd.2 hm hrest
      case false =>
        simp only [hv', Bool.false_eq_true, if_false] at h
        obtain ⟨out, refs₁, hn, h⟩ := bind_eq_some.mp h
        obtain ⟨rest', _, hrest, h⟩ := bind_eq_some.mp h
        cases h
        by_cases heq : key' = key
        case pos =>
          subst heq
          rw [Dict.get?, if_pos rfl] at hm ⊢
          obtain rfl := Option.some.inj hm
          rw [← Pointer.ofPath_concat] at hn
          have hrest : Notes (fun _ => True) refs₁ refs' :=
            notes_inlineMembers hr he rest hd.2 (fun _ _ _ _ _ _ => trivial) hrest
          exact ⟨out, _, refs₁, rfl, hrest.kept, hn⟩
        case neg =>
          rw [Dict.get?, if_neg heq] at hm ⊢
          exact hi hd.2 hm hrest

theorem exists_inlineItem (hr : root.Distinct) (he : NotesBelow root expand) (hd : Json.DistinctItems items)
    (hi : items[i]? = some value)
    (h : inlineItems root expand n items source (Pointer.ofPath place) around refs = some (items', refs')) :
    ∃ value' refs₁ refs₁', items'[i]? = some value' ∧ (∀ l, Dict.has refs₁' l = true → Dict.has refs' l = true) ∧
      inlineNode root expand value (source ++ "/" ++ toString (n + i)) (Pointer.ofPath (place ++ [.item (n + i)])) around refs₁ =
        some (value', refs₁') := by
  induction items generalizing items' refs n i
  case nil => contradiction
  case cons item rest hind =>
    rw [inlineItems] at h
    obtain ⟨out, refs₁, hn, h⟩ := bind_eq_some.mp h
    obtain ⟨rest', _, hrest, h⟩ := bind_eq_some.mp h
    cases h
    cases i
    case zero =>
      obtain rfl := Option.some.inj hi
      rw [← Pointer.ofPath_concat_item] at hn
      have hrest : Notes (fun _ => True) refs₁ refs' := notes_inlineItems hr he rest hd.2 (fun _ _ _ _ _ => trivial) hrest
      exact ⟨out, _, refs₁, rfl, hrest.kept, hn⟩
    case succ i =>
      have hnext := hind hd.2 (by simpa using hi) hrest
      rwa [Nat.add_assoc, Nat.add_comm 1 i] at hnext

-- A site becomes `out`, and what is noted meanwhile is kept in the end.
def Becomes (root : Json) (s : Site) (out : Json) (noted : RecursionMap) : Prop :=
  ∃ levels refs refs', (∀ l, Dict.has refs' l = true → noted.has l = true) ∧
    inlineNode root (inline root levels) s.node s.source (Pointer.ofPath s.place) s.around refs = some (out, refs')

theorem Becomes.repeats (h : Becomes root s out noted) (hr : s.Repeats ancestor) :
    out = .obj [("$ref", .str ("#" ++ ancestor))] ∧ noted.has (Pointer.ofPath s.place) = true := by
  obtain ⟨levels, refs, refs', hk, h⟩ := h
  obtain ⟨members, ref, target, hn, ht, htarget, hp⟩ := hr
  simp only [hn, inlineNode, ht, inlineReference, htarget, hp] at h
  cases h
  exact ⟨rfl, hk _ (by simp [Dict.has, Dict.get?_insert])⟩

-- What the next site becomes stands in what this one becomes.
theorem Becomes.step (hr : root.Distinct) (hd : s.node.Distinct) (h : Becomes root s out noted) (hs : Step root s s') :
    ∃ q out', s'.place = s.place ++ q ∧ out.follow? q = some out' ∧ Becomes root s' out' noted := by
  obtain ⟨levels, refs, refs', hkept, h⟩ := h
  cases hs
  case member members key value hn ht hk hv hm =>
    rw [hn] at h hd
    simp only [inlineNode, ht] at h
    obtain ⟨members', _, hmembers, h⟩ := bind_eq_some.mp h
    cases h
    obtain ⟨value', refs₁, refs₁', hg, hk', hvalue⟩ := exists_inlineMember hr (notesBelow_inline hr levels) hd.2 hk hv hm hmembers
    exact ⟨[.member key], value', rfl, by simp [Json.atSlot?, hg], levels, refs₁, refs₁', fun l hl => hkept l (hk' l hl), hvalue⟩
  case item items i value hn hi =>
    rw [hn] at h hd
    rw [inlineNode] at h
    obtain ⟨items', _, hitems, h⟩ := bind_eq_some.mp h
    cases h
    obtain ⟨value', refs₁, refs₁', hg, hk', hvalue⟩ := exists_inlineItem hr (notesBelow_inline hr levels) hd hi hitems
    rw [Nat.zero_add] at hvalue
    exact ⟨[.item i], value', rfl, by simp [Json.atSlot?, hg], levels, refs₁, refs₁', fun l hl => hkept l (hk' l hl), hvalue⟩
  case follow members merged ref target hn ht htarget hp hmerged =>
    rw [hn] at h
    simp only [inlineNode, ht, inlineReference, htarget, hp, hmerged] at h
    cases levels
    case zero => exact nomatch h
    case succ levels => exact ⟨[], out, (List.append_nil _).symm, rfl, levels, refs, refs', hkept, h⟩

theorem Becomes.visits (hr : root.Distinct) (hd : s.node.Distinct) (h : Becomes root s out noted) (hv : Visits root s s') :
    ∃ q out', s'.place = s.place ++ q ∧ out.follow? q = some out' ∧ Becomes root s' out' noted := by
  induction hv
  case refl => exact ⟨[], out, (List.append_nil _).symm, rfl, h⟩
  case tail s₁ s' hv hs hi =>
    obtain ⟨q, out₁, hq, hf, h₁⟩ := hi
    obtain ⟨q', out', hq', hf', h'⟩ := h₁.step hr (Visits.distinct hv hr hd) hs
    exact ⟨q ++ q', out', by rw [hq', hq, List.append_assoc], by rw [Json.follow?_append, hf]; exact hf', h'⟩

end Becomes

section Record

variable {location : String} {c c' c'' : Context}

-- Contexts in which the same is known but for places of the data that repeat others or are arrays.
structure SameBeside (c c' : Context) : Prop where
  options : c'.options = c.options
  library : c'.library = c.library
  schemaRefs : c'.schemaRefs = c.schemaRefs

theorem SameBeside.refl : SameBeside c c := ⟨rfl, rfl, rfl⟩

theorem SameBeside.trans (h : SameBeside c c') (h' : SameBeside c' c'') : SameBeside c c'' :=
  ⟨h'.options.trans h.options, h'.library.trans h.library, h'.schemaRefs.trans h.schemaRefs⟩

theorem sameBeside_recordReference {ref : String} : SameBeside c (recordReference root ref location c) := by
  unfold recordReference
  dsimp only
  split
  case h_1 => exact ⟨rfl, rfl, rfl⟩
  case h_2 => exact .refl

theorem sameBeside_recordArray {members : Dict Json} : SameBeside c (recordArray root members location c) := by
  unfold recordArray
  repeat' split
  all_goals exact ⟨rfl, rfl, rfl⟩

mutual
-- Noting what is left of a schema adds no repetitions to those of the schema.
theorem sameBeside_recordNode : (node : Json) → {location : String} → {c : Context} →
    SameBeside c (recordNode root node location c)
  | .obj members, location, c => by
    rw [recordNode]
    split
    case h_1 => exact sameBeside_recordReference
    case h_2 =>
      refine (@sameBeside_recordArray root location c members).trans ?_
      generalize recordArray root members location c = c
      induction recordedKeywords generalizing c
      case nil => exact .refl
      case cons key keys hi => exact (sameBeside_recordKeyword members).trans (hi _)
  | .arr _, _, _ | .null, _, _ | .bool _, _, _ | .num _, _, _ | .str _, _, _ => .refl

theorem sameBeside_recordKeyword {keyword : String} : (members : List (String × Json)) → {location : String} → {c : Context} →
    SameBeside c (recordKeyword root keyword members location c)
  | [], _, _ => .refl
  | (key, .obj members) :: rest, _, _ => by
    rw [recordKeyword]
    repeat' split
    · exact sameBeside_recordProperties members
    · exact .refl
    · exact sameBeside_recordNode (.obj members)
    · exact sameBeside_recordKeyword rest
  | (key, .arr items) :: rest, _, _ => by
    rw [recordKeyword]
    repeat' split
    · exact sameBeside_recordItems items
    · exact .refl
    · exact sameBeside_recordKeyword rest
  | (key, .null) :: rest, _, _ | (key, .bool _) :: rest, _, _ | (key, .num _) :: rest, _, _ | (key, .str _) :: rest, _, _ => by
    simp only [recordKeyword]
    split
    · exact .refl
    · exact sameBeside_recordKeyword rest

theorem sameBeside_recordProperties : (members : List (String × Json)) → {location : String} → {c : Context} →
    SameBeside c (recordProperties root members location c)
  | [], _, _ => .refl
  | (_, schema) :: rest, _, _ => (sameBeside_recordNode schema).trans (sameBeside_recordProperties rest)

theorem sameBeside_recordItems {i : Nat} : (items : List Json) → {location : String} → {c : Context} →
    SameBeside c (recordItems root i items location c)
  | [], _, _ => .refl
  | schema :: rest, _, _ => (sameBeside_recordNode schema).trans (sameBeside_recordItems rest)
end

end Record

end Reference

-- What a schema becomes and what is noted of it meanwhile come from the same run.
theorem Context.run_inline_of_resolve? {c c' : Context} {schema compiled : Json} (h : c.resolve? schema = some (compiled, c')) :
    (Reference.inline schema (Reference.enoughLevels schema) schema "" "" []).run c.schemaRefs =
      some (compiled, c'.schemaRefs) := by
  obtain ⟨⟨out, refs⟩, hi, h⟩ := Option.bind_eq_some_iff.mp h
  obtain ⟨rfl, rfl⟩ := Prod.mk.inj (Option.some.inj h)
  rw [hi, (Reference.sameBeside_recordNode out).schemaRefs]

-- Taking references away writes to the maps only.
theorem Context.sameBeside_of_resolve? {c c' : Context} {schema compiled : Json} (h : c.resolve? schema = some (compiled, c')) :
    ∃ schemaRefs, Reference.SameBeside { c with schemaRefs } c' := by
  obtain ⟨⟨out, refs⟩, _, h⟩ := Option.bind_eq_some_iff.mp h
  obtain ⟨rfl, rfl⟩ := Prod.mk.inj (Option.some.inj h)
  exact ⟨refs, Reference.sameBeside_recordNode out⟩

theorem Context.library_of_resolve? {c c' : Context} {schema compiled : Json} (h : c.resolve? schema = some (compiled, c')) :
    c'.library = c.library := by
  have ⟨_, hs⟩ := Context.sameBeside_of_resolve? h
  exact hs.library

theorem Context.options_of_resolve? {c c' : Context} {schema compiled : Json} (h : c.resolve? schema = some (compiled, c')) :
    c'.options = c.options := by
  have ⟨_, hs⟩ := Context.sameBeside_of_resolve? h
  exact hs.options

-- What a schema becomes is found by going through it, and what is noted of it is noted on the way.
theorem Context.exists_resolve?_visits {schema : Json} (hd : schema.Distinct) :
    ∃ compiled c, Context.empty.resolve? schema = some (compiled, c) ∧
      Reference.Becomes schema (Reference.start schema) compiled c.schemaRefs ∧
      Reference.Notes (Reference.Visits schema (Reference.start schema)) [] c.schemaRefs := by
  have ⟨compiled, c, hr⟩ := Context.empty.exists_resolve? schema
  have hi := Context.run_inline_of_resolve? hr
  exact ⟨compiled, c, hr, ⟨schema.size + 1, [], c.schemaRefs, fun _ => id, hi⟩,
    Reference.notes_inlineNode hd (Reference.notesBelow_inline hd _) schema hd hi⟩

end FormModel
