import FormModel.Proofs.Calls
import FormModel.Proofs.Reference.Visits

/-!
The calls made while references are taken away.  A call goes into the schemas inside a value, or to the schema that a reference
leads to, and each of its calls either has fewer places left that references may lead to or a smaller value.  So the calls are
finitely many, and how many levels of references are allowed makes no difference as soon as they are as many as the calls.
-/

namespace FormModel

namespace Reference

namespace Site

-- The site of the schema that a reference leads to, if it is followed.
def followed? (root : Json) (ref : String) (members : Dict Json) (s : Site) : Option Site :=
  (target? ref).bind fun target =>
    match placed? s.around target, Reference.referred root target members with
    | none, .obj merged => some (s.referred target merged)
    | _, _ => none

-- The sites of the members whose values are gone into.
def inner (members : Dict Json) (s : Site) : List Site :=
  members.filterMap fun e => if isDefinitions e.1 || isVerbatim e.1 then none else some (s.member e.1 e.2)

-- The calls that are made directly for a site, in their order.
def calls (root : Json) (s : Site) : List Site :=
  match s.node with
  | .obj members =>
    match text? members with
    | some ref => (s.followed? root ref members).toList
    | none => s.inner members
  | .arr items => items.mapIdx s.item
  | _ => []

end Site

variable {root node : Json} {members : Dict Json} {items : List Json} {s s' : Site} {ref : String} {n levels : Nat}

theorem mem_followed? (h : s' ∈ s.followed? root ref members) : ∃ target merged, target? ref = some target ∧
    placed? s.around target = none ∧ referred root target members = .obj merged ∧ s' = s.referred target merged := by
  obtain ⟨target, ht, h⟩ := Option.bind_eq_some_iff.mp h
  split at h
  case h_1 merged hp hm => exact ⟨target, merged, ht, hp, hm, (Option.some.inj h).symm⟩
  case h_2 => contradiction

theorem mem_inner : s' ∈ s.inner members ↔
    ∃ e ∈ members, isDefinitions e.1 = false ∧ isVerbatim e.1 = false ∧ s' = s.member e.1 e.2 := by
  simp only [Site.inner, List.mem_filterMap, Option.ite_none_left_eq_some, Bool.not_eq_true, Bool.or_eq_false_iff,
    Option.some.injEq, and_assoc, eq_comm (a := s')]

section Descent

-- What is left for a call: the places that references may still lead to, and then the size of the value.
def Site.left (root : Json) (s : Site) : Nat × Nat := (openTargets root s.around, s.node.size)

theorem left_lt_of_size_lt (ho : openTargets root s'.around ≤ openTargets root s.around) (hs : s'.node.size < s.node.size) :
    Prod.Lex (· < ·) (· < ·) (s'.left root) (s.left root) := Prod.Lex.right' _ ho hs

-- Following a reference uses up a place that references may lead to; going into a value makes it smaller.
theorem descends_of_mem_calls (h : RefersWithin root s.node) (hs : s' ∈ s.calls root) :
    RefersWithin root s'.node ∧ Prod.Lex (· < ·) (· < ·) (s'.left root) (s.left root) := by
  unfold Site.calls at hs
  split at hs
  case h_1 members hn =>
    rw [hn] at h
    split at hs
    case h_1 ref ht =>
      obtain ⟨target, merged, htarget, hp, hm, rfl⟩ := mem_followed? (Option.mem_toList.mp hs)
      have hmem : target ∈ targets root := h _ Json.mem_parts_self _ (by simp [referred?, Json.members?, ht, htarget])
      exact ⟨refersWithin_referred h hm, .left _ _ (openTargets_append_lt hmem hp)⟩
    case h_2 =>
      obtain ⟨e, he, _, _, rfl⟩ := mem_inner.mp hs
      have hsize : e.2.size < s.node.size := hn ▸ Nat.lt_succ_of_le (Json.size_le_sizeMembers he)
      refine ⟨h.of_subset fun v hv => ?_, left_lt_of_size_lt openTargets_append_le hsize⟩
      exact List.mem_cons_of_mem _ (Json.mem_partsOfMembers_iff.mpr ⟨e, he, hv⟩)
  case h_2 items hn =>
    rw [hn] at h
    obtain ⟨i, hi, rfl⟩ := List.mem_mapIdx.mp hs
    have hmem := List.getElem_mem hi
    have hsize : items[i].size < s.node.size := hn ▸ Nat.lt_succ_of_le (Json.size_le_sizeItems hmem)
    refine ⟨h.of_subset fun v hv => ?_, left_lt_of_size_lt (Nat.le_refl _) hsize⟩
    exact List.mem_cons_of_mem _ (Json.mem_partsOfItems_iff.mpr ⟨_, hmem, hv⟩)
  case h_3 => contradiction

theorem acc_calls (s : Site) (h : RefersWithin root s.node) : Acc (fun s' s => s' ∈ s.calls root) s :=
  .intro s fun s' hs' => acc_calls s' (descends_of_mem_calls h hs').1
termination_by s.left root
decreasing_by exact (descends_of_mem_calls h hs').2

end Descent

section Levels

variable {α β : Type} {m m' : Inliner α} {f f' : α → Inliner β}
  {expand expand' : Json → String → String → List Enclosing → Inliner Json}
  {source location : String} {around : List Enclosing}

-- Whether what comes out of one piece of the way comes out of another one, whatever is known before.
def KeepsAll (m m' : Inliner α) : Prop := ∀ refs, Keeps (m refs) (m' refs)

theorem KeepsAll.refl : KeepsAll m m := fun _ => .refl

theorem KeepsAll.bind (h : KeepsAll m m') (hf : ∀ a, KeepsAll (f a) (f' a)) : KeepsAll (m >>= f) (m' >>= f') :=
  fun refs => (h refs).bind fun r => hf r.1 r.2

theorem Ends.keeps (h : Ends m) (hk : KeepsAll m m') : Ends m' := fun refs =>
  have ⟨r, hr⟩ := h refs
  ⟨r, hk refs r hr⟩

-- Whether what comes out where a reference is followed comes out for other levels too.
def KeepsBelow (expand expand' : Json → String → String → List Enclosing → Inliner Json) : Prop :=
  ∀ {node source location around}, KeepsAll (expand node source location around) (expand' node source location around)

theorem keeps_inlineReference (he : KeepsBelow expand expand') :
    KeepsAll (inlineReference root expand ref members location around)
      (inlineReference root expand' ref members location around) := by
  unfold inlineReference
  split
  case h_1 => exact .refl
  case h_2 =>
    split
    case h_1 => exact .refl
    case h_2 =>
      split
      case h_1 => exact he
      case h_2 => exact .refl

mutual
theorem keeps_inlineNode (he : KeepsBelow expand expand') : (node : Json) → {source location : String} →
    {around : List Enclosing} →
    KeepsAll (inlineNode root expand node source location around) (inlineNode root expand' node source location around)
  | .obj members, _, _, _ => by
    unfold inlineNode
    split
    case h_1 => exact keeps_inlineReference he
    case h_2 => exact (keeps_inlineMembers he members).bind fun _ => .refl
  | .arr items, _, _, _ => by
    unfold inlineNode
    exact (keeps_inlineItems he items).bind fun _ => .refl
  | .null, _, _, _ | .bool _, _, _, _ | .num _, _, _, _ | .str _, _, _, _ => .refl

theorem keeps_inlineMembers (he : KeepsBelow expand expand') : (members : List (String × Json)) → {source location : String} →
    {around : List Enclosing} →
    KeepsAll (inlineMembers root expand members source location around)
      (inlineMembers root expand' members source location around)
  | [], _, _, _ => .refl
  | (key, value) :: rest, _, _, _ => by
    unfold inlineMembers
    split
    case isTrue => exact keeps_inlineMembers he rest
    case isFalse =>
      split
      case isTrue => exact KeepsAll.refl.bind fun _ => (keeps_inlineMembers he rest).bind fun _ => .refl
      case isFalse => exact (keeps_inlineNode he value).bind fun _ => (keeps_inlineMembers he rest).bind fun _ => .refl

theorem keeps_inlineItems (he : KeepsBelow expand expand') {i : Nat} : (items : List Json) → {source location : String} →
    {around : List Enclosing} →
    KeepsAll (inlineItems root expand i items source location around) (inlineItems root expand' i items source location around)
  | [], _, _, _ => .refl
  | item :: rest, _, _, _ => by
    unfold inlineItems
    exact (keeps_inlineNode he item).bind fun _ => (keeps_inlineItems he rest).bind fun _ => .refl
end

-- More levels of references make no difference to what comes out.
theorem keepsBelow_inline_succ : KeepsBelow (inline root levels) (inline root (levels + 1)) := by
  induction levels
  case zero => exact fun _ _ h => nomatch h
  case succ levels hi => exact fun {node _ _ _} => keeps_inlineNode hi node

theorem keepsBelow_inline_add (extra : Nat) : KeepsBelow (inline root levels) (inline root (levels + extra)) := by
  induction extra
  case zero => exact .refl
  case succ extra hi => exact fun refs r h => keepsBelow_inline_succ refs r (hi refs r h)

-- Whether going through a site comes to an end with so many levels.
def EndsIn (root : Json) (levels : Nat) (s : Site) : Prop :=
  Ends (inline root levels s.node s.source (Pointer.ofPath s.place) s.around)

theorem EndsIn.succ (h : EndsIn root levels s) : EndsIn root (levels + 1) s := h.keeps keepsBelow_inline_succ

theorem EndsIn.add (extra : Nat) (h : EndsIn root levels s) : EndsIn root (levels + extra) s :=
  h.keeps (keepsBelow_inline_add extra)

theorem ends_followed (h : ∀ s' ∈ s.followed? root ref members, EndsIn root levels s') :
    Ends (inlineReference root (inline root levels) ref members (Pointer.ofPath s.place) s.around) := by
  unfold inlineReference
  split
  case h_1 => exact .pure
  case h_2 target htarget =>
    split
    case h_1 => exact Ends.bind (fun refs => ⟨_, rfl⟩) fun _ => .pure
    case h_2 hp =>
      split
      case h_1 merged hm => exact h (s.referred target merged) (by simp [Site.followed?, htarget, hp, hm])
      case h_2 => exact .pure

-- A call comes to an end with one more level than the calls it makes.
theorem endsIn_of_calls (h : ∀ s' ∈ s.calls root, EndsIn root levels s') : EndsIn root (levels + 1) s := by
  unfold Site.calls at h
  unfold EndsIn inline
  cases hn : s.node
  case obj members =>
    simp only [hn] at h
    unfold inlineNode
    cases ht : text? members
    case none =>
      simp only [ht] at h
      refine (ends_inlineMembers fun e he hd hv => ?_).bind fun _ => .pure
      have hmember : EndsIn root (levels + 1) (s.member e.1 e.2) := (h _ (mem_inner.mpr ⟨e, he, hd, hv, rfl⟩)).succ
      rwa [EndsIn, Site.member, Pointer.ofPath_concat] at hmember
    case some ref =>
      simp only [ht] at h
      exact ends_followed fun s' hs' => h s' (Option.mem_toList.mpr hs')
  case arr items =>
    simp only [hn] at h
    unfold inlineNode
    refine (ends_inlineItems fun k hk => ?_).bind fun _ => .pure
    have hitem : EndsIn root (levels + 1) (s.item k items[k]) := (h _ (List.mem_mapIdx.mpr ⟨k, hk, rfl⟩)).succ
    rw [Nat.zero_add]
    rwa [EndsIn, Site.item, Pointer.ofPath_concat_item] at hitem
  all_goals exact .pure

-- As many levels as calls are enough.
theorem endsIn_of_takes (h : Takes (Site.calls root) s n) : EndsIn root n s :=
  h.holds (P := EndsIn root) (fun _ extra _ => EndsIn.add extra) fun _ _ => endsIn_of_calls

end Levels

end Reference

-- Taking references away takes finitely many calls, wherever the references of a schema lead, and it comes to an end.  How
-- many levels of references are allowed makes no difference: with as many as there are calls, or more, the same comes out.
theorem references_end (c : Context) (schema : Json) : ∃ n compiled c',
    Takes (Reference.Site.calls schema) (Reference.start schema) n ∧ c.resolve? schema = some (compiled, c') ∧
      ∀ extra, (Reference.inline schema (n + extra) schema "" "" []).run c.schemaRefs = some (compiled, c'.schemaRefs) := by
  have ⟨n, hn⟩ := exists_takes (Reference.acc_calls (Reference.start schema) Reference.refersWithin_root)
  have ⟨compiled, c', hr⟩ := c.exists_resolve? schema
  refine ⟨n, compiled, c', hn, hr, fun extra => ?_⟩
  have ⟨r, he⟩ := (Reference.endsIn_of_takes hn).add extra c.schemaRefs
  -- With both limits together the same comes out as with each of them.
  have hboth := Reference.keepsBelow_inline_add (Reference.enoughLevels schema) _ _ he
  have henough := Reference.keepsBelow_inline_add (n + extra) _ _ (Context.run_inline_of_resolve? hr)
  rw [Nat.add_comm] at henough
  exact he.trans (hboth.symm.trans henough)

end FormModel
