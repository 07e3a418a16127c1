import FormModel.Proofs.Build.Program
import FormModel.Proofs.Reference.Visits

/-!
The library while a form is built.  Building is taken apart into moments, between which one thing is done to the
context at a time, with the calls that are not finished yet.  At every moment the entries that are being built are
those of the calls that have made them and are not finished, so that none is left when a request has been
answered; and what is ready stays as it is.
-/

namespace FormModel

namespace Context

variable {c c' c'' : Context} {key : String} {keys : List String} {entry : LibraryEntry} {e : Option LibraryEntry}

-- The entries that are being built are those under the keys given, each of them once.
structure Opened (c : Context) (keys : List String) : Prop where
  nodup : keys.Nodup
  building : ∀ {key}, Dict.get? c.library key = some .building ↔ key ∈ keys

-- What is ready in the library stays as it is.
def KeepsReady (c c' : Context) : Prop :=
  ∀ key t, Dict.get? c.library key = some (.ready t) → Dict.get? c'.library key = some (.ready t)

theorem opened_empty : Context.empty.Opened [] := ⟨.nil, by simp [empty]⟩

theorem Opened.of_library (h : c.Opened keys) (hl : c'.library = c.library) : c'.Opened keys :=
  ⟨h.nodup, by simp [hl, h.building]⟩

-- A context in whose library something else is under one key, or nothing any more.
def Replaces (c : Context) (key : String) (e : Option LibraryEntry) (c' : Context) : Prop :=
  ∀ key', Dict.get? c'.library key' = if key = key' then e else Dict.get? c.library key'

theorem replaces_setEntry : c.Replaces key (some entry) (c.setEntry key entry) := fun _ => Dict.get?_insert ..

theorem replaces_dropEntry : c.Replaces key none (c.dropEntry key) := fun _ => Dict.get?_erase ..

theorem Opened.setBuilding (h : c.Opened keys) (hk : Dict.has c.library key = false) :
    (c.setEntry key .building).Opened (key :: keys) where
  nodup := List.nodup_cons.mpr ⟨fun hm => by simp [Dict.has, h.building.mpr hm] at hk, h.nodup⟩
  building {key'} := by
    rw [replaces_setEntry, List.mem_cons]
    split
    case isTrue he => simp [he]
    case isFalse hne => simp [h.building, Ne.symm hne]

-- What is no longer being built is closed.
theorem Opened.replace (h : c.Opened (key :: keys)) (hr : c.Replaces key e c') (he : e ≠ some .building) : c'.Opened keys where
  nodup := h.nodup.of_cons
  building {key'} := by
    rw [hr]
    split
    case isTrue heq => simpa [← heq, he] using (List.nodup_cons.mp h.nodup).1
    case isFalse hne => simp [h.building, Ne.symm hne]

theorem KeepsReady.of_library (hl : c'.library = c.library) : c.KeepsReady c' := fun _ _ ht => hl ▸ ht

theorem KeepsReady.refl : c.KeepsReady c := .of_library rfl

theorem KeepsReady.trans (h : c.KeepsReady c') (h' : c'.KeepsReady c'') : c.KeepsReady c'' :=
  fun key t ht => h' key t (h key t ht)

theorem Replaces.keepsReady (hr : c.Replaces key e c') (hk : ∀ t, Dict.get? c.library key ≠ some (.ready t)) :
    c.KeepsReady c' := by
  intro key' t ht
  have hne : key ≠ key' := fun he => hk t (he ▸ ht)
  rw [hr, if_neg hne, ht]

theorem Opened.not_ready (h : c.Opened (key :: keys)) (t : Template) : Dict.get? c.library key ≠ some (.ready t) := by
  rw [h.building.mpr List.mem_cons_self]
  exact nofun

end Context

namespace Builder

-- A call that waits for a control: the one for a place goes on with it, and the one for an entry of the library
-- puts it there first.
inductive Frame where
  | node (next : Option Template → Program (Option Template))
  | entry (key : String) (next : Program (Option Template))

-- The key of the entry that a call has made.
def Frame.key? : Frame → Option String
  | node _ => none
  | entry key _ => some key

-- What is known, what is to be done for the call at hand, and the calls around it, the innermost first.
structure Moment where
  context : Context
  program : Program (Option Template)
  calls : List Frame

namespace Moment

-- The keys of the entries that have been made by calls that are not finished.
def openKeys (m : Moment) : List String := m.calls.filterMap Frame.key?

-- The next moment, unless the outermost call is finished.
def next? (root : Json) (fillDefaults : Bool) : Moment → Option Moment
  | ⟨c, .look next, calls⟩ => some ⟨c, next c, calls⟩
  | ⟨c, .learn generic f next, calls⟩ => some ⟨c.learn generic f, next, calls⟩
  | ⟨c, .call site next, calls⟩ => some ⟨c, Program.ofNode root fillDefaults site, .node next :: calls⟩
  | ⟨c, .enter key schemaPointer templatePointer next, calls⟩ =>
    if Dict.has c.library key then some ⟨c, next, calls⟩
    else
      some ⟨c.setEntry key .building,
        Program.ofNode root fillDefaults ⟨schemaPointer, .null, key, templatePointer⟩, .entry key next :: calls⟩
  | ⟨c, .done o, .node next :: calls⟩ => some ⟨c, next o, calls⟩
  | ⟨c, .done (some t), .entry key next :: calls⟩ => some ⟨c.setEntry key (.ready t), next, calls⟩
  | ⟨c, .done none, .entry key next :: calls⟩ => some ⟨c.dropEntry key, next, calls⟩
  | ⟨_, .done _, []⟩ => none

-- Whether one moment comes after another.
abbrev Reaches (root : Json) (fillDefaults : Bool) : Moment → Moment → Prop :=
  Relation.ReflTransGen fun m m' => m.next? root fillDefaults = some m'

variable {root : Json} {fillDefaults : Bool} {build : Site → Builder (Option Template)} {c c' : Context}
  {p : Program (Option Template)} {site : Site} {key schemaPointer templatePointer : String} {calls : List Frame}
  {levels : Nat} {m m' : Moment}

-- At this moment or a later one, this is what is known.
def Meets (root : Json) (fillDefaults : Bool) (m : Moment) (c : Context) : Prop :=
  ∃ m', Reaches root fillDefaults m m' ∧ m'.context = c

theorem Reaches.meets (h : Reaches root fillDefaults m m') (hm : Meets root fillDefaults m' c) :
    Meets root fillDefaults m c := by
  obtain ⟨m₁, hr, hc⟩ := hm
  exact ⟨m₁, h.trans hr, hc⟩

-- Building that goes through moments, from the one when a program begins to the one when it is done, or to one
-- at which the levels run out.
structure Passes (root : Json) (fillDefaults : Bool) (b : Builder (Option Template)) (p : Program (Option Template)) :
    Prop where
  ok : ∀ {c o c' calls}, b c = .ok (o, c') → Reaches root fillDefaults ⟨c, p, calls⟩ ⟨c', .done o, calls⟩
  error : ∀ {c c' calls}, b c = .error c' → Meets root fillDefaults ⟨c, p, calls⟩ c'

-- Making an entry of the library is a call, unless the entry is there.
theorem reaches_of_repeated (hb : ∀ site, Passes root fillDefaults (build site) (Program.ofNode root fillDefaults site))
    (h : repeated build key schemaPointer templatePointer c = .ok ((), c')) :
    Reaches root fillDefaults ⟨c, .enter key schemaPointer templatePointer p, calls⟩ ⟨c', p, calls⟩ := by
  rw [repeated_eq] at h
  split at h
  case isTrue hk =>
    cases h
    exact .single (if_pos hk)
  case isFalse hk =>
    refine .head (if_neg hk) ?_
    split at h
    case h_1 t c₁ hm =>
      cases h
      exact ((hb _).ok hm).tail rfl
    case h_2 c₁ hm =>
      cases h
      exact ((hb _).ok hm).tail rfl
    case h_3 => contradiction

theorem meets_of_repeated (hb : ∀ site, Passes root fillDefaults (build site) (Program.ofNode root fillDefaults site))
    (h : repeated build key schemaPointer templatePointer c = .error c') :
    Meets root fillDefaults ⟨c, .enter key schemaPointer templatePointer p, calls⟩ c' := by
  rw [repeated_eq] at h
  split at h
  case isTrue => contradiction
  case isFalse hk =>
    split at h
    case h_3 hm =>
      cases h
      exact Reaches.meets (.single (if_neg hk)) ((hb _).error hm)
    all_goals contradiction

theorem passes_run (hb : ∀ site, Passes root fillDefaults (build site) (Program.ofNode root fillDefaults site)) :
    Passes root fillDefaults (p.run build) p := by
  induction p
  case done a =>
    refine ⟨fun h => ?_, nofun⟩
    cases h
    exact .refl
  case look next hi =>
    exact ⟨fun h => .head rfl ((hi _).ok h), fun h => Reaches.meets (.single rfl) ((hi _).error h)⟩
  case learn generic f next hi =>
    exact ⟨fun h => .head rfl (hi.ok h), fun h => Reaches.meets (.single rfl) (hi.error h)⟩
  case call site next hi =>
    refine ⟨fun h => ?ok, fun h => ?error⟩
    case ok =>
      obtain ⟨o, c₁, ho, h⟩ := bind_eq_ok.mp h
      exact .head rfl (((hb site).ok ho).trans (.head rfl ((hi o).ok h)))
    case error =>
      rcases bind_eq_error.mp h with h | ⟨o, c₁, ho, h⟩
      case inl => exact Reaches.meets (.single rfl) ((hb site).error h)
      case inr => exact Reaches.meets (.head rfl (((hb site).ok ho).tail rfl)) ((hi o).error h)
  case enter key schemaPointer templatePointer next hi =>
    refine ⟨fun h => ?ok, fun h => ?error⟩
    case ok =>
      obtain ⟨_, c₁, ho, h⟩ := bind_eq_ok.mp h
      exact (reaches_of_repeated hb ho).trans (hi.ok h)
    case error =>
      rcases bind_eq_error.mp h with h | ⟨_, c₁, ho, h⟩
      case inl => exact meets_of_repeated hb h
      case inr => exact (reaches_of_repeated hb ho).meets (hi.error h)

-- What building does is what happens from moment to moment.
theorem passes_within : Passes root fillDefaults (within root fillDefaults levels site) (Program.ofNode root fillDefaults site) := by
  induction levels generalizing site
  case zero =>
    refine ⟨nofun, fun h => ?_⟩
    cases h
    exact ⟨_, .refl, rfl⟩
  case succ levels hi =>
    rw [← Program.run_within]
    exact passes_run fun _ => hi

-- What can happen between two moments.
inductive Next (root : Json) (fillDefaults : Bool) : Moment → Moment → Prop
  | look {c next calls} : Next root fillDefaults ⟨c, .look next, calls⟩ ⟨c, next c, calls⟩
  | learn {c generic f next calls} :
    Next root fillDefaults ⟨c, .learn generic f next, calls⟩ ⟨c.learn generic f, next, calls⟩
  | call {c site next calls} :
    Next root fillDefaults ⟨c, .call site next, calls⟩ ⟨c, Program.ofNode root fillDefaults site, .node next :: calls⟩
  | found {c key schemaPointer templatePointer next calls} : Dict.has c.library key = true →
    Next root fillDefaults ⟨c, .enter key schemaPointer templatePointer next, calls⟩ ⟨c, next, calls⟩
  | enter {c key schemaPointer templatePointer next calls} : Dict.has c.library key = false →
    Next root fillDefaults ⟨c, .enter key schemaPointer templatePointer next, calls⟩ ⟨c.setEntry key .building,
      Program.ofNode root fillDefaults ⟨schemaPointer, .null, key, templatePointer⟩, .entry key next :: calls⟩
  | result {c o next calls} : Next root fillDefaults ⟨c, .done o, .node next :: calls⟩ ⟨c, next o, calls⟩
  | store {c t key next calls} :
    Next root fillDefaults ⟨c, .done (some t), .entry key next :: calls⟩ ⟨c.setEntry key (.ready t), next, calls⟩
  | drop {c key next calls} :
    Next root fillDefaults ⟨c, .done none, .entry key next :: calls⟩ ⟨c.dropEntry key, next, calls⟩

theorem Next.of_next? (h : m.next? root fillDefaults = some m') : Next root fillDefaults m m' := by
  unfold next? at h
  split at h
  case h_4 =>
    split at h
    case isTrue hk => exact Option.some.inj h ▸ .found hk
    case isFalse hk => exact Option.some.inj h ▸ .enter (Bool.not_eq_true _ ▸ hk)
  case h_8 => contradiction
  all_goals
    cases h
    constructor

-- From one moment to the next the entries that are being built change with the calls that have made them, and
-- nothing happens to what is ready.
theorem opened_next (ho : m.context.Opened m.openKeys) (h : m.next? root fillDefaults = some m') :
    m'.context.Opened m'.openKeys ∧ m.context.KeepsReady m'.context := by
  cases Next.of_next? h
  case learn => exact ⟨ho.of_library rfl, .of_library rfl⟩
  case enter hk =>
    exact ⟨ho.setBuilding hk, Context.replaces_setEntry.keepsReady fun t ht => by simp [Dict.has, ht] at hk⟩
  case store =>
    exact ⟨ho.replace Context.replaces_setEntry (by simp), Context.replaces_setEntry.keepsReady ho.not_ready⟩
  case drop =>
    exact ⟨ho.replace Context.replaces_dropEntry (by simp), Context.replaces_dropEntry.keepsReady ho.not_ready⟩
  -- In the other cases nothing is written.
  all_goals exact ⟨ho, .refl⟩

-- The outermost call is finished when there is no other one.
theorem openKeys_of_next? (h : m.next? root fillDefaults = none) : m.openKeys = [] := by
  unfold next? at h
  split at h
  case h_8 => rfl
  case h_4 => split at h <;> contradiction
  all_goals contradiction

end Moment

end Builder

end FormModel
