import FormModel.Coercion
import FormModel.Proofs.Decimal.Integral

/-!
The kinds of what conversion gives.  A conversion is a row of readings, each for one of the listed types and
each of that type, so what comes out is of a listed kind.  There is one way out of this: the number at the
front of a text is not asked to be finite, and one that is too great for a float is written as `null`.
-/

namespace FormModel

variable {value r types : Json} {f : Float} {i : Int} {s : String} {strict : Bool} {ts : List SchemaType}

theorem Decimal.isFinite_of_parse? (h : parse? s = some f) : f.isFinite = true :=
  (Option.filter_eq_some_iff.mp h).2

namespace Json

-- Being of the kind of one of the types. Integers are numbers, and no conversion leads to arrays and objects.
def IsListed (ts : List SchemaType) : Json → Prop
  | .null => .null ∈ ts
  | .bool _ => .boolean ∈ ts
  | .num _ => .number ∈ ts ∨ .integer ∈ ts
  | .str _ => .string ∈ ts
  | .arr _ => False
  | .obj _ => False

instance : DecidablePred (IsListed ts)
  | .null => inferInstanceAs (Decidable (.null ∈ ts))
  | .bool _ => inferInstanceAs (Decidable (.boolean ∈ ts))
  | .num _ => inferInstanceAs (Decidable (.number ∈ ts ∨ .integer ∈ ts))
  | .str _ => inferInstanceAs (Decidable (.string ∈ ts))
  | .arr _ => inferInstanceAs (Decidable False)
  | .obj _ => inferInstanceAs (Decidable False)

theorem IsListed.isContainer (h : r.IsListed ts) : r.isContainer = false := by
  cases r <;> first | rfl | exact h.elim

theorem isListed_of_isNum (hr : r.isNum) (h : .number ∈ ts ∨ .integer ∈ ts) : r.IsListed ts := by
  cases r <;> first | exact h | contradiction

/-! ### Numbers -/

theorem isNum_ofFloat (hf : f.isFinite = true) : (ofFloat f).isNum := by
  simp [ofFloat, hf, isNum]

theorem ofFloat_eq_null (hf : f.isFinite = false) : ofFloat f = .null := by
  simp [ofFloat, hf]

theorem isNum_ofInt (hf : (Float.ofInt i).isFinite = true) : (ofInt i).isNum := by
  unfold ofInt
  split
  case isTrue => rfl
  case isFalse => exact isNum_ofFloat hf

theorem isNum_numberOf (hf : f.isFinite = true) : (numberOf f).isNum := by
  unfold numberOf
  split
  case isTrue => exact isNum_ofInt (isFinite_truncate hf)
  case isFalse => exact isNum_ofFloat hf

theorem numberOf_eq_null (hf : f.isFinite = false) : numberOf f = .null := by
  simp [numberOf, isWhole, hf, ofFloat_eq_null]

/-! ### Exact readings -/

-- A number that is already one is given as it is; else it comes out of a float.
theorem isNum_of_asIntegerValue? (h : value.asIntegerValue? = some r) : r.isNum := by
  unfold asIntegerValue? at h
  split at h
  case h_1 => exact Option.some.inj h ▸ rfl
  case h_2 =>
    have ⟨f, hf, hr⟩ := Option.map_eq_some_iff.mp h
    have hf := (Option.filter_eq_some_iff.mp hf).2
    exact hr ▸ isNum_numberOf (Bool.and_eq_true_iff.mp hf).1

theorem isNum_of_asNumberValue? (h : value.asNumberValue? = some r) : r.isNum := by
  unfold asNumberValue? at h
  split at h
  case h_1 => exact Option.some.inj h ▸ rfl
  case h_2 hv =>
    have ⟨f, hf, hr⟩ := Option.map_eq_some_iff.mp h
    cases value <;> try contradiction
    case num n => exact (hv n rfl).elim
    case str => exact hr ▸ isNum_numberOf (Decimal.isFinite_of_parse? hf)

theorem isStr_of_asStringValue? (h : value.asStringValue? = some r) : r.isStr := by
  cases value <;> simp [asStringValue?] at h <;> exact h ▸ rfl

-- The readings side by side; that `null` has none of them goes without saying.
theorem coerceTo?_eq : value.coerceTo? ts strict =
    ((if strict && ts.contains .integer then value.asIntegerValue? else none).or
      (if ts.contains .number || (!strict && ts.contains .integer) then value.asNumberValue? else none)).or
    ((if ts.contains .string then value.asStringValue? else none).or
      (if ts.contains .boolean then value.asBool?.map .bool else none)) := by
  unfold coerceTo?
  cases value
  case null => simp [isNull, asIntegerValue?, asNumberValue?, asStringValue?, asNumber?, asBool?]
  all_goals simp [isNull, Option.or_assoc]

theorem isListed_of_coerceTo? (h : value.coerceTo? ts strict = some r) : r.IsListed ts := by
  simp only [coerceTo?_eq, Option.or_eq_some_iff, Option.ite_none_right_eq_some] at h
  rcases h with (⟨ht, h⟩ | ⟨_, ht, h⟩) | ⟨_, ⟨ht, h⟩ | ⟨_, ht, h⟩⟩
  · exact isListed_of_isNum (isNum_of_asIntegerValue? h) (.inr (List.contains_iff_mem.mp (Bool.and_eq_true_iff.mp ht).2))
  · have ht : .number ∈ ts ∨ strict = false ∧ .integer ∈ ts := by simpa using ht
    exact isListed_of_isNum (isNum_of_asNumberValue? h) (ht.imp_right (·.2))
  · have hr := isStr_of_asStringValue? h
    cases r <;> first | exact List.contains_iff_mem.mp ht | contradiction
  · obtain ⟨b, _, rfl⟩ := Option.map_eq_some_iff.mp h
    exact List.contains_iff_mem.mp ht

theorem coerceTo?_integer : value.coerceTo? [.integer] true = value.asIntegerValue? := by
  simp [coerceTo?_eq]

theorem coerceTo?_number : value.coerceTo? [.number] true = value.asNumberValue? := by
  simp [coerceTo?_eq]

theorem coerceTo?_string : value.coerceTo? [.string] true = value.asStringValue? := by
  simp [coerceTo?_eq]

/-! ### The last resort -/

-- Blanks and flags as numbers.
def blankNumber? : Json → Option Json
  | .bool true => some (ofNat 1)
  | .bool false => some (ofNat 0)
  | .null => some (ofNat 0)
  | .str s => if s.isEmpty then some (ofNat 0) else none
  | _ => none

-- The number at the front of a value, where a number other than zero is read there.
def front? (value : Json) (allowsFraction : Bool) : Option Float :=
  ((LeadingText.mk allowsFraction).read? value).filter (· != 0)

-- A number read off the front as an integer, which loses the fraction of a number value.
def wholeNumberOf (f : Float) : Json :=
  if f.isFinite then numberOf (Float.ofInt (truncate f)) else ofFloat f

-- The number that the front of a value is taken for: with a fraction if numbers are listed and there is one, else whole.
def frontNumber? (value : Json) (ts : List SchemaType) : Option Float :=
  (if .number ∈ ts then value.front? true else none).or (if .integer ∈ ts then value.front? false else none)

theorem lastResort?_eq : value.lastResort? ts =
    (if .number ∈ ts ∨ .integer ∈ ts then value.blankNumber? else none).or
      (((if .number ∈ ts then value.front? true else none).map numberOf).or
        (((if .integer ∈ ts then value.front? false else none).map wholeNumberOf).or
          ((if .boolean ∈ ts then some (.bool value.isTruthy) else none).or
            (if (.number ∈ ts ∨ .integer ∈ ts) ∧ .null ∉ ts then some (ofNat 0) else none)))) := by
  simp only [lastResort?, Option.orElse_eq_orElse, Option.orElse_eq_or, Bool.or_eq_true, Bool.and_eq_true,
    Bool.not_eq_true', List.contains_eq_mem, decide_eq_true_eq, decide_eq_false_iff_not, apply_ite (Option.map _),
    Option.map_none]
  rfl

theorem isNum_of_blankNumber? (h : value.blankNumber? = some r) : r.isNum := by
  unfold blankNumber? at h
  split at h
  case h_4 => exact Option.some.inj (Option.ite_none_right_eq_some.mp h).2 ▸ rfl
  case h_5 => contradiction
  all_goals exact Option.some.inj h ▸ rfl

-- Texts that are not empty and numbers have a front; they are no blanks.
theorem blankNumber?_of_front? {b : Bool} (h : value.front? b = some f) : value.blankNumber? = none := by
  have h := (Option.filter_eq_some_iff.mp h).1
  cases value <;> try contradiction
  case num => rfl
  case str s =>
    refine if_neg fun hs => ?_
    rw [String.isEmpty_iff.mp hs] at h
    cases b <;> contradiction

theorem isNum_wholeNumberOf (hf : f.isFinite = true) : (wholeNumberOf f).isNum := by
  rw [wholeNumberOf, if_pos hf]
  exact isNum_numberOf (isFinite_truncate hf)

theorem wholeNumberOf_eq_null (hf : f.isFinite = false) : wholeNumberOf f = .null := by
  simp [wholeNumberOf, hf, ofFloat_eq_null]

-- What is at the front is all that is looked at, be it finite or not.
theorem lastResort?_of_frontNumber? (h : value.frontNumber? ts = some f) :
    ∃ r, value.lastResort? ts = some r ∧ (f.isFinite = true → r.IsListed ts) ∧ (f.isFinite = false → r = .null) := by
  simp only [frontNumber?, Option.or_eq_some_iff] at h
  rw [lastResort?_eq]
  rcases h with h | ⟨hn, h⟩
  case inl =>
    have ⟨ht, hv⟩ := Option.ite_none_right_eq_some.mp h
    rw [blankNumber?_of_front? hv, ite_self, h]
    exact ⟨_, rfl, fun hf => isListed_of_isNum (isNum_numberOf hf) (.inl ht), numberOf_eq_null⟩
  case inr =>
    have ⟨ht, hv⟩ := Option.ite_none_right_eq_some.mp h
    rw [blankNumber?_of_front? hv, ite_self, hn, h]
    exact ⟨_, rfl, fun hf => isListed_of_isNum (isNum_wholeNumberOf hf) (.inr ht), wholeNumberOf_eq_null⟩

theorem isListed_of_lastResort? (hv : value.frontNumber? ts = none) (h : value.lastResort? ts = some r) :
    r.IsListed ts := by
  have ⟨hn, hw⟩ := Option.or_eq_none_iff.mp hv
  rw [lastResort?_eq, hn, hw] at h
  simp only [Option.map_none, Option.none_or, Option.or_eq_some_iff, Option.ite_none_right_eq_some] at h
  rcases h with ⟨ht, h⟩ | ⟨_, ⟨ht, h⟩ | ⟨_, ⟨ht, _⟩, h⟩⟩
  · exact isListed_of_isNum (isNum_of_blankNumber? h) ht
  · exact Option.some.inj h ▸ ht
  · exact Option.some.inj h ▸ isListed_of_isNum rfl ht

/-! ### Repairs -/

theorem isSome_asStringValue? : value.asStringValue?.isSome = (value.isStr || value.isNum) := by
  cases value <;> rfl

-- Exact readings come first, in the order in which conversion has them; the flags and texts that are tried one by one
-- are among them.
theorem repairTo?_eq : value.repairTo? ts =
    if ts.contains .null && !value.hasValue then some .null
    else (value.coerceTo? ts true).or
      ((if ts.contains .string && value.isNull then some (.str "") else none).or (value.lastResort? ts)) := by
  unfold repairTo?
  rw [coerceTo?_integer, coerceTo?_number, coerceTo?_string, coerceTo?_eq]
  congr 1
  simp only [Bool.true_and, Bool.not_true, Bool.false_and, Bool.or_false, Option.orElse_eq_orElse, Option.orElse_eq_or]
  split
  case isTrue hb =>
    cases value <;> simp_all [isBool, asIntegerValue?, asNumberValue?, asStringValue?, asNumber?, asBool?]
  case isFalse =>
    generalize Option.or (if ts.contains .integer then value.asIntegerValue? else none)
      (if ts.contains .number then value.asNumberValue? else none) = number
    cases number
    case some => rfl
    case none =>
      rw [← isSome_asStringValue?]
      cases ts.contains .string
      case false => simp
      case true => cases hs : value.asStringValue? <;> simp

-- Nothing reads the value exactly, and the number at its front is too great for a float.
def Overflows (value : Json) (ts : List SchemaType) : Prop :=
  .null ∉ ts ∧ value.coerceTo? ts true = none ∧ ∃ f, value.frontNumber? ts = some f ∧ f.isFinite = false

theorem frontNumber?_null : frontNumber? .null ts = none := by
  simp [frontNumber?, front?, LeadingText.read?]

theorem repairTo?_of_overflows (h : value.Overflows ts) : value.repairTo? ts = some .null := by
  obtain ⟨hnull, hexact, f, hf, hinf⟩ := h
  have ⟨r, hr, _, hrnull⟩ := lastResort?_of_frontNumber? hf
  have hvalue : value.isNull = false := by
    cases value <;> first | rfl | exact nomatch frontNumber?_null.symm.trans hf
  rw [repairTo?_eq, hexact, hr, hrnull hinf, hvalue]
  simp [hnull]

theorem isListed_of_repairTo? (ho : ¬ value.Overflows ts) (h : value.repairTo? ts = some r) : r.IsListed ts := by
  rw [repairTo?_eq] at h
  split at h
  case isTrue hblank =>
    exact Option.some.inj h ▸ List.contains_iff_mem.mp (Bool.and_eq_true_iff.mp hblank).1
  case isFalse =>
    simp only [Option.or_eq_some_iff, Option.ite_none_right_eq_some, Bool.and_eq_true] at h
    rcases h with h | ⟨hexact, ⟨⟨ht, _⟩, h⟩ | ⟨_, h⟩⟩
    · exact isListed_of_coerceTo? h
    · exact Option.some.inj h ▸ List.contains_iff_mem.mp ht
    · cases hf : value.frontNumber? ts
      case none => exact isListed_of_lastResort? hf h
      case some f =>
        have ⟨r', hr', hfinite, hnull⟩ := lastResort?_of_frontNumber? hf
        obtain rfl := Option.some.inj (hr'.symm.trans h)
        cases hinf : f.isFinite
        case true => exact hfinite hinf
        case false =>
          -- `null` is listed then, or else the number at the front overflows.
          rw [hnull hinf]
          exact not_not.mp fun ht => ho ⟨ht, hexact, f, hf, hinf⟩

-- Conversion gives values of the listed kinds only, and so does a repair, unless it comes down to a number at
-- the front that is too great for a float.
theorem isListed_iff_not_overflows {value types : Json} :
    (∀ strict r, value.coerce? types strict = some r → r.IsListed (SchemaType.listOf types)) ∧
      ∀ r, value.repair? types = some r →
        (r.IsListed (SchemaType.listOf types) ↔ ¬ value.Overflows (SchemaType.listOf types)) := by
  refine ⟨fun _ _ h => isListed_of_coerceTo? h, fun r h => ⟨fun hr ho => ?_, fun ho => isListed_of_repairTo? ho h⟩⟩
  have hnull := Option.some.inj (h.symm.trans (repairTo?_of_overflows ho))
  exact ho.1 (hnull ▸ hr : IsListed _ .null)

theorem isListed_iff_not_overflows_width :
    (Json.str "12").coerce? "integer" true = some (ofInt 12) ∧ (ofInt 12).IsListed (SchemaType.listOf "integer") ∧
      (Json.str "12px").repair? "integer" = some (ofInt 12) ∧
      ¬ (Json.str "12px").Overflows (SchemaType.listOf "integer") := by
  have hread : (Json.str "12").coerce? "integer" true = some (ofInt 12) := by rfl
  have hrepaired : (Json.str "12px").repair? "integer" = some (ofInt 12) := by rfl
  have hlisted := isListed_iff_not_overflows.1 _ _ hread
  exact ⟨hread, hlisted, hrepaired, (isListed_iff_not_overflows.2 _ hrepaired).mp hlisted⟩

-- The exponent is part of what is read at the front, so this is no number as it stands and too great when it is forced.
theorem greatNumber_becomes_null :
    (Json.str "1e999").repair? "number" = some .null ∧ ¬ Json.null.IsListed (SchemaType.listOf "number") :=
  ⟨by rfl, by decide⟩

/-! ### Agreement -/

theorem isNull_of_coerceTo? (h : value.coerceTo? ts strict = some r) : r.isNull = false := by
  simp only [coerceTo?_eq, Option.or_eq_some_iff, Option.ite_none_right_eq_some] at h
  rcases h with (⟨_, h⟩ | ⟨_, _, h⟩) | ⟨_, ⟨_, h⟩ | ⟨_, _, h⟩⟩
  · have := isNum_of_asIntegerValue? h
    cases r <;> first | rfl | contradiction
  · have := isNum_of_asNumberValue? h
    cases r <;> first | rfl | contradiction
  · have := isStr_of_asStringValue? h
    cases r <;> first | rfl | contradiction
  · obtain ⟨b, _, rfl⟩ := Option.map_eq_some_iff.mp h
    rfl

theorem repairTo?_of_coerceTo? (h : value.coerceTo? ts true = some r) :
    value.repairTo? ts = some (if ts.contains .null && !value.hasValue then .null else r) := by
  rw [repairTo?_eq, h]
  split <;> rfl

-- What conversion reads exactly is what a repair gives, but for blanks where `null` is listed: they become `null`, which
-- conversion never gives.
theorem repair?_agrees_iff (h : value.coerce? types true = some r) :
    value.repair? types = some r ↔ value.hasValue = true ∨ .null ∉ SchemaType.listOf types := by
  have hnull : r ≠ .null := by
    rintro rfl
    exact nomatch isNull_of_coerceTo? h
  rw [repair?, repairTo?_of_coerceTo? h, Option.some.injEq]
  by_cases hv : value.hasValue <;> by_cases ht : .null ∈ SchemaType.listOf types <;> simp [hv, ht, hnull.symm]

theorem repair?_agrees_iff_option : (Json.str "12").coerce? (.arr ["null", "integer"]) true = some (ofInt 12) ∧
    (Json.str "12").repair? (.arr ["null", "integer"]) = some (ofInt 12) := by
  have h : (Json.str "12").coerce? (.arr ["null", "integer"]) true = some (ofInt 12) := by rfl
  exact ⟨h, (repair?_agrees_iff h).mpr (.inl rfl)⟩

theorem isContainer_of_coerce? (h : value.coerce? types strict = some r) : r.isContainer = false :=
  (isListed_of_coerceTo? h).isContainer

theorem isContainer_of_repair? (h : value.repair? types = some r) : r.isContainer = false := by
  by_cases ho : value.Overflows (SchemaType.listOf types)
  case pos => exact Option.some.inj ((repairTo?_of_overflows ho).symm.trans h) ▸ rfl
  case neg => exact (isListed_of_repairTo? ho h).isContainer

end Json
end FormModel
