/-!
Tables over code points.  A table of runs covers all of them: a word of it is a name of fixed length and the
length of a run in hexadecimal; the first run starts at zero and each other one where the one before it ends.
A table of ranges lists what is in a set of characters, in ascending order.
-/

namespace FormModel.Unicode

/-- Code points from `first` to before `stop` that share a label. -/
structure Run (α : Type) where
  first : Nat
  stop : Nat
  label : α
  deriving Repr

/-- A hexadecimal number; other characters count as zero. -/
def hexNat (cs : List Char) : Nat :=
  cs.foldl (fun n c => n * 16 + (if c.isDigit then c.toNat - 48 else if c.isUpper then c.toNat - 55 else 0)) 0

/-- The words of the lines of a table. -/
def words (lines : List String) : List String := lines.flatMap (·.splitOn " ")

/-- The runs of a table with names of `width` letters. -/
def readRuns (width : Nat) (lines : List String) : Array (Run String) :=
  ((words lines).foldl
    (fun (runs, first) word =>
      let stop := first + hexNat (word.toList.drop width)
      (runs.push ⟨first, stop, String.ofList (word.toList.take width)⟩, stop))
    ((#[] : Array (Run String)), 0)).1

/-- The run that holds `n`, sought between two places of the table. -/
def findRun {α : Type} (runs : Array (Run α)) (n : Nat) (low high : Nat) : Option (Run α) :=
  if low < high then
    let middle := (low + high) / 2
    match runs[middle]? with
    | none => none
    | some run =>
      if n < run.first then findRun runs n low middle
      else if n < run.stop then some run
      else findRun runs n (middle + 1) high
  else none
termination_by high - low
decreasing_by all_goals omega

/-- The label of the run that holds a character. -/
def labelOf? {α : Type} (runs : Array (Run α)) (c : Char) : Option α :=
  (findRun runs c.toNat 0 runs.size).map (·.label)

/-- The first and last code point of a word such as `41-5A` or `AA`. -/
def readRange (word : String) : Nat × Nat :=
  match word.splitOn "-" with
  | [first, last] => (hexNat first.toList, hexNat last.toList)
  | _ => (hexNat word.toList, hexNat word.toList)

/-- A set of characters, as ranges of code points in ascending order. -/
structure Table where
  ranges : Array (Run Unit)

/-- The table of words such as `41-5A` and `AA`. -/
def Table.read (lines : List String) : Table where
  ranges := ((words lines).map fun word => ⟨(readRange word).1, (readRange word).2 + 1, ()⟩).toArray

/-- Whether a character is in one of the ranges. -/
def Table.contains (t : Table) (c : Char) : Bool := (labelOf? t.ranges c).isSome

end FormModel.Unicode
