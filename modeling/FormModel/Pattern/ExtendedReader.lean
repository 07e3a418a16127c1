import FormModel.Pattern.Extended

/-!
Reading patterns of the extended dialect.  A brace that begins no count stands for itself, and a condition on
the position takes no count.
-/

namespace FormModel.Pattern

/-- A count after its opening brace; the least number may be left out. -/
def looseCount? (verbose : Bool) (cs : List Char) : Option (Count × List Char) := do
  let skip := skipComments? verbose .blanks
  let cs ← skip cs
  let (least, cs) ← match cs with
    | ',' :: _ => some (0, cs)
    | cs => decimal? cs
  let (most, cs) ← match ← skip cs with
    | '}' :: rest => some (some least, '}' :: rest)
    | ',' :: rest => do
      let rest ← skip rest
      match decimal? rest with
      | some (most, rest) => some (some most, rest)
      | none => some (none, rest)
    | _ => none
  match ← skip cs with
  | '}' :: rest => return (⟨least, most⟩, rest)
  | _ => none

/-- The count at the front, if there is one. -/
def countMark? (verbose : Bool) : List Char → Option (Count × List Char)
  | '?' :: rest => some (⟨0, some 1⟩, rest)
  | '*' :: rest => some (⟨0, none⟩, rest)
  | '+' :: rest => some (⟨1, none⟩, rest)
  | '{' :: rest => looseCount? verbose rest
  | _ => none

/-- The atom with a count, behind which a question mark swaps whether it goes on as long as it can, and a plus
says that it gives nothing back. -/
def withCount? (r : ExtendedReading) (atom : Atom) (count : Count) (rest : List Char) :
    Option (Atom × ExtendedReading) := do
  let rest ← skipComments? r.flags.verbose .blanks rest
  let (lazy, rest) := match rest with
    | '?' :: rest => (true, rest)
    | rest => (false, rest)
  let p := counted atom.pattern count (lazy == r.flags.swapGreed)
  if !atom.countable || !count.isSound then none
  else
    match rest with
    | '+' :: rest => return (.of (.atomic p), { r with rest })
    | rest => return (.of p, { r with rest })

/-- The flags up to a colon or a closing parenthesis, which is the character returned.  `start` is the length
of the text at the first of them, and `off` tells whether a minus has come. -/
def looseFlags? : Nat → Nat → Bool → ExtendedReading → Option (Char × ExtendedReading)
  | 0, _, _, _ => none
  | fuel + 1, start, off, r => do
    let r ← r.skip?
    match r.rest with
    | [] => none
    | c :: rest =>
      let before := start - r.rest.length
      let next := { r with rest }
      if c = ')' then (if before = 0 ∨ (off ∧ before = 1) then none else return (c, next))
      else if c = ':' then (if off ∧ before = 1 then none else return (c, next))
      else if c = '-' then (if off then none else looseFlags? fuel start true next)
      else if c = 'R' ∨ (c = 'u' ∧ off) then none
      else do
        let flags ← r.flags.change? (!off) c
        looseFlags? fuel start off { next with flags }

/-- The alternatives of a pattern. -/
def branches : Pattern → List Pattern
  | alt a b => a :: branches b
  | p => [p]

/-- Look behind for a pattern of fixed width; several alternatives may have a width each. -/
def lookBehind? (negated : Bool) (alternatives : List Pattern) : Option Pattern :=
  match (alts alternatives).width? with
  | some n => some (behind negated n (alts alternatives))
  | none => do
    let parts := match alternatives with
      | [p] => branches p
      | parts => parts
    if parts.length < 2 then none
    else
      let parts ← parts.mapM fun p => p.width?.map fun n => behind negated n p
      return if negated then seqs parts else alts parts

/-- The patterns of a row of atoms in one. -/
def Atom.row (build : List Pattern → Pattern) (atoms : List Atom) : Atom :=
  match atoms with
  | [] => .nothing
  | [atom] => atom
  | atoms => .of (build (atoms.map (·.pattern)))

/-- The name of a group that is opened, up to its closing bracket. -/
def openNamed (r : ExtendedReading) (cs : List Char) : Option ExtendedReading := do
  let (name, rest) ← nameUpTo? '>' cs
  let index := r.groups + 1
  return { r with rest, groups := index, names := (String.ofList name, index) :: r.names }

/-- The two branches of a condition: the second is made of all alternatives but the first. -/
def conditionBranches (atoms : List Atom) : Atom × Atom :=
  match atoms with
  | [] => (.nothing, .nothing)
  | [atom] =>
    match atom.pattern with
    | alt a b => (.of a, .of b)
    | _ => (atom, .nothing)
  | first :: rest => (first, .row alts rest)

/-- How deep groups may be nested. -/
def maxGroupDepth : Nat := 63

mutual
/-- Alternatives between bars.  Where there are no others, groups that have been referred to by number may not
have names too. -/
def looseAlternatives? (narrow : Bool) : Nat → Nat → ExtendedReading → Option (List Atom × ExtendedReading)
  | 0, _, _ => none
  | fuel + 1, depth, r => do
    let (atoms, r) ← branch? narrow fuel depth [] r
    let r ← r.skip?
    match r.rest with
    | '|' :: rest => do
      let (more, r) ← moreAlternatives? narrow fuel depth { r with rest }
      return (.row seqs atoms :: more, r)
    | _ => if r.byNumber && !r.names.isEmpty then none else return ([.row seqs atoms], r)

/-- The alternatives behind a bar. -/
def moreAlternatives? (narrow : Bool) : Nat → Nat → ExtendedReading → Option (List Atom × ExtendedReading)
  | 0, _, _ => none
  | fuel + 1, depth, r => do
    let (atoms, r) ← branch? narrow fuel depth [] r
    let r ← r.skip?
    match r.rest with
    | '|' :: rest => do
      let (more, r) ← moreAlternatives? narrow fuel depth { r with rest }
      return (.row seqs atoms :: more, r)
    | _ => return ([.row seqs atoms], r)

/-- The parts of one alternative; those already read are given last first. -/
def branch? (narrow : Bool) : Nat → Nat → List Atom → ExtendedReading → Option (List Atom × ExtendedReading)
  | 0, _, _, _ => none
  | fuel + 1, depth, atoms, r => do
    let (atom, next) ← piece? narrow fuel depth r
    if next.rest.length = r.rest.length then return (atoms.reverse, r)
    else if atom.pattern = .empty ∧ !atom.countable then branch? narrow fuel depth atoms next
    else branch? narrow fuel depth (atom :: atoms) next

/-- One atom with the count behind it. -/
def piece? (narrow : Bool) : Nat → Nat → ExtendedReading → Option (Atom × ExtendedReading)
  | 0, _, _ => none
  | fuel + 1, depth, r => do
    let (atom, r) ← atom? narrow fuel depth r
    let r ← r.skip?
    match countMark? r.flags.verbose r.rest with
    | some (count, rest) => withCount? r atom count rest
    | none => return (atom, r)

/-- One atom; nothing where a count, a bar or a closing parenthesis stands. -/
def atom? (narrow : Bool) : Nat → Nat → ExtendedReading → Option (Atom × ExtendedReading)
  | 0, _, _ => none
  | fuel + 1, depth, r => do
    let r ← r.skip?
    match r.rest with
    | [] => return (.nothing, r)
    | c :: rest =>
      if c ∈ ['+', '*', '?', '|', ')'] then return (.nothing, r)
      else if c = '(' then group? narrow fuel (depth + 1) { r with rest }
      else if c = '\\' then extendedEscape? narrow r rest
      else if c = '[' then do
        let (set, rest) ← extendedClass? narrow r.flags rest
        return (.of (chars set), { r with rest })
      else
        let atom : Atom := match symbol? r.flags c with
          | some p => ⟨p.getD .empty, c = '.'⟩
          | none => .of (literal r.flags c)
        return (atom, { r with rest })

/-- What stands in parentheses, after the opening one. -/
def group? (narrow : Bool) : Nat → Nat → ExtendedReading → Option (Atom × ExtendedReading)
  | 0, _, _ => none
  | fuel + 1, depth, r => do
    if maxGroupDepth < depth then none
    else
      let r ← r.skip?
      let inside (r : ExtendedReading) : Option (List Atom × ExtendedReading) := do
        let (atoms, r) ← looseAlternatives? narrow fuel depth r
        return (atoms, ← r.close?)
      match r.rest with
      | '?' :: '=' :: rest => do
        let (atoms, r) ← inside { r with rest }
        return (.condition (ahead false (Atom.row alts atoms).pattern), r)
      | '?' :: '!' :: rest => do
        let (atoms, r) ← inside { r with rest }
        return (.condition (ahead true (Atom.row alts atoms).pattern), r)
      | '?' :: '<' :: '=' :: rest => do
        let (atoms, r) ← inside { r with rest }
        return (.condition (← lookBehind? false (atoms.map (·.pattern))), r)
      | '?' :: '<' :: '!' :: rest => do
        let (atoms, r) ← inside { r with rest }
        return (.condition (← lookBehind? true (atoms.map (·.pattern))), r)
      | '?' :: '<' :: rest => do
        let r ← openNamed r rest
        let index := r.groups
        let (atoms, r) ← inside r
        return (.of (group index (Atom.row alts atoms).pattern), r)
      | '?' :: 'P' :: '<' :: rest => do
        let r ← openNamed r rest
        let index := r.groups
        let (atoms, r) ← inside r
        return (.of (group index (Atom.row alts atoms).pattern), r)
      | '?' :: 'P' :: '=' :: rest => do
        let (name, rest) ← nameUpTo? ')' rest
        let index ← r.groupOf? name
        return (.of (backref index), ({ r with rest } : ExtendedReading).refer index)
      | '?' :: '>' :: rest => do
        let (atoms, r) ← inside { r with rest }
        return (.of (atomic (Atom.row alts atoms).pattern), r)
      | '?' :: '(' :: rest => conditional? narrow fuel depth { r with rest }
      | '?' :: rest => do
        let (stop, next) ← looseFlags? (rest.length + 1) rest.length false { r with rest }
        if stop = ')' then return (.nothing, next)
        else do
          let (atoms, next) ← looseAlternatives? narrow fuel depth next
          match next.rest with
          | ')' :: rest => return (.row alts atoms, { next with rest, flags := r.flags })
          | _ => none
      | rest => do
        let index := r.groups + 1
        let (atoms, r) ← inside { r with rest, groups := index }
        return (.of (group index (Atom.row alts atoms).pattern), r)

/-- A condition and what depends on it, after the opening parentheses.  The condition is a group that has
matched, or a pattern. -/
def conditional? (narrow : Bool) : Nat → Nat → ExtendedReading → Option (Atom × ExtendedReading)
  | 0, _, _ => none
  | fuel + 1, depth, r => do
    let reference ← match r.rest with
      | '\'' :: rest => (reference? r '\'' rest).map some
      | '<' :: rest => (reference? r '>' rest).map some
      | c :: _ => if c.isDigit then (numbered? r r.rest).map some else some none
      | [] => none
    let (condition, r) ← match reference with
      | some (index, r) =>
        if r.groups < index then none else some (if index = 0 then empty else matched index, r)
      | none => do
        let (atoms, r) ← looseAlternatives? narrow fuel depth r
        some ((Atom.row alts atoms).pattern, r)
    let r ← r.close?
    let (atoms, next) ← looseAlternatives? narrow fuel depth r
    let (yes, no) := conditionBranches atoms
    let isNothing (atom : Atom) : Bool := atom.pattern = .empty && !atom.countable
    if next.rest.length = r.rest.length && reference.isNone then none
    else do
      let next ← next.close?
      if isNothing yes && isNothing no then return (.of condition, next)
      else return (.of (choose condition yes.pattern no.pattern), next)
end

/-- The pattern of a text in the extended dialect, with narrow classes if letters, digits and blanks are
those of ASCII. -/
def parseExtended? (narrow : Bool) (source : String) : Option Pattern := do
  let cs := source.toList
  let (atoms, r) ← looseAlternatives? narrow (6 * cs.length + 6) 0 ⟨cs, .plain, 0, [], [], false⟩
  let p := (Atom.row alts atoms).pattern
  if r.rest.isEmpty && p.fits && r.references.all fun n => 1 ≤ n && n ≤ r.groups then some p else none

/-- The pattern of a text, which may need the extended dialect. -/
def parseAny? (source : String) : Option Pattern := parse? source <|> parseExtended? false source

end FormModel.Pattern
