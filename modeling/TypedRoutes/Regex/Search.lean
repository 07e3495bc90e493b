import TypedRoutes.Regex.Matcher

/-!
# Searching

Searching tries an expression at one place after the other. Matches are listed from left to right and do not
overlap; after an empty match the next one either is not empty or starts later. Listing, searching and replacing
walk the subject on their own.
-/

namespace TypedRoutes.Regex

set_option autoImplicit false

/-- A match: its span, and the spans of the groups that took part in it. -/
structure Match where
  start : Nat
  stop : Nat
  groups : List (Option (Nat × Nat))
  deriving DecidableEq, Repr

/-- The characters between two positions of a subject. -/
def slice (subject : Text) (span : Nat × Nat) : Text := (subject.drop span.1).take (span.2 - span.1)

/-- The preferred way to match at a place; with `move`, the preferred one that is not empty. -/
def matchAt (r : Regex) (groups : Nat) (move : Bool) (at' : Cursor) : Option State :=
  run r ⟨at', List.replicate (groups + 1) (none, none)⟩ fun s =>
    if move && s.cursor.pos == at'.pos then none else some s

/-- The first match at a place or later, with the place where it starts. Only at the first place can an empty match
be refused. -/
def searchFrom (r : Regex) (groups : Nat) : Bool → Text → Text → Nat → Option (Nat × State)
  | move, before, [], pos => (matchAt r groups move ⟨before, [], pos⟩).map fun s => (pos, s)
  | move, before, c :: rest, pos =>
    match matchAt r groups move ⟨before, c :: rest, pos⟩ with
    | some s => some (pos, s)
    | none => searchFrom r groups false (c :: before) rest (pos + 1)

/-- The match that ends in a state. -/
def Match.ofState (groups start : Nat) (s : State) : Match where
  start := start
  stop := s.cursor.pos
  groups := (List.range groups).map fun i => s.marks.span? (i + 1)

/-- The matches from a place on. The number bounds how many there are. -/
def matchesFrom (r : Regex) (groups : Nat) : Nat → Bool → Cursor → List Match
  | 0, _, _ => []
  | bound + 1, move, at' =>
    match searchFrom r groups move at'.before at'.after at'.pos with
    | some (start, s) =>
      .ofState groups start s :: matchesFrom r groups bound (s.cursor.pos == start) s.cursor
    | none => []

/-- More than the number of matches that a subject can have: at each place an empty one and a longer one. -/
def matchBound (subject : Text) : Nat := 2 * subject.length + 2

/-- All matches in a subject, from left to right. -/
def allMatches (r : Regex) (subject : Text) : List Match :=
  matchesFrom r r.groupCount (matchBound subject) false (.start subject)

/-- The first match in a subject. -/
def firstMatch? (r : Regex) (subject : Text) : Option Match :=
  (searchFrom r r.groupCount false [] subject 0).map fun (start, s) => .ofState r.groupCount start s

/-- Whether an expression matches anywhere in a subject. -/
def hasMatch (r : Regex) (subject : Text) : Bool :=
  (searchFrom r r.groupCount false [] subject 0).isSome

/-- The subject from a place on with every match replaced. -/
def replaceFrom (r : Regex) (groups : Nat) (replacement : Text) : Nat → Bool → Cursor → Text
  | 0, _, at' => at'.after
  | bound + 1, move, at' =>
    match searchFrom r groups move at'.before at'.after at'.pos with
    | some (start, s) =>
      at'.after.take (start - at'.pos) ++ replacement
        ++ replaceFrom r groups replacement bound (s.cursor.pos == start) s.cursor
    | none => at'.after

/-- The subject with every match replaced by a text taken literally. -/
def replaceAll (r : Regex) (replacement subject : Text) : Text :=
  replaceFrom r r.groupCount replacement (matchBound subject) false (.start subject)

/-- The spans of all matches. -/
def spans (r : Regex) (subject : Text) : List (Nat × Nat) :=
  (r.allMatches subject).map fun m => (m.start, m.stop)

/-- The texts of all matches. -/
def matchedTexts (r : Regex) (subject : Text) : List Text := (r.spans subject).map (slice subject)

/-- The span of the first match. -/
def firstSpan? (r : Regex) (subject : Text) : Option (Nat × Nat) :=
  (r.firstMatch? subject).map fun m => (m.start, m.stop)

/-- The texts that groups captured in any match, from left to right. A group that took no part has none. -/
def captures (r : Regex) (subject : Text) : List Text :=
  (r.allMatches subject).flatMap fun m => m.groups.filterMap fun span => span.map (slice subject)

end TypedRoutes.Regex
