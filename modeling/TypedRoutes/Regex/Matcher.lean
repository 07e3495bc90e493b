import TypedRoutes.Regex.Syntax

/-!
# Backtracking

`Regex.run` tries an expression at a place of the subject and hands every way in which it can match, in order of
preference, to a continuation, until the continuation succeeds. The first success is the answer, so the
continuation that accepts everything yields the preferred match.

A round of a repetition beyond the required ones is tried only when the place has moved since the round before,
so that a repetition of something empty ends.
-/

namespace TypedRoutes.Regex

set_option autoImplicit false

/-- A place in the subject: what stands before it, nearest first, what stands after it, and its position. -/
structure Cursor where
  before : Text
  after : Text
  pos : Nat
  deriving DecidableEq, Repr

/-- The place at the start of a subject. -/
def Cursor.start (subject : Text) : Cursor := ⟨[], subject, 0⟩

/-- The next place, for a place with `c` and `rest` after it. -/
def Cursor.over (at' : Cursor) (c : Char) (rest : Text) : Cursor := ⟨c :: at'.before, rest, at'.pos + 1⟩

/-- The place a number of characters earlier. -/
def Cursor.back? (at' : Cursor) (n : Nat) : Option Cursor :=
  if n ≤ at'.pos then some ⟨at'.before.drop n, (at'.before.take n).reverse ++ at'.after, at'.pos - n⟩ else none

/-- Where a group was last entered and where it was last left. -/
abbrev Mark := Option Nat × Option Nat

/-- The marks of the groups by number. -/
abbrev Marks := List Mark

namespace Marks

/-- The marks of a group. -/
def get (marks : Marks) (index : Nat) : Mark := (marks[index]?).getD (none, none)

/-- The marks with those of one group changed. -/
def update (marks : Marks) (index : Nat) (change : Mark → Mark) : Marks := marks.modify index change

/-- The span that a group captured. -/
def span? (marks : Marks) (index : Nat) : Option (Nat × Nat) :=
  match marks.get index with
  | (some start, some stop) => if start ≤ stop then some (start, stop) else none
  | _ => none

end Marks

/-- A place together with the marks of the groups. -/
structure State where
  cursor : Cursor
  marks : Marks
  deriving DecidableEq, Repr

/-- What is to be matched afterwards. -/
abbrev Next := State → Option State

/-- Whether a place is between a word character and another one, of a subject that is not empty. -/
def isWordEdge (asciiOnly : Bool) (at' : Cursor) : Bool :=
  let isWord (t : Text) : Bool := match t with
    | c :: _ => Category.word.has asciiOnly c
    | [] => false
  isWord at'.before != isWord at'.after

/-- Whether an anchor holds at a place. -/
def Anchor.holds (at' : Cursor) : Anchor → Bool
  | subjectStart => at'.before.isEmpty
  | lineStart => at'.before.isEmpty || at'.before.head? == some '\n'
  | subjectEnd => at'.after.isEmpty
  | lineEnd => at'.after.isEmpty || at'.after.head? == some '\n'
  | lastLineEnd => at'.after.isEmpty || at'.after == ['\n']
  | wordEdge asciiOnly => isWordEdge asciiOnly at'
  | noWordEdge asciiOnly => !(at'.before.isEmpty && at'.after.isEmpty) && !isWordEdge asciiOnly at'

/-- The characters between two positions of the subject around a place. -/
def Cursor.slice (at' : Cursor) (start stop : Nat) : Text :=
  ((at'.before.reverse ++ at'.after).drop start).take (stop - start)

/-- The place after a given text, case set aside. -/
def Cursor.skip? (folding : Folding) (at' : Cursor) : Text → Option Cursor
  | [] => some at'
  | c :: rest =>
    match at'.after with
    | d :: after =>
      if folding.fold c.toNat = folding.fold d.toNat then (at'.over d after).skip? folding rest else none
    | [] => none

/-- The required rounds of a repetition. -/
def rounds (body : State → Next → Option State) : Nat → State → Next → Option State
  | 0, s, next => next s
  | n + 1, s, next => body s fun s => rounds body n s next

/-- Whether one more round may be tried: the number of rounds allows it, and the place is not that of the round
before. -/
def mayGoOn (budget last : Option Nat) (s : State) : Bool :=
  budget != some 0 && last != some s.cursor.pos

/-- The further rounds of a greedy repetition. The list bounds their number. -/
def greedyRounds (body : State → Next → Option State) :
    Text → Option Nat → Option Nat → State → Next → Option State
  | [], _, _, s, next => next s
  | _ :: bound, budget, last, s, next =>
    if mayGoOn budget last s then
      match body s fun t => greedyRounds body bound (budget.map (· - 1)) (some s.cursor.pos) t next with
      | some result => some result
      | none => next s
    else next s

/-- The further rounds of a lazy repetition. -/
def lazyRounds (body : State → Next → Option State) :
    Text → Option Nat → Option Nat → State → Next → Option State
  | [], _, _, s, next => next s
  | _ :: bound, budget, last, s, next =>
    match next s with
    | some result => some result
    | none =>
      if mayGoOn budget last s then
        body s fun t => lazyRounds body bound (budget.map (· - 1)) (some s.cursor.pos) t next
      else none

/-- The further rounds of a possessive repetition, each settled once it has matched. -/
def possessiveRounds (body : State → Next → Option State) :
    Text → Option Nat → Option Nat → State → State
  | [], _, _, s => s
  | _ :: bound, budget, last, s =>
    if mayGoOn budget last s then
      match body s some with
      | some t => possessiveRounds body bound (budget.map (· - 1)) (some s.cursor.pos) t
      | none => s
    else s

/-- The required rounds of a possessive repetition. -/
def settledRounds (body : State → Next → Option State) : Nat → State → Option State
  | 0, s => some s
  | n + 1, s =>
    match body s some with
    | some t => settledRounds body n t
    | none => none

/-- One more than the rounds for which a place can move. -/
def State.bound (s : State) : Text := ' ' :: s.cursor.after

/-- The first success of a continuation on the ways in which an expression matches. -/
def run : Regex → State → Next → Option State
  | empty, s, next => next s
  | set chars, s, next =>
    match s.cursor.after with
    | c :: rest => if chars.has c then next { s with cursor := s.cursor.over c rest } else none
    | [] => none
  | anchor a, s, next => if a.holds s.cursor then next s else none
  | cat r t, s, next => run r s fun s => run t s next
  | alt r t, s, next =>
    match run r s next with
    | some result => some result
    | none => run t s next
  | group i r, s, next =>
    run r { s with marks := s.marks.update i fun m => (some s.cursor.pos, m.2) } fun t =>
      next { t with marks := t.marks.update i fun m => (m.1, some t.cursor.pos) }
  | repeated .greedy least most r, s, next =>
    rounds (run r) least s fun t => greedyRounds (run r) t.bound (most.map (· - least)) none t next
  | repeated .lazy least most r, s, next =>
    rounds (run r) least s fun t => lazyRounds (run r) t.bound (most.map (· - least)) none t next
  | repeated .possessive least most r, s, next =>
    match settledRounds (run r) least s with
    | some t => next (possessiveRounds (run r) t.bound (most.map (· - least)) none t)
    | none => none
  | backreference i folding, s, next =>
    match s.marks.span? i with
    | some (start, stop) =>
      match s.cursor.skip? folding (s.cursor.slice start stop) with
      | some cursor => next { s with cursor }
      | none => none
    | none => none
  | look behind negated r, s, next =>
    match s.cursor.back? (behind.getD 0) with
    | none => if negated then next s else none
    | some cursor =>
      match run r { s with cursor } some with
      | some t => if negated then none else next { s with marks := t.marks }
      | none => if negated then next s else none
  | atomic r, s, next =>
    match run r s some with
    | some t => next t
    | none => none
  | conditional i yes no, s, next =>
    if (s.marks.span? i).isSome then run yes s next else run no s next

end TypedRoutes.Regex
