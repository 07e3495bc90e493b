import TypedRoutes.Proofs.Regex.Captured

/-!
# What an expression passes

An expression without conditions on what stands before a place passes texts that depend on what follows the place alone.
`Passes r p` says that they are exactly the texts of the language `p`, each with what may follow it; there is one lemma
for each kind of expression, so that the language of an expression is read off its parts.
-/

namespace TypedRoutes.Regex

set_option autoImplicit false

/-- The place after a text. -/
def Cursor.past (at' : Cursor) (t : Text) : Cursor :=
  ⟨t.reverse ++ at'.before, at'.after.drop t.length, at'.pos + t.length⟩

theorem Cursor.past_past (at' : Cursor) (t u : Text) : (at'.past t).past u = at'.past (t ++ u) := by
  simp [Cursor.past, Nat.add_assoc, Nat.add_comm t.length]

theorem Cursor.after_past {at' : Cursor} {t rest : Text} (h : at'.after = t ++ rest) : (at'.past t).after = rest := by
  simp [Cursor.past, h]

@[simp] theorem Cursor.pos_past (at' : Cursor) (t : Text) : (at'.past t).pos = at'.pos + t.length := rfl

theorem Cursor.between_past (u v w : Text) : (Cursor.between u (v ++ w)).past v = .between (u ++ v) w := by
  simp [Cursor.past, Cursor.between]

/-- Texts, each with what may follow it. -/
abbrev Language := Text → Text → Prop

/-- The texts that an expression can pass from any place are exactly those of a language. -/
def Passes (r : Regex) (p : Language) : Prop :=
  ∀ (s : State) (at' : Cursor), (∃ x ∈ ways r s, x.cursor = at') ↔
    ∃ v w, s.cursor.after = v ++ w ∧ p v w ∧ at' = s.cursor.past v

/-- A text of one language and then one of another. -/
def Language.followedBy (p q : Language) : Language := fun v w => ∃ a b, v = a ++ b ∧ p a (b ++ w) ∧ q b w

/-- Any number of texts of a language. -/
inductive Language.Row (p : Language) : Language where
  | nil (w : Text) : Row p [] w
  | cons {a b w : Text} (first : p a (b ++ w)) (rest : Row p b w) : Row p (a ++ b) w

/-- The empty text is not of a language. -/
def Language.Moves (p : Language) : Prop := ∀ v w, p v w → v ≠ []

variable {r t u : Regex} {p q : Language}

/-- Languages with the same texts are passed by the same expressions. -/
theorem Passes.congr (h : Passes r p) (same : ∀ v w, p v w ↔ q v w) : Passes r q := by
  have equal : p = q := by
    funext v w
    exact propext (same v w)
  exact equal ▸ h

/-! ## One lemma for each kind of expression -/

/-- A set passes each of its characters. -/
theorem passes_set (chars : CharSet) : Passes (.set chars) fun v _ => ∃ c, v = [c] ∧ chars.has c = true := by
  intro s at'
  cases after : s.cursor.after with
  | nil =>
    constructor
    · rintro ⟨x, hx, -⟩
      simp [ways, after] at hx
    · rintro ⟨v, w, empty, ⟨c, rfl, -⟩, -⟩
      cases empty
  | cons c rest =>
    have moved : s.cursor.over c rest = s.cursor.past [c] := by simp [Cursor.over, Cursor.past, after]
    constructor
    · rintro ⟨x, hx, rfl⟩
      simp only [ways, after] at hx
      split at hx
      · rename_i has
        rw [List.mem_singleton.1 hx]
        exact ⟨[c], rest, rfl, ⟨c, rfl, has⟩, moved⟩
      · cases hx
    · rintro ⟨v, w, split, ⟨d, rfl, has⟩, rfl⟩
      obtain ⟨rfl, rfl⟩ := List.cons_eq_cons.1 split
      exact ⟨{ s with cursor := s.cursor.over c rest }, by simp [ways, after, has], moved⟩

theorem passes_single (c : Char) : Passes (single c) fun v _ => v = [c] := by
  refine (passes_set _).congr fun v w => ?_
  simp only [has_single]
  constructor
  · rintro ⟨d, rfl, rfl⟩
    rfl
  · rintro rfl
    exact ⟨c, rfl, rfl⟩

/-- Two expressions of which the second goes on wherever the first one ends. -/
theorem Passes.followedBy (hr : Passes r p) (ht : Passes t q) (row : ∀ s, ways u s = (ways r s).flatMap (ways t)) :
    Passes u (p.followedBy q) := by
  intro s at'
  simp only [row, List.mem_flatMap]
  constructor
  · rintro ⟨x, ⟨y, hy, hx⟩, rfl⟩
    obtain ⟨a, rest, after, first, place⟩ := (hr s y.cursor).1 ⟨y, hy, rfl⟩
    obtain ⟨b, w, after', second, place'⟩ := (ht y x.cursor).1 ⟨x, hx, rfl⟩
    rw [place, Cursor.after_past after] at after'
    subst after'
    refine ⟨a ++ b, w, by rw [after, List.append_assoc], ⟨a, b, rfl, first, second⟩, ?_⟩
    rw [place', place, Cursor.past_past]
  · rintro ⟨v, w, after, ⟨a, b, rfl, first, second⟩, rfl⟩
    rw [List.append_assoc] at after
    obtain ⟨y, hy, place⟩ := (hr s _).2 ⟨a, b ++ w, after, first, rfl⟩
    have after' : y.cursor.after = b ++ w := by rw [place, Cursor.after_past after]
    obtain ⟨x, hx, place'⟩ := (ht y _).2 ⟨b, w, after', second, rfl⟩
    exact ⟨x, ⟨y, hy, hx⟩, by rw [place', place, Cursor.past_past]⟩

/-- A row passes what its first member passes, followed by what the others pass. -/
theorem Passes.cons {rest : List Regex} (hr : Passes r p) (hs : Passes (sequence rest) q) :
    Passes (sequence (r :: rest)) (p.followedBy q) :=
  hr.followedBy hs (ways_sequence_cons r rest)

theorem Passes.one (h : Passes r p) : Passes (sequence [r]) p := h

theorem passes_sequence_nil : Passes (sequence []) fun v _ => v = [] := by
  intro s at'
  constructor
  · rintro ⟨x, hx, rfl⟩
    rw [List.mem_singleton.1 hx]
    exact ⟨[], _, rfl, rfl, rfl⟩
  · rintro ⟨v, w, -, rfl, rfl⟩
    exact ⟨s, List.mem_singleton_self s, rfl⟩

/-- A row of characters passes their text. -/
theorem Passes.singles {rest : List Regex} (hs : Passes (sequence rest) q) (t : Text) :
    Passes (sequence (t.map single ++ rest)) fun v w => ∃ b, v = t ++ b ∧ q b w := by
  induction t with
  | nil => exact hs.congr fun v w => by simp
  | cons c t ih =>
    refine ((passes_single c).cons ih).congr fun v w => ?_
    constructor
    · rintro ⟨a, b, rfl, rfl, b', rfl, hq⟩
      exact ⟨b', rfl, hq⟩
    · rintro ⟨b, rfl, hq⟩
      exact ⟨[c], t ++ b, rfl, rfl, b, rfl, hq⟩

/-- Two expressions to choose from. -/
theorem Passes.or (hr : Passes r p) (ht : Passes t q) (either : ∀ s x, x ∈ ways u s ↔ x ∈ ways r s ∨ x ∈ ways t s) :
    Passes u fun v w => p v w ∨ q v w := by
  intro s at'
  simp only [either, or_and_right, exists_or]
  rw [hr s at', ht s at']
  simp only [← exists_or]
  refine exists_congr fun v => exists_congr fun w => ?_
  tauto

/-- An alternative passes what either of its branches passes. -/
theorem Passes.alt (hr : Passes r p) (ht : Passes t q) : Passes (.alt r t) fun v w => p v w ∨ q v w :=
  hr.or ht fun s x => by rw [ways, List.mem_append]

theorem Passes.choice_append {rs ts : List Regex} (hr : Passes (choice rs) p) (ht : Passes (choice ts) q)
    (filled : rs ≠ []) (filled' : ts ≠ []) : Passes (choice (rs ++ ts)) fun v w => p v w ∨ q v w := by
  refine hr.or ht fun s x => ?_
  rw [mem_ways_choice (by simp [filled]), mem_ways_choice filled, mem_ways_choice filled']
  simp only [List.mem_append, or_and_right, exists_or]

theorem Passes.group (h : Passes r p) (index : Nat) : Passes (.group index r) p := by
  intro s at'
  rw [← h { s with marks := s.marks.update index fun m => (some s.cursor.pos, m.2) } at']
  simp only [ways, List.mem_map]
  constructor
  · rintro ⟨x, ⟨y, hy, rfl⟩, place⟩
    exact ⟨y, hy, place⟩
  · rintro ⟨y, hy, place⟩
    exact ⟨_, ⟨y, hy, rfl⟩, place⟩

/-- The end of the last line passes nothing and holds at the end, or before a newline there. -/
theorem passes_lastLineEnd : Passes (.anchor .lastLineEnd) fun v w => v = [] ∧ (w = [] ∨ w = ['\n']) := by
  intro s at'
  simp only [mem_ways_anchor, Anchor.holds, Bool.or_eq_true, List.isEmpty_iff, beq_iff_eq]
  constructor
  · rintro ⟨x, ⟨rfl, last⟩, rfl⟩
    exact ⟨[], _, rfl, ⟨rfl, last⟩, rfl⟩
  · rintro ⟨v, w, after, ⟨rfl, last⟩, rfl⟩
    rw [List.nil_append] at after
    exact ⟨s, ⟨rfl, by rwa [after]⟩, rfl⟩

/-- A look ahead passes nothing and holds where its expression could go on. -/
theorem Passes.ahead (h : Passes r p) :
    Passes (.look none false r) fun v w => v = [] ∧ ∃ a b, w = a ++ b ∧ p a b := by
  intro s at'
  have here : s.cursor.back? 0 = some s.cursor := by simp [Cursor.back?]
  have found : (run r s some).isSome = true ↔ ∃ a b, s.cursor.after = a ++ b ∧ p a b := by
    rw [run_eq_findSome?, List.isSome_findSome?, List.any_eq_true]
    constructor
    · rintro ⟨x, hx, -⟩
      obtain ⟨a, b, after, passed, -⟩ := (h s x.cursor).1 ⟨x, hx, rfl⟩
      exact ⟨a, b, after, passed⟩
    · rintro ⟨a, b, after, passed⟩
      obtain ⟨x, hx, -⟩ := (h s _).2 ⟨a, b, after, passed, rfl⟩
      exact ⟨x, hx, rfl⟩
  have settled : (∃ x ∈ ways (.look none false r) s, x.cursor = at') ↔
      (run r s some).isSome = true ∧ at' = s.cursor := by
    simp only [ways, Option.mem_toList, run, Option.getD_none, here]
    cases run r s some <;> simp [eq_comm]
  rw [settled, found]
  constructor
  · rintro ⟨follows, rfl⟩
    exact ⟨[], _, rfl, ⟨rfl, follows⟩, rfl⟩
  · rintro ⟨v, w, after, ⟨rfl, follows⟩, rfl⟩
    rw [List.nil_append] at after
    exact ⟨after ▸ follows, rfl⟩

/-- The further rounds of a repetition. They go on from every place that a round has reached, because each round moves
the place. -/
theorem Passes.greedyWays (h : Passes r p) (moves : p.Moves) {bound : Text} {last : Option Nat} {s : State}
    (enough : s.cursor.after.length < bound.length) (moved : last ≠ some s.cursor.pos) (at' : Cursor) :
    (∃ x ∈ greedyWays (ways r) bound none last s, x.cursor = at') ↔
      ∃ v w, s.cursor.after = v ++ w ∧ p.Row v w ∧ at' = s.cursor.past v := by
  induction bound generalizing last s with
  | nil => exact absurd enough (Nat.not_lt_zero _)
  | cons c bound ih =>
    have go : mayGoOn none last s = true := by simpa [mayGoOn] using moved
    -- A round leaves less to pass and a later position.
    have onward : ∀ {a rest : Text} {y : State}, s.cursor.after = a ++ rest → p a rest → y.cursor = s.cursor.past a →
        y.cursor.after = rest ∧ y.cursor.after.length < bound.length ∧ some s.cursor.pos ≠ some y.cursor.pos := by
      intro a rest y after first place
      have filled : 0 < a.length := List.length_pos_of_ne_nil (moves a rest first)
      have left : y.cursor.after = rest := by rw [place, Cursor.after_past after]
      refine ⟨left, ?_, ?_⟩
      · rw [after, List.length_append, List.length_cons] at enough
        rw [left]
        omega
      · rw [place, ne_eq, Option.some.injEq, Cursor.pos_past]
        omega
    rw [Regex.greedyWays, if_pos go]
    simp only [List.mem_append, List.mem_flatMap, List.mem_singleton, Option.map_none]
    constructor
    · rintro ⟨x, ⟨y, hy, hx⟩ | rfl, rfl⟩
      · obtain ⟨a, rest, after, first, place⟩ := (h s y.cursor).1 ⟨y, hy, rfl⟩
        obtain ⟨left, less, later⟩ := onward after first place
        obtain ⟨b, w, after', row, place'⟩ := (ih less later).1 ⟨x, hx, rfl⟩
        rw [left] at after'
        subst after'
        refine ⟨a ++ b, w, by rw [after, List.append_assoc], .cons first row, ?_⟩
        rw [place', place, Cursor.past_past]
      · exact ⟨[], _, rfl, .nil _, rfl⟩
    · rintro ⟨v, w, after, row, rfl⟩
      cases row with
      | nil => exact ⟨s, .inr rfl, rfl⟩
      | @cons a b _ first row =>
        rw [List.append_assoc] at after
        obtain ⟨y, hy, place⟩ := (h s _).2 ⟨a, b ++ w, after, first, rfl⟩
        obtain ⟨left, less, later⟩ := onward after first place
        obtain ⟨x, hx, place'⟩ := (ih less later).2 ⟨b, w, left, row, by rw [place, Cursor.past_past]⟩
        exact ⟨x, .inl ⟨y, hy, hx⟩, place'⟩

/-- A repetition passes any number of the texts that its expression passes. -/
theorem Passes.star (h : Passes r p) (moves : p.Moves) : Passes (.repeated .greedy 0 none r) p.Row := by
  intro s at'
  have rounds : ways (.repeated .greedy 0 none r) s = Regex.greedyWays (ways r) s.bound none none s := by
    simp [ways, roundWays]
  rw [rounds]
  exact h.greedyWays moves (by simp [State.bound]) (by simp) at'

theorem Passes.plus (h : Passes r p) (moves : p.Moves) :
    Passes (.repeated .greedy 1 none r) (p.followedBy p.Row) :=
  h.followedBy (h.star moves) fun s => by simp [ways, roundWays]

/-- A repetition of a set passes the texts of its characters, the empty one aside. -/
theorem passes_plus_set (chars : CharSet) :
    Passes (.repeated .greedy 1 none (.set chars)) fun v _ => v ≠ [] ∧ ∀ c ∈ v, chars.has c = true := by
  let one : Language := fun v _ => ∃ c, v = [c] ∧ chars.has c = true
  have moves : one.Moves := by
    rintro v w ⟨c, rfl, -⟩
    simp
  have row : ∀ v w, one.Row v w ↔ ∀ c ∈ v, chars.has c = true := by
    intro v w
    constructor
    · intro h
      induction h with
      | nil => simp
      | cons first rest ih =>
        obtain ⟨c, rfl, has⟩ := first
        simpa using ⟨has, ih⟩
    · intro h
      induction v with
      | nil => exact .nil w
      | cons c v ih =>
        obtain ⟨has, h⟩ := List.forall_mem_cons.1 h
        exact .cons (a := [c]) ⟨c, rfl, has⟩ (ih h)
  refine ((passes_set chars).plus moves).congr fun v w => ?_
  constructor
  · rintro ⟨a, b, rfl, ⟨c, rfl, has⟩, rest⟩
    simpa using ⟨has, (row b w).1 rest⟩
  · rintro ⟨filled, all⟩
    obtain ⟨c, v, rfl⟩ := List.exists_cons_of_ne_nil filled
    obtain ⟨has, all⟩ := List.forall_mem_cons.1 all
    exact ⟨[c], v, rfl, ⟨c, rfl, has⟩, (row v w).2 all⟩

end TypedRoutes.Regex
