import TypedRoutes.Proofs.Regex.Running
import TypedRoutes.Proofs.Regex.Ways

/-!
# What a match covers

An expression covers a stretch of a subject when it can match there (`Covers`). A search stops at the first stretch that
is covered, except that a search which has to move passes over an empty one at its own place (`searchFrom_cases`). So
searching succeeds exactly when some stretch is covered (`hasMatch_iff`), and a full match is one that covers everything
(`fullMatches_iff`).

Anchors put at both ends of a text of rows between bars fall to the first and to the last row alone. So a match of the
anchored rows covers a stretch by one row, which starts with the subject when the row is the first, and ends with the
subject or before a newline at its end when the row is the last (`hasMatch_anchoredRows_iff`).
-/

namespace TypedRoutes.Regex

set_option autoImplicit false

/-- Whether an expression matches a subject from end to end. -/
def fullMatches (r : Regex) (subject : Text) : Bool :=
  (run r ⟨.start subject, List.replicate (r.groupCount + 1) (none, none)⟩ fun s =>
    if s.cursor.after.isEmpty then some s else none).isSome

/-- The place between the two parts of a subject. -/
def Cursor.between (u v : Text) : Cursor := ⟨u.reverse, v, u.length⟩

/-- The state at a place with no group marked. -/
def State.fresh (groups : Nat) (at' : Cursor) : State := ⟨at', List.replicate (groups + 1) (none, none)⟩

/-- An expression can match a stretch between what stands before it and what stands after it. -/
def Covers (groups : Nat) (r : Regex) (u v w : Text) : Prop :=
  ∃ x ∈ ways r (.fresh groups (.between u (v ++ w))), x.cursor = .between (u ++ v) w

theorem within_between (u v : Text) : (Cursor.between u v).Within (u ++ v) u.length where
  around := by simp [Cursor.between]
  pos := by simp [Cursor.between]
  beyond := Nat.le_refl _

/-- A way ends at a place between two parts of what was to be matched. -/
theorem exists_cursor_eq_between {groups : Nat} {r : Regex} {u rest : Text} {x : State}
    (hx : x ∈ ways r (.fresh groups (.between u rest))) :
    ∃ v w, rest = v ++ w ∧ x.cursor = .between (u ++ v) w := by
  have within : x.cursor.Within (u ++ rest) u.length := within_ways r _ (within_between u rest) x hx
  have long : u.length ≤ x.cursor.before.reverse.length := by
    rw [List.length_reverse, ← within.pos]
    exact within.beyond
  obtain ⟨v, hv⟩ : u <+: x.cursor.before.reverse := by
    refine List.prefix_of_prefix_length_le (List.prefix_append u rest) ?_ long
    rw [← within.around]
    exact List.prefix_append _ _
  refine ⟨v, x.cursor.after, ?_, ?_⟩
  · have around := within.around
    rw [← hv, List.append_assoc] at around
    exact (List.append_cancel_left around).symm
  · have before : x.cursor.before = (u ++ v).reverse := by rw [hv, List.reverse_reverse]
    have pos : x.cursor.pos = (u ++ v).length := by rw [within.pos, before, List.length_reverse]
    calc x.cursor = ⟨x.cursor.before, x.cursor.after, x.cursor.pos⟩ := rfl
      _ = .between (u ++ v) x.cursor.after := by rw [before, pos]; rfl

/-- An expression matches a subject in full exactly when it covers it from end to end. -/
theorem fullMatches_iff (r : Regex) (subject : Text) :
    r.fullMatches subject = true ↔ Covers r.groupCount r [] subject [] := by
  have start : (⟨.start subject, List.replicate (r.groupCount + 1) (none, none)⟩ : State) =
    .fresh r.groupCount (.between [] (subject ++ [])) := by simp [State.fresh, Cursor.between, Cursor.start]
  rw [fullMatches, run_eq_findSome?, start, List.isSome_findSome?, List.any_eq_true]
  constructor
  · rintro ⟨x, hx, hs⟩
    obtain ⟨v, w, hv, hc⟩ := exists_cursor_eq_between hx
    have empty : w = [] := by
      have after : x.cursor.after = w := by rw [hc]; rfl
      cases w with
      | nil => rfl
      | cons d w => simp [after] at hs
    subst empty
    rw [List.append_nil, List.append_nil] at hv
    exact ⟨x, hx, hv ▸ hc⟩
  · rintro ⟨x, hx, hc⟩
    refine ⟨x, hx, ?_⟩
    rw [hc]
    rfl

/-! ## Matching at one place -/

section Searching

variable {r : Regex} {groups : Nat} {move : Bool} {u rest : Text}

/-- An empty stretch at the place from which a search has to move. -/
def Barred (move : Bool) (gap v : Text) : Prop := move = true ∧ gap ++ v = []

/-- A match at a place is one of the ways from there, and moves on when it has to. -/
theorem way_of_matchAt {at' : Cursor} {s : State} (h : matchAt r groups move at' = some s) :
    s ∈ ways r (.fresh groups at') ∧ (move = true → s.cursor.pos ≠ at'.pos) := by
  unfold matchAt at h
  rw [run_eq_findSome?] at h
  obtain ⟨x, hx, same⟩ := List.exists_of_findSome?_eq_some h
  split at same
  · cases same
  · rename_i moved
    cases same
    exact ⟨hx, by simpa using moved⟩

theorem mem_ways_of_matchAt {at' : Cursor} {s : State} (h : matchAt r groups move at' = some s) :
    s ∈ ways r (.fresh groups at') := (way_of_matchAt h).1

theorem pos_between (u v w : Text) : (Cursor.between (u ++ v) w).pos = u.length + v.length := List.length_append

/-- A match at a place covers a text that starts there, which is not empty when the match has to move on. -/
theorem exists_of_matchAt_eq_some {s : State} (found : matchAt r groups move (.between u rest) = some s) :
    ∃ v w, rest = v ++ w ∧ s.cursor = .between (u ++ v) w ∧ ¬ Barred move [] v := by
  obtain ⟨v, w, rfl, place⟩ := exists_cursor_eq_between (mem_ways_of_matchAt found)
  refine ⟨v, w, rfl, place, ?_⟩
  rintro ⟨moves, empty⟩
  obtain rfl : v = [] := empty
  apply (way_of_matchAt found).2 moves
  rw [place, pos_between]
  rfl

/-- When there is no match at a place, what is covered from there is barred: it is empty, and the match had to move
on. -/
theorem barred_of_matchAt_eq_none (none : matchAt r groups move (.between u rest) = none) {v w : Text}
    (split : rest = v ++ w) (covers : Covers groups r u v w) : Barred move [] v := by
  obtain ⟨x, hx, place⟩ := covers
  unfold matchAt at none
  rw [run_eq_findSome?, List.findSome?_eq_none_iff] at none
  have refused := none x (split ▸ hx)
  split at refused
  · rename_i still
    rw [Bool.and_eq_true, beq_iff_eq, place, pos_between] at still
    have empty : v.length = 0 := Nat.add_eq_left.1 still.2
    exact ⟨still.1, List.length_eq_zero_iff.1 empty⟩
  · cases refused

/-! ## Searching -/

theorem searchFrom_of_matchAt {s : State} (found : matchAt r groups move (.between u rest) = some s) :
    searchFrom r groups move u.reverse rest u.length = some (u.length, s) := by
  rw [Cursor.between] at found
  cases rest with
  | nil => rw [searchFrom, found, Option.map_some]
  | cons c rest => rw [searchFrom, found]

/-- Where nothing is found at a place, the search goes on from the next one. -/
theorem searchFrom_of_none {c : Char} (none : matchAt r groups move (.between u (c :: rest)) = .none) :
    searchFrom r groups move u.reverse (c :: rest) u.length =
      searchFrom r groups false (u ++ [c]).reverse rest (u ++ [c]).length := by
  rw [Cursor.between] at none
  rw [searchFrom, none]
  simp

/-- The next match of a search from the end of `u`: behind a gap it passes `v` and ends in a state. Every other
stretch that is covered starts there or later, unless it is barred. -/
structure NextMatch (r : Regex) (groups : Nat) (move : Bool) (u gap v w : Text) (s : State) : Prop where
  way : s ∈ ways r (.fresh groups (.between (u ++ gap) (v ++ w)))
  place : s.cursor = .between (u ++ gap ++ v) w
  allowed : ¬ Barred move gap v
  first : ∀ gap' v' w', gap ++ (v ++ w) = gap' ++ (v' ++ w') → Covers groups r (u ++ gap') v' w' →
    Barred move gap' v' ∨ gap.length ≤ gap'.length

/-- A match at the place itself is the next one. -/
theorem NextMatch.exists_of_matchAt {s : State} (found : matchAt r groups move (.between u rest) = some s) :
    ∃ gap v w s, rest = gap ++ (v ++ w) ∧
      searchFrom r groups move u.reverse rest u.length = some ((u ++ gap).length, s) ∧
      NextMatch r groups move u gap v w s := by
  have stops := searchFrom_of_matchAt found
  obtain ⟨v, w, rfl, place, allowed⟩ := exists_of_matchAt_eq_some found
  rw [← List.append_nil u] at found place
  refine ⟨[], v, w, s, rfl, by rw [List.append_nil, stops], ?_⟩
  exact ⟨mem_ways_of_matchAt found, place, allowed, fun _ _ _ _ _ => .inr (Nat.zero_le _)⟩

/-- When there is no match at a place, the next one is that from the place behind one character. -/
theorem NextMatch.cons {c : Char} {gap v w : Text} {s : State}
    (none : matchAt r groups move (.between u (c :: (gap ++ (v ++ w)))) = none)
    (next : NextMatch r groups false (u ++ [c]) gap v w s) : NextMatch r groups move u (c :: gap) v w s := by
  have assoc : u ++ [c] ++ gap = u ++ c :: gap := by simp
  refine ⟨assoc ▸ next.way, assoc ▸ next.place, fun barred => List.cons_ne_nil _ _ barred.2, ?_⟩
  intro gap' v' w' split covers
  cases gap' with
  | nil =>
    rw [List.append_nil] at covers
    exact .inl (barred_of_matchAt_eq_none none split covers)
  | cons d gap' =>
    obtain ⟨rfl, tail⟩ := List.cons_eq_cons.1 split
    rw [List.append_cons] at covers
    rcases next.first gap' v' w' tail covers with ⟨moves, -⟩ | le
    · cases moves
    · exact .inr (Nat.succ_le_succ le)

/-- **A search**: every stretch that is covered is barred, or the search stops at the next match. -/
theorem searchFrom_cases (r : Regex) (groups : Nat) (move : Bool) (u rest : Text) :
    (searchFrom r groups move u.reverse rest u.length = none ∧
      ∀ gap v w, rest = gap ++ (v ++ w) → Covers groups r (u ++ gap) v w → Barred move gap v) ∨
    ∃ gap v w s, rest = gap ++ (v ++ w) ∧
      searchFrom r groups move u.reverse rest u.length = some ((u ++ gap).length, s) ∧
      NextMatch r groups move u gap v w s := by
  induction rest generalizing u move with
  | nil =>
    cases found : matchAt r groups move (.between u []) with
    | some s => exact .inr (NextMatch.exists_of_matchAt found)
    | none =>
      refine .inl ⟨?_, ?_⟩
      · rw [Cursor.between] at found
        rw [searchFrom, found, Option.map_none]
      · intro gap v w split covers
        obtain ⟨rfl, empty⟩ := List.append_eq_nil_iff.1 split.symm
        rw [List.append_nil] at covers
        exact barred_of_matchAt_eq_none found empty.symm covers
  | cons c rest ih =>
    cases found : matchAt r groups move (.between u (c :: rest)) with
    | some s => exact .inr (NextMatch.exists_of_matchAt found)
    | none =>
      rw [searchFrom_of_none found]
      rcases ih false (u ++ [c]) with ⟨nothing, none⟩ | ⟨gap, v, w, s, rfl, stops, next⟩
      · refine .inl ⟨nothing, ?_⟩
        intro gap v w split covers
        cases gap with
        | nil =>
          rw [List.append_nil] at covers
          exact barred_of_matchAt_eq_none found split covers
        | cons d gap =>
          obtain ⟨rfl, tail⟩ := List.cons_eq_cons.1 split
          rw [List.append_cons] at covers
          cases (none gap v w tail covers).1
      · refine .inr ⟨c :: gap, v, w, s, rfl, ?_, next.cons found⟩
        rw [stops]
        simp

/-- **Searching** succeeds exactly when the expression covers some stretch of the subject. -/
theorem hasMatch_iff (r : Regex) (subject : Text) :
    r.hasMatch subject = true ↔ ∃ u v w, subject = u ++ (v ++ w) ∧ Covers r.groupCount r u v w := by
  rcases searchFrom_cases r r.groupCount false [] subject with ⟨nothing, none⟩ | ⟨u, v, w, s, rfl, stops, next⟩
  · have missed : r.hasMatch subject = false := congrArg Option.isSome nothing
    rw [missed]
    refine ⟨nofun, ?_⟩
    rintro ⟨u, v, w, split, covers⟩
    cases (none u v w split covers).1
  · have found : r.hasMatch (u ++ (v ++ w)) = true := congrArg Option.isSome stops
    exact ⟨fun _ => ⟨u, v, w, rfl, s, next.way, next.place⟩, fun _ => found⟩

end Searching

/-- What is not found captures nothing. -/
theorem captures_eq_nil {r : Regex} {subject : Text} (h : ¬ r.hasMatch subject = true) : r.captures subject = [] := by
  have none : searchFrom r r.groupCount false [] subject 0 = none := by simpa [hasMatch] using h
  have start : matchesFrom r r.groupCount (matchBound subject) false (.start subject) = [] := by
    rw [matchBound, matchesFrom]
    simp only [Cursor.start, none]
  rw [captures, allMatches, start]
  rfl

/-! ## Rows -/

theorem ways_sequence_cons (r : Regex) (rest : List Regex) (s : State) :
    ways (sequence (r :: rest)) s = (ways r s).flatMap (ways (sequence rest)) := by
  cases rest with
  | nil => exact (List.flatMap_singleton' (ways r s)).symm
  | cons r' rest => rfl

theorem mem_ways_append {rs us : List Regex} {s x : State} :
    x ∈ ways (sequence (rs ++ us)) s ↔ ∃ y ∈ ways (sequence rs) s, x ∈ ways (sequence us) y := by
  induction rs generalizing s with
  | nil => simp [Regex.sequence, ways]
  | cons r rest ih =>
    rw [List.cons_append, ways_sequence_cons, ways_sequence_cons]
    simp only [List.mem_flatMap, ih]
    constructor
    · rintro ⟨y, hy, z, hz, hx⟩
      exact ⟨z, ⟨y, hy, hz⟩, hx⟩
    · rintro ⟨z, ⟨y, hy, hz⟩, hx⟩
      exact ⟨y, hy, z, hz, hx⟩

theorem mem_ways_anchor {a : Anchor} {s x : State} :
    x ∈ ways (.anchor a) s ↔ x = s ∧ a.holds s.cursor = true := by
  by_cases h : a.holds s.cursor = true <;> simp [ways, h]

theorem choice_cons_cons (r r' : Regex) (rest : List Regex) :
    choice (r :: r' :: rest) = .alt r (choice (r' :: rest)) := rfl

/-- A choice is passed as one of its branches is. -/
theorem mem_ways_choice {rs : List Regex} (filled : rs ≠ []) {s x : State} :
    x ∈ ways (choice rs) s ↔ ∃ r ∈ rs, x ∈ ways r s := by
  induction rs with
  | nil => exact absurd rfl filled
  | cons r rest ih =>
    cases rest with
    | nil => simp [choice]
    | cons r' rest =>
      rw [choice_cons_cons, ways, List.mem_append, ih (by simp)]
      simp

theorem groupCount_choice (rs : List Regex) : (choice rs).groupCount = groupTotal rs := by
  induction rs with
  | nil => rfl
  | cons r rest ih =>
    cases rest with
    | nil => rfl
    | cons r' rest =>
      rw [choice_cons_cons, groupCount, ih]
      rfl

/-! ## Anchored rows -/

/-- The expression of rows between bars. -/
def ofRows (rows : List (List Regex)) : Regex := choice (rows.map sequence)

/-- A row with the condition that the subject starts before it, and the condition that the subject, or its last line,
ends after it. -/
def anchoredRow (first last : Bool) (row : List Regex) : List Regex :=
  (if first then [.anchor .subjectStart] else []) ++ row ++ if last then [.anchor .lastLineEnd] else []

/-- The rows with the condition at the end of the last one, and perhaps the condition at the start of the first. -/
def anchoredRows : Bool → List (List Regex) → List (List Regex)
  | _, [] => []
  | first, [row] => [anchoredRow first true row]
  | first, row :: row' :: rows => anchoredRow first false row :: anchoredRows false (row' :: rows)

/-- Each alternative is anchored as its place asks for: the first one at the start, the last one at the end. -/
theorem mem_anchoredRows {first : Bool} {rows : List (List Regex)} {anchored : List Regex} :
    anchored ∈ anchoredRows first rows ↔ ∃ before row after, rows = before ++ row :: after ∧
      anchored = anchoredRow (first && before.isEmpty) after.isEmpty row := by
  induction first, rows using anchoredRows.induct with
  | case1 first => simp [anchoredRows]
  | case2 first row =>
    rw [anchoredRows, List.mem_singleton]
    constructor
    · rintro rfl
      exact ⟨[], row, [], rfl, by simp⟩
    · rintro ⟨before, row', after, h, rfl⟩
      obtain ⟨rfl, rfl, rfl⟩ : before = [] ∧ row = row' ∧ after = [] := by
        cases before with
        | nil => simpa using h
        | cons _ before => simp at h
      simp
  | case3 first row row' rows ih =>
    rw [anchoredRows, List.mem_cons, ih]
    constructor
    · rintro (rfl | ⟨before, row'', after, h, rfl⟩)
      · exact ⟨[], row, row' :: rows, rfl, by simp⟩
      · exact ⟨row :: before, row'', after, by rw [h]; rfl, by simp⟩
    · rintro ⟨before, row'', after, h, rfl⟩
      cases before with
      | nil =>
        obtain ⟨rfl, rfl⟩ := List.cons_eq_cons.1 h
        exact .inl (by simp)
      | cons _ before =>
        obtain ⟨rfl, rest⟩ := List.cons_eq_cons.1 h
        exact .inr ⟨before, row'', after, rest, by simp⟩

theorem anchoredRows_ne_nil (first : Bool) {rows : List (List Regex)} (filled : rows ≠ []) :
    anchoredRows first rows ≠ [] := by
  match rows with
  | [] => exact absurd rfl filled
  | [_] => simp [anchoredRows]
  | _ :: _ :: _ => simp [anchoredRows]

theorem groupCount_anchoredRow (first last : Bool) (row : List Regex) :
    (sequence (anchoredRow first last row)).groupCount = (sequence row).groupCount := by
  rw [groupCount_sequence, groupCount_sequence]
  cases first <;> cases last <;> simp [anchoredRow, groupTotal, groupTotal_append, groupCount]

theorem groupCount_anchoredRows (first : Bool) (rows : List (List Regex)) :
    (ofRows (anchoredRows first rows)).groupCount = (ofRows rows).groupCount := by
  rw [ofRows, ofRows, groupCount_choice, groupCount_choice]
  induction first, rows using anchoredRows.induct with
  | case1 => rfl
  | case2 first row => simp [anchoredRows, groupTotal, groupCount_anchoredRow]
  | case3 first row row' rows ih =>
    rw [anchoredRows, List.map_cons, groupTotal, ih, groupCount_anchoredRow]
    rfl

/-- An anchored row is passed as the row is, from the start or up to the end of the last line. -/
theorem mem_ways_anchoredRow {first last : Bool} {row : List Regex} {s x : State} :
    x ∈ ways (sequence (anchoredRow first last row)) s ↔
      (first = true → s.cursor.before = []) ∧ x ∈ ways (sequence row) s ∧
        (last = true → Anchor.lastLineEnd.holds x.cursor = true) := by
  have opening : ∀ y, y ∈ ways (sequence (if first then [.anchor .subjectStart] else [])) s ↔
      y = s ∧ (first = true → s.cursor.before = []) := by
    intro y
    cases first with
    | false => simp [Regex.sequence, ways]
    | true => simp [Regex.sequence, mem_ways_anchor, Anchor.holds]
  have closing : ∀ y, x ∈ ways (sequence (if last then [.anchor .lastLineEnd] else [])) y ↔
      x = y ∧ (last = true → Anchor.lastLineEnd.holds y.cursor = true) := by
    intro y
    cases last with
    | false => simp [Regex.sequence, ways]
    | true => simp [Regex.sequence, mem_ways_anchor]
  rw [anchoredRow, mem_ways_append]
  simp only [mem_ways_append, opening, closing]
  constructor
  · rintro ⟨y, ⟨z, ⟨rfl, hs⟩, hy⟩, rfl, he⟩
    exact ⟨hs, hy, he⟩
  · rintro ⟨hs, hx, he⟩
    exact ⟨x, ⟨s, ⟨rfl, hs⟩, hx⟩, rfl, he⟩

/-- An anchored row covers what the row covers, from the start or up to the end of the last line. -/
theorem covers_anchoredRow_iff {groups : Nat} {first last : Bool} {row : List Regex} {u v w : Text} :
    Covers groups (sequence (anchoredRow first last row)) u v w ↔
      (first = true → u = []) ∧ Covers groups (sequence row) u v w ∧ (last = true → w = [] ∨ w = ['\n']) := by
  have start : (State.fresh groups (.between u (v ++ w))).cursor.before = [] ↔ u = [] := by
    simp [State.fresh, Cursor.between]
  have stop : ∀ x : State, x.cursor = .between (u ++ v) w →
      (Anchor.lastLineEnd.holds x.cursor = true ↔ w = [] ∨ w = ['\n']) := by
    intro x hc
    simp [hc, Anchor.holds, Cursor.between]
  simp only [Covers, mem_ways_anchoredRow, start]
  constructor
  · rintro ⟨x, ⟨hf, hx, hl⟩, hc⟩
    exact ⟨hf, ⟨x, hx, hc⟩, fun h => (stop x hc).1 (hl h)⟩
  · rintro ⟨hf, ⟨x, hx, hc⟩, hl⟩
    exact ⟨x, ⟨hf, hx, fun h => (stop x hc).2 (hl h)⟩, hc⟩

/-- Alternatives cover what one of them covers. -/
theorem covers_ofRows_iff {groups : Nat} {rows : List (List Regex)} (filled : rows ≠ []) {u v w : Text} :
    Covers groups (ofRows rows) u v w ↔ ∃ row ∈ rows, Covers groups (sequence row) u v w := by
  simp only [Covers, ofRows, mem_ways_choice (mt List.map_eq_nil_iff.1 filled), List.mem_map]
  constructor
  · rintro ⟨x, ⟨_, ⟨row, hr, rfl⟩, hx⟩, hc⟩
    exact ⟨row, hr, x, hx, hc⟩
  · rintro ⟨row, hr, x, hx, hc⟩
    exact ⟨x, ⟨_, ⟨row, hr, rfl⟩, hx⟩, hc⟩

/-- **What a match of anchored rows covers**: a stretch that one of the rows can match. The stretch starts with the
subject when the row is the first one, and when it is the last one the stretch ends with the subject or before a
newline at its end. -/
theorem hasMatch_anchoredRows_iff {rows : List (List Regex)} (filled : rows ≠ []) (subject : Text) :
    (ofRows (anchoredRows true rows)).hasMatch subject = true ↔
      ∃ before row after u v w, rows = before ++ row :: after ∧ subject = u ++ (v ++ w) ∧
        Covers (ofRows rows).groupCount (sequence row) u v w ∧ (before = [] → u = []) ∧
          (after = [] → w = [] ∨ w = ['\n']) := by
  rw [hasMatch_iff, groupCount_anchoredRows]
  simp only [covers_ofRows_iff (anchoredRows_ne_nil true filled), mem_anchoredRows]
  constructor
  · rintro ⟨u, v, w, hs, anchored, ⟨before, row, after, hr, rfl⟩, hc⟩
    obtain ⟨hf, hc, hl⟩ := covers_anchoredRow_iff.1 hc
    exact ⟨before, row, after, u, v, w, hr, hs, hc, by simpa using hf, by simpa using hl⟩
  · rintro ⟨before, row, after, u, v, w, hr, hs, hc, hf, hl⟩
    refine ⟨u, v, w, hs, _, ⟨before, row, after, hr, rfl⟩, covers_anchoredRow_iff.2 ⟨?_, hc, ?_⟩⟩
    · simpa using hf
    · simpa using hl

end TypedRoutes.Regex
