import TypedRoutes.Proofs.Regex.Passing

/-!
# Scanning a subject

Listing the matches of an expression and replacing them walk the subject on their own. Where each place leaves no choice
of what to match, both are settled by the same description: `Scans p u rest items` says what a scan for `p` makes of the
rest of a subject, character by character, with the texts that are found in their places. One step of a scan is the
search for the next match (`Finds.search`); from it follow what is listed (`Finds.matchedTexts_eq`) and what is left after
replacing (`Finds.replaceAll_eq`).

What may be found can depend on what stands before it, so that conditions on the text behind a place are covered too
(`Passes.behind`). Where it does not, `Lists p subject texts` is all that is needed to know what is listed
(`Passes.matchedTexts_eq`).
-/

namespace TypedRoutes.Regex

set_option autoImplicit false

variable {r : Regex} {p : Text → Language}

/-- The texts that an expression can match, between what stands before and what stands after them. -/
def Finds (r : Regex) (p : Text → Language) : Prop := ∀ u v w, Covers r.groupCount r u v w ↔ p u v w

/-- What a scan makes of the rest of a subject: the characters that it passes over and the texts that it finds. Where a
text is found there is no other one. -/
inductive Scans (p : Text → Language) : Text → Text → List (Char ⊕ Text) → Prop where
  | done (u : Text) : Scans p u [] []
  | skip {u rest : Text} {c : Char} {items : List (Char ⊕ Text)} (none : ∀ v w, c :: rest = v ++ w → ¬ p u v w)
      (later : Scans p (u ++ [c]) rest items) : Scans p u (c :: rest) (.inl c :: items)
  | take {u v w : Text} {items : List (Char ⊕ Text)} (here : p u v w)
      (only : ∀ v' w', v ++ w = v' ++ w' → p u v' w' → v' = v) (later : Scans p (u ++ v) w items) :
      Scans p u (v ++ w) (.inr v :: items)

/-- The texts that a scan finds. -/
def foundTexts (items : List (Char ⊕ Text)) : List Text := items.filterMap Sum.getRight?

/-- The subject with another text in place of each one found. -/
def withReplaced (replacement : Text) (items : List (Char ⊕ Text)) : Text :=
  items.flatMap (Sum.elim (fun c => [c]) fun _ => replacement)

@[simp] theorem foundTexts_append (items others : List (Char ⊕ Text)) :
    foundTexts (items ++ others) = foundTexts items ++ foundTexts others := List.filterMap_append

@[simp] theorem withReplaced_append (replacement : Text) (items others : List (Char ⊕ Text)) :
    withReplaced replacement (items ++ others) = withReplaced replacement items ++ withReplaced replacement others :=
  List.flatMap_append

@[simp] theorem foundTexts_passed (c : Char) (items : List (Char ⊕ Text)) :
    foundTexts (.inl c :: items) = foundTexts items := rfl

@[simp] theorem withReplaced_passed (replacement : Text) (c : Char) (items : List (Char ⊕ Text)) :
    withReplaced replacement (.inl c :: items) = c :: withReplaced replacement items := rfl

@[simp] theorem foundTexts_skipped (t : Text) : foundTexts (t.map .inl) = [] := by
  simp [foundTexts, List.filterMap_map]

@[simp] theorem foundTexts_found (v : Text) (items : List (Char ⊕ Text)) :
    foundTexts (.inr v :: items) = v :: foundTexts items := rfl

@[simp] theorem withReplaced_skipped (replacement t : Text) : withReplaced replacement (t.map .inl) = t := by
  simp [withReplaced, List.flatMap_map]

@[simp] theorem withReplaced_found (replacement v : Text) (items : List (Char ⊕ Text)) :
    withReplaced replacement (.inr v :: items) = replacement ++ withReplaced replacement items := rfl

/-! ## One step of a scan -/

/-- Where no text of the language starts, there is no match. -/
theorem Finds.matchAt_eq_none (h : Finds r p) {u rest : Text} (none : ∀ v w, rest = v ++ w → ¬ p u v w) :
    matchAt r r.groupCount false (.between u rest) = .none := by
  cases found : matchAt r r.groupCount false (.between u rest) with
  | none => rfl
  | some s =>
    obtain ⟨v, w, rfl, place⟩ := exists_cursor_eq_between (mem_ways_of_matchAt found)
    exact absurd ((h u v w).1 ⟨s, mem_ways_of_matchAt found, place⟩) (none v w rfl)

/-- Where just one text of the language starts, the match passes it. -/
theorem Finds.matchAt_eq_some (h : Finds r p) {u v w : Text} (here : p u v w)
    (only : ∀ v' w', v ++ w = v' ++ w' → p u v' w' → v' = v) :
    ∃ s, matchAt r r.groupCount false (.between u (v ++ w)) = some s ∧ s.cursor = .between (u ++ v) w := by
  cases found : matchAt r r.groupCount false (.between u (v ++ w)) with
  | none => cases (barred_of_matchAt_eq_none found rfl ((h u v w).2 here)).1
  | some s =>
    obtain ⟨v', w', split, place⟩ := exists_cursor_eq_between (mem_ways_of_matchAt found)
    have passed : p u v' w' := (h u v' w').1 ⟨s, split ▸ mem_ways_of_matchAt found, place⟩
    obtain rfl := only v' w' split passed
    obtain rfl := List.append_cancel_left split
    exact ⟨s, rfl, place⟩

/-- **The next match** of a scan: there is none, or the search passes over what stands before the text that is found
next and stops behind it. -/
theorem Finds.search (h : Finds r p) (moves : ∀ u, (p u).Moves) {u rest : Text} {items : List (Char ⊕ Text)}
    (scans : Scans p u rest items) :
    (items = rest.map .inl ∧ searchFrom r r.groupCount false u.reverse rest u.length = none) ∨
      ∃ gap v w later s, rest = gap ++ (v ++ w) ∧ items = gap.map .inl ++ .inr v :: later ∧ v ≠ [] ∧
        searchFrom r r.groupCount false u.reverse rest u.length = some ((u ++ gap).length, s) ∧
        s.cursor = .between (u ++ gap ++ v) w ∧ Scans p (u ++ gap ++ v) w later := by
  induction scans with
  | done u =>
    have none : matchAt r r.groupCount false (.between u []) = .none := by
      refine h.matchAt_eq_none fun v w split passed => moves u v w passed ?_
      exact (List.append_eq_nil_iff.1 split.symm).1
    rw [Cursor.between] at none
    exact .inl ⟨rfl, by rw [searchFrom, none, Option.map_none]⟩
  | @skip u rest c items none later ih =>
    rw [searchFrom_of_none (h.matchAt_eq_none none)]
    rcases ih with ⟨rfl, nothing⟩ | ⟨gap, v, w, more, s, rfl, rfl, filled, found, place, scans⟩
    · exact .inl ⟨rfl, nothing⟩
    · rw [List.append_assoc u [c] gap] at found place scans
      exact .inr ⟨c :: gap, v, w, more, s, rfl, rfl, filled, found, place, scans⟩
  | @take u v w items here only later ih =>
    obtain ⟨s, found, place⟩ := h.matchAt_eq_some here only
    have stops := searchFrom_of_matchAt found
    rw [← List.append_nil u] at place later
    exact .inr ⟨[], v, w, items, s, rfl, rfl, moves _ v w here, by rw [List.append_nil, stops], place, later⟩

/-! ## Whole scans -/

/-- The place behind a match that is not empty allows an empty match there. -/
theorem pos_beq_of_ne_nil {u v w : Text} {s : State} (place : s.cursor = .between (u ++ v) w) (filled : v ≠ []) :
    (s.cursor.pos == u.length) = false := by
  have long := List.length_pos_of_ne_nil filled
  rw [place, pos_between, beq_eq_false_iff_ne]
  omega

/-- The texts of the matches from a place on are those that the scan finds; the bound is large enough, because every
match moves on. -/
theorem Finds.map_slice_matchesFrom (h : Finds r p) (moves : ∀ u, (p u).Moves) {u rest : Text}
    {items : List (Char ⊕ Text)} (scans : Scans p u rest items) {n : Nat} (enough : rest.length < n) :
    (matchesFrom r r.groupCount n false (.between u rest)).map (fun m => slice (u ++ rest) (m.start, m.stop)) =
      foundTexts items := by
  -- By induction on the bound: each match leaves less to search.
  induction n generalizing u rest items with
  | zero => exact absurd enough (Nat.not_lt_zero _)
  | succ n ih =>
    rw [matchesFrom]
    rcases h.search moves scans with ⟨rfl, nothing⟩ | ⟨gap, v, w, later, s, rfl, rfl, filled, found, place, scans⟩
    · simp only [Cursor.between, nothing, List.map_nil, foundTexts_skipped]
    · have less : w.length < n := by
        have long := List.length_pos_of_ne_nil filled
        rw [List.length_append, List.length_append] at enough
        omega
      have following := ih scans less
      have around : u ++ (gap ++ (v ++ w)) = u ++ gap ++ (v ++ w) := (List.append_assoc _ _ _).symm
      simp only [Cursor.between] at found ⊢
      rw [found]
      simp only [pos_beq_of_ne_nil place filled, List.map_cons, Match.ofState]
      rw [place, foundTexts_append, foundTexts_skipped, foundTexts_found, ← following, around, List.nil_append]
      congr 1
      · exact slice_between (u ++ gap) v w
      · simp only [List.append_assoc]

/-- What replacing leaves from a place on is the scanned text with the replacement in place of each text found. -/
theorem Finds.replaceFrom_eq (h : Finds r p) (moves : ∀ u, (p u).Moves) (replacement : Text) {u rest : Text}
    {items : List (Char ⊕ Text)} (scans : Scans p u rest items) {n : Nat} (enough : rest.length < n) :
    replaceFrom r r.groupCount replacement n false (.between u rest) = withReplaced replacement items := by
  induction n generalizing u rest items with
  | zero => exact absurd enough (Nat.not_lt_zero _)
  | succ n ih =>
    rw [replaceFrom]
    rcases h.search moves scans with ⟨rfl, nothing⟩ | ⟨gap, v, w, later, s, rfl, rfl, filled, found, place, scans⟩
    · simp only [Cursor.between, nothing, withReplaced_skipped]
    · have less : w.length < n := by
        have long := List.length_pos_of_ne_nil filled
        rw [List.length_append, List.length_append] at enough
        omega
      have kept : (gap ++ (v ++ w)).take ((u ++ gap).length - u.length) = gap := by simp
      simp only [Cursor.between] at found ⊢
      rw [found]
      simp only [pos_beq_of_ne_nil place filled, kept]
      rw [place, ih scans less, withReplaced_append, withReplaced_skipped, withReplaced_found, List.append_assoc]

/-- **What a scan lists**: the texts that it finds. -/
theorem Finds.matchedTexts_eq (h : Finds r p) (moves : ∀ u, (p u).Moves) {subject : Text} {items : List (Char ⊕ Text)}
    (scans : Scans p [] subject items) : r.matchedTexts subject = foundTexts items := by
  have start : Cursor.start subject = .between [] subject := rfl
  rw [matchedTexts, spans, allMatches, start, List.map_map]
  exact h.map_slice_matchesFrom moves scans (by rw [matchBound]; omega)

/-- **What a scan leaves** when it replaces the texts that it finds. -/
theorem Finds.replaceAll_eq (h : Finds r p) (moves : ∀ u, (p u).Moves) (replacement : Text) {subject : Text}
    {items : List (Char ⊕ Text)} (scans : Scans p [] subject items) :
    r.replaceAll replacement subject = withReplaced replacement items :=
  h.replaceFrom_eq moves replacement scans (by rw [matchBound]; omega)

/-! ## What expressions find -/

/-- What an expression passes between two parts of a subject. -/
theorem Passes.between_iff {q : Language} (h : Passes r q) {u v w : Text} {s : State}
    (place : s.cursor = .between u (v ++ w)) : (∃ x ∈ ways r s, x.cursor = .between (u ++ v) w) ↔ q v w := by
  rw [h]
  constructor
  · rintro ⟨v', w', split, passed, stop⟩
    have split' : v ++ w = v' ++ w' := by rwa [place] at split
    rw [place, split', Cursor.between_past] at stop
    obtain ⟨before, after, -⟩ := Cursor.mk.inj stop
    obtain rfl : v = v' := List.append_cancel_left (List.reverse_injective before)
    obtain rfl : w = w' := after
    exact passed
  · intro passed
    exact ⟨v, w, by rw [place]; rfl, passed, by rw [place, Cursor.between_past]⟩

/-- What an expression passes it finds, whatever stands before. -/
theorem Passes.finds {q : Language} (h : Passes r q) : Finds r fun _ => q := fun _ _ _ => h.between_iff rfl

/-- The texts of a language in a subject, from left to right and without overlaps. Where a text starts there is no other
one. -/
inductive Language.Lists (p : Language) : Text → List Text → Prop where
  | done : Lists p [] []
  | skip {c : Char} {rest : Text} {texts : List Text} (none : ∀ v w, c :: rest = v ++ w → ¬ p v w)
      (later : Lists p rest texts) : Lists p (c :: rest) texts
  | take {v w : Text} {texts : List Text} (here : p v w) (only : ∀ v' w', v ++ w = v' ++ w' → p v' w' → v' = v)
      (later : Lists p w texts) : Lists p (v ++ w) (v :: texts)

/-- A text in which the texts of a language are listed is scanned for them. -/
theorem Language.Lists.exists_scans {q : Language} {rest : Text} {texts : List Text} (lists : q.Lists rest texts)
    (u : Text) : ∃ items, Scans (fun _ => q) u rest items ∧ foundTexts items = texts := by
  induction lists generalizing u with
  | done => exact ⟨[], .done u, rfl⟩
  | @skip c rest texts none later ih =>
    obtain ⟨items, scans, found⟩ := ih (u ++ [c])
    exact ⟨.inl c :: items, .skip none scans, found⟩
  | @take v w texts here only later ih =>
    obtain ⟨items, scans, found⟩ := ih (u ++ v)
    exact ⟨.inr v :: items, .take here only scans, by rw [foundTexts_found, found]⟩

/-- **The texts of all matches** are those of the language, from left to right. -/
theorem Passes.matchedTexts_eq {q : Language} (h : Passes r q) (moves : q.Moves) {subject : Text} {texts : List Text}
    (lists : q.Lists subject texts) : r.matchedTexts subject = texts := by
  obtain ⟨items, scans, found⟩ := lists.exists_scans []
  rw [h.finds.matchedTexts_eq (fun _ => moves) scans, found]

/-! ## Conditions on what stands before -/

/-- A condition on the character before a place. -/
theorem ways_behind (c : Char) {u rest : Text} {s : State} (place : s.cursor = .between u rest) :
    ways (.look (some 1) false (single c)) s = if u.getLast? = some c then [s] else [] := by
  obtain ⟨cursor, marks⟩ := s
  obtain rfl : cursor = .between u rest := place
  rcases List.eq_nil_or_concat' u with rfl | ⟨u, d, rfl⟩
  · rfl
  · have back : (Cursor.between (u ++ [d]) rest).back? 1 = some ⟨u.reverse, d :: rest, u.length⟩ := by
      simp [Cursor.between, Cursor.back?]
    have here : run (single c) ⟨⟨u.reverse, d :: rest, u.length⟩, marks⟩ some =
        if d = c then some ⟨.between (u ++ [d]) rest, marks⟩ else none := by
      by_cases same : d = c <;> simp [single, run, has_single, same, Cursor.over, Cursor.between]
    simp only [ways, run, Option.getD_some, back, here, List.getLast?_concat, Option.some.injEq]
    by_cases same : d = c <;> simp [same]

/-- Behind a character an expression finds what the rest of it passes, and nothing elsewhere. -/
theorem Passes.behind {rest : List Regex} {q : Language} (h : Passes (sequence rest) q) (c : Char) (index : Nat) :
    Finds (.group index (sequence (.look (some 1) false (single c) :: rest))) fun u v w =>
      u.getLast? = some c ∧ q v w := by
  intro u v w
  let entered : State := ⟨.between u (v ++ w), Marks.update (List.replicate (groupCount (.group index (sequence
    (.look (some 1) false (single c) :: rest))) + 1) (none, none)) index fun m => (some u.length, m.2)⟩
  have inner : Covers (groupCount (.group index (sequence (.look (some 1) false (single c) :: rest))))
      (.group index (sequence (.look (some 1) false (single c) :: rest))) u v w ↔
        ∃ x ∈ ways (sequence (.look (some 1) false (single c) :: rest)) entered, x.cursor = .between (u ++ v) w := by
    simp only [Covers, ways, List.mem_map]
    constructor
    · rintro ⟨x, ⟨y, hy, rfl⟩, place⟩
      exact ⟨y, hy, place⟩
    · rintro ⟨y, hy, place⟩
      exact ⟨_, ⟨y, hy, rfl⟩, place⟩
  rw [inner, ways_sequence_cons, ways_behind c rfl]
  by_cases follows : u.getLast? = some c
  · rw [if_pos follows, List.flatMap_singleton, h.between_iff rfl]
    simp [follows]
  · simp [follows]

end TypedRoutes.Regex
