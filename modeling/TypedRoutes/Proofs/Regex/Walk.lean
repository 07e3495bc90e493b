import TypedRoutes.Proofs.Regex.Covering

/-!
# Walks through a subject

Listing and replacing walk a subject from match to match, each on its own. One step is the search for the next match;
after an empty match the walk has to move. `Walk` says what a whole walk lists, and the bound of the listing is never what
ends it (`walk_matchesFrom`).

From a walk follow the bounds and the order of the matches (`Walk.bounds`, `Walk.apart`), that the texts of the matches
between the gaps are the subject again (`Walk.interleave_eq`), and that no stretch that the expression covers is left out
(`Walk.complete`). Replacing takes the same steps, so that it puts the replacement between the same gaps
(`replaceFrom_eq`).
-/

namespace TypedRoutes.Regex

set_option autoImplicit false

variable {r : Regex} {groups : Nat} {move : Bool} {u rest : Text}

/-! ## Whole walks -/

/-- What a walk through the rest of a subject lists. After an empty match it has to move. -/
inductive Walk (r : Regex) (groups : Nat) : Bool → Text → Text → List Match → Prop where
  | done {move : Bool} {u rest : Text}
      (none : ∀ gap v w, rest = gap ++ (v ++ w) → Covers groups r (u ++ gap) v w → Barred move gap v) :
      Walk r groups move u rest []
  | found {move : Bool} {u gap v w : Text} {s : State} {listed : List Match}
      (next : NextMatch r groups move u gap v w s) (later : Walk r groups v.isEmpty (u ++ gap ++ v) w listed) :
      Walk r groups move u (gap ++ (v ++ w)) (.ofState groups (u ++ gap).length s :: listed)

theorem NextMatch.pos_beq {gap v w : Text} {s : State} (next : NextMatch r groups move u gap v w s) :
    (s.cursor.pos == (u ++ gap).length) = v.isEmpty := by
  rw [next.place, pos_between]
  cases v <;> simp

/-- Each match leaves less to walk through. -/
theorem NextMatch.leaves_less {gap v w : Text} {s : State} (next : NextMatch r groups move u gap v w s) :
    2 * w.length + (if v.isEmpty then 0 else 1) < 2 * (gap ++ (v ++ w)).length + if move then 0 else 1 := by
  simp only [List.length_append]
  cases v with
  | cons c v =>
    simp only [List.length_cons, List.isEmpty_cons, Bool.false_eq_true, if_false]
    omega
  | nil =>
    cases move with
    | false =>
      simp only [List.isEmpty_nil, if_true, Bool.false_eq_true, if_false]
      omega
    | true =>
      have filled : gap ≠ [] := fun empty => next.allowed ⟨rfl, by rw [empty]; rfl⟩
      have long := List.length_pos_iff.2 filled
      simp only [List.isEmpty_nil, if_true]
      omega

/-- **What is listed** is what a walk lists, when the bound is more than what there is to walk through. -/
theorem walk_matchesFrom {bound : Nat} (enough : 2 * rest.length + (if move then 0 else 1) < bound) :
    Walk r groups move u rest (matchesFrom r groups bound move (.between u rest)) := by
  induction bound generalizing move u rest with
  | zero => exact absurd enough (Nat.not_lt_zero _)
  | succ bound ih =>
    rw [matchesFrom]
    simp only [Cursor.between]
    rcases searchFrom_cases r groups move u rest with ⟨nothing, none⟩ | ⟨gap, v, w, s, rfl, stops, next⟩
    · rw [nothing]
      exact .done none
    · have less := next.leaves_less
      rw [stops]
      dsimp only
      rw [next.pos_beq, next.place]
      exact .found next (ih (by omega))

/-! ## What a walk lists -/

/-- The span of a match. -/
def Match.span (m : Match) : Nat × Nat := (m.start, m.stop)

/-- A match is the end of a way from one place of a subject to another. -/
def Match.Occurs (r : Regex) (groups : Nat) (subject : Text) (m : Match) : Prop :=
  ∃ u v w s, subject = u ++ (v ++ w) ∧ s ∈ ways r (.fresh groups (.between u (v ++ w))) ∧
    s.cursor = .between (u ++ v) w ∧ m = .ofState groups u.length s ∧ m.span = (u.length, (u ++ v).length)

/-- The texts around spans, from a position on. -/
def gapsFrom (subject : Text) : Nat → List (Nat × Nat) → List Text
  | first, [] => [subject.drop first]
  | first, span :: spans => slice subject (first, span.1) :: gapsFrom subject span.2 spans

/-- Gaps with a text behind each, as long as there are both. -/
def interleave : List Text → List Text → Text
  | gap :: gaps, t :: texts => gap ++ (t ++ interleave gaps texts)
  | gaps, [] => gaps.flatten
  | [], texts => texts.flatten

/-- A next match starts behind its gap and ends behind what it covers. -/
theorem NextMatch.ends_eq {gap v w : Text} {s : State} (next : NextMatch r groups move u gap v w s) :
    (Match.ofState groups (u ++ gap).length s).start = u.length + gap.length ∧
      (Match.ofState groups (u ++ gap).length s).stop = u.length + gap.length + v.length :=
  ⟨List.length_append, by rw [Match.ofState, next.place, pos_between, List.length_append]⟩

theorem NextMatch.span_eq {gap v w : Text} {s : State} (next : NextMatch r groups move u gap v w s) :
    (Match.ofState groups (u ++ gap).length s).span = ((u ++ gap).length, (u ++ gap ++ v).length) := by
  rw [Match.span, next.ends_eq.1, next.ends_eq.2, List.length_append, List.length_append, List.length_append]

/-- A next match occurs in the subject. -/
theorem NextMatch.occurs {gap v w : Text} {s : State} (next : NextMatch r groups move u gap v w s) :
    (Match.ofState groups (u ++ gap).length s).Occurs r groups (u ++ (gap ++ (v ++ w))) :=
  ⟨u ++ gap, v, w, s, (List.append_assoc ..).symm, next.way, next.place, rfl, next.span_eq⟩

theorem slice_between (u v w : Text) : slice (u ++ (v ++ w)) (u.length, (u ++ v).length) = v := by
  simp [slice]

/-- The first gap and the first text come before what is put together behind the first span. -/
theorem interleave_gapsFrom_cons (u gap v w : Text) (spans : List (Nat × Nat)) (t : Text) (texts : List Text) :
    interleave (gapsFrom (u ++ (gap ++ (v ++ w))) u.length (((u ++ gap).length, (u ++ gap ++ v).length) :: spans))
        (t :: texts) =
      gap ++ (t ++ interleave (gapsFrom (u ++ gap ++ v ++ w) (u ++ gap ++ v).length spans) texts) := by
  have whole : u ++ gap ++ v ++ w = u ++ (gap ++ (v ++ w)) := by simp only [List.append_assoc]
  rw [gapsFrom, interleave, slice_between, whole]

namespace Walk

variable {listed : List Match}

/-- Every match of a walk occurs in the subject. -/
theorem occurs (walk : Walk r groups move u rest listed) : ∀ m ∈ listed, m.Occurs r groups (u ++ rest) := by
  induction walk with
  | done => simp
  | found next later ih =>
    refine List.forall_mem_cons.2 ⟨next.occurs, ?_⟩
    simpa using ih

/-- The matches of a walk lie in what was left of the subject, and end behind the place that the walk has to leave. -/
theorem bounds (walk : Walk r groups move u rest listed) :
    ∀ m ∈ listed, u.length ≤ m.start ∧ m.start ≤ m.stop ∧ m.stop ≤ u.length + rest.length ∧
      (move = true → u.length < m.stop) := by
  induction walk with
  | done => simp
  | @found move u gap v w s listed next later ih =>
    obtain ⟨begins, ends⟩ := next.ends_eq
    generalize Match.ofState groups (u ++ gap).length s = m at begins ends ⊢
    simp only [List.length_append] at ih ⊢
    refine List.forall_mem_cons.2 ⟨⟨by omega, by omega, by omega, fun moves => ?_⟩, fun n member => ?_⟩
    · have filled : gap ++ v ≠ [] := fun empty => next.allowed ⟨moves, empty⟩
      have long := List.length_pos_iff.2 filled
      rw [List.length_append] at long
      omega
    · obtain ⟨start, order, stop, moved⟩ := ih n member
      refine ⟨by omega, order, by omega, fun moves => ?_⟩
      cases v with
      | cons c v =>
        simp only [List.length_cons] at start
        omega
      | nil => exact Nat.lt_of_le_of_lt (by omega) (moved rfl)

/-- The matches are in order: none starts before the one before has ended, and each ends behind where the one before
starts. -/
theorem apart (walk : Walk r groups move u rest listed) :
    listed.Pairwise fun m n => m.stop ≤ n.start ∧ m.start < n.stop := by
  induction walk with
  | done => exact .nil
  | @found move u gap v w s listed next later ih =>
    refine .cons (fun n member => ?_) ih
    obtain ⟨begins, ends⟩ := next.ends_eq
    obtain ⟨start, order, -, moved⟩ := later.bounds n member
    rw [begins, ends]
    simp only [List.length_append] at start moved
    refine ⟨start, ?_⟩
    cases v with
    | cons c v =>
      simp only [List.length_cons] at start
      omega
    | nil => exact moved rfl

/-- The gaps with the texts of the matches between them are what was walked through. -/
theorem interleave_eq (walk : Walk r groups move u rest listed) :
    interleave (gapsFrom (u ++ rest) u.length (listed.map Match.span))
      ((listed.map Match.span).map (slice (u ++ rest))) = rest := by
  induction walk with
  | done => simp [gapsFrom, interleave]
  | @found move u gap v w s listed next later ih =>
    have whole : u ++ (gap ++ (v ++ w)) = u ++ gap ++ (v ++ w) := (List.append_assoc ..).symm
    have behind : u ++ (gap ++ (v ++ w)) = u ++ gap ++ v ++ w := by simp only [List.append_assoc]
    rw [List.map_cons, next.span_eq, List.map_cons, interleave_gapsFrom_cons, whole, slice_between, ← whole, behind, ih]

/-- A stretch that is covered starts where a match starts, or inside a match, unless it is barred. -/
theorem complete (walk : Walk r groups move u rest listed) {gap v w : Text} (split : rest = gap ++ (v ++ w))
    (covers : Covers groups r (u ++ gap) v w) :
    Barred move gap v ∨ ∃ m ∈ listed, m.start = (u ++ gap).length ∨
      m.start < (u ++ gap).length ∧ (u ++ gap).length < m.stop := by
  induction walk generalizing gap v w with
  | done none => exact .inl (none gap v w split covers)
  | @found move u gap' v' w' s listed next later ih =>
    obtain ⟨begins, ends⟩ := next.ends_eq
    by_cases barred : Barred move gap v
    · exact .inl barred
    refine .inr ?_
    have first := (next.first gap v w split covers).resolve_left barred
    by_cases here : gap.length = gap'.length
    · exact ⟨_, List.mem_cons_self .., .inl (by rw [begins, List.length_append, here])⟩
    by_cases inside : gap.length < gap'.length + v'.length
    · refine ⟨_, List.mem_cons_self .., .inr ?_⟩
      rw [begins, ends, List.length_append]
      omega
    -- the stretch starts behind the match, so that the rest of the walk comes upon it
    have reached : gap' ++ v' <+: gap ++ (v ++ w) := ⟨w', by rw [List.append_assoc, split]⟩
    obtain ⟨between, rfl⟩ : gap' ++ v' <+: gap := by
      refine List.prefix_of_prefix_length_le reached (List.prefix_append ..) ?_
      rw [List.length_append]
      omega
    have behind : gap' ++ v' ++ w' = gap' ++ v' ++ (between ++ (v ++ w)) := by simpa only [List.append_assoc] using split
    replace behind := List.append_cancel_left behind
    have assoc : u ++ (gap' ++ v' ++ between) = u ++ gap' ++ v' ++ between := by simp only [List.append_assoc]
    rcases ih behind (assoc ▸ covers) with ⟨still, empty⟩ | ⟨m, member, spot⟩
    · rw [List.isEmpty_iff] at still
      rw [List.append_eq_nil_iff] at empty
      simp [still, empty.1] at here
    · exact ⟨m, List.mem_cons_of_mem _ member, assoc ▸ spot⟩

end Walk

/-! ## Replacing -/

/-- **What is left after replacing**: the gaps of what is listed, with the replacement between them. -/
theorem replaceFrom_eq (r : Regex) (groups : Nat) (replacement : Text) (bound : Nat) (move : Bool) (u rest : Text) :
    replaceFrom r groups replacement bound move (.between u rest) =
      interleave (gapsFrom (u ++ rest) u.length ((matchesFrom r groups bound move (.between u rest)).map Match.span))
        ((matchesFrom r groups bound move (.between u rest)).map fun _ => replacement) := by
  induction bound generalizing move u rest with
  | zero => simp [replaceFrom, matchesFrom, gapsFrom, interleave, Cursor.between]
  | succ bound ih =>
    rw [replaceFrom, matchesFrom]
    simp only [Cursor.between]
    rcases searchFrom_cases r groups move u rest with ⟨nothing, -⟩ | ⟨gap, v, w, s, rfl, stops, next⟩
    · rw [nothing]
      simp [gapsFrom, interleave]
    · have kept : (gap ++ (v ++ w)).take ((u ++ gap).length - u.length) = gap := by simp
      rw [stops]
      dsimp only
      rw [next.pos_beq, next.place, List.map_cons, next.span_eq, List.map_cons, interleave_gapsFrom_cons, kept, ih,
        List.append_assoc]

/-! ## Whole subjects -/

/-- The list of all matches is that of a walk through the whole subject. -/
theorem walk_allMatches (r : Regex) (subject : Text) :
    Walk r r.groupCount false [] subject (r.allMatches subject) := by
  have start : Cursor.start subject = .between [] subject := rfl
  rw [allMatches, start]
  exact walk_matchesFrom (Nat.lt_succ_self _)

/-- The first of all matches is the first match. -/
theorem head?_allMatches (r : Regex) (subject : Text) : (r.allMatches subject).head? = r.firstMatch? subject := by
  rw [allMatches, matchBound, matchesFrom, firstMatch?]
  simp only [Cursor.start]
  cases searchFrom r r.groupCount false [] subject 0 <;> rfl

theorem hasMatch_eq_isSome (r : Regex) (subject : Text) : r.hasMatch subject = (r.firstMatch? subject).isSome := by
  rw [hasMatch, firstMatch?, Option.isSome_map]

/-- **Listing, searching and replacing** agree on the matches of any expression in any subject. The spans are within the
subject and in order, without overlaps, and each ends behind where the one before starts. The texts of the matches between
the gaps are the subject, and the replacement between the same gaps is what replacing leaves. The first match is the first of
the spans, if there are any. The captures are those of the groups that took part, match by match, and every match occurs in
the subject. A stretch that the expression covers starts with one of the spans or inside it. -/
theorem spans_spec (r : Regex) (subject : Text) :
    (∀ span ∈ r.spans subject, span.1 ≤ span.2 ∧ span.2 ≤ subject.length) ∧
      (r.spans subject).Pairwise (fun a b => a.2 ≤ b.1 ∧ a.1 < b.2) ∧
      interleave (gapsFrom subject 0 (r.spans subject)) (r.matchedTexts subject) = subject ∧
      (∀ replacement, r.replaceAll replacement subject =
        interleave (gapsFrom subject 0 (r.spans subject)) ((r.spans subject).map fun _ => replacement)) ∧
      r.firstSpan? subject = (r.spans subject).head? ∧
      (r.hasMatch subject = true ↔ r.spans subject ≠ []) ∧
      (∃ listed : List Match, r.spans subject = listed.map Match.span ∧
        (∀ m ∈ listed, m.Occurs r r.groupCount subject) ∧
        r.captures subject = listed.flatMap fun m => (m.groups.filterMap id).map (slice subject)) ∧
      ∀ u v w, subject = u ++ (v ++ w) → Covers r.groupCount r u v w →
        ∃ span ∈ r.spans subject, span.1 = u.length ∨ span.1 < u.length ∧ u.length < span.2 := by
  have walk := walk_allMatches r subject
  have spans : r.spans subject = (r.allMatches subject).map Match.span := rfl
  have head := head?_allMatches r subject
  refine ⟨?_, ?_, walk.interleave_eq, fun replacement => ?_, ?_, ?_, ⟨_, spans, walk.occurs, ?_⟩, ?_⟩
  · rw [spans, List.forall_mem_map]
    intro m member
    obtain ⟨-, order, stop, -⟩ := walk.bounds m member
    rw [List.length_nil, Nat.zero_add] at stop
    exact ⟨order, stop⟩
  · rw [spans, List.pairwise_map]
    exact walk.apart
  · rw [spans, List.map_map]
    exact replaceFrom_eq r r.groupCount replacement (matchBound subject) false [] subject
  · rw [firstSpan?, spans, List.head?_map, head]
    rfl
  · rw [hasMatch_eq_isSome, ← head, spans, List.isSome_head?]
    simp
  · rw [captures]
    congr 1
    funext m
    rw [List.map_filterMap]
    rfl
  · intro u v w split covers
    rcases walk.complete split covers with ⟨moves, -⟩ | ⟨m, member, spot⟩
    · cases moves
    · exact ⟨m.span, List.mem_map_of_mem member, spot⟩

/-- Empty matches, beside a longer one and at the end. -/
example :
    let r := Regex.repeated .greedy 0 none (.set { items := [.code 97] })
    r.spans "baac".toList = [(0, 0), (1, 3), (3, 3), (4, 4)] ∧
      r.replaceAll "\\1".toList "baac".toList = "\\1b\\1\\1c\\1".toList := by
  decide

end TypedRoutes.Regex
