import TypedRoutes.Regex.Search

/-!
# Running simple expressions

The regular expressions of paths are rows of characters with groups of `[…]+` between them. A run of such a row is
described by the text that it passes: `State.over` is the state after a text, `State.captured` the state after a
text that a group has captured, and the `run_…` lemmas say which texts each kind of expression passes. The lemmas on
`greedyRounds` carry a state through the loop of a repetition.

An expression that can only match at the start of the subject (`Anchored`) has one match at most, so that searching
and listing come down to `matchAt`.
-/

namespace TypedRoutes.Regex

set_option autoImplicit false

variable {s x : State} {next : Next}

/-- The state after a text has been passed. -/
def State.over (s : State) (t : Text) : State :=
  { s with cursor := ⟨t.reverse ++ s.cursor.before, s.cursor.after.drop t.length, s.cursor.pos + t.length⟩ }

/-- The state after a group has captured a text. -/
def State.captured (s : State) (index : Nat) (t : Text) : State :=
  { s.over t with
    marks := (s.marks.update index fun m => (some s.cursor.pos, m.2)).update index
      fun m => (m.1, some (s.cursor.pos + t.length)) }

@[simp] theorem State.over_nil (s : State) : s.over [] = s := rfl

theorem State.over_over (s : State) (t u : Text) : (s.over t).over u = s.over (t ++ u) := by
  simp [State.over, Nat.add_assoc, Nat.add_comm t.length]

@[simp] theorem State.over_marks (s : State) (t : Text) : (s.over t).marks = s.marks := rfl

@[simp] theorem State.over_pos (s : State) (t : Text) : (s.over t).cursor.pos = s.cursor.pos + t.length := rfl

theorem State.over_after {t rest : Text} (h : s.cursor.after = t ++ rest) : (s.over t).cursor.after = rest := by
  simp [State.over, h]

@[simp] theorem State.captured_cursor (s : State) (index : Nat) (t : Text) :
    (s.captured index t).cursor = (s.over t).cursor := rfl

theorem State.captured_marks (s : State) (index : Nat) (t : Text) :
    (s.captured index t).marks = (s.marks.update index fun m => (some s.cursor.pos, m.2)).update index
      fun m => (m.1, some (s.cursor.pos + t.length)) := rfl

theorem span?_captured {index : Nat} (h : index < s.marks.length) (t : Text) :
    (s.captured index t).marks.span? index = some (s.cursor.pos, s.cursor.pos + t.length) := by
  simp [State.captured, Marks.span?, Marks.get, Marks.update, h]

/-! ## Rows of expressions -/

/-- A row runs its first member, and from there the others. -/
theorem run_sequence_cons (r : Regex) (rest : List Regex) (s : State) (next : Next) :
    run (sequence (r :: rest)) s next = run r s fun t => run (sequence rest) t next := by
  cases rest <;> rfl

/-- The number of groups in a row of expressions. -/
def groupTotal : List Regex → Nat
  | [] => 0
  | r :: rest => r.groupCount + groupTotal rest

theorem groupTotal_append (rs us : List Regex) : groupTotal (rs ++ us) = groupTotal rs + groupTotal us := by
  induction rs with
  | nil => exact (Nat.zero_add _).symm
  | cons r rest ih => rw [List.cons_append, groupTotal, groupTotal, ih, Nat.add_assoc]

/-- A row has the groups of its members. -/
theorem groupCount_sequence (rs : List Regex) : (sequence rs).groupCount = groupTotal rs := by
  induction rs with
  | nil => rfl
  | cons r rest ih =>
    cases rest with
    | nil => rfl
    | cons r' rest =>
      have row : sequence (r :: r' :: rest) = .cat r (sequence (r' :: rest)) := rfl
      rw [row, groupCount, ih]
      rfl

/-! ## Characters -/

theorem has_single (c d : Char) : CharSet.has { items := [.code c.toNat] } d = true ↔ d = c := by
  simp [CharSet.has, SetItem.hasFolded, Folding.fold, Char.toNat_inj]

/-- A set passes one character that it has. -/
theorem run_set_eq_some_iff {chars : CharSet} :
    run (.set chars) s next = some x ↔
      ∃ c rest, s.cursor.after = c :: rest ∧ chars.has c = true ∧ next (s.over [c]) = some x := by
  cases h : s.cursor.after with
  | nil => simp [run, h]
  | cons c rest =>
    have moved : s.over [c] = { s with cursor := s.cursor.over c rest } := by
      simp [State.over, Cursor.over, h]
    by_cases hc : chars.has c = true <;> simp [run, h, hc, moved]

/-- A row of characters passes their text. -/
theorem run_singles_eq_some_iff {t : Text} {us : List Regex} :
    run (sequence (t.map single ++ us)) s next = some x ↔
      ∃ rest, s.cursor.after = t ++ rest ∧ run (sequence us) (s.over t) next = some x := by
  induction t generalizing s with
  | nil => simp
  | cons c t ih =>
    rw [List.map_cons, List.cons_append, run_sequence_cons, single, run_set_eq_some_iff]
    simp only [has_single, ih]
    constructor
    · rintro ⟨d, after, ha, rfl, rest, hr, hx⟩
      have hafter : (s.over [d]).cursor.after = after := State.over_after (t := [d]) ha
      rw [State.over_over] at hx
      exact ⟨rest, by rw [ha, ← hafter, hr]; rfl, hx⟩
    · rintro ⟨rest, ha, hx⟩
      refine ⟨c, t ++ rest, ha, rfl, rest, State.over_after (t := [c]) ha, ?_⟩
      rw [State.over_over]
      exact hx

theorem groupTotal_singles (t : Text) : groupTotal (t.map single) = 0 := by
  induction t with
  | nil => rfl
  | cons c t ih => simpa [groupTotal, single, groupCount] using ih

/-! ## Repeated characters -/

/-- The rounds of a repetition pass characters of the set. -/
theorem passed_of_greedyRounds {chars : CharSet} {bound : Text} {last : Option Nat}
    (h : greedyRounds (run (.set chars)) bound none last s next = some x) :
    ∃ t rest, s.cursor.after = t ++ rest ∧ (∀ c ∈ t, chars.has c = true) ∧ next (s.over t) = some x := by
  induction bound generalizing s last with
  | nil => exact ⟨[], _, rfl, by simp, h⟩
  | cons b bound ih =>
    have stop : next s = some x → ∃ t rest, s.cursor.after = t ++ rest ∧ (∀ c ∈ t, chars.has c = true) ∧
      next (s.over t) = some x := fun hx => ⟨[], _, rfl, by simp, hx⟩
    rw [greedyRounds] at h
    split at h
    · split at h
      · rename_i result hr
        cases h
        obtain ⟨c, after, ha, hc, hx⟩ := run_set_eq_some_iff.1 hr
        obtain ⟨t, rest, ht, hall, hn⟩ := ih hx
        rw [State.over_after (t := [c]) ha] at ht
        rw [State.over_over] at hn
        exact ⟨c :: t, rest, by rw [ha, ht]; rfl, by simpa using ⟨hc, hall⟩, hn⟩
      · exact stop h
    · exact stop h

/-- The rounds of a repetition pass as many characters of the set as there are, when what follows can go on from
there. -/
theorem greedyRounds_eq_some {chars : CharSet} {bound t rest : Text} {last : Option Nat}
    (hafter : s.cursor.after = t ++ rest) (hall : ∀ c ∈ t, chars.has c = true)
    (hstop : ∀ c, rest.head? = some c → chars.has c = false) (hnext : next (s.over t) = some x)
    (hbound : t.length ≤ bound.length) (hlast : last ≠ some s.cursor.pos) :
    greedyRounds (run (.set chars)) bound none last s next = some x := by
  induction bound generalizing s t last with
  | nil =>
    have empty : t = [] := List.length_eq_zero_iff.1 (Nat.le_zero.1 hbound)
    subst empty
    exact hnext
  | cons b bound ih =>
    have go : mayGoOn none last s = true := by simpa [mayGoOn] using hlast
    rw [greedyRounds, if_pos go]
    cases t with
    | nil =>
      cases hr : run (.set chars) s fun t =>
          greedyRounds (run (.set chars)) bound (none.map (· - 1)) (some s.cursor.pos) t next with
      | none => exact hnext
      | some result =>
        obtain ⟨c, after, ha, hc, -⟩ := run_set_eq_some_iff.1 hr
        rw [List.nil_append, ha] at hafter
        have := hstop c (by rw [← hafter]; rfl)
        simp [this] at hc
    | cons c t =>
      have hc := hall c (List.mem_cons_self ..)
      have round : run (.set chars) s (fun t =>
          greedyRounds (run (.set chars)) bound (none.map (· - 1)) (some s.cursor.pos) t next) = some x := by
        refine run_set_eq_some_iff.2 ⟨c, t ++ rest, hafter, hc, ?_⟩
        refine ih (t := t) (State.over_after (t := [c]) hafter) (fun d hd => hall d (List.mem_cons_of_mem _ hd)) ?_ ?_ ?_
        · rw [State.over_over]
          exact hnext
        · simpa using hbound
        · simp
      rw [round]

/-- One required round, and then as many more as can be. -/
theorem run_plus (r : Regex) (s : State) (next : Next) :
    run (.repeated .greedy 1 none r) s next =
      run r s fun t => greedyRounds (run r) t.bound none none t next := rfl

/-- A group marks where it is entered and where it is left. -/
theorem run_group (index : Nat) (r : Regex) (s : State) (next : Next) :
    run (.group index r) s next =
      run r { s with marks := s.marks.update index fun m => (some s.cursor.pos, m.2) } fun t =>
        next { t with marks := t.marks.update index fun m => (m.1, some t.cursor.pos) } := rfl

/-- A group around `[…]+` captures one or more characters of the set. -/
theorem captured_of_run_group {chars : CharSet} {index : Nat}
    (h : run (.group index (.repeated .greedy 1 none (.set chars))) s next = some x) :
    ∃ t rest, t ≠ [] ∧ s.cursor.after = t ++ rest ∧ (∀ c ∈ t, chars.has c = true) ∧
      next (s.captured index t) = some x := by
  rw [run_group, run_plus] at h
  obtain ⟨c, after, ha, hc, hg⟩ := run_set_eq_some_iff.1 h
  obtain ⟨t, rest, ht, hall, hx⟩ := passed_of_greedyRounds hg
  rw [State.over_after (t := [c]) ha] at ht
  refine ⟨c :: t, rest, by simp, by rw [ha, ht]; rfl, by simpa using ⟨hc, hall⟩, ?_⟩
  rw [State.over_over] at hx
  exact hx

/-- A group around `[…]+` captures as many characters of the set as there are, when what follows can go on from
there. -/
theorem run_group_eq_some {chars : CharSet} {index : Nat} {t rest : Text} (hne : t ≠ [])
    (hafter : s.cursor.after = t ++ rest) (hall : ∀ c ∈ t, chars.has c = true)
    (hstop : ∀ c, rest.head? = some c → chars.has c = false) (hnext : next (s.captured index t) = some x) :
    run (.group index (.repeated .greedy 1 none (.set chars))) s next = some x := by
  obtain ⟨c, t, rfl⟩ := List.exists_cons_of_ne_nil hne
  rw [run_group, run_plus]
  refine run_set_eq_some_iff.2 ⟨c, t ++ rest, hafter, hall c (List.mem_cons_self ..), ?_⟩
  refine greedyRounds_eq_some (t := t) (State.over_after (t := [c]) hafter)
    (fun d hd => hall d (List.mem_cons_of_mem _ hd)) hstop ?_ ?_ (by simp)
  · rw [State.over_over]
    exact hnext
  · have left : (s.over [c]).cursor.after = t ++ rest := State.over_after (t := [c]) hafter
    change t.length ≤ (' ' :: (s.over [c]).cursor.after).length
    rw [left]
    simp
    omega

/-! ## Anchored expressions -/

theorem run_subjectStart {rest : List Regex} {subject : Text} {marks : Marks} :
    run (sequence (.anchor .subjectStart :: rest)) ⟨.start subject, marks⟩ next =
      run (sequence rest) ⟨.start subject, marks⟩ next := by
  rw [run_sequence_cons, run]
  rfl

/-- The end of the last line holds at the end of the subject. -/
theorem run_lastLineEnd (done : s.cursor.after = []) : run (sequence [.anchor .lastLineEnd]) s next = next s := by
  have holds : Anchor.lastLineEnd.holds s.cursor = true := by simp [Anchor.holds, done]
  rw [Regex.sequence, run, if_pos holds]

/-- An expression that matches at the start of the subject only. -/
def Anchored (r : Regex) : Prop := ∀ (s : State) (next : Next), s.cursor.before ≠ [] → run r s next = none

theorem anchored_sequence (rest : List Regex) : Anchored (sequence (.anchor .subjectStart :: rest)) := by
  intro s next h
  have later : Anchor.holds s.cursor .subjectStart = false := by simpa [Anchor.holds] using h
  rw [run_sequence_cons, run, later]
  rfl

/-- An anchored expression is not found behind the start. -/
theorem Anchored.searchFrom_eq_none {r : Regex} (anchored : Anchored r) (groups : Nat) {move : Bool}
    {before after : Text} {pos : Nat} (h : before ≠ []) : searchFrom r groups move before after pos = none := by
  induction after generalizing move before pos with
  | nil => simp [searchFrom, matchAt, anchored ⟨⟨before, [], pos⟩, _⟩ _ h]
  | cons c rest ih =>
    rw [searchFrom, matchAt, anchored ⟨⟨before, c :: rest, pos⟩, _⟩ _ h]
    exact ih (by simp)

/-- So a search for it from the start tries that place only. -/
theorem Anchored.searchFrom_start {r : Regex} (anchored : Anchored r) (groups : Nat) (subject : Text) :
    searchFrom r groups false [] subject 0 = (matchAt r groups false (.start subject)).map fun s => (0, s) := by
  cases subject with
  | nil => rfl
  | cons c rest =>
    rw [searchFrom]
    cases h : matchAt r groups false ⟨[], c :: rest, 0⟩ with
    | some s => simp [Cursor.start, h]
    | none => simp [Cursor.start, h, anchored.searchFrom_eq_none groups]

/-- An anchored expression has a match exactly when it matches at the start. -/
theorem Anchored.hasMatch_eq {r : Regex} (anchored : Anchored r) (subject : Text) :
    r.hasMatch subject = (matchAt r r.groupCount false (.start subject)).isSome := by
  rw [hasMatch, anchored.searchFrom_start, Option.isSome_map]

/-- The only match of an anchored expression, when a match is never empty. -/
theorem Anchored.allMatches_eq {r : Regex} (anchored : Anchored r) (subject : Text)
    (moves : ∀ s, matchAt r r.groupCount false (.start subject) = some s → s.cursor.before ≠ []) :
    r.allMatches subject =
      ((matchAt r r.groupCount false (.start subject)).map (Match.ofState r.groupCount 0)).toList := by
  have start : (Cursor.start subject).before = [] ∧ (Cursor.start subject).after = subject ∧
    (Cursor.start subject).pos = 0 := ⟨rfl, rfl, rfl⟩
  rw [allMatches, matchBound, matchesFrom, start.1, start.2.1, start.2.2, anchored.searchFrom_start]
  cases h : matchAt r r.groupCount false (.start subject) with
  | none => rfl
  | some s =>
    have finished : ∀ n move, matchesFrom r r.groupCount n move s.cursor = [] := by
      intro n move
      cases n with
      | zero => rfl
      | succ n => rw [matchesFrom, anchored.searchFrom_eq_none _ (moves s h)]
    simp [finished]

end TypedRoutes.Regex
