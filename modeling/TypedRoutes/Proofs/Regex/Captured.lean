import Mathlib.Data.List.Sort
import TypedRoutes.Proofs.Regex.Walk

/-!
# What groups capture

`numberedCaptures` lists the texts that an expression captures together with the numbers of the groups. A group around
`[…]+` captures a run of characters of the set, wherever in the expression it stands (`run_of_mem_numberedCaptures`): the
marks of the group are changed by itself alone, so that this is an invariant of matching.

An expression that matches at the start of the subject only has a second match only behind an empty one
(`Anchored.allMatches_eq_or`), and in one match the numbers of the groups ascend.
-/

namespace TypedRoutes.Regex

set_option autoImplicit false

/-- The texts that the groups captured in a match, with the numbers of the groups. -/
def Match.numberedCaptures (m : Match) (subject : Text) : List (Nat × Text) :=
  (m.groups.zipIdx 1).filterMap fun entry => entry.1.map fun span => (entry.2, slice subject span)

/-- The texts that groups captured in any match, from left to right, with the numbers of the groups. -/
def numberedCaptures (r : Regex) (subject : Text) : List (Nat × Text) :=
  (r.allMatches subject).flatMap fun m => m.numberedCaptures subject

/-- The numbers aside, the numbered captures are the captures. -/
theorem map_snd_numberedCaptures (r : Regex) (subject : Text) :
    (r.numberedCaptures subject).map Prod.snd = r.captures subject := by
  have one (spans : List (Option (Nat × Nat))) (first : Nat) :
      ((spans.zipIdx first).filterMap fun entry => entry.1.map fun span => (entry.2, slice subject span)).map Prod.snd =
        spans.filterMap fun span => span.map (slice subject) := by
    induction spans generalizing first with
    | nil => rfl
    | cons span rest ih => cases span <;> simp [ih]
  rw [numberedCaptures, captures, List.map_flatMap]
  congr 1
  funext m
  exact one m.groups 1

/-- In one match the numbers of the groups ascend. -/
theorem Match.numberedCaptures_ascends (m : Match) (subject : Text) :
    ((m.numberedCaptures subject).map Prod.fst).Pairwise (· < ·) := by
  have one (spans : List (Option (Nat × Nat))) (first : Nat) :
      (((spans.zipIdx first).filterMap fun entry => entry.1.map fun span => (entry.2, slice subject span)).map
        Prod.fst).Sublist (List.range' first spans.length) := by
    induction spans generalizing first with
    | nil => exact .slnil
    | cons span rest ih =>
      cases span with
      | none => simpa [List.range'_succ] using (ih (first + 1)).cons first
      | some span => simpa [List.range'_succ] using (ih (first + 1)).cons_cons first
  exact List.Pairwise.sublist (one m.groups 1) List.pairwise_lt_range'

/-! ## Where matches come from -/

variable {r : Regex} {subject : Text} {groups : Nat}

theorem within_start (subject : Text) : (Cursor.start subject).Within subject 0 := ⟨rfl, rfl, Nat.le_refl _⟩

/-- Every match is the end of some way from some place of the subject. -/
theorem exists_of_mem_allMatches {m : Match} (h : m ∈ r.allMatches subject) :
    ∃ (at' : Cursor) (start : Nat) (s : State), at'.Within subject 0 ∧ s ∈ ways r (.fresh r.groupCount at') ∧
      m = .ofState r.groupCount start s := by
  obtain ⟨u, v, w, s, rfl, hs, -, made, -⟩ := (walk_allMatches r subject).occurs m h
  have within := within_between u (v ++ w)
  exact ⟨_, u.length, s, ⟨within.around, within.pos, Nat.zero_le _⟩, hs, made⟩

/-! ## Groups around a repeated set -/

theorem Cursor.Within.back? {at' cursor : Cursor} (h : at'.Within subject 0) {n : Nat} (hb : at'.back? n = some cursor) :
    cursor.Within subject 0 := by
  unfold Cursor.back? at hb
  split at hb
  · rename_i enough
    cases hb
    refine ⟨?_, ?_, Nat.zero_le _⟩
    · have around := h.around
      rw [← List.take_append_drop n at'.before, List.reverse_append, List.append_assoc] at around
      exact around
    · have pos := h.pos
      simp only [List.length_drop]
      omega
  · cases hb

/-- What a group last captured is a run of characters of a set. -/
def CapturesRun (subject : Text) (index : Nat) (chars : CharSet) (marks : Marks) : Prop :=
  ∀ span, marks.span? index = some span → slice subject span ≠ [] ∧ ∀ c ∈ slice subject span, chars.has c = true

theorem span?_update_of_ne {marks : Marks} {i index : Nat} (h : i ≠ index) (change : Mark → Mark) :
    (marks.update i change).span? index = marks.span? index := by
  simp [Marks.span?, Marks.get, Marks.update, h]

/-- A group of characters of a set passes a row of them and marks it. -/
theorem mem_ways_plus {chars : CharSet} {index : Nat} {s x : State}
    (h : x ∈ ways (.group index (.repeated .greedy 1 none (.set chars))) s) :
    ∃ t rest, t ≠ [] ∧ s.cursor.after = t ++ rest ∧ (∀ c ∈ t, chars.has c = true) ∧ x = s.captured index t := by
  -- The continuation that accepts this one way.
  have accepted : run (.group index (.repeated .greedy 1 none (.set chars))) s
      (fun y => if y = x then some y else none) = some x := by
    rw [run_eq_findSome?]
    generalize ways (.group index (.repeated .greedy 1 none (.set chars))) s = found at h
    induction found with
    | nil => cases h
    | cons y found ih =>
      by_cases hy : y = x
      · simp [hy]
      · have later : x ∈ found := (List.mem_cons.1 h).resolve_left (Ne.symm hy)
        simpa [List.findSome?_cons, hy] using ih later
  obtain ⟨t, rest, filled, after, all, same⟩ := captured_of_run_group accepted
  refine ⟨t, rest, filled, after, all, ?_⟩
  split at same
  · exact (Option.some.inj same).symm
  · cases same

/-- What stands behind a place is cut out of the subject there. -/
theorem slice_stretch {s : State} {first : Nat} {t rest : Text} (within : s.cursor.Within subject first)
    (after : s.cursor.after = t ++ rest) : slice subject (s.cursor.pos, s.cursor.pos + t.length) = t := by
  rw [slice, ← within.around, within.pos, after, ← List.length_reverse, List.drop_left]
  simp

/-- A cursor that moves over a text that is next stays within the subject. -/
theorem State.within_over {s : State} {first : Nat} {t rest : Text} (within : s.cursor.Within subject first)
    (after : s.cursor.after = t ++ rest) : (s.over t).cursor.Within subject first where
  around := by simpa [State.over, after] using after ▸ within.around
  pos := by simp [State.over, within.pos, Nat.add_comm]
  beyond := Nat.le_add_right_of_le within.beyond

/-- A group keeps the text that it has captured, until it is entered again. -/
theorem slice_captured {s : State} {first index : Nat} {t rest : Text} (within : s.cursor.Within subject first)
    (after : s.cursor.after = t ++ rest) (room : index < s.marks.length) :
    ((s.captured index t).marks.span? index).map (slice subject) = some t := by
  rw [span?_captured room, Option.map_some, slice_stretch within after]

theorem span?_captured_of_ne {s : State} {i index : Nat} (h : i ≠ index) (t : Text) :
    (s.captured i t).marks.span? index = s.marks.span? index := by
  rw [State.captured_marks, span?_update_of_ne h, span?_update_of_ne h]

/-- A group that has just passed characters of a set is marked as a run of them. -/
theorem capturesRun_captured {chars : CharSet} {index : Nat} {s : State} {t rest : Text} (filled : t ≠ [])
    (within : s.cursor.Within subject 0) (after : s.cursor.after = t ++ rest) (all : ∀ c ∈ t, chars.has c = true) :
    CapturesRun subject index chars (s.captured index t).marks := by
  intro span h
  have marked : span = (s.cursor.pos, s.cursor.pos + t.length) := by
    simp only [State.captured, Marks.span?, Marks.get, Marks.update, List.getElem?_modify] at h
    cases hm : s.marks[index]? with
    | none => simp [hm] at h
    | some m => simpa [hm, eq_comm] using h
  rw [marked, slice_stretch within after]
  exact ⟨filled, all⟩

/-- **The captures of a group** around a repeated set are an invariant of matching. -/
theorem keeps_capturesRun {index : Nat} {chars : CharSet} (r : Regex)
    (own : ∀ t, (index, t) ∈ r.groups → t = .repeated .greedy 1 none (.set chars)) :
    Keeps (fun s => s.cursor.Within subject 0 ∧ CapturesRun subject index chars s.marks) r := by
  apply keeps_of_groups
  · exact fun s c rest hs after => ⟨hs.1.over after, hs.2⟩
  · intro s n cursor t hs hb inner x hx
    exact ⟨hs.1, (inner ⟨cursor, s.marks⟩ ⟨hs.1.back? hb, hs.2⟩ x hx).2⟩
  · intro i t member inner s hs x hx
    by_cases hi : i = index
    · subst hi
      rw [own t member] at hx
      have within := within_ways _ s hs.1 x hx
      obtain ⟨u, rest, filled, after, all, rfl⟩ := mem_ways_plus hx
      exact ⟨within, capturesRun_captured filled hs.1 after all⟩
    · obtain ⟨y, hy, rfl⟩ := List.mem_map.1 hx
      have entered := inner ⟨s.cursor, s.marks.update i fun m => (some s.cursor.pos, m.2)⟩
        ⟨hs.1, fun span h => hs.2 span (by rwa [span?_update_of_ne hi] at h)⟩ y hy
      exact ⟨entered.1, fun span h => entered.2 span (by rwa [span?_update_of_ne hi] at h)⟩

/-- A numbered capture is the text at the span of the group with its number. -/
theorem span?_of_mem_numberedCaptures {start index : Nat} {s : State} {t : Text}
    (h : (index, t) ∈ (Match.ofState groups start s).numberedCaptures subject) :
    ∃ span, s.marks.span? index = some span ∧ t = slice subject span := by
  obtain ⟨⟨marked, i⟩, hi, h⟩ := List.mem_filterMap.1 h
  obtain ⟨span, hspan, same⟩ := Option.map_eq_some_iff.1 h
  obtain ⟨number, text⟩ := Prod.mk.inj same
  obtain ⟨first, place⟩ := List.mk_mem_zipIdx_iff_le_and_getElem?_sub.1 hi
  simp only [Match.ofState, List.getElem?_map, Option.map_eq_some_iff] at place
  obtain ⟨j, hj, own⟩ := place
  have numbered : j + 1 = index := by
    have below := List.getElem?_range (n := groups) (i := i - 1) (by
      by_contra high
      rw [List.getElem?_eq_none (by simpa using high)] at hj
      cases hj)
    rw [below] at hj
    cases hj
    simp only at number
    omega
  exact ⟨span, by rw [← numbered, own]; exact hspan, text.symm⟩

/-- What a group around a repeated set captures is a run of characters of the set. -/
theorem run_of_mem_numberedCaptures {index : Nat} {chars : CharSet} {t : Text}
    (own : ∀ u, (index, u) ∈ r.groups → u = .repeated .greedy 1 none (.set chars))
    (h : (index, t) ∈ r.numberedCaptures subject) : t ≠ [] ∧ ∀ c ∈ t, chars.has c = true := by
  obtain ⟨m, hm, h⟩ := List.mem_flatMap.1 h
  obtain ⟨at', start, s, within, hs, rfl⟩ := exists_of_mem_allMatches hm
  obtain ⟨span, hspan, rfl⟩ := span?_of_mem_numberedCaptures h
  have fresh : CapturesRun subject index chars (State.fresh r.groupCount at').marks := by
    intro span h
    have unmarked : (State.fresh r.groupCount at').marks.get index = (none, none) := by
      simp only [State.fresh, Marks.get, List.getElem?_replicate]
      split <;> rfl
    rw [Marks.span?, unmarked] at h
    cases h
  exact (keeps_capturesRun r own (.fresh r.groupCount at') ⟨within, fresh⟩ s hs).2 span hspan

/-! ## Matches of anchored expressions -/

/-- What an anchored expression captures when its match is not empty. -/
theorem Anchored.captures_eq (anchored : Anchored r) {s : State}
    (found : matchAt r r.groupCount false (.start subject) = some s) (moved : s.cursor.before ≠ []) :
    r.captures subject =
      ((List.range r.groupCount).map fun i => s.marks.span? (i + 1)).filterMap fun span => span.map (slice subject) := by
  have only : r.allMatches subject = [.ofState r.groupCount 0 s] := by
    rw [anchored.allMatches_eq subject fun x hx => by rw [found] at hx; cases hx; exact moved, found]
    rfl
  rw [captures, only, List.flatMap_singleton]
  rfl

/-- An anchored expression has a second match only behind an empty one. -/
theorem Anchored.allMatches_eq_or (anchored : Anchored r) (subject : Text) :
    r.allMatches subject = [] ∨ ∃ first rest, r.allMatches subject = first :: rest ∧
      (rest = [] ∨ first.start = first.stop) := by
  have start : (Cursor.start subject).before = [] ∧ (Cursor.start subject).after = subject ∧
    (Cursor.start subject).pos = 0 := ⟨rfl, rfl, rfl⟩
  rw [allMatches, matchBound, matchesFrom, start.1, start.2.1, start.2.2, anchored.searchFrom_start]
  cases h : matchAt r r.groupCount false (.start subject) with
  | none => exact .inl rfl
  | some s =>
    refine .inr ⟨_, _, rfl, ?_⟩
    have within := within_ways r _ (within_start subject) s (mem_ways_of_matchAt h)
    cases before : s.cursor.before with
    | nil =>
      right
      have pos := within.pos
      rw [before] at pos
      exact pos.symm
    | cons c rest =>
      left
      cases 2 * subject.length + 1 with
      | zero => rfl
      | succ n => rw [matchesFrom, anchored.searchFrom_eq_none _ (by rw [before]; simp)]

end TypedRoutes.Regex
