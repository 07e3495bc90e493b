import TypedRoutes.Proofs.Path.Reading

/-!
# Running the regular expression of a plain path

A run over the units of segments passes components that the segments fit, one after the other, each with the slash
before it, and leaves the components of the tokens in the marks of their groups (`passed`). Since a component has no
slash in it, the components are settled by the subject (`Fitting.unique`), and so are the captures
(`captures_of_fitting`).
-/

namespace TypedRoutes.Path

set_option autoImplicit false

open Regex

variable {segments : List Segment} {pieces : List Text} {s x : State} {next : Next}

/-- The state after components with a slash before each of them, those of tokens captured by groups numbered on from
the given number. -/
def passed : Nat → List Segment → List Text → State → State
  | index, .fixed _ :: segments, piece :: pieces, s => passed index segments pieces (s.over ('/' :: piece))
  | index, .token _ _ :: segments, piece :: pieces, s =>
    passed (index + 1) segments pieces ((s.over ['/']).captured index piece)
  | _, _, _, s => s

/-! ## What a run passes -/

theorem units_token_append (index : Nat) (name : Text) (type : Option Text) (us : List Regex) :
    (Segment.token name type).units index ++ us = ['/'].map single ++ component index :: us := rfl

/-- A run over the units of segments passes components that fit them, one behind each slash, and goes on with what is
behind. -/
theorem passed_of_run {index : Nat} {us : List Regex}
    (h : run (sequence (unitsFrom index segments ++ us)) s next = some x) :
    ∃ pieces rest, s.cursor.after = slashed pieces ++ rest ∧ List.Forall₂ Segment.Fits segments pieces ∧
      run (sequence us) (passed index segments pieces s) next = some x := by
  induction segments generalizing index s with
  | nil => exact ⟨[], s.cursor.after, rfl, .nil, h⟩
  | cons segment segments ih =>
    rw [unitsFrom, List.append_assoc] at h
    cases segment with
    | fixed t =>
      obtain ⟨rest, hs, h⟩ := run_singles_eq_some_iff.1 h
      obtain ⟨pieces, rest', hr, fits, hx⟩ := ih h
      rw [State.over_after hs] at hr
      exact ⟨t :: pieces, rest', by rw [hs, hr]; simp, .cons rfl fits, hx⟩
    | token name type =>
      rw [units_token_append] at h
      obtain ⟨rest, hs, h⟩ := run_singles_eq_some_iff.1 h
      rw [run_sequence_cons] at h
      obtain ⟨t, rest', hne, ht, hall, h⟩ := captured_of_run_group h
      obtain ⟨pieces, rest'', hr, fits, hx⟩ := ih h
      rw [State.over_after hs] at ht
      rw [State.captured_cursor, State.over_after (by rw [State.over_after hs, ht])] at hr
      refine ⟨t :: pieces, rest'', by rw [hs, ht, hr]; simp, .cons ⟨hne, ?_⟩ fits, hx⟩
      exact fun c hc => (has_componentSet c).symm.trans (hall c hc)

theorem eq_slash_of_head? {rest : Text} (hrest : rest = [] ∨ ∃ more, rest = '/' :: more) {c : Char}
    (h : (slashed pieces ++ rest).head? = some c) : c = '/' := by
  cases pieces with
  | cons piece pieces => simpa using h.symm
  | nil =>
    rcases hrest with rfl | ⟨more, rfl⟩
    · cases h
    · simpa using h.symm

/-- Components that fit are passed, when what follows starts with a slash if with anything. -/
theorem run_of_passed {index : Nat} {us : List Regex} {rest : Text} (fits : List.Forall₂ Segment.Fits segments pieces)
    (hs : s.cursor.after = slashed pieces ++ rest) (hrest : rest = [] ∨ ∃ more, rest = '/' :: more)
    (h : run (sequence us) (passed index segments pieces s) next = some x) :
    run (sequence (unitsFrom index segments ++ us)) s next = some x := by
  induction fits generalizing index s with
  | nil => exact h
  | cons fit fits ih =>
    rename_i segment piece segments pieces
    rw [slashed_cons, List.cons_append, List.append_assoc] at hs
    rw [unitsFrom, List.append_assoc]
    cases segment with
    | fixed t =>
      cases fit
      exact run_singles_eq_some_iff.2 ⟨slashed pieces ++ rest, hs, ih (State.over_after hs) h⟩
    | token name type =>
      obtain ⟨hne, hall⟩ := fit
      have entered : (s.over ['/']).cursor.after = piece ++ (slashed pieces ++ rest) :=
        State.over_after (t := ['/']) hs
      rw [units_token_append]
      refine run_singles_eq_some_iff.2 ⟨_, hs, ?_⟩
      rw [run_sequence_cons]
      refine run_group_eq_some hne entered (fun c hc => (has_componentSet c).trans (hall c hc)) ?_ ?_
      · have slash : componentSet.has '/' = false := (has_componentSet '/').trans (by decide)
        exact fun c hc => (eq_slash_of_head? hrest hc) ▸ slash
      · refine ih ?_ h
        rw [State.captured_cursor]
        exact State.over_after entered

/-! ## Where a run ends -/

/-- Passing the segments moves the cursor over their components. -/
theorem passed_cursor (index : Nat) (fits : List.Forall₂ Segment.Fits segments pieces) (s : State) :
    (passed index segments pieces s).cursor = (s.over (slashed pieces)).cursor := by
  induction fits generalizing index s with
  | nil => rfl
  | cons _ _ ih =>
    rename_i segment piece segments pieces _ _
    have split : slashed (piece :: pieces) = '/' :: piece ++ slashed pieces := by simp
    cases segment with
    | fixed t => rw [passed, ih, State.over_over, split]
    | token name type =>
      have moved : ∀ s' : State, s'.cursor = (s.over ('/' :: piece)).cursor →
          (s'.over (slashed pieces)).cursor = (s.over (slashed (piece :: pieces))).cursor := by
        intro s' hs'
        rw [split, ← State.over_over]
        simp only [State.over, hs']
      rw [passed, ih]
      exact moved _ (by rw [State.captured_cursor, State.over_over]; rfl)

/-- The number of tokens. -/
def tokenCount : List Segment → Nat
  | [] => 0
  | .fixed _ :: segments => tokenCount segments
  | .token _ _ :: segments => tokenCount segments + 1

theorem tokenTexts_length (fits : List.Forall₂ Segment.Fits segments pieces) :
    (tokenTexts segments pieces).length = tokenCount segments := by
  induction fits with
  | nil => rfl
  | cons _ _ ih =>
    rename_i segment piece segments pieces _ _
    cases segment with
    | fixed t => exact ih
    | token name type => simp [tokenTexts, tokenCount, ih]

theorem groupCount_units (index : Nat) (segments : List Segment) :
    groupTotal (unitsFrom index segments) = tokenCount segments := by
  induction segments generalizing index with
  | nil => rfl
  | cons segment segments ih =>
    rw [unitsFrom, groupTotal_append, ih]
    cases segment with
    | fixed t => rw [Segment.units, groupTotal_singles, Nat.zero_add, tokenCount]
    | token name type =>
      simp [Segment.units, single, component, groupTotal, groupCount, tokenCount, Nat.add_comm]

/-- There is one group for each token. -/
theorem groupCount_regex (segments : List Segment) (closing : Closing) :
    (regex segments closing).groupCount = tokenCount segments := by
  have none : groupTotal closing.units = 0 := closing.ungrouped
  rw [regex, groupCount_sequence, groupTotal, groupTotal_append, groupCount_units, none, groupCount]
  omega

/-! ## What the groups capture -/

/-- Passing segments leaves the groups before them as they are. -/
theorem passed_marks_of_lt {index i : Nat} (h : i < index) (s : State) :
    (passed index segments pieces s).marks.get i = s.marks.get i := by
  fun_induction passed index segments pieces s with
  | case1 index t segments piece pieces s ih => exact ih h
  | case2 index name type segments piece pieces s ih =>
    rw [ih (by omega)]
    have other : index ≠ i := by omega
    simp [State.captured, Marks.get, Marks.update, other]
  | case3 => rfl

/-- The groups of passed components hold the components of the tokens. -/
theorem captured_of_passed {subject : Text} {index : Nat} (fits : List.Forall₂ Segment.Fits segments pieces)
    {rest : Text} (hs : s.cursor.after = slashed pieces ++ rest) (hpos : s.cursor.pos = s.cursor.before.length)
    (hsubject : subject = s.cursor.before.reverse ++ s.cursor.after)
    (hlen : index + tokenCount segments ≤ s.marks.length) :
    ((List.range' index (tokenCount segments)).map fun i => (passed index segments pieces s).marks.span? i).filterMap
      (fun span => span.map (slice subject)) = tokenTexts segments pieces := by
  induction fits generalizing index s with
  | nil => rfl
  | cons _ fits ih =>
    rename_i segment piece segments pieces _
    rw [slashed_cons, List.cons_append, List.append_assoc] at hs
    cases segment with
    | fixed t =>
      refine ih (s := s.over ('/' :: piece)) (State.over_after hs) ?_ ?_ hlen
      · simp [State.over, hpos]; omega
      · simp [State.over, hsubject, hs]
    | token name type =>
      rw [tokenCount] at hlen ⊢
      have entered : (s.over ['/']).cursor.after = piece ++ (slashed pieces ++ rest) :=
        State.over_after (t := ['/']) hs
      let s' := (s.over ['/']).captured index piece
      have room : index + 1 + tokenCount segments ≤ s'.marks.length := by
        simp [s', State.captured, Marks.update]
        omega
      have later := ih (s := s') (State.over_after entered)
        (by simp [s', State.over, State.captured, hpos]; omega)
        (by simp [s', State.over, State.captured, hsubject, hs]) room
      have kept : (passed (index + 1) segments pieces s').marks.span? index = s'.marks.span? index := by
        rw [Marks.span?, passed_marks_of_lt (by omega), Marks.span?]
      have span : s'.marks.span? index = some (s.cursor.pos + 1, s.cursor.pos + 1 + piece.length) :=
        span?_captured (by simp; omega) piece
      have text : slice subject (s.cursor.pos + 1, s.cursor.pos + 1 + piece.length) = piece := by
        have split : subject = (s.cursor.before.reverse ++ ['/']) ++ (piece ++ (slashed pieces ++ rest)) := by
          rw [hsubject, hs]; simp
        have skipped : (s.cursor.before.reverse ++ ['/']).length = s.cursor.pos + 1 := by simp [hpos]
        rw [slice, split, ← skipped, List.drop_left, Nat.add_sub_cancel_left, List.take_left]
      rw [List.range'_succ, List.map_cons, passed, kept, span, List.filterMap_cons]
      simp only [Option.map_some, text, tokenTexts]
      rw [later]

/-! ## The components of a path -/

/-- The components of the path of a URL: what stands after each of its slashes. -/
def components (path : Text) : List Text := (Text.splitOn '/' path).tail

theorem slashed_components {path : Text} (h : path.head? = some '/') : slashed (components path) = path :=
  (Text.eq_flatMap_splitOn h).symm

/-- The components of a path are those of its parts, when the second part starts with a slash. -/
theorem components_append {rest : Text} (h : ∀ piece ∈ pieces, '/' ∉ piece)
    (hrest : rest = [] ∨ ∃ more, rest = '/' :: more) : components (slashed pieces ++ rest) = pieces ++ components rest := by
  have split : ∀ {pieces : List Text}, (∀ piece ∈ pieces, '/' ∉ piece) → components (slashed pieces) = pieces := by
    intro pieces h
    rw [components, slashed, Text.splitOn_flatMap h, List.tail_cons]
  rcases hrest with rfl | ⟨more, rfl⟩
  · rw [List.append_nil, split h]
    simp [components, Text.splitOn]
  · have slashless : ∀ piece ∈ pieces ++ components ('/' :: more), '/' ∉ piece := by
      intro piece hp
      rcases List.mem_append.1 hp with hp | hp
      · exact h piece hp
      · exact Text.notMem_of_mem_splitOn (List.mem_of_mem_tail hp)
    rw [← split slashless, slashed_append, slashed_components rfl]

/-- Pieces without slashes are the components of the path that they make. -/
theorem components_slashed_eq (h : ∀ piece ∈ pieces, '/' ∉ piece) : components (slashed pieces) = pieces := by
  have joined : components (slashed pieces ++ []) = pieces ++ components [] := components_append h (.inl rfl)
  simpa [components, Text.splitOn] using joined

/-- Segments stand for texts of the characters of components only. -/
theorem componentChars_of_fits (readable : Readable segments) (fits : List.Forall₂ Segment.Fits segments pieces) :
    ∀ piece ∈ pieces, ∀ c ∈ piece, isComponentChar c = true := by
  induction fits with
  | nil => simp
  | cons fit fits ih =>
    rename_i segment piece segments pieces
    intro q hq
    rcases List.mem_cons.1 hq with rfl | hq
    · cases segment with
      | fixed t =>
        cases fit
        intro c hc
        rw [isComponentChar, readable _ (List.mem_cons_self ..) c hc, Bool.true_or]
      | token name type => exact fit.2
    · exact ih (fun t ht => readable t (List.mem_cons_of_mem _ ht)) q hq

theorem slashless_of_fits (readable : Readable segments) (fits : List.Forall₂ Segment.Fits segments pieces) :
    ∀ piece ∈ pieces, '/' ∉ piece :=
  fun piece hp => notMem_of_isComponentChar (componentChars_of_fits readable fits piece hp) (by decide)

/-! ## Matches -/

/-- A path starts with components that the segments fit, and ends as the closing says. -/
def Fitting (segments : List Segment) (closing : Closing) (path : Text) (pieces : List Text) : Prop :=
  List.Forall₂ Segment.Fits segments pieces ∧ ∃ rest, path = slashed pieces ++ rest ∧ closing.closes rest

variable {closing : Closing} {path : Text}

/-- The components are the first ones of the path. -/
theorem Fitting.eq_take (readable : Readable segments) (h : Fitting segments closing path pieces) :
    pieces = (components path).take segments.length := by
  obtain ⟨fits, rest, rfl, closed⟩ := h
  rw [components_append (slashless_of_fits readable fits) (closing.stops rest closed), fits.length_eq, List.take_left]

theorem anchored_regex (segments : List Segment) (closing : Closing) : Anchored (regex segments closing) :=
  anchored_sequence (unitsFrom 1 segments ++ closing.units)

/-- Matching at the start runs over the units of the segments and of the closing. -/
theorem matchAt_regex (groups : Nat) :
    matchAt (regex segments closing) groups false (.start path) =
      run (sequence (unitsFrom 1 segments ++ closing.units)) ⟨.start path, List.replicate (groups + 1) (none, none)⟩
        some := by
  have accept : (fun s : State => if (false && s.cursor.pos == (Cursor.start path).pos) = true then none else some s) =
      some := by
    funext s
    simp
  rw [matchAt, accept, regex, run_sequence_cons, run]
  rfl

/-- A match at the start of a path is one of components that fit, and leaves the marks of passing them. -/
theorem fitting_of_matchAt (line : '\n' ∉ path) {groups : Nat}
    (h : matchAt (regex segments closing) groups false (.start path) = some x) :
    ∃ pieces, Fitting segments closing path pieces ∧
      x.marks = (passed 1 segments pieces ⟨.start path, List.replicate (groups + 1) (none, none)⟩).marks ∧
      (segments ≠ [] → x.cursor.before ≠ []) := by
  rw [matchAt_regex] at h
  obtain ⟨pieces, rest, hs, fits, h⟩ := passed_of_run h
  have whole : path = slashed pieces ++ rest := hs
  have after : (passed 1 segments pieces ⟨.start path, List.replicate (groups + 1) (none, none)⟩).cursor.after = rest := by
    rw [passed_cursor 1 fits]
    exact State.over_after hs
  have lineRest : '\n' ∉ rest := fun hm => line (by rw [whole]; exact List.mem_append_right _ hm)
  obtain ⟨closed, marks, moved⟩ := closing.ran _ x (by rwa [after]) h
  rw [after] at closed
  refine ⟨pieces, ⟨fits, rest, whole, closed⟩, marks, fun hne => moved ?_⟩
  rw [passed_cursor 1 fits]
  cases fits with
  | nil => exact absurd rfl hne
  | cons _ _ => simp [State.over]

/-- A path whose components fit is matched. -/
theorem matchAt_of_fitting (line : '\n' ∉ path) (groups : Nat) (h : Fitting segments closing path pieces) :
    ∃ x, matchAt (regex segments closing) groups false (.start path) = some x := by
  obtain ⟨fits, rest, whole, closed⟩ := h
  let start : State := ⟨.start path, List.replicate (groups + 1) (none, none)⟩
  have after : (passed 1 segments pieces start).cursor.after = rest := by
    rw [passed_cursor 1 fits]
    exact State.over_after whole
  have lineRest : '\n' ∉ rest := fun hm => line (by rw [whole]; exact List.mem_append_right _ hm)
  obtain ⟨x, hx⟩ := closing.runs (passed 1 segments pieces start) (by rwa [after]) (by rwa [after])
  exact ⟨x, (matchAt_regex groups).trans (run_of_passed fits whole (closing.stops rest closed) hx)⟩

/-- **Searching** a path: there is a match exactly when the path starts with components that fit. -/
theorem hasMatch_regex_iff (line : '\n' ∉ path) :
    (regex segments closing).hasMatch path = true ↔ ∃ pieces, Fitting segments closing path pieces := by
  rw [(anchored_regex segments closing).hasMatch_eq, Option.isSome_iff_exists]
  constructor
  · rintro ⟨x, hx⟩
    obtain ⟨pieces, fitting, -⟩ := fitting_of_matchAt line hx
    exact ⟨pieces, fitting⟩
  · rintro ⟨pieces, fitting⟩
    exact matchAt_of_fitting line _ fitting

theorem captures_of_groupCount {r : Regex} (h : r.groupCount = 0) (path : Text) : r.captures path = [] := by
  have empty : ∀ n move at', (matchesFrom r r.groupCount n move at').flatMap
      (fun m => m.groups.filterMap fun span => span.map (slice path)) = [] := by
    intro n
    rw [h]
    induction n with
    | zero => intros; rfl
    | succ n ih =>
      intro move at'
      rw [matchesFrom]
      split
      · rw [List.flatMap_cons, ih]
        rfl
      · rfl
  exact empty _ _ _

/-- **The captures** of a path that fits are its components at the places of the tokens. -/
theorem captures_of_fitting (readable : Readable segments) (line : '\n' ∉ path)
    (h : Fitting segments closing path pieces) :
    (regex segments closing).captures path = tokenTexts segments pieces := by
  have count := groupCount_regex segments closing
  cases hn : tokenCount segments with
  | zero =>
    rw [captures_of_groupCount (count.trans hn)]
    exact (List.length_eq_zero_iff.1 ((tokenTexts_length h.1).trans hn)).symm
  | succ n =>
    have hne : segments ≠ [] := by rintro rfl; cases hn
    obtain ⟨x, hx⟩ := matchAt_of_fitting line (regex segments closing).groupCount h
    obtain ⟨pieces', fitting, marks, -⟩ := fitting_of_matchAt line hx
    obtain rfl : pieces' = pieces := (fitting.eq_take readable).trans (h.eq_take readable).symm
    obtain ⟨fits, rest, whole, -⟩ := h
    have moves : ∀ s, matchAt (regex segments closing) (regex segments closing).groupCount false (.start path) =
        some s → s.cursor.before ≠ [] := by
      intro s hs
      obtain ⟨-, -, -, moved⟩ := fitting_of_matchAt line hs
      exact moved hne
    let start : State := ⟨.start path, List.replicate ((regex segments closing).groupCount + 1) (none, none)⟩
    have room : 1 + tokenCount segments ≤ start.marks.length := by
      rw [List.length_replicate, count]
      omega
    have own : path = start.cursor.before.reverse ++ start.cursor.after := rfl
    have held := captured_of_passed fits (s := start) whole rfl own room
    rw [captures, (anchored_regex segments closing).allMatches_eq path moves, hx, count]
    rw [← held, List.range'_eq_map_range, List.map_map, ← marks]
    simp [Match.ofState, Function.comp_def, Nat.add_comm 1]

/-- From a path whose components do not fit nothing is captured. -/
theorem captures_of_not_fitting (line : '\n' ∉ path) (h : ¬ ∃ pieces, Fitting segments closing path pieces) :
    (regex segments closing).captures path = [] := by
  have unmatched : matchAt (regex segments closing) (regex segments closing).groupCount false (.start path) = none := by
    rw [← hasMatch_regex_iff line, (anchored_regex segments closing).hasMatch_eq] at h
    simpa using h
  rw [captures, (anchored_regex segments closing).allMatches_eq path (by simp [unmatched]), unmatched]
  rfl

end TypedRoutes.Path
