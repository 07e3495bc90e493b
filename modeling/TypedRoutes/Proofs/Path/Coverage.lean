import TypedRoutes.Proofs.Matching
import TypedRoutes.Proofs.Regex.Anchoring
import TypedRoutes.Proofs.Text.Pieces

/-!
# How much of a path a match covers

A pattern carries the text of its path between anchors (`pathRegex_eq`). When that text is a regular expression on its
own, a match covers a stretch of the path by one of the branches between its bars, and the anchors hold the first
branch to the start of the path and the last one to its end (`covers_of_matchPattern`). A text without a bar outside of
groups is one branch, so that the match covers the path from end to end, but for a newline at the end, before which
the anchor holds as well (`fullMatches_of_matchPattern`).
-/

namespace TypedRoutes

set_option autoImplicit false

open Regex

variable {κ : Type}

/-- The regular expression of a path as text, without the anchors around it. -/
def Pattern.pathText (pattern : Pattern κ) : Text := pattern.pathRegex.tail.dropLast

namespace Path

variable {vocabulary : Vocabulary κ} {expression : Text} {pattern : Pattern κ}

/-- The text of the components of a path starts with the slash that the path starts with. -/
theorem head?_join_components {path : Text} (slash : path.head? = some '/') :
    (Text.join ['/'] ((Pattern.components path).map Vocabulary.componentText)).head? = some '/' := by
  obtain ⟨t, rfl⟩ : ∃ t, path = '/' :: t := by
    cases path with
    | nil => cases slash
    | cons c t => cases slash; exact ⟨t, rfl⟩
  obtain ⟨piece, rest, hs⟩ := List.exists_cons_of_ne_nil (Text.splitOn_ne_nil '/' t)
  have filled : Pattern.Component.ofTexts (piece :: rest) ≠ [] := by cases rest <;> simp [Pattern.Component.ofTexts]
  obtain ⟨component, more, hc⟩ := List.exists_cons_of_ne_nil filled
  have components : Pattern.components ('/' :: t) = .verbatim [] :: component :: more := by
    rw [Pattern.components, Text.splitOn, if_pos rfl, hs]
    simp only
    rw [hc]
  rw [components, List.map_cons, Text.join_cons]
  rfl

/-- The expression of a pattern is the text of its path between a caret and a dollar sign, and this text starts with a
slash. -/
theorem pathRegex_eq [CharacterNames] (compiled : vocabulary.compile expression = .ok pattern) :
    pattern.pathRegex = '^' :: (pattern.pathText ++ ['$']) ∧ pattern.pathText.head? = some '/' := by
  have stages := Vocabulary.compile_eq_ok_iff.1 compiled
  have text : pattern.pathText = Text.withoutFinalSlash (Text.join ['/']
      ((Pattern.components (Pattern.splitExpression expression).1).map Vocabulary.componentText)) := by
    rw [Pattern.pathText, stages.pathRegex, Vocabulary.pathRegex]
    simp
  constructor
  · rw [text, stages.pathRegex, Vocabulary.pathRegex]
    rfl
  · rw [text]
    exact Text.head?_withoutFinalSlash (head?_join_components stages.slash)

/-- The branches of a path and the regular expression that a pattern has for them. -/
theorem regex_of_compile [CharacterNames] (compiled : vocabulary.compile expression = .ok pattern) {r : Regex}
    (read : Regex.parse pattern.pathText = .ok r) :
    ∃ rows, rows ≠ [] ∧ r = ofRows rows ∧ pattern.regex = some (ofRows (anchoredRows true rows)) := by
  have stages := Vocabulary.compile_eq_ok_iff.1 compiled
  obtain ⟨text, slash⟩ := pathRegex_eq compiled
  obtain ⟨rows, filled, hr, anchored⟩ := parse_anchored slash read
  refine ⟨rows, filled, hr, ?_⟩
  have regex := stages.regex
  rw [text, Vocabulary.regexOf, anchored] at regex
  injection regex with regex
  exact regex.symm

variable [Conversions κ] {subject : Subject}

/-- Texts that were captured come from one of the paths that are tried, and from no other when there are none. -/
theorem captures_cases (subject : Subject) (r : Regex) :
    (∃ path, subject.Tried path ∧ r.captures path = subject.captures r) ∧
      (subject.captures r = [] → ∀ path, subject.Tried path → r.captures path = []) := by
  have captured := subject.captured_captures r
  unfold Subject.Captured at captured
  split at captured
  · rename_i here
    exact ⟨⟨_, .inl rfl, captured.symm⟩, fun none => absurd (captured ▸ none) here⟩
  rename_i here
  rw [ne_eq, not_not] at here
  split at captured
  · rename_i last
    refine ⟨⟨_, .inl rfl, here.trans captured.symm⟩, fun _ path tried => ?_⟩
    rcases tried with rfl | ⟨other, -⟩
    · exact here
    · exact absurd last other
  · rename_i last
    refine ⟨⟨_, .inr ⟨last, rfl⟩, captured.symm⟩, fun none path tried => ?_⟩
    rcases tried with rfl | ⟨-, rfl⟩
    · exact here
    · exact captured ▸ none

/-- The path that bound the parameters of a path: one that the regular expression matches, and that the texts of the
parameters were captured from. -/
theorem exists_path_of_bindPath {found : Params} (h : subject.bindPath pattern = .ok (some found)) :
    ∃ r path, pattern.regex = some r ∧ subject.Tried path ∧ r.hasMatch path = true ∧
      r.captures path = subject.captures r := by
  obtain ⟨r, hr, aligned, -, bare⟩ := Subject.captures_of_bindPath h
  obtain ⟨⟨path, tried, same⟩, nowhere⟩ := captures_cases subject r
  by_cases none : pattern.pathParams = []
  · rw [none, List.length_nil, eq_comm, List.length_eq_zero_iff] at aligned
    obtain ⟨path, tried, here⟩ := (subject.pathMatches_iff_tried r).1 (bare none)
    exact ⟨r, path, hr, tried, here, (nowhere aligned path tried).trans aligned.symm⟩
  · refine ⟨r, path, hr, tried, not_imp_comm.1 captures_eq_nil fun empty => none ?_, same⟩
    rw [← same, empty, List.length_nil, List.length_eq_zero_iff] at aligned
    exact aligned

/-- A match has found the regular expression in one of the paths that are tried. -/
theorem hasMatch_of_matchPattern {m : Params} (matched : subject.matchPattern pattern = .ok (some m)) :
    ∃ r path, pattern.regex = some r ∧ subject.Tried path ∧ r.hasMatch path = true := by
  obtain ⟨found, more, hf, -, -⟩ := Subject.bound_of_matchPattern matched
  obtain ⟨r, path, hr, tried, here, -⟩ := exists_path_of_bindPath hf
  exact ⟨r, path, hr, tried, here⟩

/-- What a match covers: a stretch of a path that is tried, by one of the branches of the text of the path. The first
branch starts with the path, and the last one ends with the path or before a newline at its end. -/
theorem covers_of_matchPattern [CharacterNames] (compiled : vocabulary.compile expression = .ok pattern) {r : Regex}
    (read : Regex.parse pattern.pathText = .ok r) {m : Params} (matched : subject.matchPattern pattern = .ok (some m)) :
    ∃ before row after u v w, r = ofRows (before ++ row :: after) ∧ subject.Tried (u ++ (v ++ w)) ∧
      Covers r.groupCount (sequence row) u v w ∧ (before = [] → u = []) ∧ (after = [] → w = [] ∨ w = ['\n']) := by
  obtain ⟨rows, filled, rfl, regex⟩ := regex_of_compile compiled read
  obtain ⟨s, path, hs, tried, found⟩ := hasMatch_of_matchPattern matched
  rw [regex] at hs
  cases hs
  obtain ⟨before, row, after, u, v, w, rfl, rfl, covers⟩ := (hasMatch_anchoredRows_iff filled path).1 found
  exact ⟨before, row, after, u, v, w, rfl, tried, covers⟩

/-- Alternatives in which a bar stands are an alternative at the top. -/
theorem ofRows_eq_alt {before after : List (List Regex)} (row : List Regex) (bar : before ≠ [] ∨ after ≠ []) :
    ∃ s t, ofRows (before ++ row :: after) = .alt s t := by
  cases before with
  | nil => exact ⟨_, _, ofRows_cons row (bar.resolve_left fun h => h rfl)⟩
  | cons other before => exact ⟨_, _, ofRows_cons other (by simp)⟩

/-- **When a match covers the whole path.** For every expression whose path is a regular expression on its own, a match
is one of the whole path, or of the path with a slash at its end, with two exceptions. The path may end with a newline
that is left over. And with a bar outside of groups a branch may leave over what stands on the side of the path that
no anchor holds it to. -/
theorem fullMatches_of_matchPattern [CharacterNames] (compiled : vocabulary.compile expression = .ok pattern)
    {r : Regex} (read : Regex.parse pattern.pathText = .ok r) {m : Params}
    (matched : subject.matchPattern pattern = .ok (some m)) :
    (∃ path, subject.Tried path ∧ r.fullMatches path = true) ∨
      (∃ v, subject.path = v ++ ['\n'] ∧ Covers r.groupCount r [] v ['\n']) ∨
      (∃ s t, r = .alt s t) ∧ ∃ before row after u v w, (before ≠ [] ∨ after ≠ []) ∧
        r = ofRows (before ++ row :: after) ∧ subject.Tried (u ++ (v ++ w)) ∧
          Covers r.groupCount (sequence row) u v w ∧ (before = [] → u = []) ∧ (after = [] → w = [] ∨ w = ['\n']) := by
  obtain ⟨before, row, after, u, v, w, hr, tried, covers, start, stop⟩ := covers_of_matchPattern compiled read matched
  by_cases bar : before ≠ [] ∨ after ≠ []
  · have parted : ∃ s t, r = .alt s t := hr ▸ ofRows_eq_alt row bar
    exact .inr (.inr ⟨parted, before, row, after, u, v, w, bar, hr, tried, covers, start, stop⟩)
  · simp only [not_or, ne_eq, not_not] at bar
    obtain ⟨rfl, rfl⟩ := bar
    have only : r = sequence row := hr
    rw [← only, start rfl] at covers
    rw [start rfl] at tried
    rcases stop rfl with rfl | rfl
    · rw [List.nil_append, List.append_nil] at tried
      exact .inl ⟨v, tried, (fullMatches_iff r v).2 covers⟩
    · refine .inr (.inl ⟨v, ?_, covers⟩)
      rcases tried with path | ⟨-, path⟩
      · exact path.symm
      · have last := congrArg List.getLast? path
        simp at last

attribute [local instance] CharacterNames.empty in
/-- Branches inside of a group are held to both ends. -/
theorem fullMatches_of_matchPattern_group :
    letI : Conversions Unit := ⟨fun _ t => .ok (.text t)⟩
    let vocabulary : Vocabulary Unit := {}
    let subject := Subject.ofUrl { path := "/feed/ab/".toList }
    ∃ pattern r m, vocabulary.compile "/feed/(?:a|b)+".toList = .ok pattern ∧ Regex.parse pattern.pathText = .ok r ∧
      subject.matchPattern pattern = .ok (some m) ∧ ∃ path, subject.Tried path ∧ r.fullMatches path = true := by
  intro vocabulary subject
  let _ : Conversions Unit := ⟨fun _ t => .ok (.text t)⟩
  obtain ⟨pattern, compiled⟩ : ∃ pattern, vocabulary.compile "/feed/(?:a|b)+".toList = .ok pattern := ⟨_, rfl⟩
  have matched : (vocabulary.compile "/feed/(?:a|b)+".toList).map subject.matchPattern = .ok (.ok (some [])) := by rfl
  have parsed : (vocabulary.compile "/feed/(?:a|b)+".toList).map (fun p => (Regex.parse p.pathText).map fun r =>
      match r with
      | .alt _ _ => true
      | _ => false) = .ok (.ok false) := by rfl
  rw [compiled] at matched parsed
  injection matched with matched
  injection parsed with parsed
  simp only at parsed
  cases read : Regex.parse pattern.pathText with
  | error refusal =>
    rw [read] at parsed
    cases parsed
  | ok r =>
    rw [read] at parsed
    refine ⟨pattern, r, [], compiled, read, matched, ?_⟩
    rcases fullMatches_of_matchPattern compiled read matched with whole | ⟨v, line, -⟩ | ⟨⟨s, t, rfl⟩, -⟩
    · exact whole
    · have last := congrArg List.getLast? line
      have : subject.path.getLast? = some 'b' := by decide
      simp [this] at last
    · cases parsed

/-- A match that covers none of the paths that are tried from end to end. -/
def LeavesOver [CharacterNames] (vocabulary : Vocabulary κ) (expression : Text) (url : Url) : Prop :=
  ∃ pattern m, vocabulary.compile expression = .ok pattern ∧ (Subject.ofUrl url).matchPattern pattern = .ok (some m) ∧
    ¬ ∃ r path, Regex.parse pattern.pathText = .ok r ∧ (Subject.ofUrl url).Tried path ∧ r.fullMatches path = true

/-- The computed check that no path that is tried is covered says that a match leaves something over. -/
theorem leavesOver_of_all [CharacterNames] {url : Url} {m : Params}
    (compiled : vocabulary.compile expression = .ok pattern)
    (matched : (Subject.ofUrl url).matchPattern pattern = .ok (some m))
    (left : ((Regex.parse pattern.pathText).toOption.all fun r =>
      !r.fullMatches (Subject.ofUrl url).path && !r.fullMatches ((Subject.ofUrl url).path ++ ['/'])) = true) :
    LeavesOver vocabulary expression url := by
  refine ⟨pattern, m, compiled, matched, ?_⟩
  rintro ⟨r, path, read, tried, whole⟩
  rw [read] at left
  simp only [Except.toOption, Option.all_some, Bool.and_eq_true, Bool.not_eq_true'] at left
  rcases tried with rfl | ⟨-, rfl⟩
  · rw [left.1] at whole
    cases whole
  · rw [left.2] at whole
    cases whole

attribute [local instance] CharacterNames.empty in
/-- What can be left over: what follows the first of two branches, a newline, and what follows a dollar sign of the path
itself when a backslash at the end of an expression takes the anchor for that sign. -/
theorem leavesOver_examples :
    letI : Conversions Unit := ⟨fun _ t => .ok (.text t)⟩
    let vocabulary : Vocabulary Unit := {}
    LeavesOver vocabulary "/a|b".toList { path := "/axyz".toList } ∧
      LeavesOver vocabulary "/a".toList { path := "/a\n".toList } ∧
        LeavesOver vocabulary "/a\\".toList { path := "/a$xyz".toList } := by
  intro vocabulary
  let _ : Conversions Unit := ⟨fun _ t => .ok (.text t)⟩
  refine ⟨?_, ?_, ?_⟩
  · exact leavesOver_of_all rfl rfl rfl
  · exact leavesOver_of_all rfl rfl rfl
  · exact leavesOver_of_all rfl rfl rfl

end Path

end TypedRoutes
