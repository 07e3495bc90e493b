import TypedRoutes.Proofs.Path.Ownership
import TypedRoutes.Proofs.Path.Running

/-!
# Paths without tokens

A pattern without path parameters has no tokens in its path, and the text of the path as it stands is its regular
expression, between anchors (`pathRegex_of_tokenless`). The groups in it are then groups of the path's own. Because there
are no parameters for what they capture, a group that takes part in a match of one of the paths that are tried rules the
pattern out. When none does, the pattern fits exactly the paths that its regular expression matches
(`bindPath_of_tokenless`).
-/

namespace TypedRoutes

set_option autoImplicit false

open Pattern (Component)

/-! ## The text of the path -/

namespace Path

/-- Without tokens the text for the components is that of the pieces. -/
theorem map_componentText_ofTexts {pieces : List Text} (tokenless : tokenPlaces (Component.ofTexts pieces) = []) :
    (Component.ofTexts pieces).map Vocabulary.componentText = pieces := by
  induction pieces with
  | nil => rfl
  | cons t rest ih =>
    cases rest with
    | nil =>
      rw [Component.ofTexts, Component.ofLastText] at tokenless ⊢
      split at tokenless
      · cases tokenless
      · rfl
    | cons next others =>
      have first : Component.ofTexts (t :: next :: others) = .ofText t :: Component.ofTexts (next :: others) := rfl
      rw [first, Component.ofText] at tokenless ⊢
      split at tokenless
      · cases tokenless
      · rw [List.map_cons, ih tokenless]
        rfl

/-- A path without tokens is rewritten to itself. -/
theorem pathRegex_of_tokenless {path : Text} (tokenless : tokenPlaces (Pattern.components path) = []) :
    Vocabulary.pathRegex (Pattern.components path) = '^' :: Text.withoutFinalSlash path ++ ['$'] := by
  obtain ⟨first, rest, pieces⟩ := List.exists_cons_of_ne_nil (Text.splitOn_ne_nil '/' path)
  have texts : (Pattern.components path).map Vocabulary.componentText = Text.splitOn '/' path := by
    rw [Pattern.components, pieces] at tokenless ⊢
    rw [List.map_cons, map_componentText_ofTexts tokenless]
    rfl
  rw [Vocabulary.pathRegex, texts, Text.join_splitOn]

end Path

/-! ## Groups of the path -/

/-- A group takes part in one of the matches in a subject. -/
def Regex.Capturing (r : Regex) (subject : Text) : Prop :=
  ∃ found ∈ r.allMatches subject, ∃ span, some span ∈ found.groups

/-- Nothing is captured exactly when no match of the text has a group that took part. -/
theorem Regex.captures_eq_nil_iff (r : Regex) (subject : Text) : r.captures subject = [] ↔ ¬ r.Capturing subject := by
  simp [Regex.captures, Capturing, List.flatMap_eq_nil_iff, List.filterMap_eq_nil_iff, Option.forall]

namespace Subject

/-- Nothing is captured from a path exactly when nothing is from any of the paths that are tried. -/
theorem captures_eq_nil_iff (subject : Subject) (r : Regex) :
    subject.captures r = [] ↔ ∀ path, subject.Tried path → ¬ r.Capturing path := by
  simp only [← Regex.captures_eq_nil_iff]
  obtain ⟨⟨path, tried, same⟩, nowhere⟩ := Path.captures_cases subject r
  exact ⟨nowhere, fun none => same ▸ none path tried⟩

variable {κ : Type} [Conversions κ] {pattern : Pattern κ} {r : Regex}

/-- Without parameters a path fits when it matches and nothing is captured. -/
theorem bindPath_of_pathParams_eq_nil (subject : Subject) (bare : pattern.pathParams = []) (regex : pattern.regex = some r) :
    subject.bindPath pattern =
      .ok (if subject.captures r = [] ∧ subject.pathMatches r = true then some [] else none) := by
  unfold bindPath
  rw [regex, bare]
  by_cases captured : subject.captures r = [] <;> simp [captured]

/-- **A path without parameters**: its text is the regular expression as it stands, and the pattern fits exactly when this
matches one of the paths that are tried and none of its groups takes part in a match of any of them. Without groups a
match is all it takes. -/
theorem bindPath_of_tokenless [CharacterNames] {vocabulary : Vocabulary κ} {expression : Text}
    (compiled : vocabulary.compile expression = .ok pattern) (bare : pattern.pathParams = [])
    (regex : pattern.regex = some r) :
    Regex.parse ('^' :: Text.withoutFinalSlash (Pattern.splitExpression expression).1 ++ ['$']) = .ok r ∧
      ∀ subject : Subject,
        (subject.bindPath pattern = .ok (some []) ∨ subject.bindPath pattern = .ok none) ∧
          (subject.bindPath pattern = .ok (some []) ↔
            (∀ path, subject.Tried path → ¬ r.Capturing path) ∧ ∃ path, subject.Tried path ∧ r.hasMatch path = true) ∧
          (r.groupCount = 0 → (subject.bindPath pattern = .ok (some []) ↔
            ∃ path, subject.Tried path ∧ r.hasMatch path = true)) := by
  have stages := Vocabulary.compile_eq_ok_iff.1 compiled
  have tokenless : Path.tokenPlaces (Path.componentsOf expression) = [] := by
    have names := Path.names_of_pathParams stages.pathParams
    rw [bare] at names
    exact List.map_eq_nil_iff.1 names.symm
  have read := Path.parse_of_compile compiled regex
  rw [Path.componentsOf, Path.pathRegex_of_tokenless tokenless] at read
  refine ⟨read, fun subject => ?_⟩
  have fits : subject.bindPath pattern = .ok (some []) ↔
      (∀ path, subject.Tried path → ¬ r.Capturing path) ∧ ∃ path, subject.Tried path ∧ r.hasMatch path = true := by
    rw [subject.bindPath_of_pathParams_eq_nil bare regex, ← captures_eq_nil_iff, ← pathMatches_iff_tried]
    split <;> simp [*]
  refine ⟨?_, fits, fun groupless => ?_⟩
  · rw [subject.bindPath_of_pathParams_eq_nil bare regex]
    split
    · exact .inl rfl
    · exact .inr rfl
  · rw [fits]
    refine and_iff_right fun path _ => ?_
    rw [← Regex.captures_eq_nil_iff]
    exact Path.captures_of_groupCount groupless path

attribute [local instance] CharacterNames.empty in
/-- A path that ends with a slash and anything behind it fits the path without the slash. -/
theorem bindPath_of_tokenless_feed :
    letI : Conversions Unit := ⟨fun _ t => .ok (.text t)⟩
    let vocabulary : Vocabulary Unit := {}
    let subject := Subject.ofUrl { path := "/feed".toList }
    ∃ pattern r, vocabulary.compile "/feed/.*".toList = .ok pattern ∧ pattern.pathParams = [] ∧
      pattern.regex = some r ∧ Regex.parse "^/feed/.*$".toList = .ok r ∧
        subject.bindPath pattern = .ok (some []) := by
  intro vocabulary subject
  let _ : Conversions Unit := ⟨fun _ t => .ok (.text t)⟩
  obtain ⟨pattern, compiled⟩ : ∃ pattern, vocabulary.compile "/feed/.*".toList = .ok pattern := ⟨_, rfl⟩
  have facts : (vocabulary.compile "/feed/.*".toList).map (fun p => (p.pathParams.isEmpty,
      p.regex.map fun r => (r.groupCount, r.hasMatch (subject.path ++ ['/'])))) = .ok (true, some (0, true)) := by rfl
  rw [compiled] at facts
  injection facts with facts
  injection facts with bare facts
  obtain ⟨r, regex, facts⟩ := Option.map_eq_some_iff.1 facts
  injection facts with groupless found
  have bare := List.isEmpty_iff.1 bare
  obtain ⟨read, fits⟩ := bindPath_of_tokenless compiled bare regex
  have last : subject.path.getLast? ≠ some '/' := by decide
  exact ⟨pattern, r, compiled, bare, regex, read, ((fits subject).2.2 groupless).2 ⟨_, .inr ⟨last, rfl⟩, found⟩⟩

attribute [local instance] CharacterNames.empty in
/-- A group of the path that takes part rules out a path that the regular expression matches. -/
theorem bindPath_eq_none_of_capturing :
    letI : Conversions Unit := ⟨fun _ t => .ok (.text t)⟩
    let vocabulary : Vocabulary Unit := {}
    let subject := Subject.ofUrl { path := "/a".toList }
    ∃ pattern r, vocabulary.compile "/(a|b)".toList = .ok pattern ∧ pattern.pathParams = [] ∧
      pattern.regex = some r ∧ r.hasMatch subject.path = true ∧ subject.bindPath pattern = .ok none := by
  intro vocabulary subject
  let _ : Conversions Unit := ⟨fun _ t => .ok (.text t)⟩
  exact ⟨_, _, rfl, rfl, rfl, rfl, rfl⟩

end Subject

end TypedRoutes
