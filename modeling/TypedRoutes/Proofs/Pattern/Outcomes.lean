import TypedRoutes.Matching
import TypedRoutes.Proofs.Pattern.Faults
import TypedRoutes.Proofs.Regex.Refusals

/-!
# How a compilation can end

A compilation ends with a pattern, with one of three diagnostics, or because the text for the path is refused. The text
starts with a caret, so that it is refused for a count of repetitions only (`Regex.parse_eq_error`), and as the groups in
place of tokens have no braces, the count stands in the path itself (`infix_of_pathRegex`). A path that is malformed in any
other way makes a pattern that matches nothing (`compile_outcome`).
-/

namespace TypedRoutes

set_option autoImplicit false

namespace Vocabulary

open Pattern (Component components splitExpression)
open Pattern.Grammar

variable {κ : Type}

/-- Braces with digits and commas between them that stand in the text for a path stand in the path. -/
theorem infix_of_pathRegex {counts path : Text} (signs : ∀ c ∈ counts, c.isDigit = true ∨ c = ',')
    (h : '\x7b' :: counts ++ ['\x7d'] <:+: pathRegex (components path)) : '\x7b' :: counts ++ ['\x7d'] <:+: path := by
  have absent : ∀ c : Char, c ∉ ['\x7b', '\x7d', ','] → c.isDigit = false → c ∉ '\x7b' :: counts ++ ['\x7d'] := by
    intro c others digit member
    simp only [List.mem_cons, List.not_mem_nil, or_false, not_or] at others
    simp only [List.cons_append, List.mem_cons, List.mem_append, List.not_mem_nil, or_false] at member
    rcases member with brace | inner | brace
    · exact others.1 brace
    · rcases signs c inner with digit' | comma
      · cases digit.symm.trans digit'
      · exact others.2.2 comma
    · exact others.2.1 brace
  have filled : '\x7b' :: counts ++ ['\x7d'] ≠ [] := by simp
  have empty : ¬ '\x7b' :: counts ++ ['\x7d'] <:+: [] := fun h => filled (List.infix_nil.1 h)
  -- Neither an anchor nor a slash stands in the braces, so that they stand in one piece.
  have body := (Text.infix_of_infix_append_cons (absent '$' (by decide) (by decide)) h).resolve_right empty
  have body := (Text.infix_of_infix_append_cons (absent '^' (by decide) (by decide))
    (by rwa [List.nil_append])).resolve_left empty
  obtain ⟨piece, member, inner⟩ := Text.exists_infix_of_infix_join filled (absent '/' (by decide) (by decide))
    (body.trans (Text.isPrefix_withoutFinalSlash _).isInfix)
  obtain ⟨component, own, rfl⟩ := List.mem_map.1 member
  obtain ⟨first, rest, pieces⟩ := List.exists_cons_of_ne_nil (Text.splitOn_ne_nil '/' path)
  have whole : ∀ t ∈ first :: rest, t <:+: path := fun t ht => Text.infix_of_mem_splitOn (pieces ▸ ht)
  rw [components, pieces] at own
  rcases List.mem_cons.1 own with rfl | own
  · exact inner.trans (whole first (List.mem_cons_self ..))
  · rcases mem_ofTexts own with ⟨t, among, rfl⟩ | ⟨name, type, tail, rfl, last⟩
    · exact inner.trans (whole t (List.mem_cons_of_mem _ among))
    · have brace : '\x7b' ∈ componentGroup ++ tail := inner.subset (List.mem_cons_self ..)
      exact absurd brace (by rcases last with rfl | rfl <;> decide)

/-- Making the expression of a path passes over texts that are malformed, so that what it refuses is refused by the
reader, and not as malformed. -/
theorem parse_of_regexOf [CharacterNames] {t : Text} {refusal : Regex.Refusal} (h : regexOf t = .error refusal) :
    Regex.parse t = .error refusal ∧ refusal ≠ .malformed := by
  unfold regexOf at h
  split at h
  · cases h
  · cases h
  · rename_i other parsed
    cases h
    exact ⟨parsed, fun same => other (same ▸ rfl)⟩

variable [Conversions κ]

/-- **How a compilation can end.** There is a pattern, and it has no regular expression exactly when the text for its path
is malformed, in which case it matches nothing. Or there is a diagnostic of one of three kinds. Or the text is refused for
a count of repetitions, and then braces with that count stand in the path. Groups may be nested to any depth here (see
`Regex.parse`): where the reader runs out of stack on deeply nested ones, that is one more way for a compilation to
end. -/
theorem compile_outcome [CharacterNames] (vocabulary : Vocabulary κ) (expression : Text) :
    (∃ pattern, vocabulary.compile expression = .ok pattern ∧
      ((∃ r, pattern.regex = some r ∧ Regex.parse pattern.pathRegex = .ok r) ∨
        pattern.regex = none ∧ Regex.parse pattern.pathRegex = .error .malformed ∧
          ∀ subject : Subject, subject.matchPattern pattern = .ok none)) ∨
    (∃ d, vocabulary.compile expression = .error (.diagnostic d) ∧
      d.kind ∈ [Diagnostic.Kind.invalidFormat, .invalidType, .duplicateName]) ∨
    ∃ refusal counts, vocabulary.compile expression = .error (.path refusal) ∧
      Regex.parse (pathRegex (components (splitExpression expression).1)) = .error refusal ∧
      Regex.Overcount counts refusal ∧ '\x7b' :: counts ++ ['\x7d'] <:+: (splitExpression expression).1 := by
  cases compiled : vocabulary.compile expression with
  | ok pattern =>
    refine .inl ⟨pattern, rfl, ?_⟩
    have read := (compile_eq_ok_iff.1 compiled).regex
    unfold regexOf at read
    split at read
    · rename_i r parsed
      exact .inl ⟨r, (Except.ok.inj read).symm, parsed⟩
    · rename_i malformed
      have none : pattern.regex = none := (Except.ok.inj read).symm
      refine .inr ⟨none, malformed, fun subject => ?_⟩
      rw [Subject.matchPattern, Subject.bindPath, none]
    · cases read
  | error e =>
    right
    have fails := compile_eq_error_iff.1 compiled
    cases fails with
    | slash missing => exact .inl ⟨_, rfl, by simp [Diagnostic.kind]⟩
    | type start unknown => exact .inl ⟨_, rfl, by simp [Diagnostic.kind]⟩
    | name start known read repeated => exact .inl ⟨_, rfl, by simp [Diagnostic.kind]⟩
    | @path refusal start known refused =>
      obtain ⟨parsed, unlike⟩ := parse_of_regexOf refused
      obtain ⟨counts, excess, inner⟩ := Regex.infix_of_overcounts ((Regex.parse_eq_error parsed).resolve_left unlike)
      exact .inr ⟨refusal, counts, rfl, parsed, excess, infix_of_pathRegex excess.1 inner⟩

attribute [local instance] CharacterNames.empty in
/-- A count beyond the limit is refused as such and makes neither a pattern nor a diagnostic. -/
theorem compile_overcount :
    let expression := "/a\x7b4294967295\x7d".toList
    ({} : Vocabulary Empty).compile expression = .error (.path .tooManyRepetitions) ∧
      ¬ ((∃ pattern, ({} : Vocabulary Empty).compile expression = .ok pattern) ∨
        ∃ d, ({} : Vocabulary Empty).compile expression = .error (.diagnostic d)) := by
  intro expression
  have refused : ({} : Vocabulary Empty).compile expression = .error (.path .tooManyRepetitions) := rfl
  refine ⟨refused, ?_⟩
  rintro (⟨pattern, compiled⟩ | ⟨d, failed⟩)
  · cases refused.symm.trans compiled
  · cases refused.symm.trans failed

end Vocabulary

end TypedRoutes
