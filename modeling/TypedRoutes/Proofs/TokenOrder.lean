import Mathlib.Data.List.Nodup
import TypedRoutes.Proofs.Matching
import TypedRoutes.Proofs.Pattern.Token

/-!
# The order of query tokens

The tokens of a query can be written in any order. The parameters that they make, and with them the names that must not
occur twice, stay the same up to their order, so that an expression compiles exactly when one with its tokens in another
order does. What the query asks for does not depend on the order either when the conversions do not fail, and a match has
the same entries (`matchPattern_of_perm`). Which of several faults of an expression is reported does depend on it.
-/

namespace TypedRoutes

set_option autoImplicit false

open Pattern (Token)

variable {κ : Type}

/-! ## Tokens with built-in types -/

/-- The types that a token mentions are built in. -/
def Pattern.Token.Builtin : Token → Prop
  | .required _ none | .literal _ _ => True
  | .required _ (some ref) | .optional _ ref => ref.name ∈ (TypeTable.default : TypeTable Empty).names

instance (token : Token) : Decidable token.Builtin :=
  match token with
  | .required _ none | .literal _ _ => inferInstanceAs (Decidable True)
  | .required _ (some ref) | .optional _ ref =>
    inferInstanceAs (Decidable (ref.name ∈ (TypeTable.default : TypeTable Empty).names))

/-- A built-in type is found in every table. -/
theorem TypeTable.get?_builtin (types : TypeTable κ) {name : Text}
    (h : name ∈ (TypeTable.default : TypeTable Empty).names) : types.get? name = TypeTable.default.get? name := by
  have names : (TypeTable.default : TypeTable Empty).names = ["int".toList, "string".toList, "bool".toList] := rfl
  simp only [names, List.mem_cons, List.not_mem_nil, or_false] at h
  rcases h with rfl | rfl | rfl <;> rfl

/-- The parameter of a token with built-in types is the same for every table. -/
theorem Vocabulary.tokenParam?_builtin (types : TypeTable κ) {token : Token} (h : token.Builtin) :
    tokenParam? types token = tokenParam? .default token := by
  cases token with
  | required name ref =>
    cases ref with
    | none => rfl
    | some ref => rw [tokenParam?, tokenParam?, resolve?, resolve?, types.get?_builtin h]
  | optional name ref => rw [tokenParam?, tokenParam?, resolve?, resolve?, types.get?_builtin h]
  | literal name value => rfl

theorem Vocabulary.offers_builtin {vocabulary : Vocabulary κ} {expression : Text} {tokens : List Token}
    (builtin : ∀ token ∈ tokens, token.Builtin) {params : List (Param κ)}
    (h : vocabulary.queryParams expression tokens = .ok params) :
    ∀ param ∈ params, Vocabulary.OffersParam {} param := by
  intro param hp
  obtain ⟨token, ht, own⟩ := List.mem_filterMap.1 ((queryParams_perm h).1.mem_iff.1 hp)
  rw [tokenParam?_builtin vocabulary.types (builtin token ht)] at own
  exact offers_of_tokenParam? own

/-! ## Compiling -/

section

variable {vocabulary : Vocabulary κ} {path : Text} {tokens others : List Token}

/-- An expression with its tokens in another order has the same path and the same parameters, up to the order of those of
the query. -/
theorem Vocabulary.exists_compile_of_perm [CharacterNames] (filled : tokens ≠ [])
    (proper : ∀ token ∈ tokens, token.WellFormed) (perm : tokens.Perm others) {pattern : Pattern κ}
    (compiled : vocabulary.compile (path ++ '?' :: Pattern.rowText tokens) = .ok pattern) :
    ∃ other, vocabulary.compile (path ++ '?' :: Pattern.rowText others) = .ok other ∧
      pattern.regex = other.regex ∧ pattern.pathParams = other.pathParams ∧
      pattern.queryParams.Perm other.queryParams := by
  have stages := compile_eq_ok_iff.1 compiled
  have split := Pattern.splitExpression_append path filled proper
  have split' : Pattern.splitExpression (path ++ '?' :: Pattern.rowText others) = (path, some others) :=
    Pattern.splitExpression_append path (fun none => filled (none ▸ perm).eq_nil)
      fun token ht => proper token (perm.mem_iff.2 ht)
  have slash := stages.slash
  have pathParams := stages.pathParams
  have queryParams := stages.queryParams
  have pathRegex := stages.pathRegex
  rw [split] at slash pathParams queryParams pathRegex
  obtain ⟨more, hm, same⟩ := exists_queryParams_of_perm queryParams perm (path ++ '?' :: Pattern.rowText others)
  let other : Pattern κ := { pattern with raw := path ++ '?' :: Pattern.rowText others, queryParams := more }
  have names : pattern.names.Perm other.names := (same.append_left _).map _
  refine ⟨other, compile_eq_ok_iff.2 ?_, rfl, rfl, same⟩
  constructor
  case slash => rw [split']; exact slash
  case pathParams => rw [split']; exact pathParams_congr pathParams _
  case queryParams => rw [split']; exact hm
  case pathRegex => rw [split']; exact pathRegex
  case regex => exact stages.regex
  case globals => exact stages.globals
  case raw => rfl
  case distinct => exact names.nodup_iff.1 stages.distinct

end

/-! ## Matching -/

/-- Two matches come to the same: they fail alike, there is none in both cases, or they have the same entries under
distinct names, in some order. -/
inductive SameMatch : Except Fault (Option Params) → Except Fault (Option Params) → Prop where
  | failed (fault : Fault) : SameMatch (.error fault) (.error fault)
  | unmatched : SameMatch (.ok none) (.ok none)
  | matched {m other : Params} (distinct : (Assoc.keys m).Nodup) (same : m.Perm other) :
      SameMatch (.ok (some m)) (.ok (some other))

namespace Subject

variable [Conversions κ]

/-- The query parameters in another order are admitted alike and have the same entries. -/
theorem bindQuery_of_perm (subject : Subject) {params others : List (Param κ)} (perm : params.Perm others)
    (builtin : ∀ param ∈ params, Vocabulary.OffersParam {} param) (distinct : (params.map Param.name).Nodup) :
    subject.bindQuery params = .ok none ∧ subject.bindQuery others = .ok none ∨
      ∃ m other, subject.bindQuery params = .ok (some m) ∧ subject.bindQuery others = .ok (some other) ∧
        m.Perm other := by
  obtain ⟨found, hf, fits, entries⟩ := bindQuery_spec TypeTable.default_total subject builtin
  obtain ⟨more, hm, fits', entries'⟩ :=
    bindQuery_spec TypeTable.default_total subject fun param hp => builtin param (perm.mem_iff.2 hp)
  have admits : found.isSome = true ↔ more.isSome = true := by simp only [fits, fits', perm.mem_iff]
  cases found with
  | none =>
    cases more with
    | none => exact .inl ⟨hf, hm⟩
    | some other => simp at admits
  | some m =>
    cases more with
    | none => simp at admits
    | some other =>
      have own : m.Nodup := List.Nodup.of_map _ (distinct.sublist (keys_sublist_of_bindQuery hf))
      have own' : other.Nodup :=
        List.Nodup.of_map _ (((perm.map _).nodup_iff.1 distinct).sublist (keys_sublist_of_bindQuery hm))
      refine .inr ⟨m, other, hf, hm, (List.perm_ext_iff_of_nodup own own').2 fun entry => ?_⟩
      obtain ⟨name, v⟩ := entry
      rw [(entries m rfl).2, (entries' other rfl).2]
      simp only [perm.mem_iff]

/-- Patterns that differ in the order of their query parameters match alike. -/
theorem sameMatch_of_perm (subject : Subject) {pattern other : Pattern κ} (regex : pattern.regex = other.regex)
    (pathParams : pattern.pathParams = other.pathParams) (perm : pattern.queryParams.Perm other.queryParams)
    (builtin : ∀ param ∈ pattern.queryParams, Vocabulary.OffersParam {} param) (distinct : pattern.names.Nodup)
    (distinct' : other.names.Nodup) : SameMatch (subject.matchPattern pattern) (subject.matchPattern other) := by
  have path : subject.bindPath pattern = subject.bindPath other := by rw [bindPath, bindPath, regex, pathParams]
  cases hf : subject.bindPath pattern with
  | error fault =>
    simp only [matchPattern, ← path, hf]
    exact .failed fault
  | ok found =>
    cases found with
    | none =>
      simp only [matchPattern, ← path, hf]
      exact .unmatched
    | some found =>
      obtain ⟨r, -, aligned, bound, -⟩ := captures_of_bindPath hf
      obtain ⟨keys, -⟩ := entries_of_bind bound aligned
      have own : (pattern.queryParams.map Param.name).Nodup := by
        rw [Pattern.names, Pattern.params, List.map_append] at distinct
        exact (List.nodup_append.1 distinct).2.1
      rcases subject.bindQuery_of_perm perm builtin own with ⟨hm, hm'⟩ | ⟨m, more, hm, hm', same⟩
      · simp only [matchPattern, ← path, hf, hm, hm']
        exact .unmatched
      · obtain ⟨merged, names⟩ := matchPattern_eq_append distinct hf hm keys (keys_sublist_of_bindQuery hm)
        obtain ⟨merged', -⟩ :=
          matchPattern_eq_append distinct' (path ▸ hf) hm' (pathParams ▸ keys) (keys_sublist_of_bindQuery hm')
        rw [merged, merged']
        exact .matched names (same.append_left _)

end Subject

/-- **The order of query tokens does not matter.** An expression whose query part is a row of tokens with built-in types
is refused exactly when the one with the tokens in another order is, whatever its path is and whatever the vocabulary;
and when they compile, the two patterns match every URL alike. -/
theorem Subject.matchPattern_of_perm [CharacterNames] [Conversions κ] (vocabulary : Vocabulary κ) (path : Text)
    {tokens others : List Token} (filled : tokens ≠ []) (proper : ∀ token ∈ tokens, token.WellFormed)
    (builtin : ∀ token ∈ tokens, token.Builtin) (perm : tokens.Perm others) :
    let expression := path ++ '?' :: Pattern.rowText tokens
    let reordered := path ++ '?' :: Pattern.rowText others
    (∃ reason reason', vocabulary.compile expression = .error reason ∧ vocabulary.compile reordered = .error reason') ∨
      ∃ pattern other, vocabulary.compile expression = .ok pattern ∧ vocabulary.compile reordered = .ok other ∧
        ∀ url, SameMatch ((ofUrl url).matchPattern pattern) ((ofUrl url).matchPattern other) ∧
          (vocabulary.types.Total → ∃ result, (ofUrl url).matchPattern pattern = .ok result) := by
  intro expression reordered
  cases compiled : vocabulary.compile expression with
  | ok pattern =>
    obtain ⟨other, compiled', regex, pathParams, same⟩ := Vocabulary.exists_compile_of_perm filled proper perm compiled
    refine .inr ⟨pattern, other, rfl, compiled', fun url => ⟨?_, fun total => ?_⟩⟩
    · have stages := Vocabulary.compile_eq_ok_iff.1 compiled
      have queryParams := stages.queryParams
      rw [Pattern.splitExpression_append path filled proper] at queryParams
      exact sameMatch_of_perm _ regex pathParams same (Vocabulary.offers_builtin builtin queryParams) stages.distinct
        (Vocabulary.compile_eq_ok_iff.1 compiled').distinct
    · exact exists_matchPattern total compiled _
  | error reason =>
    cases compiled' : vocabulary.compile reordered with
    | error reason' => exact .inl ⟨reason, reason', rfl, rfl⟩
    | ok other =>
      -- The same step in the other direction.
      obtain ⟨pattern, found, -⟩ := Vocabulary.exists_compile_of_perm (fun none => filled (none ▸ perm).eq_nil)
        (fun token ht => proper token (perm.mem_iff.2 ht)) perm.symm compiled'
      cases compiled.symm.trans found

attribute [local instance] CharacterNames.empty in
/-- Four tokens backwards, behind a path with a question mark of its own. -/
theorem Subject.matchPattern_of_perm_backwards :
    letI : Conversions Empty := ⟨fun function _ => nomatch function⟩
    let tokens : List Token := [.required "n".toList (some { name := "int".toList }), .required "q".toList none,
      .optional "tags".toList { name := "string".toList, isArray := true }, .literal "kind".toList "x".toList]
    (∀ token ∈ tokens, token.WellFormed ∧ token.Builtin) ∧ ∃ pattern other : Pattern Empty,
      Vocabulary.compile {} ("/a?/:id".toList ++ '?' :: Pattern.rowText tokens) = .ok pattern ∧
        Vocabulary.compile {} ("/a?/:id".toList ++ '?' :: Pattern.rowText tokens.reverse) = .ok other ∧
        pattern.queryParams.map Param.name = ["n".toList, "q".toList, "tags".toList, "kind".toList] ∧
        other.queryParams.map Param.name = ["q".toList, "n".toList, "tags".toList, "kind".toList] ∧
        ∀ url, SameMatch ((ofUrl url).matchPattern pattern) ((ofUrl url).matchPattern other) := by
  intro tokens
  let _ : Conversions Empty := ⟨fun function _ => nomatch function⟩
  have proper : ∀ token ∈ tokens, token.WellFormed := by
    simp only [tokens, List.forall_mem_cons]
    exact ⟨⟨rfl, rfl⟩, rfl, ⟨rfl, rfl⟩, ⟨rfl, rfl⟩, nofun⟩
  have builtin : ∀ token ∈ tokens, token.Builtin := by decide
  let names (pattern : Pattern Empty) := pattern.queryParams.map Param.name
  have first : (Vocabulary.compile {} ("/a?/:id".toList ++ '?' :: Pattern.rowText tokens)).map names =
    .ok ["n".toList, "q".toList, "tags".toList, "kind".toList] := by rfl
  have second : (Vocabulary.compile {} ("/a?/:id".toList ++ '?' :: Pattern.rowText tokens.reverse)).map names =
    .ok ["q".toList, "n".toList, "tags".toList, "kind".toList] := by rfl
  have alike :=
    matchPattern_of_perm ({} : Vocabulary Empty) "/a?/:id".toList (by simp [tokens]) proper builtin tokens.reverse_perm.symm
  rcases alike with ⟨reason, -, refused, -⟩ | ⟨pattern, other, compiled, compiled', alike⟩
  · rw [refused] at first
    cases first
  · exact ⟨fun token ht => ⟨proper token ht, builtin token ht⟩, pattern, other, compiled, compiled',
      eq_of_map_eq_ok (f := names) compiled first, eq_of_map_eq_ok (f := names) compiled' second,
      fun url => (alike url).1⟩

end TypedRoutes
