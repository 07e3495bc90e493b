import TypedRoutes.Proofs.Pattern.Faults

/-!
# A slash at the end of a path

A slash at the end of the path of an expression adds an empty component, which is no token, and the text for the path
loses it again (`components_append_slash`, `pathRegex_append_slash`). Compiling sees nothing of an expression but its
tokens and that text (`LooksLike.compile`). So `/feed?:ref` and `/feed/?:ref`, like `/feed` and `/feed/`, make patterns
that differ in the expression only, or both fail for the same reason (`compile_slash`).
-/

namespace TypedRoutes.Vocabulary

set_option autoImplicit false

open Pattern (Component Token components splitExpression rowText)
open Pattern.Grammar

variable {κ : Type}

/-! ## Paths -/

section Paths

variable {path : Text}

/-- A slash at the end of a path adds an empty component. -/
theorem components_append_slash (line : path.getLast? ≠ some '\n') :
    components (path ++ ['/']) = components path ++ [.verbatim []] := by
  obtain ⟨first, pieces, cut⟩ := List.exists_cons_of_ne_nil (Text.splitOn_ne_nil '/' path)
  have longer : Text.splitOn '/' (path ++ ['/']) = first :: (pieces ++ [[]]) := by
    rw [Text.splitOn_append_separator, cut]
    rfl
  have slash : (path ++ ['/']).getLast? ≠ some '\n' := by simp
  rw [components_eq_map line cut, components_eq_map slash longer, List.map_append]
  rfl

/-- A component ends as its text does, or with the parenthesis of its group. -/
theorem exists_componentText_eq {t : Text} (filled : t ≠ []) (plain : '/' ∉ t) :
    ∃ front c, componentText (.ofText t) = front ++ [c] ∧ c ≠ '/' := by
  rw [componentText_ofText]
  split
  · exact ⟨componentGroup.dropLast, ')', rfl, by decide⟩
  · refine ⟨t.dropLast, t.getLast filled, (List.dropLast_concat_getLast filled).symm, ?_⟩
    intro slash
    exact plain (slash ▸ List.getLast_mem filled)

/-- A path without a slash at its end has none at the end of its text either. -/
theorem exists_join_components_eq (start : path.head? = some '/') (stop : path.getLast? ≠ some '/')
    (line : path.getLast? ≠ some '\n') :
    ∃ front c, Text.join ['/'] ((components path).map componentText) = front ++ [c] ∧ c ≠ '/' := by
  obtain ⟨rest, rfl⟩ := List.head?_eq_some_iff.1 start
  have cut : Text.splitOn '/' ('/' :: rest) = [] :: Text.splitOn '/' rest := by rw [Text.splitOn, if_pos rfl]
  have parts := List.dropLast_append_getLast (Text.splitOn_ne_nil '/' rest)
  generalize (Text.splitOn '/' rest).dropLast = before at parts
  generalize (Text.splitOn '/' rest).getLast (Text.splitOn_ne_nil '/' rest) = last at parts
  rw [← parts] at cut
  have filled : last ≠ [] := by
    rintro rfl
    apply stop
    rw [← Text.join_splitOn '/' ('/' :: rest), cut, Text.join_cons]
    simp
  have member : last ∈ Text.splitOn '/' ('/' :: rest) := by simp [cut]
  have plain : '/' ∉ last := Text.notMem_of_mem_splitOn member
  obtain ⟨front, c, text, other⟩ := exists_componentText_eq filled plain
  have joined : Text.join ['/'] ((components ('/' :: rest)).map componentText) =
      (before.map (componentText ∘ .ofText)).flatMap ('/' :: ·) ++ '/' :: (front ++ [c]) := by
    rw [components_eq_map line cut, List.map_cons, Text.join_cons, ← text]
    simp [componentText]
  refine ⟨(before.map (componentText ∘ .ofText)).flatMap ('/' :: ·) ++ '/' :: front, c, ?_, other⟩
  rw [joined, List.append_assoc, List.cons_append]

/-- A slash at the end of a path changes nothing in the text for its regular expression. -/
theorem pathRegex_append_slash (start : path.head? = some '/') (stop : path.getLast? ≠ some '/')
    (line : path.getLast? ≠ some '\n') : pathRegex (components (path ++ ['/'])) = pathRegex (components path) := by
  obtain ⟨front, c, text, other⟩ := exists_join_components_eq start stop line
  have longer : Text.join ['/'] ((components (path ++ ['/'])).map componentText) = front ++ [c] ++ ['/'] := by
    obtain ⟨first, pieces, cut⟩ := List.exists_cons_of_ne_nil (Text.splitOn_ne_nil '/' path)
    rw [components_append_slash line, ← text, components_eq_map line cut]
    simp [Text.join_cons, componentText]
  have kept : Text.withoutFinalSlash (front ++ [c]) = front ++ [c] :=
    Text.withoutFinalSlash_of_getLast? (by simpa using other)
  rw [pathRegex, pathRegex, longer, text, Text.withoutFinalSlash_append (by simp), kept]

end Paths

/-! ## Compiling -/

section Compiling

variable {vocabulary : Vocabulary κ} {a b : Text}

/-- Two expressions that start with a slash, with the same tokens and the same text for the path. -/
structure LooksLike (a b : Text) : Prop where
  left : a.head? = some '/'
  right : b.head? = some '/'
  path : pathTokens a = pathTokens b
  query : (splitExpression a).2.getD [] = (splitExpression b).2.getD []
  text : pathRegex (components (splitExpression a).1) = pathRegex (components (splitExpression b).1)

/-- How the compilations of two expressions end alike: with patterns that differ in the expression only, or with the
same error about the same type or name. -/
inductive EndAlike (a b : Text) : Except CompileError (Pattern κ) → Except CompileError (Pattern κ) → Prop where
  | pattern (p : Pattern κ) : EndAlike a b (.ok { p with raw := a }) (.ok { p with raw := b })
  | type (name : Text) (known : List Text) :
      EndAlike a b (.error (.diagnostic (.unknownType name (some a) known)))
        (.error (.diagnostic (.unknownType name (some b) known)))
  | name (name : Text) :
      EndAlike a b (.error (.diagnostic (.duplicateName name (some a))))
        (.error (.diagnostic (.duplicateName name (some b))))
  | path (refusal : Regex.Refusal) : EndAlike a b (.error (.path refusal)) (.error (.path refusal))

theorem LooksLike.orderedTokens_eq (h : LooksLike a b) : orderedTokens a = orderedTokens b := by
  rw [orderedTokens, orderedTokens, h.path, h.query]

theorem LooksLike.orderedNames_eq (h : LooksLike a b) : vocabulary.orderedNames a = vocabulary.orderedNames b := by
  rw [orderedNames, orderedNames, h.path, h.query]

/-- The parameter of a token does not depend on the expression. -/
theorem tokenParam_congr {token : Token} {param : Param κ} (own : vocabulary.tokenParam a token = .ok param)
    (b : Text) : vocabulary.tokenParam b token = .ok param := by
  cases token with
  | required name ref =>
    cases found : vocabulary.resolveOrInfer a ref with
    | error d => simp [tokenParam, found, Except.map] at own
    | ok type => rwa [tokenParam, resolveOrInfer_congr found b, ← found]
  | optional name ref =>
    cases found : vocabulary.resolve a ref with
    | error d => simp [tokenParam, found, Except.map] at own
    | ok type => rwa [tokenParam, resolve_eq_ok_iff.2 (resolve_eq_ok_iff.1 found), ← found]
  | literal name value => exact own

/-- The parameters that tokens make do not depend on the expression that messages name. -/
theorem mapM_tokenParam_congr {tokens : List Token} {params : List (Param κ)}
    (own : tokens.mapM (vocabulary.tokenParam a) = .ok params) (b : Text) :
    tokens.mapM (vocabulary.tokenParam b) = .ok params := by
  induction tokens generalizing params with
  | nil => exact own
  | cons token rest ih =>
    rw [List.mapM_cons, bind_eq_ok_iff] at own ⊢
    obtain ⟨param, first, own⟩ := own
    obtain ⟨more, later, made⟩ := bind_eq_ok_iff.1 own
    exact ⟨param, tokenParam_congr first b, bind_eq_ok_iff.2 ⟨more, ih later, made⟩⟩

/-- **Compiling** sees the tokens of an expression and the text for its path, and nothing else. -/
theorem LooksLike.compile [CharacterNames] (h : LooksLike a b) :
    EndAlike a b (vocabulary.compile a) (vocabulary.compile b) := by
  cases unknown : (orderedTokens a).findSome? (unknownType? vocabulary.types) with
  | some name =>
    rw [compile_of_unknown h.left unknown, compile_of_unknown h.right (h.orderedTokens_eq ▸ unknown)]
    exact .type name _
  | none =>
    obtain ⟨pathParams, queryParams, hp, hq⟩ := exists_params unknown
    have hp' : vocabulary.pathParams b (components (splitExpression b).1) = .ok pathParams := by
      rw [pathParams_eq_mapM] at hp ⊢
      have path : (components (splitExpression a).1).filterMap componentToken? = _ := h.path
      exact mapM_tokenParam_congr (path ▸ hp) b
    have hq' : vocabulary.queryParams b ((splitExpression b).2.getD []) = .ok queryParams := by
      rw [queryParams_eq_mapM] at hq ⊢
      exact mapM_tokenParam_congr (h.query ▸ hq) b
    rw [compile_of_params h.left hp hq, compile_of_params h.right hp' hq', h.text, h.orderedNames_eq]
    cases regexOf (pathRegex (components (splitExpression b).1)) with
    | error refusal => exact .path refusal
    | ok regex =>
      cases firstDuplicate? [] (vocabulary.orderedNames b) with
      | some name => exact .name name
      | none => exact .pattern { raw := [], pathRegex := _, pathParams, globalParams := _, queryParams, regex }

end Compiling

/-! ## The slash -/

/-- A path that ends with a slash has no query part of its own. -/
theorem not_queryAt_append_slash (path : Text) : ¬ ∃ i, QueryAt (path ++ ['/']) i := by
  rintro ⟨i, here⟩
  obtain ⟨inside, tokens, split, rest⟩ := here.splitExpression_eq
  obtain ⟨-, all, -⟩ := Pattern.Grammar.splitExpression_eq_some split
  have slash : ('?' :: rowText tokens).getLast? = some '/' := by
    rw [← rest, List.getLast?_drop, if_neg (by omega), List.getLast?_concat]
  have absent : '/' ∉ '?' :: rowText tokens := by
    simpa using Pattern.notMem_rowText all (by decide) (by decide) (by decide) (by decide)
  exact Pattern.getLast?_ne_of_notMem absent slash

/-- A slash at the end of a path adds no token. -/
theorem pathTokens_append_slash {path : Text} (line : path.getLast? ≠ some '\n') :
    (components (path ++ ['/'])).filterMap componentToken? = (components path).filterMap componentToken? := by
  rw [components_append_slash line, List.filterMap_append]
  exact List.append_nil _

/-- **A slash at the end of a path does not count.** Let a text start with a slash and end with neither a slash nor a
newline. With a query of well-formed tokens behind it, separated by a question mark or by a slash and a question mark,
it compiles alike. So it does alone and with a slash at its end, when it has no query part of its own; with the slash
it never has one. Alike means that both make patterns which agree in everything but the expression, or that both fail
with the same kind of error about the same type or name. -/
theorem compile_slash [CharacterNames] (vocabulary : Vocabulary κ) {path : Text} (start : path.head? = some '/')
    (stop : path.getLast? ≠ some '/') (line : path.getLast? ≠ some '\n') :
    (∀ tokens : List Token, tokens ≠ [] → (∀ token ∈ tokens, token.WellFormed) →
      let mark := path ++ '?' :: rowText tokens
      let slash := path ++ '/' :: '?' :: rowText tokens
      EndAlike mark slash (vocabulary.compile mark) (vocabulary.compile slash)) ∧
    (¬ ∃ i, QueryAt (path ++ ['/']) i) ∧
    ((¬ ∃ i, QueryAt path i) →
      EndAlike path (path ++ ['/']) (vocabulary.compile path) (vocabulary.compile (path ++ ['/']))) := by
  have tokensEq := pathTokens_append_slash line
  have textEq := pathRegex_append_slash start stop line
  have head : ∀ t : Text, (path ++ t).head? = some '/' := by
    obtain ⟨rest, rfl⟩ := List.head?_eq_some_iff.1 start
    exact fun t => rfl
  refine ⟨?_, not_queryAt_append_slash path, ?_⟩
  · intro tokens filled all
    have mark := Pattern.splitExpression_append path filled all
    have slash := Pattern.splitExpression_append (path ++ ['/']) filled all
    rw [List.append_assoc, List.singleton_append] at slash
    apply LooksLike.compile
    refine ⟨head _, head _, ?_, ?_, ?_⟩
    · rw [pathTokens, pathTokens, mark, slash, tokensEq]
    · rw [mark, slash]
    · rw [mark, slash, textEq]
  · intro absent
    have last : (path ++ ['/']).getLast? ≠ some '\n' := by simp
    obtain ⟨bare, none⟩ := (parts_iff line path []).1 (.plain absent)
    obtain ⟨bare', none'⟩ := (parts_iff last _ []).1 (.plain (not_queryAt_append_slash path))
    apply LooksLike.compile
    refine ⟨start, head _, ?_, ?_, ?_⟩
    · rw [pathTokens, pathTokens, ← bare, ← bare', tokensEq]
    · rw [← none, ← none']
    · rw [← bare, ← bare', textEq]

attribute [local instance] CharacterNames.empty in
/-- The last component is a token that ends with the path in one expression and with a slash in the other. -/
theorem compile_slash_feed :
    let vocabulary : Vocabulary Empty := {}
    let path := "/feed/(a|b)/:id\x7bint\x7d".toList
    let tokens : List Token := [.optional "ref".toList { name := "string".toList }, .literal "tab".toList "new".toList]
    let mark := "/feed/(a|b)/:id\x7bint\x7d?:ref\x7bstring?\x7d&:tab\x7b'new'\x7d".toList
    let slash := "/feed/(a|b)/:id\x7bint\x7d/?:ref\x7bstring?\x7d&:tab\x7b'new'\x7d".toList
    path.head? = some '/' ∧ path.getLast? ≠ some '/' ∧ path.getLast? ≠ some '\n' ∧ tokens ≠ [] ∧
      (∀ token ∈ tokens, token.WellFormed) ∧ (¬ ∃ i, QueryAt path i) ∧
      mark = path ++ '?' :: rowText tokens ∧ slash = path ++ '/' :: '?' :: rowText tokens ∧
      EndAlike mark slash (vocabulary.compile mark) (vocabulary.compile slash) ∧
      EndAlike path (path ++ ['/']) (vocabulary.compile path) (vocabulary.compile (path ++ ['/'])) := by
  intro vocabulary path tokens mark slash
  have start : path.head? = some '/' := rfl
  have stop : path.getLast? ≠ some '/' := by decide
  have line : path.getLast? ≠ some '\n' := by decide
  have filled : tokens ≠ [] := by decide
  have all : ∀ token ∈ tokens, token.WellFormed := by decide
  have plain : '?' ∉ path := by decide
  have absent : ¬ ∃ i, QueryAt path i := by
    rintro ⟨i, tokens, -, -, rest⟩
    have inside : '?' ∈ path.drop i := by simp [rest]
    exact plain (List.mem_of_mem_drop inside)
  obtain ⟨queries, -, alone⟩ := compile_slash vocabulary start stop line
  exact ⟨start, stop, line, filled, all, absent, rfl, rfl, queries tokens filled all, alone absent⟩

end TypedRoutes.Vocabulary
