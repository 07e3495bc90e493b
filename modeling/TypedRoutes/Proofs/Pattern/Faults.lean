import TypedRoutes.Proofs.Pattern.Components

/-!
# What is wrong with an expression

The tokens of an expression have an order of their own: those of the path, and then the required, the optional and the
literal ones of the query, each in the order of the text. The stages of a compilation go through them in this order, once
for the types (`mapM_tokenParam_eq_error_iff`) and once for the names (`firstDuplicate?_eq_some_iff`), so that what is
reported is the first fault of the first stage that finds one. `Fails` says which one that is, and a compilation ends with
an error exactly when that is the fault of the expression (`compile_eq_error_iff`).
-/

namespace TypedRoutes

set_option autoImplicit false

/-- The name of a token. -/
def Pattern.Token.name : Pattern.Token → Text
  | .required name _ | .optional name _ | .literal name _ => name

namespace Vocabulary

open Pattern (Component Token TypeRef components splitExpression rowText)
open Pattern.Grammar

variable {κ : Type} (vocabulary : Vocabulary κ) (expression : Text)

/-! ## The order of tokens -/

/-- The tokens of a query by kind. -/
def byKind (tokens : List Token) : List Token :=
  tokens.filter Token.isRequired ++ tokens.filter Token.isOptional ++ tokens.filter Token.isLiteral

/-- The tokens of the path of an expression. -/
def pathTokens (expression : Text) : List Token :=
  (components (splitExpression expression).1).filterMap componentToken?

/-- The tokens of an expression in the order in which they are looked at. -/
def orderedTokens (expression : Text) : List Token :=
  pathTokens expression ++ byKind ((splitExpression expression).2.getD [])

/-- The names of an expression in the order in which they are compared: those of the path, the global ones, and those of
the query. -/
def orderedNames (vocabulary : Vocabulary κ) (expression : Text) : List Text :=
  (pathTokens expression).map Token.name ++ vocabulary.globals.map Param.name ++
    (byKind ((splitExpression expression).2.getD [])).map Token.name

/-! ## The parameters of tokens -/

/-- The parameter of a token. -/
def tokenParam : Token → Except Diagnostic (Param κ)
  | .required name ref => (vocabulary.resolveOrInfer expression ref).map (.required name)
  | .optional name ref => (vocabulary.resolve expression ref).map (.optional name)
  | .literal name value => .ok (.literal name value)

/-- Going through tokens for those of a kind is going through the tokens of that kind. -/
theorem eq_mapM_filter {kind : Token → Bool} (params : List Token → Except Diagnostic (List (Param κ)))
    (none : params [] = .ok []) (pass : ∀ token rest, kind token = false → params (token :: rest) = params rest)
    (take : ∀ token rest, kind token = true →
      params (token :: rest) = do return (← vocabulary.tokenParam expression token) :: (← params rest))
    (tokens : List Token) : params tokens = (tokens.filter kind).mapM (vocabulary.tokenParam expression) := by
  induction tokens with
  | nil => exact none
  | cons token rest ih =>
    cases own : kind token with
    | false => rw [pass token rest own, ih, List.filter_cons_of_neg (by simp [own])]
    | true => rw [take token rest own, ih, List.filter_cons_of_pos own, List.mapM_cons]

/-- The required parameters are made of the required tokens, one by one. -/
theorem requiredParams_eq_mapM (tokens : List Token) :
    vocabulary.requiredParams expression tokens =
      (tokens.filter Token.isRequired).mapM (vocabulary.tokenParam expression) := by
  refine vocabulary.eq_mapM_filter expression (vocabulary.requiredParams expression) rfl ?_ ?_ tokens
  · rintro (_ | _ | _) rest foreign
    · cases foreign
    · rfl
    · rfl
  · rintro (⟨name, ref⟩ | _ | _) rest own
    · rw [requiredParams, tokenParam]
      cases vocabulary.resolveOrInfer expression ref <;> rfl
    · cases own
    · cases own

theorem optionalParams_eq_mapM (tokens : List Token) :
    vocabulary.optionalParams expression tokens =
      (tokens.filter Token.isOptional).mapM (vocabulary.tokenParam expression) := by
  refine vocabulary.eq_mapM_filter expression (vocabulary.optionalParams expression) rfl ?_ ?_ tokens
  · rintro (_ | _ | _) rest foreign
    · rfl
    · cases foreign
    · rfl
  · rintro (_ | ⟨name, ref⟩ | _) rest own
    · cases own
    · rw [optionalParams, tokenParam]
      cases vocabulary.resolve expression ref <;> rfl
    · cases own

/-- The literal parameters are made of the literal tokens, one by one, and never fail. -/
theorem literalParams_eq_mapM (tokens : List Token) :
    .ok (literalParams tokens) = (tokens.filter Token.isLiteral).mapM (vocabulary.tokenParam expression) := by
  refine vocabulary.eq_mapM_filter expression (fun tokens => .ok (literalParams tokens)) rfl ?_ ?_ tokens
  · rintro (_ | _ | _) rest foreign
    · rfl
    · rfl
    · cases foreign
  · rintro (_ | _ | _) rest own
    · cases own
    · cases own
    · rfl

/-- The parameters of a query are made of its tokens by kind: the required, the optional, then the literal ones. -/
theorem queryParams_eq_mapM (tokens : List Token) :
    vocabulary.queryParams expression tokens = (byKind tokens).mapM (vocabulary.tokenParam expression) := by
  rw [queryParams, byKind, List.mapM_append, List.mapM_append, ← literalParams_eq_mapM, ← requiredParams_eq_mapM,
    ← optionalParams_eq_mapM]
  cases vocabulary.requiredParams expression tokens with
  | error d => rfl
  | ok required => cases vocabulary.optionalParams expression tokens <;> rfl

/-- The parameters of a path are made of the tokens among its components, one by one. -/
theorem pathParams_eq_mapM (components : List Component) :
    vocabulary.pathParams expression components =
      (components.filterMap componentToken?).mapM (vocabulary.tokenParam expression) := by
  have all : ∀ token ∈ components.filterMap componentToken?, token.isRequired = true := by
    intro token member
    obtain ⟨component, -, own⟩ := List.mem_filterMap.1 member
    cases component with
    | verbatim t => cases own
    | token name type tail =>
      cases own
      rfl
  rw [pathParams_eq_requiredParams, requiredParams_eq_mapM, List.filter_eq_self.2 all]

/-! ## Types -/

variable {vocabulary expression}

/-- The name of a type that a token mentions and that is not in the table. -/
def unknownType? (types : TypeTable κ) (token : Token) : Option Text :=
  (token.mention?.map TypeRef.name).filter fun name => !types.contains name

/-- A reference is refused exactly when the table does not have its name. -/
theorem resolve_eq_error_iff {ref : TypeRef} {d : Diagnostic} :
    vocabulary.resolve expression ref = .error d ↔ vocabulary.types.contains ref.name = false ∧
      d = .unknownType ref.name (some expression) vocabulary.types.names := by
  unfold resolve TypeTable.contains
  cases vocabulary.types.get? ref.name with
  | none => exact ⟨fun h => ⟨rfl, (Except.error.inj h).symm⟩, fun h => congrArg _ h.2.symm⟩
  | some type => simp

/-- The parameter of a token has no other fault than its type. -/
theorem tokenParam_eq_error_iff {token : Token} {d : Diagnostic} :
    vocabulary.tokenParam expression token = .error d ↔ ∃ name, unknownType? vocabulary.types token = some name ∧
      d = .unknownType name (some expression) vocabulary.types.names := by
  have fails : ∀ {α : Type} {ref : TypeRef} {f : ValueType κ → α},
      (vocabulary.resolve expression ref).map f = .error d ↔
        ∃ name, (some ref.name).filter (fun name => !vocabulary.types.contains name) = some name ∧
          d = .unknownType name (some expression) vocabulary.types.names := by
    intro α ref f
    have same : (vocabulary.resolve expression ref).map f = .error d ↔ vocabulary.resolve expression ref = .error d := by
      cases vocabulary.resolve expression ref <;> simp [Except.map]
    rw [same, resolve_eq_error_iff]
    cases known : vocabulary.types.contains ref.name <;> simp [known]
  cases token with
  | literal name value => simp [tokenParam, unknownType?, Token.mention?]
  | optional name ref => exact fails
  | required name ref =>
    cases ref with
    | none => simp [tokenParam, unknownType?, Token.mention?, resolveOrInfer, Except.map]
    | some ref => exact fails

/-- **The first unknown type** is what fails, and nothing else. -/
theorem mapM_tokenParam_eq_error_iff {tokens : List Token} {d : Diagnostic} :
    tokens.mapM (vocabulary.tokenParam expression) = .error d ↔
      ∃ name, tokens.findSome? (unknownType? vocabulary.types) = some name ∧
        d = .unknownType name (some expression) vocabulary.types.names := by
  induction tokens with
  | nil => simp [pure, Except.pure]
  | cons token rest ih =>
    cases own : vocabulary.tokenParam expression token with
    | error d' =>
      obtain ⟨name, unknown, rfl⟩ := tokenParam_eq_error_iff.1 own
      simp [List.mapM_cons, own, unknown, bind, Except.bind, eq_comm]
    | ok param =>
      have known : unknownType? vocabulary.types token = none := by
        rw [Option.eq_none_iff_forall_ne_some]
        intro name unknown
        rw [tokenParam_eq_error_iff.2 ⟨name, unknown, rfl⟩] at own
        cases own
      rw [List.findSome?_cons, known, ← ih, List.mapM_cons, own]
      cases rest.mapM (vocabulary.tokenParam expression) <;> simp [bind, Except.bind, pure, Except.pure]

/-! ## Names -/

/-- A parameter has the name of its token. -/
theorem name_of_tokenParam {token : Token} {param : Param κ} (h : vocabulary.tokenParam expression token = .ok param) :
    param.name = token.name := by
  cases token with
  | required name ref =>
    cases resolved : vocabulary.resolveOrInfer expression ref <;> simp [tokenParam, resolved, Except.map] at h
    rw [← h]
    rfl
  | optional name ref =>
    cases resolved : vocabulary.resolve expression ref <;> simp [tokenParam, resolved, Except.map] at h
    rw [← h]
    rfl
  | literal name value =>
    cases h
    rfl

/-- The parameters made of a row of tokens have their names, in order. -/
theorem names_of_mapM {tokens : List Token} {params : List (Param κ)}
    (h : tokens.mapM (vocabulary.tokenParam expression) = .ok params) :
    params.map Param.name = tokens.map Token.name := by
  induction tokens generalizing params with
  | nil =>
    cases h
    rfl
  | cons token rest ih =>
    rw [List.mapM_cons, bind_eq_ok_iff] at h
    obtain ⟨param, own, h⟩ := h
    obtain ⟨more, later, h⟩ := bind_eq_ok_iff.1 h
    cases h
    rw [List.map_cons, List.map_cons, name_of_tokenParam own, ih later]

/-- A name that is equal to an earlier one, the first one of all. -/
def Repeats (names : List Text) (name : Text) : Prop :=
  ∃ before after, names = before ++ name :: after ∧ before.Nodup ∧ name ∈ before

theorem firstDuplicate?_nil_eq_some_iff {names : List Text} {name : Text} :
    firstDuplicate? [] names = some name ↔ Repeats names name := by
  simp [firstDuplicate?_eq_some_iff, Repeats]

/-! ## The first fault -/

/-- What is wrong with an expression: the first fault that the first stage that finds one comes to. -/
inductive Fails [CharacterNames] (vocabulary : Vocabulary κ) (expression : Text) : CompileError → Prop where
  | slash (missing : expression.head? ≠ some '/') : Fails vocabulary expression (.diagnostic (.noLeadingSlash expression))
  | type {name : Text} (start : expression.head? = some '/')
      (unknown : (orderedTokens expression).findSome? (unknownType? vocabulary.types) = some name) :
      Fails vocabulary expression (.diagnostic (.unknownType name (some expression) vocabulary.types.names))
  | path {refusal : Regex.Refusal} (start : expression.head? = some '/')
      (known : (orderedTokens expression).findSome? (unknownType? vocabulary.types) = none)
      (refused : regexOf (pathRegex (components (splitExpression expression).1)) = .error refusal) :
      Fails vocabulary expression (.path refusal)
  | name {name : Text} (start : expression.head? = some '/')
      (known : (orderedTokens expression).findSome? (unknownType? vocabulary.types) = none) {regex : Option Regex}
      (read : regexOf (pathRegex (components (splitExpression expression).1)) = .ok regex)
      (repeated : Repeats (vocabulary.orderedNames expression) name) :
      Fails vocabulary expression (.diagnostic (.duplicateName name (some expression)))

theorem head?_splitExpression (expression : Text) :
    (splitExpression expression).1.head? = some '/' ↔ expression.head? = some '/' := by
  have same := head?_cut expression
  rwa [cut_eq] at same

/-- The parameters of all tokens, in the order of the tokens. -/
theorem mapM_orderedTokens (vocabulary : Vocabulary κ) (expression : Text) :
    (orderedTokens expression).mapM (vocabulary.tokenParam expression) =
      (do
        let path ← vocabulary.pathParams expression (components (splitExpression expression).1)
        return path ++ (← vocabulary.queryParams expression ((splitExpression expression).2.getD []))) := by
  rw [orderedTokens, List.mapM_append, pathTokens, ← pathParams_eq_mapM, ← queryParams_eq_mapM]

/-- The names that are looked through for a repetition are those of the path, the global ones, and those of the query
by kind. -/
theorem names_of_params {pathParams queryParams : List (Param κ)}
    (hp : vocabulary.pathParams expression (components (splitExpression expression).1) = .ok pathParams)
    (hq : vocabulary.queryParams expression ((splitExpression expression).2.getD []) = .ok queryParams) :
    (pathParams ++ vocabulary.globals ++ queryParams).map Param.name = vocabulary.orderedNames expression := by
  rw [pathParams_eq_mapM] at hp
  rw [queryParams_eq_mapM] at hq
  rw [List.map_append, List.map_append, names_of_mapM hp, names_of_mapM hq]
  rfl

/-- What is left to do when the types are known. -/
theorem compile_of_params [CharacterNames] {pathParams queryParams : List (Param κ)}
    (start : expression.head? = some '/')
    (hp : vocabulary.pathParams expression (components (splitExpression expression).1) = .ok pathParams)
    (hq : vocabulary.queryParams expression ((splitExpression expression).2.getD []) = .ok queryParams) :
    vocabulary.compile expression = (do
      let regex ← (regexOf (pathRegex (components (splitExpression expression).1))).mapError .path
      match firstDuplicate? [] (vocabulary.orderedNames expression) with
      | some name => throw (.diagnostic (.duplicateName name (some expression)))
      | none => return {
          raw := expression, pathRegex := pathRegex (components (splitExpression expression).1), pathParams
          globalParams := vocabulary.globals, queryParams, regex }) := by
  rw [← names_of_params hp hq]
  simp only [compile, (head?_splitExpression expression).2 start, hp, hq, ne_eq, not_true_eq_false, if_false]
  rfl

/-- The first unknown type in the order of the stages is what is reported. -/
theorem compile_of_unknown [CharacterNames] {name : Text} (start : expression.head? = some '/')
    (unknown : (orderedTokens expression).findSome? (unknownType? vocabulary.types) = some name) :
    vocabulary.compile expression =
      .error (.diagnostic (.unknownType name (some expression) vocabulary.types.names)) := by
  have failed : (orderedTokens expression).mapM (vocabulary.tokenParam expression) =
      .error (.unknownType name (some expression) vocabulary.types.names) :=
    mapM_tokenParam_eq_error_iff.2 ⟨name, unknown, rfl⟩
  simp only [compile, (head?_splitExpression expression).2 start, ne_eq, not_true_eq_false, if_false]
  rw [mapM_orderedTokens, bind_eq_error_iff] at failed
  rcases failed with hp | ⟨pathParams, hp, failed⟩
  · rw [hp]
    rfl
  · rcases bind_eq_error_iff.1 failed with hq | ⟨queryParams, -, made⟩
    · rw [hp, hq]
      rfl
    · cases made

/-- The first two stages succeed when the types are known. -/
theorem exists_params (known : (orderedTokens expression).findSome? (unknownType? vocabulary.types) = none) :
    ∃ pathParams queryParams,
      vocabulary.pathParams expression (components (splitExpression expression).1) = .ok pathParams ∧
      vocabulary.queryParams expression ((splitExpression expression).2.getD []) = .ok queryParams := by
  cases made : (orderedTokens expression).mapM (vocabulary.tokenParam expression) with
  | error d =>
    obtain ⟨name, unknown, -⟩ := mapM_tokenParam_eq_error_iff.1 made
    cases known.symm.trans unknown
  | ok params =>
    rw [mapM_orderedTokens, bind_eq_ok_iff] at made
    obtain ⟨pathParams, hp, made⟩ := made
    obtain ⟨queryParams, hq, -⟩ := bind_eq_ok_iff.1 made
    exact ⟨pathParams, queryParams, hp, hq⟩

/-- A fault that comes first is what a compilation ends with. -/
theorem compile_of_fails [CharacterNames] {e : CompileError} (h : vocabulary.Fails expression e) :
    vocabulary.compile expression = .error e := by
  cases h with
  | slash missing =>
    have start : (splitExpression expression).1.head? ≠ some '/' := fun start =>
      missing ((head?_splitExpression expression).1 start)
    simp only [compile, start, ne_eq, not_false_eq_true, if_true]
    rfl
  | type start unknown => exact compile_of_unknown start unknown
  | path start known refused =>
    obtain ⟨pathParams, queryParams, hp, hq⟩ := exists_params known
    rw [compile_of_params start hp hq, refused]
    rfl
  | name start known read repeated =>
    obtain ⟨pathParams, queryParams, hp, hq⟩ := exists_params known
    rw [compile_of_params start hp hq, read, firstDuplicate?_nil_eq_some_iff.2 repeated]
    rfl

/-- An expression has a fault, or it makes a pattern, of which the names are the ones that are compared. -/
theorem fails_or_compiles [CharacterNames] (vocabulary : Vocabulary κ) (expression : Text) :
    (∃ e, vocabulary.Fails expression e) ∨
      expression.head? = some '/' ∧ (orderedTokens expression).findSome? (unknownType? vocabulary.types) = none ∧
        (vocabulary.orderedNames expression).Nodup ∧ ∃ pattern, vocabulary.compile expression = .ok pattern ∧
          pattern.names = vocabulary.orderedNames expression := by
  by_cases start : expression.head? = some '/'
  swap
  · exact .inl ⟨_, .slash start⟩
  cases known : (orderedTokens expression).findSome? (unknownType? vocabulary.types) with
  | some name => exact .inl ⟨_, .type start known⟩
  | none =>
    cases read : regexOf (pathRegex (components (splitExpression expression).1)) with
    | error refusal => exact .inl ⟨_, .path start known read⟩
    | ok regex =>
      cases repeated : firstDuplicate? [] (vocabulary.orderedNames expression) with
      | some name => exact .inl ⟨_, .name start known read (firstDuplicate?_nil_eq_some_iff.1 repeated)⟩
      | none =>
        obtain ⟨pathParams, queryParams, hp, hq⟩ := exists_params known
        have compiled := compile_of_params start hp hq
        rw [read, repeated] at compiled
        exact .inr ⟨start, rfl, (firstDuplicate?_eq_none_iff.1 repeated).1, _, compiled, names_of_params hp hq⟩

/-- **The fault of an expression** is what its compilation ends with. -/
theorem compile_eq_error_iff [CharacterNames] {e : CompileError} :
    vocabulary.compile expression = .error e ↔ vocabulary.Fails expression e := by
  refine ⟨fun failed => ?_, compile_of_fails⟩
  rcases fails_or_compiles vocabulary expression with ⟨e', fails⟩ | ⟨-, -, -, pattern, compiled, -⟩
  · cases failed.symm.trans (compile_of_fails fails)
    exact fails
  · cases failed.symm.trans compiled

/-- When the text for the path is a regular expression or malformed, each fault is one of the expression itself. -/
theorem fails_iff [CharacterNames] {regex : Option Regex}
    (read : regexOf (pathRegex (components (splitExpression expression).1)) = .ok regex) {e : CompileError} :
    vocabulary.Fails expression e ↔
      expression.head? ≠ some '/' ∧ e = .diagnostic (.noLeadingSlash expression) ∨
      (∃ name, expression.head? = some '/' ∧
        (orderedTokens expression).findSome? (unknownType? vocabulary.types) = some name ∧
        e = .diagnostic (.unknownType name (some expression) vocabulary.types.names)) ∨
      ∃ before name after, expression.head? = some '/' ∧
        (orderedTokens expression).findSome? (unknownType? vocabulary.types) = none ∧
        vocabulary.orderedNames expression = before ++ name :: after ∧ before.Nodup ∧ name ∈ before ∧
        e = .diagnostic (.duplicateName name (some expression)) := by
  constructor
  · rintro (missing | ⟨start, unknown⟩ | ⟨-, -, refused⟩ | ⟨start, known, -, before, after, row, distinct, earlier⟩)
    · exact .inl ⟨missing, rfl⟩
    · exact .inr (.inl ⟨_, start, unknown, rfl⟩)
    · cases read.symm.trans refused
    · exact .inr (.inr ⟨before, _, after, start, known, row, distinct, earlier, rfl⟩)
  · rintro (⟨missing, rfl⟩ | ⟨name, start, unknown, rfl⟩ | ⟨before, name, after, start, known, row, distinct, earlier, rfl⟩)
    · exact .slash missing
    · exact .type start unknown
    · exact .name start known read ⟨before, after, row, distinct, earlier⟩

/-- Each diagnostic of a compilation names the expression. -/
theorem Fails.expression_eq [CharacterNames] {d : Diagnostic} (h : vocabulary.Fails expression (.diagnostic d)) :
    d.expression = some expression := by
  cases h <;> rfl

/-! ## Lines -/

/-- The path of an expression and the tokens of its query part: what stands before a question mark with a row of tokens
behind it up to the end, or all of the expression when there is no such question mark. -/
inductive Parts (expression : Text) : Text → List Token → Prop where
  | query {path : Text} {tokens : List Token} (filled : tokens ≠ []) (all : ∀ token ∈ tokens, token.WellFormed)
      (text : expression = path ++ '?' :: rowText tokens) : Parts expression path tokens
  | plain (absent : ¬ ∃ i, QueryAt expression i) : Parts expression expression []

/-- An expression of one line has just one path and one row of tokens: those that it is split into. -/
theorem parts_iff {expression : Text} (line : expression.getLast? ≠ some '\n') (path : Text) (tokens : List Token) :
    Parts expression path tokens ↔
      path = (splitExpression expression).1 ∧ tokens = (splitExpression expression).2.getD [] := by
  constructor
  · rintro (⟨filled, all, rfl⟩ | ⟨absent⟩)
    · rw [Pattern.splitExpression_append path filled all]
      exact ⟨rfl, rfl⟩
    · cases split : splitExpression expression with
      | mk path found =>
        cases found with
        | none => exact ⟨(Pattern.Grammar.splitExpression_eq_none split).symm, rfl⟩
        | some tokens => exact absurd ⟨_, (queryAt_of_splitExpression line split).1⟩ absent
  · rintro ⟨rfl, rfl⟩
    cases split : splitExpression expression with
    | mk path found =>
      cases found with
      | none =>
        rw [Pattern.Grammar.splitExpression_eq_none split]
        refine .plain ?_
        rintro ⟨i, here⟩
        obtain ⟨-, tokens, split', -⟩ := here.splitExpression_eq
        cases split.symm.trans split'
      | some tokens =>
        obtain ⟨filled, all, w, rfl, rfl | rfl⟩ := Pattern.Grammar.splitExpression_eq_some split
        · exact .query filled all (by simp)
        · exact absurd (by rw [← List.append_assoc, List.getLast?_concat]) line

theorem Parts.subset {expression path : Text} {tokens : List Token} (h : Parts expression path tokens) :
    path ⊆ expression := by
  cases h with
  | query filled all text => exact text ▸ List.subset_append_left _ _
  | plain absent => exact List.Subset.refl _

theorem Repeats.not_nodup {names : List Text} {name : Text} (h : Repeats names name) : ¬ names.Nodup := by
  obtain ⟨before, after, rfl, -, earlier⟩ := h
  intro distinct
  exact (List.nodup_append.1 distinct).2.2 name earlier name (List.mem_cons_self ..) rfl

/-- **The first fault in order.** Let an expression of one line be cut into its path and the tokens of its query, and let
the text for its path be a regular expression or malformed. Compiling it fails because it does not start with a slash;
otherwise because of the first unknown type among the tokens of the path, the required, the optional and the literal ones;
otherwise because of the first name that is equal to an earlier one among those of the path, the global ones, and those of
the query by kind; and in no other case. Otherwise there is a pattern with these names, and they are distinct. Each error
carries the expression. -/
theorem compile_spec [CharacterNames] (vocabulary : Vocabulary κ) {expression : Text} (line : '\n' ∉ expression)
    (usable : ∀ refusal, Regex.parse (capturedPath (cut expression).1) = .error refusal → refusal = .malformed) :
    ∃ path query pathTokens,
      (∀ path' query', Parts expression path' query' ↔ path' = path ∧ query' = query) ∧
      path = (cut expression).1 ∧ pathTokens = (Text.splitOn '/' path).tail.filterMap pathToken? ∧
      let unknown := (pathTokens ++ byKind query).findSome? (unknownType? vocabulary.types)
      let names := pathTokens.map Token.name ++ vocabulary.globals.map Param.name ++ (byKind query).map Token.name
      (∀ e, vocabulary.compile expression = .error e ↔
        expression.head? ≠ some '/' ∧ e = .diagnostic (.noLeadingSlash expression) ∨
        (∃ name, expression.head? = some '/' ∧ unknown = some name ∧
          e = .diagnostic (.unknownType name (some expression) vocabulary.types.names)) ∨
        ∃ before name after, expression.head? = some '/' ∧ unknown = none ∧ names = before ++ name :: after ∧
          before.Nodup ∧ name ∈ before ∧ e = .diagnostic (.duplicateName name (some expression))) ∧
      ((∃ pattern, vocabulary.compile expression = .ok pattern) ↔
        expression.head? = some '/' ∧ unknown = none ∧ names.Nodup) ∧
      (∀ pattern, vocabulary.compile expression = .ok pattern → pattern.names = names ∧ pattern.names.Nodup) ∧
      ∀ e, vocabulary.compile expression = .error e → ∃ d, e = .diagnostic d ∧ d.expression = some expression := by
  have last : expression.getLast? ≠ some '\n' := Pattern.getLast?_ne_of_notMem line
  have path : (cut expression).1 = (splitExpression expression).1 := by rw [cut_eq]
  have parts := parts_iff last
  have plain : '\n' ∉ (splitExpression expression).1 := fun member =>
    line (((parts _ _).2 ⟨rfl, rfl⟩).subset member)
  have tokens : pathTokens expression = (Text.splitOn '/' (splitExpression expression).1).tail.filterMap pathToken? :=
    filterMap_components (Pattern.getLast?_ne_of_notMem plain)
  obtain ⟨regex, read⟩ : ∃ regex, regexOf (pathRegex (components (splitExpression expression).1)) = .ok regex := by
    rw [path, capturedPath_eq] at usable
    unfold regexOf
    cases parsed : Regex.parse (pathRegex (components (splitExpression expression).1)) with
    | ok r => exact ⟨_, rfl⟩
    | error refusal => exact ⟨none, by rw [usable refusal parsed]⟩
  have outcome := fails_or_compiles vocabulary expression
  refine ⟨_, _, _, parts, path.symm, tokens, fun e => ?_, ?_, ?_, ?_⟩
  · rw [compile_eq_error_iff, fails_iff read]
    rfl
  · constructor
    · rintro ⟨pattern, compiled⟩
      rcases outcome with ⟨e, fails⟩ | ⟨start, known, distinct, -⟩
      · cases compiled.symm.trans (compile_of_fails fails)
      · exact ⟨start, known, distinct⟩
    · rintro ⟨start, known, distinct⟩
      rcases outcome with ⟨e, fails⟩ | ⟨-, -, -, pattern, compiled, -⟩
      · rcases (fails_iff read).1 fails with ⟨missing, -⟩ | ⟨name, -, unknown, -⟩ | ⟨before, name, after, -, -, row, rest⟩
        · exact absurd start missing
        · cases known.symm.trans unknown
        · exact absurd distinct (Repeats.not_nodup ⟨before, after, row, rest.1, rest.2.1⟩)
      · exact ⟨pattern, compiled⟩
  · intro pattern compiled
    rcases outcome with ⟨e, fails⟩ | ⟨-, -, distinct, pattern', compiled', names⟩
    · cases compiled.symm.trans (compile_of_fails fails)
    · cases compiled.symm.trans compiled'
      exact ⟨names, names ▸ distinct⟩
  · intro e failed
    have fails := compile_eq_error_iff.1 failed
    rcases (fails_iff read).1 fails with ⟨-, rfl⟩ | ⟨name, -, -, rfl⟩ | ⟨before, name, after, -, -, -, -, -, rfl⟩ <;>
      exact ⟨_, rfl, fails.expression_eq⟩

attribute [local instance] CharacterNames.empty in
/-- The name of the path is reported, although the global one is repeated before it. -/
theorem compile_twice :
    let vocabulary : Vocabulary Empty := { globals := [.optional "lang".toList .string] }
    let expression := "/:id/?:lang\x7bint?\x7d&:id".toList
    '\n' ∉ expression ∧
      (∀ refusal, Regex.parse (capturedPath (cut expression).1) = .error refusal → refusal = .malformed) ∧
      vocabulary.compile expression = .error (.diagnostic (.duplicateName "id".toList (some expression))) := by
  intro vocabulary expression
  have line : '\n' ∉ expression := by decide
  have usable : ∀ refusal, Regex.parse (capturedPath (cut expression).1) = .error refusal → refusal = .malformed := by
    have path : (cut expression).1 = "/:id/".toList := by
      rw [cut_eq]
      rfl
    have text : pathRegex (components "/:id/".toList) = "^/([A-Za-z0-9_.\\-~]+)$".toList := rfl
    rw [path, capturedPath_eq, text]
    intro refusal refused
    cases refused
  obtain ⟨path, query, pathTokens, parts, -, found, faults, -⟩ := compile_spec vocabulary line usable
  obtain ⟨rfl, rfl⟩ := (parts "/:id/".toList
    [.optional "lang".toList { name := "int".toList }, .required "id".toList none]).1 (.query (by simp) (by decide) rfl)
  subst found
  exact ⟨line, usable, (faults _).2 (.inr (.inr ⟨["id".toList, "lang".toList], "id".toList, ["lang".toList], rfl, rfl, rfl,
    by decide, by decide, rfl⟩))⟩

end Vocabulary

end TypedRoutes
