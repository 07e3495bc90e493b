import Mathlib.Data.List.Perm.Basic
import TypedRoutes.Pattern.Vocabulary
import TypedRoutes.Proofs.Stages

/-!
# What a compiled expression is

`compile_eq_ok_iff` takes a compilation apart: an expression becomes a pattern exactly when each stage succeeds
(`Compiled`), and the last stage is that no name occurs twice. The types of the parameters come from the table of
types (`Offers`), bare or as elements of arrays, so that what all types of a table have in common carries over to
the parameters of every pattern.
-/

namespace TypedRoutes.Vocabulary

set_option autoImplicit false

variable {κ : Type}

/-- No name is reported exactly when the names are distinct and none of them has been seen before. -/
theorem firstDuplicate?_eq_none_iff {seen names : List Text} :
    firstDuplicate? seen names = none ↔ names.Nodup ∧ ∀ name ∈ names, name ∉ seen := by
  induction names generalizing seen with
  | nil => simp [firstDuplicate?]
  | cons name rest ih =>
    by_cases hs : name ∈ seen
    · simp [firstDuplicate?, hs]
    · have hne : ∀ other ∈ rest, name ∉ rest → other ≠ name := fun other ho hn he => hn (he ▸ ho)
      simp only [firstDuplicate?, List.contains_iff_mem, hs, if_false, ih, List.nodup_cons, List.mem_cons, not_or]
      constructor
      · rintro ⟨hd, hr⟩
        exact ⟨⟨fun hm => (hr name hm).1 rfl, hd⟩, fun other ho => ho.elim (fun h => h ▸ hs) fun h => (hr other h).2⟩
      · rintro ⟨⟨hn, hd⟩, hr⟩
        exact ⟨hd, fun other ho => ⟨hne other ho hn, hr other (.inr ho)⟩⟩

/-- The name that is reported is the first one that has been seen before or is equal to an earlier one. -/
theorem firstDuplicate?_eq_some_iff {seen names : List Text} {name : Text} :
    firstDuplicate? seen names = some name ↔ ∃ before after, names = before ++ name :: after ∧
      (before.Nodup ∧ ∀ other ∈ before, other ∉ seen) ∧ (name ∈ before ∨ name ∈ seen) := by
  induction names generalizing seen with
  | nil => simp [firstDuplicate?]
  | cons first rest ih =>
    by_cases hs : first ∈ seen
    · rw [firstDuplicate?, if_pos (List.contains_iff_mem.2 hs), Option.some.injEq]
      constructor
      · rintro rfl
        exact ⟨[], rest, rfl, by simp, .inr hs⟩
      · rintro ⟨before, after, split, ⟨-, fresh⟩, -⟩
        cases before with
        | nil => exact (List.cons.inj split).1
        | cons other before =>
          obtain ⟨rfl, -⟩ := List.cons.inj split
          exact absurd hs (fresh first (List.mem_cons_self ..))
    · rw [firstDuplicate?, if_neg (by simpa using hs), ih]
      constructor
      · rintro ⟨before, after, rfl, ⟨distinct, fresh⟩, earlier⟩
        refine ⟨first :: before, after, rfl, ⟨List.nodup_cons.2 ⟨?_, distinct⟩, ?_⟩, ?_⟩
        · exact fun member => fresh first member (List.mem_cons_self ..)
        · exact List.forall_mem_cons.2 ⟨hs, fun other ho hm => fresh other ho (List.mem_cons_of_mem _ hm)⟩
        · simpa [or_assoc, or_left_comm] using earlier
      · rintro ⟨before, after, split, ⟨distinct, fresh⟩, earlier⟩
        cases before with
        | nil =>
          obtain ⟨rfl, -⟩ := List.cons.inj split
          exact absurd (earlier.resolve_left (List.not_mem_nil)) hs
        | cons other before =>
          obtain ⟨rfl, rfl⟩ := List.cons.inj split
          obtain ⟨new, distinct⟩ := List.nodup_cons.1 distinct
          refine ⟨before, after, rfl, ⟨distinct, fun other ho hm => ?_⟩, ?_⟩
          · rcases List.mem_cons.1 hm with rfl | hm
            · exact new ho
            · exact fresh other (List.mem_cons_of_mem _ ho) hm
          · simpa [or_assoc, or_left_comm] using earlier

/-- The stages of a compilation that succeeds. -/
structure Compiled [CharacterNames] (vocabulary : Vocabulary κ) (expression : Text) (pattern : Pattern κ) : Prop where
  slash : (Pattern.splitExpression expression).1.head? = some '/'
  pathParams : vocabulary.pathParams expression (Pattern.components (Pattern.splitExpression expression).1) =
    .ok pattern.pathParams
  queryParams : vocabulary.queryParams expression ((Pattern.splitExpression expression).2.getD []) =
    .ok pattern.queryParams
  pathRegex : pattern.pathRegex = Vocabulary.pathRegex (Pattern.components (Pattern.splitExpression expression).1)
  regex : regexOf pattern.pathRegex = .ok pattern.regex
  globals : pattern.globalParams = vocabulary.globals
  raw : pattern.raw = expression
  distinct : pattern.names.Nodup

/-- **Compilation** succeeds with a pattern exactly when its stages do. -/
theorem compile_eq_ok_iff [CharacterNames] {vocabulary : Vocabulary κ} {expression : Text} {pattern : Pattern κ} :
    vocabulary.compile expression = .ok pattern ↔ Compiled vocabulary expression pattern := by
  unfold compile
  by_cases hs : (Pattern.splitExpression expression).1.head? = some '/'
  · simp only [hs, ne_eq, not_true_eq_false, if_false, bind_eq_ok_iff, mapError_eq_ok_iff]
    constructor
    · rintro ⟨pathParams, hp, queryParams, hq, regex, hr, h⟩
      split at h
      · cases h
      · rename_i hd
        cases h
        exact ⟨hs, hp, hq, rfl, hr, rfl, rfl, (firstDuplicate?_eq_none_iff.1 hd).1⟩
    · intro h
      refine ⟨_, h.pathParams, _, h.queryParams, _, h.pathRegex ▸ h.regex, ?_⟩
      obtain ⟨raw, text, path, globals, query, regex⟩ := pattern
      have hraw : raw = expression := h.raw
      have htext : text = pathRegex _ := h.pathRegex
      have hglobals : globals = vocabulary.globals := h.globals
      subst hraw htext hglobals
      rw [firstDuplicate?_eq_none_iff.2 ⟨h.distinct, by simp⟩]
      rfl
  · constructor
    · intro h
      simp [hs, bind, Except.bind, throw, throwThe, MonadExceptOf.throw] at h
    · exact fun h => absurd h.slash hs

/-- A pattern of a vocabulary has the global parameters of the vocabulary, and its own names differ from theirs. -/
theorem names_of_compile [CharacterNames] {vocabulary : Vocabulary κ} {expression : Text} {pattern : Pattern κ}
    (compiled : vocabulary.compile expression = .ok pattern) :
    pattern.globalParams = vocabulary.globals ∧ pattern.names.Nodup ∧
      ∀ param ∈ pattern.pathParams ++ pattern.queryParams, ∀ other ∈ vocabulary.globals, param.name ≠ other.name := by
  have stages := compile_eq_ok_iff.1 compiled
  refine ⟨stages.globals, stages.distinct, ?_⟩
  intro param hp other ho same
  have distinct := stages.distinct
  rw [Pattern.names, Pattern.params, stages.globals, List.map_append, List.map_append, List.append_assoc] at distinct
  obtain ⟨-, later, apart⟩ := List.nodup_append.1 distinct
  obtain ⟨-, -, apart'⟩ := List.nodup_append.1 later
  have global : other.name ∈ vocabulary.globals.map Param.name := List.mem_map_of_mem ho
  rcases List.mem_append.1 hp with hp | hp
  · exact apart _ (List.mem_map_of_mem hp) _ (List.mem_append_left _ global) same
  · exact apart' _ global _ (List.mem_map_of_mem hp) same.symm

/-- Global parameters have distinct names, which are texts, and are optional and of the inferred type. -/
theorem globalsNamed_spec {types : TypeTable κ} {seen : List Text} {values : List Value} {params : List (Param κ)}
    (h : globalsNamed types seen values = .ok params) :
    ∃ names : List Text, values = names.map .text ∧ params = names.map (.optional · types.inferred) ∧
      names.Nodup ∧ ∀ name ∈ names, name ∉ seen := by
  induction values generalizing seen params with
  | nil =>
    cases h
    exact ⟨[], rfl, rfl, .nil, by simp⟩
  | cons value rest ih =>
    cases value with
    | text name =>
      unfold globalsNamed at h
      split at h
      · cases h
      · split at h
        · cases h
        · rename_i fresh
          split at h
          · rename_i more found
            cases h
            obtain ⟨names, rfl, rfl, distinct, apart⟩ := ih found
            have new : name ∉ names := fun hm => apart name hm (List.mem_cons_self ..)
            refine ⟨name :: names, rfl, rfl, List.nodup_cons.2 ⟨new, distinct⟩, ?_⟩
            intro other hm
            rcases List.mem_cons.1 hm with rfl | hm
            · simpa using fresh
            · exact fun hs => apart other hm (List.mem_cons_of_mem _ hs)
          · cases h
    | _ => cases h

/-- Configured names make optional global parameters of texts, each name once. -/
theorem ofNames_spec {types : TypeTable κ} {values : List Value} {vocabulary : Vocabulary κ}
    (h : ofNames types values = .ok vocabulary) :
    ∃ names : List Text, values = names.map .text ∧ vocabulary.globals = names.map (.optional · .string) ∧
      names.Nodup := by
  unfold ofNames at h
  split at h
  · rename_i globals found
    cases h
    obtain ⟨names, hv, hg, distinct, -⟩ := globalsNamed_spec found
    exact ⟨names, hv, hg, distinct⟩
  · cases h

theorem types_of_ofNames {types : TypeTable κ} {values : List Value} {vocabulary : Vocabulary κ}
    (h : ofNames types values = .ok vocabulary) : vocabulary.types = types := by
  unfold ofNames at h
  split at h
  · cases h
    rfl
  · cases h

theorem custom_of_ofTypes {custom : List (ValueType κ)} {types : TypeTable κ}
    (h : TypeTable.ofTypes custom = .ok types) : types.custom = custom := by
  unfold TypeTable.ofTypes at h
  split at h
  · cases h
  · cases h
    rfl

/-- A type that comes from the table, bare or as the elements of an array. -/
def Offers (vocabulary : Vocabulary κ) (type : ValueType κ) : Prop :=
  type ∈ vocabulary.types.all ∨ ∃ of ∈ vocabulary.types.all, type = .array of

theorem offers_inferred (vocabulary : Vocabulary κ) : vocabulary.Offers vocabulary.types.inferred :=
  .inl (List.mem_append_left _ (by simp [TypeTable.inferred, TypeTable.builtins]))

/-- The type of a table that a text mentions. -/
def resolve? (types : TypeTable κ) (ref : Pattern.TypeRef) : Option (ValueType κ) :=
  (types.get? ref.name).map fun type => if ref.isArray then .array type else type

theorem resolve_eq_ok_iff {vocabulary : Vocabulary κ} {expression : Text} {ref : Pattern.TypeRef}
    {type : ValueType κ} :
    vocabulary.resolve expression ref = .ok type ↔ resolve? vocabulary.types ref = some type := by
  unfold resolve resolve?
  cases vocabulary.types.get? ref.name <;> simp

theorem offers_of_resolve? {vocabulary : Vocabulary κ} {ref : Pattern.TypeRef} {type : ValueType κ}
    (h : resolve? vocabulary.types ref = some type) : vocabulary.Offers type := by
  obtain ⟨found, hf, rfl⟩ := Option.map_eq_some_iff.1 h
  have known : found ∈ vocabulary.types.all := List.mem_of_find?_eq_some hf
  split
  · exact .inr ⟨found, known, rfl⟩
  · exact .inl known

/-- A type that a reference resolves to, or that is inferred without one, is offered. -/
theorem offers_of_resolveOrInfer {vocabulary : Vocabulary κ} {expression : Text} {ref : Option Pattern.TypeRef}
    {type : ValueType κ} (h : vocabulary.resolveOrInfer expression ref = .ok type) : vocabulary.Offers type := by
  cases ref with
  | none => cases h; exact vocabulary.offers_inferred
  | some ref => exact offers_of_resolve? (resolve_eq_ok_iff.1 h)

/-- The parameters of a path are required and have types of the table. -/
theorem required_of_pathParams {vocabulary : Vocabulary κ} {expression : Text}
    {components : List Pattern.Component} {params : List (Param κ)}
    (h : vocabulary.pathParams expression components = .ok params) :
    ∀ param ∈ params, ∃ name type, param = .required name type ∧ vocabulary.Offers type := by
  induction components generalizing params with
  | nil => cases h; simp
  | cons component rest ih =>
    cases component with
    | verbatim t => exact ih h
    | token name ref tail =>
      simp only [pathParams, bind_eq_ok_iff] at h
      obtain ⟨type, ht, more, hm, h⟩ := h
      cases h
      intro param hp
      rcases List.mem_cons.1 hp with rfl | hp
      · exact ⟨name, type, rfl, offers_of_resolveOrInfer ht⟩
      · exact ih hm param hp

/-- A parameter of a query: of one of the three variants, and of a type of the table unless it is literal. -/
def OffersParam (vocabulary : Vocabulary κ) : Param κ → Prop
  | .required _ type | .optional _ type => vocabulary.Offers type
  | .literal _ _ => True
  | .foreign _ _ => False

/-- The parameter of a token of a query. -/
def tokenParam? (types : TypeTable κ) : Pattern.Token → Option (Param κ)
  | .required name none => some (.required name types.inferred)
  | .required name (some ref) => (resolve? types ref).map (.required name)
  | .optional name ref => (resolve? types ref).map (.optional name)
  | .literal name value => some (.literal name value)

theorem tokenParam?_required {vocabulary : Vocabulary κ} {expression name : Text} {ref : Option Pattern.TypeRef}
    {type : ValueType κ} (h : vocabulary.resolveOrInfer expression ref = .ok type) :
    tokenParam? vocabulary.types (.required name ref) = some (.required name type) := by
  cases ref with
  | none => cases h; rfl
  | some ref => simp [tokenParam?, resolve_eq_ok_iff.1 h]

theorem tokenParam?_optional {vocabulary : Vocabulary κ} {expression name : Text} {ref : Pattern.TypeRef}
    {type : ValueType κ} (h : vocabulary.resolve expression ref = .ok type) :
    tokenParam? vocabulary.types (.optional name ref) = some (.optional name type) := by
  simp [tokenParam?, resolve_eq_ok_iff.1 h]

/-- The three scans of a query together take each token once. -/
theorem scans_perm {vocabulary : Vocabulary κ} {expression : Text} {tokens : List Pattern.Token}
    {required optional : List (Param κ)} (hr : vocabulary.requiredParams expression tokens = .ok required)
    (ho : vocabulary.optionalParams expression tokens = .ok optional) :
    (required ++ optional ++ literalParams tokens).Perm (tokens.filterMap (tokenParam? vocabulary.types)) ∧
      ∀ token ∈ tokens, ∃ param, tokenParam? vocabulary.types token = some param := by
  induction tokens generalizing required optional with
  | nil =>
    cases hr
    cases ho
    exact ⟨.nil, by simp⟩
  | cons token rest ih =>
    cases token with
    | required name ref =>
      simp only [requiredParams, bind_eq_ok_iff] at hr
      obtain ⟨type, ht, more, hm, hr⟩ := hr
      cases hr
      have first : tokenParam? vocabulary.types (.required name ref) = some (.required name type) :=
        tokenParam?_required ht
      obtain ⟨perm, taken⟩ := ih hm ho
      rw [List.filterMap_cons_some first]
      exact ⟨perm.cons _, List.forall_mem_cons.2 ⟨⟨_, first⟩, taken⟩⟩
    | optional name ref =>
      simp only [optionalParams, bind_eq_ok_iff] at ho
      obtain ⟨type, ht, more, hm, ho⟩ := ho
      cases ho
      have first : tokenParam? vocabulary.types (.optional name ref) = some (.optional name type) :=
        tokenParam?_optional ht
      obtain ⟨perm, taken⟩ := ih hr hm
      rw [List.filterMap_cons_some first]
      refine ⟨?_, List.forall_mem_cons.2 ⟨⟨_, first⟩, taken⟩⟩
      rw [List.append_assoc] at perm ⊢
      exact List.perm_middle.trans (perm.cons _)
    | literal name value =>
      have first : tokenParam? vocabulary.types (.literal name value) = some (.literal name value) := rfl
      obtain ⟨perm, taken⟩ := ih hr ho
      rw [List.filterMap_cons_some first]
      exact ⟨List.perm_middle.trans (perm.cons _), List.forall_mem_cons.2 ⟨⟨_, first⟩, taken⟩⟩

/-- **The parameters of a query** are those of its tokens, in some order. -/
theorem queryParams_perm {vocabulary : Vocabulary κ} {expression : Text} {tokens : List Pattern.Token}
    {params : List (Param κ)} (h : vocabulary.queryParams expression tokens = .ok params) :
    params.Perm (tokens.filterMap (tokenParam? vocabulary.types)) ∧
      ∀ token ∈ tokens, ∃ param, tokenParam? vocabulary.types token = some param := by
  simp only [queryParams, bind_eq_ok_iff] at h
  obtain ⟨required, hr, optional, ho, h⟩ := h
  cases h
  exact scans_perm hr ho

/-- The type of a parameter that a token makes is offered. -/
theorem offers_of_tokenParam? {vocabulary : Vocabulary κ} {token : Pattern.Token} {param : Param κ}
    (h : tokenParam? vocabulary.types token = some param) : vocabulary.OffersParam param := by
  cases token with
  | required name ref =>
    cases ref with
    | none =>
      cases h
      exact vocabulary.offers_inferred
    | some ref =>
      obtain ⟨type, ht, rfl⟩ := Option.map_eq_some_iff.1 h
      exact offers_of_resolve? ht
  | optional name ref =>
    obtain ⟨type, ht, rfl⟩ := Option.map_eq_some_iff.1 h
    exact offers_of_resolve? ht
  | literal name value =>
    cases h
    trivial

/-- The parameters of a query have types of the table, and none is of a variant of its own. -/
theorem offers_queryParams {vocabulary : Vocabulary κ} {expression : Text} {tokens : List Pattern.Token}
    {params : List (Param κ)} (h : vocabulary.queryParams expression tokens = .ok params) :
    ∀ param ∈ params, vocabulary.OffersParam param := by
  intro param hp
  obtain ⟨token, -, ht⟩ := List.mem_filterMap.1 ((queryParams_perm h).1.mem_iff.1 hp)
  exact offers_of_tokenParam? ht

/-! ## What does not depend on the expression

An expression stands in the reports of failures only: what its tokens come to when there is none does not depend on it. -/

theorem resolveOrInfer_congr {vocabulary : Vocabulary κ} {expression : Text} {ref : Option Pattern.TypeRef}
    {type : ValueType κ} (h : vocabulary.resolveOrInfer expression ref = .ok type) (other : Text) :
    vocabulary.resolveOrInfer other ref = .ok type := by
  cases ref with
  | none => exact h
  | some ref => exact resolve_eq_ok_iff.2 (resolve_eq_ok_iff.1 h)

theorem pathParams_congr {vocabulary : Vocabulary κ} {expression : Text} {components : List Pattern.Component}
    {params : List (Param κ)} (h : vocabulary.pathParams expression components = .ok params) (other : Text) :
    vocabulary.pathParams other components = .ok params := by
  induction components generalizing params with
  | nil => exact h
  | cons component rest ih =>
    cases component with
    | verbatim t => exact ih h
    | token name ref tail =>
      simp only [pathParams, bind_eq_ok_iff] at h ⊢
      obtain ⟨type, ht, more, hm, h⟩ := h
      exact ⟨type, resolveOrInfer_congr ht other, more, ih hm, h⟩

theorem exists_requiredParams {vocabulary : Vocabulary κ} (expression : Text) {tokens : List Pattern.Token}
    (known : ∀ token ∈ tokens, ∃ param, tokenParam? vocabulary.types token = some param) :
    ∃ params, vocabulary.requiredParams expression tokens = .ok params := by
  induction tokens with
  | nil => exact ⟨_, rfl⟩
  | cons token rest ih =>
    obtain ⟨⟨param, own⟩, known⟩ := List.forall_mem_cons.1 known
    obtain ⟨more, hm⟩ := ih known
    cases token with
    | optional name ref => exact ⟨more, hm⟩
    | literal name value => exact ⟨more, hm⟩
    | required name ref =>
      cases ref with
      | none => exact ⟨_, bind_of_eq_ok hm _⟩
      | some ref =>
        obtain ⟨type, ht, -⟩ := Option.map_eq_some_iff.1 own
        refine ⟨.required name type :: more, ?_⟩
        simp only [requiredParams, resolveOrInfer, resolve_eq_ok_iff.2 ht, hm]
        rfl

theorem exists_optionalParams {vocabulary : Vocabulary κ} (expression : Text) {tokens : List Pattern.Token}
    (known : ∀ token ∈ tokens, ∃ param, tokenParam? vocabulary.types token = some param) :
    ∃ params, vocabulary.optionalParams expression tokens = .ok params := by
  induction tokens with
  | nil => exact ⟨_, rfl⟩
  | cons token rest ih =>
    obtain ⟨⟨param, own⟩, known⟩ := List.forall_mem_cons.1 known
    obtain ⟨more, hm⟩ := ih known
    cases token with
    | required name ref => exact ⟨more, hm⟩
    | literal name value => exact ⟨more, hm⟩
    | optional name ref =>
      obtain ⟨type, ht, -⟩ := Option.map_eq_some_iff.1 own
      refine ⟨.optional name type :: more, ?_⟩
      simp only [optionalParams, resolve_eq_ok_iff.2 ht, hm]
      rfl

/-- Tokens with types of the table make the parameters of a query. -/
theorem exists_queryParams {vocabulary : Vocabulary κ} (expression : Text) {tokens : List Pattern.Token}
    (known : ∀ token ∈ tokens, ∃ param, tokenParam? vocabulary.types token = some param) :
    ∃ params, vocabulary.queryParams expression tokens = .ok params := by
  obtain ⟨required, hr⟩ := exists_requiredParams expression known
  obtain ⟨optional, ho⟩ := exists_optionalParams expression known
  exact ⟨required ++ optional ++ literalParams tokens, by simp only [queryParams, hr, ho]; rfl⟩

/-- The order of the tokens of a query matters only to the order of its parameters. -/
theorem exists_queryParams_of_perm {vocabulary : Vocabulary κ} {expression : Text} {tokens others : List Pattern.Token}
    {params : List (Param κ)} (h : vocabulary.queryParams expression tokens = .ok params) (perm : tokens.Perm others)
    (other : Text) : ∃ more, vocabulary.queryParams other others = .ok more ∧ params.Perm more := by
  obtain ⟨own, known⟩ := queryParams_perm h
  obtain ⟨more, hm⟩ := exists_queryParams other fun token ht => known token (perm.mem_iff.2 ht)
  exact ⟨more, hm, own.trans ((perm.filterMap _).trans (queryParams_perm hm).1.symm)⟩

end TypedRoutes.Vocabulary
