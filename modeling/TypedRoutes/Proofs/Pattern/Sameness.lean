import TypedRoutes.Proofs.RouteTable.Refusal

/-!
# Patterns that count as the same

Two patterns are compared by everything but their regular expressions, and two guarded types by their names and
functions. What is left out of a comparison is determined by what is compared: the regular expression of a compiled
pattern is that of its path text, and the conversion of a built-in or guarded type, or of an array of such, is that of
the type. So compiled patterns over functions that count as the same are equal (`Pattern.eq_of_same`), and one can stand
for the other (`Pattern.same_spec`).

A plain type is known by its name alone, so that nothing of the kind holds of plain types.
-/

namespace TypedRoutes

set_option autoImplicit false

variable {κ : Type}

/-! ## Types -/

namespace ValueType

/-- The types whose conversion is determined by what they are compared by: the built-in ones, the guarded ones, and arrays
of them. -/
inductive Determined : ValueType κ → Prop where
  | int : Determined int
  | string : Determined string
  | bool : Determined bool
  | guarded (name : Text) (function : κ) : Determined (guarded (.text name) function)
  | array {of : ValueType κ} (elements : Determined of) : Determined (array of)

/-- Types that are made by functions are determined by what they are compared by. -/
theorem FromFunctions.determined {functions : List (Text × κ)} {type : ValueType κ}
    (known : type.FromFunctions functions) : type.Determined := by
  induction known with
  | int => exact .int
  | string => exact .string
  | bool => exact .bool
  | guarded => exact .guarded _ _
  | array _ ih => exact .array ih

variable [DecidableEq κ]

theorem same_self (type : ValueType κ) : type.same type = true := by
  induction type with
  | array of ih => exact ih
  | _ => simp [same]

/-- A type that is determined by what it is compared by is equal to those that count as the same. -/
theorem Determined.eq_of_same {type other : ValueType κ} (determined : type.Determined) (h : type.same other = true) :
    type = other := by
  induction determined generalizing other with
  | array _ ih =>
    cases other with
    | array of => rw [ih h]
    | _ => cases h
  | guarded name function =>
    cases other with
    | guarded otherName otherFunction =>
      rw [same, Bool.and_eq_true, beq_iff_eq, beq_iff_eq] at h
      rw [h.1, h.2]
    | _ => cases h
  | int | string | bool => cases other <;> simp_all [same]

end ValueType

/-! ## Parameters -/

/-- The type of a parameter, if it has one, is determined by what types are compared by. -/
def Param.Determined (param : Param κ) : Prop := ∀ type, param.type = .ok type → type.Determined

section

variable [DecidableEq κ]

theorem Param.same_self (param : Param κ) : param.same param = true := by
  cases param <;> simp [Param.same, ValueType.same_self]

theorem Param.Determined.eq_of_same {param other : Param κ} (determined : param.Determined)
    (h : param.same other = true) : param = other := by
  cases param <;> cases other <;> simp only [Param.same, Bool.and_eq_true, beq_iff_eq, Bool.false_eq_true] at h
  case required.required | optional.optional => rw [h.1, (determined _ rfl).eq_of_same h.2]
  case literal.literal | foreign.foreign => rw [h.1, h.2]

theorem Pattern.sameParams_self (params : List (Param κ)) : sameParams params params = true := by
  induction params with
  | nil => rfl
  | cons param rest ih => rw [sameParams, param.same_self, ih, Bool.and_self]

/-- A row of parameters whose types are determined is equal to those that count as the same. -/
theorem Pattern.eq_of_sameParams {params others : List (Param κ)} (determined : ∀ param ∈ params, param.Determined)
    (h : sameParams params others = true) : params = others := by
  induction params generalizing others with
  | nil =>
    cases others with
    | nil => rfl
    | cons => cases h
  | cons param rest ih =>
    cases others with
    | nil => cases h
    | cons other others =>
      obtain ⟨own, later⟩ := List.forall_mem_cons.1 determined
      rw [sameParams, Bool.and_eq_true] at h
      rw [own.eq_of_same h.1, ih later h.2]

end

/-! ## Patterns -/

namespace Pattern

/-- The patterns that are compiled over the built-in types and guarded ones, with any names of global parameters. -/
def OverFunctions [CharacterNames] (pattern : Pattern κ) : Prop :=
  ∃ functions types names vocabulary expression,
    TypeTable.ofTypes (TypeTable.guardedTypes functions) = .ok types ∧
      Vocabulary.ofNames types names = .ok vocabulary ∧ vocabulary.compile expression = .ok pattern

/-- The parameters of a pattern over functions are determined by what they are compared by. -/
theorem OverFunctions.determined [CharacterNames] {pattern : Pattern κ} (origin : pattern.OverFunctions) :
    ∀ param ∈ pattern.params, param.Determined := by
  obtain ⟨functions, types, names, vocabulary, expression, made, named, compiled⟩ := origin
  have own := Vocabulary.types_of_ofNames named
  have stages := Vocabulary.compile_eq_ok_iff.1 compiled
  have offered {type : ValueType κ} (offers : vocabulary.Offers type) : type.Determined :=
    (offers.fromFunctions made own).determined
  intro param hp type typed
  simp only [params, List.mem_append] at hp
  rcases hp with (hp | hp) | hp
  · obtain ⟨name, own, rfl, offers⟩ := Vocabulary.required_of_pathParams stages.pathParams param hp
    cases typed
    exact offered offers
  · obtain ⟨texts, -, globals, -⟩ := Vocabulary.ofNames_spec named
    rw [stages.globals, globals] at hp
    obtain ⟨name, -, rfl⟩ := List.mem_map.1 hp
    cases typed
    exact .string
  · have offers := Vocabulary.offers_queryParams stages.queryParams param hp
    cases param with
    | literal name value => cases typed
    | foreign name owner => cases typed
    | required name own | optional name own =>
      cases typed
      exact offered offers

/-- The regular expression of a compiled pattern is that of its path text. -/
theorem OverFunctions.regex_eq [CharacterNames] {pattern : Pattern κ} (origin : pattern.OverFunctions) :
    Vocabulary.regexOf pattern.pathRegex = .ok pattern.regex := by
  obtain ⟨_, _, _, _, _, -, -, compiled⟩ := origin
  exact (Vocabulary.compile_eq_ok_iff.1 compiled).regex

variable [DecidableEq κ]

theorem same_self (pattern : Pattern κ) : pattern.same pattern = true := by
  simp [same, sameParams_self]

/-- Compiled patterns that count as the same are equal, with the regular expressions that are not compared. -/
theorem eq_of_same [CharacterNames] {p q : Pattern κ} (hp : p.OverFunctions) (hq : q.OverFunctions)
    (h : p.same q = true) : p = q := by
  simp only [same, Bool.and_eq_true, beq_iff_eq] at h
  obtain ⟨⟨⟨⟨raw, text⟩, path⟩, globals⟩, query⟩ := h
  have known := hp.determined
  simp only [params, List.forall_mem_append] at known
  obtain ⟨⟨knownPath, knownGlobals⟩, knownQuery⟩ := known
  have path := eq_of_sameParams knownPath path
  have globals := eq_of_sameParams knownGlobals globals
  have query := eq_of_sameParams knownQuery query
  have regex : p.regex = q.regex := by
    have own := hp.regex_eq
    rw [text, hq.regex_eq] at own
    exact (Except.ok.inj own).symm
  cases p
  cases q
  congr

variable [Hashable κ] [Conversions κ]

/-- **Patterns that count as the same**, compiled by any vocabularies over functions, are interchangeable. Counting as the
same is an equivalence; patterns that do so have the same number for look-ups, the same match for every URL, be it a
failure, and the same global parameters. So it is with types that are built in, guarded or arrays of such: those that
count as the same have the same number and convert every text alike. -/
theorem same_spec [CharacterNames] :
    (Equivalence fun p q : { p : Pattern κ // p.OverFunctions } => p.1.same q.1 = true) ∧
      (∀ p q : Pattern κ, p.OverFunctions → q.OverFunctions → p.same q = true → p.hash = q.hash ∧
        ∀ url, (Subject.ofUrl url).matchPattern p = (Subject.ofUrl url).matchPattern q ∧
          (Subject.ofUrl url).globals p.globalParams = (Subject.ofUrl url).globals q.globalParams) ∧
      (Equivalence fun a b : { type : ValueType κ // type.Determined } => a.1.same b.1 = true) ∧
      ∀ a b : ValueType κ, a.Determined → b.Determined → a.same b = true → a.hash = b.hash ∧
        ∀ t, a.convert t = b.convert t := by
  refine ⟨⟨fun p => p.1.same_self, fun {p q} h => ?_, fun {p q r} h h' => ?_⟩, fun p q hp hq h => ?_,
    ⟨fun a => a.1.same_self, fun {a b} h => ?_, fun {a b c} h h' => ?_⟩, fun a b ha _ h => ?_⟩
  · rw [eq_of_same p.2 q.2 h]
    exact q.1.same_self
  · rw [eq_of_same p.2 q.2 h]
    exact h'
  · rw [eq_of_same hp hq h]
    exact ⟨rfl, fun url => ⟨rfl, rfl⟩⟩
  · rw [a.2.eq_of_same h]
    exact b.1.same_self
  · rw [a.2.eq_of_same h]
    exact h'
  · rw [ha.eq_of_same h]
    exact ⟨rfl, fun t => rfl⟩

attribute [local instance] CharacterNames.empty in
/-- The order of a table of types and types that are not named do not count. -/
theorem same_spec_tables :
    letI : Conversions Bool := ⟨fun counts t => .ok (if counts then .int t.length else .text t)⟩
    let expression := "/a/:x{word}?:n{[size]?}".toList
    let functions := [("size".toList, true), ("word".toList, false)]
    let others := [("word".toList, false), ("size".toList, true), ("more".toList, true)]
    ∃ (types more : TypeTable Bool) (p q : Pattern Bool),
      TypeTable.ofTypes (TypeTable.guardedTypes functions) = .ok types ∧
        TypeTable.ofTypes (TypeTable.guardedTypes others) = .ok more ∧
        Vocabulary.compile { types } expression = .ok p ∧ Vocabulary.compile { types := more } expression = .ok q ∧
        p.same q = true ∧ p.hash = q.hash ∧
        ∀ url, (Subject.ofUrl url).matchPattern p = (Subject.ofUrl url).matchPattern q := by
  let _ : Conversions Bool := ⟨fun counts t => .ok (if counts then .int t.length else .text t)⟩
  intro expression functions others
  let types : TypeTable Bool := { custom := TypeTable.guardedTypes functions, valid := rfl }
  let more : TypeTable Bool := { custom := TypeTable.guardedTypes others, valid := rfl }
  obtain ⟨p, hp⟩ : ∃ p, Vocabulary.compile { types } expression = .ok p := ⟨_, rfl⟩
  obtain ⟨q, hq⟩ : ∃ q, Vocabulary.compile { types := more } expression = .ok q := ⟨_, rfl⟩
  have same : p.same q = true := by
    have compared : (Vocabulary.compile { types } expression >>= fun p =>
      (Vocabulary.compile { types := more } expression).map p.same) = .ok true := rfl
    rw [hp, hq] at compared
    exact Except.ok.inj compared
  have origin : p.OverFunctions := ⟨functions, types, [], _, expression, rfl, rfl, hp⟩
  have origin' : q.OverFunctions := ⟨others, more, [], _, expression, rfl, rfl, hq⟩
  obtain ⟨hash, alike⟩ := same_spec.2.1 p q origin origin' same
  exact ⟨types, more, p, q, rfl, rfl, hp, hq, same, hash, fun url => (alike url).1⟩

end Pattern

end TypedRoutes
