import TypedRoutes.Proofs.Matching

/-!
# Optional parameters resolved together

The values of global parameters are resolved together: those that the query mentions have their values, and one that
does not convert leaves none at all. It does not matter where in the row the one stands that does not convert, nor how
many have been resolved before it: the row either has the entries of all its parameters or none
(`globals_optionals`), so that its order is of no account (`globals_spec`).
-/

namespace TypedRoutes.Subject

set_option autoImplicit false

variable {κ : Type} [Conversions κ]

/-- The optional parameters with the given names and types. -/
def optionals (options : List (Text × ValueType κ)) : List (Param κ) :=
  options.map fun option => .optional option.1 option.2

/-- The query has a text under a name that does not convert to a type. -/
def Refuses (subject : Subject) (option : Text × ValueType κ) : Prop :=
  ∃ t, Assoc.get? option.1 subject.query = some t ∧ option.2.convert t = .ok none

/-- The entry of an optional parameter: the value of the text that the query has under its name. -/
def entryOf? (subject : Subject) (option : Text × ValueType κ) : Option (Text × Value) :=
  match (Assoc.get? option.1 subject.query).map option.2.convert with
  | some (.ok (some v)) => some (option.1, v)
  | _ => none

/-- An optional parameter makes an entry exactly when the query has a text for its name that converts. -/
theorem entryOf?_eq_some_iff {subject : Subject} {option : Text × ValueType κ} {name : Text} {v : Value} :
    subject.entryOf? option = some (name, v) ↔
      option.1 = name ∧ ∃ t, Assoc.get? option.1 subject.query = some t ∧ option.2.convert t = .ok (some v) := by
  unfold entryOf?
  cases Assoc.get? option.1 subject.query with
  | none => simp
  | some t =>
    rw [Option.map_some]
    cases converted : option.2.convert t with
    | error fault => simp [converted]
    | ok result => cases result <;> simp [converted]

/-- The entries stand under the names of their parameters. -/
theorem keys_filterMap_entryOf? (subject : Subject) (options : List (Text × ValueType κ)) :
    (Assoc.keys (options.filterMap subject.entryOf?)).Sublist (options.map Prod.fst) :=
  Assoc.keys_filterMap_sublist (fun _ _ h => (entryOf?_eq_some_iff.1 h).1.symm) options

/-- **A row of optional parameters** has the entries of all of them, or one of them does not convert. -/
theorem globalValues_optionals (subject : Subject) {options : List (Text × ValueType κ)}
    (total : ∀ option ∈ options, option.2.Total) :
    (∃ option ∈ options, subject.Refuses option) ∧ subject.globalValues (optionals options) = .ok none ∨
      (∀ option ∈ options, ¬ subject.Refuses option) ∧
        subject.globalValues (optionals options) = .ok (some (options.filterMap subject.entryOf?)) := by
  induction options with
  | nil => exact .inr ⟨by simp, rfl⟩
  | cons option rest ih =>
    obtain ⟨own, later⟩ := List.forall_mem_cons.1 total
    have ih := ih later
    simp only [optionals, List.map_cons, globalValues, Param.name] at ih ⊢
    cases found : Assoc.get? option.1 subject.query with
    | none =>
      -- A parameter that the query does not mention leaves the rest as it is.
      have accepts : ¬ subject.Refuses option := by simp [Refuses, found]
      have silent : subject.entryOf? option = none := by simp [entryOf?, found]
      rw [List.filterMap_cons_none silent]
      simpa [accepts] using ih
    | some t =>
      obtain ⟨result, converted⟩ := own t
      have conversion : (Param.optional option.1 option.2).convert t = .ok result := converted
      cases result with
      | none =>
        have refuses : subject.Refuses option := ⟨t, found, converted⟩
        exact .inl ⟨⟨option, List.mem_cons_self .., refuses⟩, by simp only [conversion]⟩
      | some v =>
        have accepts : ¬ subject.Refuses option := by simp [Refuses, found, converted]
        have entered : subject.entryOf? option = some (option.1, v) := entryOf?_eq_some_iff.2 ⟨rfl, t, found, converted⟩
        rw [List.filterMap_cons_some entered]
        simp only [conversion, List.exists_mem_cons_iff, accepts, false_or, List.forall_mem_cons, not_false_eq_true,
          true_and]
        rcases ih with ⟨refused, ih⟩ | ⟨accepted, ih⟩
        · exact .inl ⟨refused, by rw [ih]⟩
        · exact .inr ⟨accepted, by rw [ih]⟩

/-- Optional parameters of distinct names are resolved together: when one refuses its text there are none, and
otherwise there is an entry for each one that is present. -/
theorem globals_optionals (subject : Subject) {options : List (Text × ValueType κ)}
    (distinct : (options.map Prod.fst).Nodup) (total : ∀ option ∈ options, option.2.Total) :
    (∃ option ∈ options, subject.Refuses option) ∧ subject.globals (optionals options) = .ok [] ∨
      (∀ option ∈ options, ¬ subject.Refuses option) ∧
        subject.globals (optionals options) = .ok (options.filterMap subject.entryOf?) := by
  have keys := distinct.sublist (subject.keys_filterMap_entryOf? options)
  rcases subject.globalValues_optionals total with ⟨refused, values⟩ | ⟨accepted, values⟩
  · exact .inl ⟨refused, by rw [globals, values]; rfl⟩
  · refine .inr ⟨accepted, ?_⟩
    rw [globals, values]
    exact congrArg Except.ok (Assoc.ofPairs_of_nodup keys)

/-- **Optional parameters resolved together**, with distinct names and with types whose conversions do not fail. When
the query has a text for one of them that does not convert, the result is empty. Otherwise it has exactly the names that
the query mentions, each with the value of its text. It is empty or has them all, and the order of the parameters does
not matter. -/
theorem globals_spec {options : List (Text × ValueType κ)} (distinct : (options.map Prod.fst).Nodup)
    (total : ∀ option ∈ options, option.2.Total) (url : Url) :
    ∃ m, (ofUrl url).globals (optionals options) = .ok m ∧ (Assoc.keys m).Nodup ∧
      ((∃ option ∈ options, (ofUrl url).Refuses option) → m = []) ∧
      ((∀ option ∈ options, ¬ (ofUrl url).Refuses option) → ∀ name v, Assoc.get? name m = some v ↔
        ∃ type t, (name, type) ∈ options ∧ Assoc.get? name url.items = some t ∧ type.convert t = .ok (some v)) ∧
      (m = [] ∨ ∀ option ∈ options, ∀ t, Assoc.get? option.1 url.items = some t →
        ∃ v, option.2.convert t = .ok (some v) ∧ Assoc.get? option.1 m = some v) ∧
      ∀ others, options.Perm others → ∃ m', (ofUrl url).globals (optionals others) = .ok m' ∧ m.Perm m' := by
  have distinct' {others : List (Text × ValueType κ)} (perm : options.Perm others) : (others.map Prod.fst).Nodup :=
    (perm.map Prod.fst).nodup_iff.1 distinct
  have total' {others : List (Text × ValueType κ)} (perm : options.Perm others) :
      ∀ option ∈ others, option.2.Total := fun option ho => total option (perm.mem_iff.2 ho)
  rcases (ofUrl url).globals_optionals distinct total with ⟨refused, values⟩ | ⟨accepted, values⟩
  · refine ⟨[], values, .nil, fun _ => rfl, fun accepted => ?_, .inl rfl, fun others perm => ?_⟩
    · obtain ⟨option, ho, refuses⟩ := refused
      exact absurd refuses (accepted option ho)
    · rcases (ofUrl url).globals_optionals (distinct' perm) (total' perm) with ⟨-, values⟩ | ⟨accepted, -⟩
      · exact ⟨[], values, .nil⟩
      · obtain ⟨option, ho, refuses⟩ := refused
        exact absurd refuses (accepted option (perm.mem_iff.1 ho))
  · have keys := distinct.sublist ((ofUrl url).keys_filterMap_entryOf? options)
    have entries (name : Text) (v : Value) : Assoc.get? name (options.filterMap (ofUrl url).entryOf?) = some v ↔
        ∃ type t, (name, type) ∈ options ∧ Assoc.get? name url.items = some t ∧ type.convert t = .ok (some v) := by
      rw [Assoc.get?_eq_some_iff keys, List.mem_filterMap]
      simp only [entryOf?_eq_some_iff, Prod.exists]
      constructor
      · rintro ⟨_, type, ho, rfl, t, found, converted⟩
        exact ⟨type, t, ho, found, converted⟩
      · rintro ⟨type, t, ho, found, converted⟩
        exact ⟨name, type, ho, rfl, t, found, converted⟩
    refine ⟨_, values, keys, fun refused => ?_, fun _ => entries, .inr fun option ho t found => ?_,
      fun others perm => ?_⟩
    · obtain ⟨option, ho, refuses⟩ := refused
      exact absurd refuses (accepted option ho)
    · obtain ⟨result, converted⟩ := total option ho t
      cases result with
      | none => exact absurd ⟨t, found, converted⟩ (accepted option ho)
      | some v => exact ⟨v, converted, (entries _ v).2 ⟨option.2, t, ho, found, converted⟩⟩
    · rcases (ofUrl url).globals_optionals (distinct' perm) (total' perm) with ⟨⟨option, ho, refuses⟩, -⟩ | ⟨-, values⟩
      · exact absurd refuses (accepted option (perm.mem_iff.2 ho))
      · exact ⟨_, values, perm.filterMap _⟩

/-- Zero, false and the value of an empty text count, and a text that does not convert empties the result wherever it
stands. -/
theorem globals_spec_falsy :
    letI : Conversions Unit := ⟨fun _ t => .ok (.int t.length)⟩
    let options : List (Text × ValueType Unit) :=
      [("n".toList, .guarded (.text "size".toList) ()), ("on".toList, .bool), ("ids".toList, .array .int)]
    let full : Url := { path := "/a".toList, query := "on=no&ids=1,2&n=".toList }
    let spoilt : Url := { path := "/a".toList, query := "on=no&ids=1,x&n=".toList }
    (options.map Prod.fst).Nodup ∧ (∀ option ∈ options, option.2.Total) ∧
      (ofUrl full).globals (optionals options) =
        .ok [("n".toList, .int 0), ("on".toList, .bool false), ("ids".toList, .list [.int 1, .int 2])] ∧
      (ofUrl spoilt).globals (optionals options) = .ok [] ∧
      ∃ m, (ofUrl spoilt).globals (optionals options.reverse) = .ok m ∧ List.Perm [] m := by
  let _ : Conversions Unit := ⟨fun _ t => .ok (.int t.length)⟩
  intro options full spoilt
  have distinct : (options.map Prod.fst).Nodup := by decide
  have total : ∀ option ∈ options, option.2.Total := by
    simp only [options, List.forall_mem_cons, List.not_mem_nil, false_implies, implies_true, and_true]
    exact ⟨fun t => ⟨_, rfl⟩, fun t => ⟨_, rfl⟩, ValueType.Total.array fun t => ⟨_, rfl⟩⟩
  have emptied : (ofUrl spoilt).globals (optionals options) = .ok [] := rfl
  obtain ⟨m, found, -, -, -, -, order⟩ := globals_spec distinct total spoilt
  cases emptied.symm.trans found
  exact ⟨distinct, total, rfl, emptied, order _ options.reverse_perm.symm⟩

end TypedRoutes.Subject
