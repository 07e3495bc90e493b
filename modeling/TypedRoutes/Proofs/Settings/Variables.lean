import TypedRoutes.Proofs.Json.Limits
import TypedRoutes.Proofs.Settings.Problems

/-!
# Values of variables

A variable is the list that it spells out as JSON, or its own text. Brackets that are malformed are kept as a text, but
those that go beyond a limit of the reader are refused (`Settings.Overflows`), and loading stops with what the reader
says (`variables_read_or_overflow`). No other variable of the environment can stop loading, unless the file of variables
refers to it.
-/

namespace TypedRoutes

set_option autoImplicit false

namespace Settings

/-! ## One variable -/

/-- A text in brackets goes beyond a limit of the reader, which says so. -/
structure Overflows (t : Text) (limit : Json.ReadError) : Prop where
  bracket : t.head? = some '['
  refused : Json.read t = .error limit
  exceeds : Json.Exceeds t limit

variable {t : Text} {v : Value} {e : SettingsError}

theorem readVariable_of_bracket (bracket : t.head? = some '[') : readVariable t = match Json.read t with
    | .ok v => .ok v
    | .error (.malformed _ _ _ _) => .ok (.text t)
    | .error e => .error (.json e) := if_pos bracket

/-- A variable is refused exactly when it overflows, for the limit that it goes beyond. -/
theorem readVariable_eq_error_iff : readVariable t = .error e ↔ ∃ limit, Overflows t limit ∧ e = .json limit := by
  by_cases bracket : t.head? = some '['
  · rw [readVariable_of_bracket bracket]
    constructor
    · intro h
      split at h
      · cases h
      · cases h
      · rename_i limit other refused
        cases h
        refine ⟨limit, ⟨bracket, refused, ?_⟩, rfl⟩
        rcases Json.exceeds_of_read refused with ⟨reason, line, column, offset, rfl⟩ | exceeds
        · exact absurd rfl (other reason line column offset)
        · exact exceeds
    · rintro ⟨limit, overflows, rfl⟩
      rw [overflows.refused]
      cases overflows.exceeds <;> rfl
  · constructor
    · intro h
      rw [readVariable, if_neg bracket] at h
      cases h
    · rintro ⟨limit, overflows, -⟩
      exact absurd overflows.bracket bracket

theorem readVariable_eq_ok_cases (h : readVariable t = .ok v) :
    (t.head? = some '[' ∧ Json.read t = .ok v) ∨ v = .text t := by
  by_cases bracket : t.head? = some '['
  · rw [readVariable_of_bracket bracket] at h
    split at h
    · cases h
      exact .inl ⟨bracket, ‹_›⟩
    · cases h
      exact .inr rfl
    · cases h
  · rw [readVariable, if_neg bracket] at h
    cases h
    exact .inr rfl

/-- A variable is a list exactly when it starts with a bracket and its JSON is that list. -/
theorem readVariable_eq_list_iff {items : List Value} :
    readVariable t = .ok (.list items) ↔ t.head? = some '[' ∧ Json.read t = .ok (.list items) := by
  constructor
  · intro h
    rcases readVariable_eq_ok_cases h with read | text
    · exact read
    · cases text
  · rintro ⟨bracket, read⟩
    rw [readVariable_of_bracket bracket, read]

/-- An integer of too many digits in brackets. -/
theorem overflows_long {digits : Text} (all : ∀ c ∈ digits, c.isDigit = true) (first : digits.head? ≠ some '0')
    (long : Number.maxDigits < digits.length) (rest : Text) :
    Overflows ('[' :: (digits ++ ']' :: rest)) (.tooManyDigits digits.length) where
  bracket := rfl
  refused := Json.read_long all first long rest
  exceeds := .digits ⟨['['], ']' :: rest, rfl⟩ all long

/-- Too many brackets. -/
theorem overflows_nested {n : Nat} (deep : Json.maxDepth < n) (rest : Text) :
    Overflows (List.replicate n '[' ++ rest) (.tooDeep .array) where
  bracket := by
    cases n with
    | zero => cases deep
    | succ n => rfl
  refused := Json.read_nested deep rest
  exceeds := .depth (by
    rw [List.countP_append, List.countP_replicate, if_pos (by decide : Json.opens '[' = true)]
    exact Nat.lt_of_lt_of_le deep (Nat.le_add_right _ _))

end Settings

/-! ## Loading -/

open Settings

/-- A stage fails with the first of its problems, and in no other way. -/
theorem Meets.eq_error_iff {σ : Type} {stage : Except SettingsError σ} {problems : List SettingsError}
    (meets : Meets stage problems) (e : SettingsError) : stage = .error e ↔ problems.head? = some e := by
  cases problems with
  | nil =>
    obtain ⟨a, ok⟩ := meets
    simp [ok]
  | cons first rest =>
    have stopped : stage = .error first := meets
    simp [stopped]

theorem Meets.exists_eq_ok_iff {σ : Type} {stage : Except SettingsError σ} {problems : List SettingsError}
    (meets : Meets stage problems) : (∃ a, stage = .ok a) ↔ problems = [] := by
  cases problems with
  | nil => exact iff_of_true meets rfl
  | cons first rest =>
    have stopped : stage = .error first := meets
    simp [stopped]

/-- Nothing is wrong with a variable exactly when it is for no setting, has no text, or has one that does not overflow. -/
theorem bindingProblems_eq_nil_iff {lead key : Text} {value : Option Text} :
    bindingProblems lead (key, value) = [] ↔
      ∀ name t, settingName? lead key = some name → value = some t → ∀ limit, ¬ Overflows t limit := by
  unfold bindingProblems
  split
  · rename_i name t named given
    obtain rfl : value = some t := given
    split
    · rename_i v read
      refine iff_of_true rfl ?_
      rintro _ _ - ⟨⟩ limit overflows
      have refused := readVariable_eq_error_iff.2 ⟨limit, overflows, rfl⟩
      rw [read] at refused
      cases refused
    · rename_i e refused
      obtain ⟨limit, overflows, -⟩ := readVariable_eq_error_iff.1 refused
      exact iff_of_false (by simp) fun none => none name t named rfl limit overflows
  · rename_i apart
    exact iff_of_true rfl fun name t named given => absurd given (apart name t named)

namespace Sources

variable {κ α : Type} {readers : Readers κ α}

/-- The sources without the environment. -/
def withoutEnvironment (sources : Sources α) : Sources α := { sources with environment := [] }

/-- Among the variables is one for a setting, with this text. -/
def Assigns (lead : Text) (rows : List (Text × Option Text)) (t : Text) : Prop :=
  ∃ key name, (key, some t) ∈ rows ∧ settingName? lead key = some name

/-- Nothing is wrong with variables exactly when none of those for settings overflows. -/
theorem flatMap_bindingProblems_eq_nil_iff {lead : Text} {rows : List (Text × Option Text)} :
    rows.flatMap (bindingProblems lead) = [] ↔ ∀ t, Assigns lead rows t → ∀ limit, ¬ Overflows t limit := by
  rw [List.flatMap_eq_nil_iff]
  constructor
  · rintro none t ⟨key, name, listed, named⟩
    exact bindingProblems_eq_nil_iff.1 (none _ listed) name t named rfl
  · rintro none ⟨key, value⟩ listed
    refine bindingProblems_eq_nil_iff.2 fun name t named given => none t ⟨key, name, ?_, named⟩
    rwa [← given]

variable [DecidableEq κ]

/-- Variables that do not overflow make no difference to what loading stops with, if they make none to what the file of
variables binds. -/
theorem load_eq_error_iff {sources : Sources α}
    (none : ∀ t, Assigns sources.lead sources.environmentVariables t → ∀ limit, ¬ Overflows t limit)
    (apart : sources.fileVariables readers = sources.withoutEnvironment.fileVariables readers) (e : SettingsError) :
    sources.load readers = .error e ↔ sources.withoutEnvironment.load readers = .error e := by
  have same : sources.problems readers = sources.withoutEnvironment.problems readers := by
    rw [problems, flatMap_bindingProblems_eq_nil_iff.2 none, variableProblems, apart]
    rfl
  rw [(meets_load _).eq_error_iff, (meets_load _).eq_error_iff, same]

/-- A variable that overflows is among the problems of the sources, so that loading stops with the first of them: this one,
or one that comes before it. -/
theorem exists_load_eq_error {sources : Sources α} {t : Text} {limit : Json.ReadError}
    (assigns : Assigns sources.lead sources.environmentVariables t) (overflows : Overflows t limit) :
    ∃ e, sources.load readers = .error e := by
  cases found : sources.problems readers with
  | nil =>
    have none : sources.environmentVariables.flatMap (bindingProblems sources.lead) = [] := by
      simp only [problems, List.append_eq_nil_iff] at found
      exact found.2.2.1
    exact absurd overflows (flatMap_bindingProblems_eq_nil_iff.1 none t assigns limit)
  | cons e rest => exact ⟨e, ((meets_load sources).eq_error_iff e).2 (by rw [found, List.head?_cons])⟩

/-- **Values of variables.** A variable is a list exactly when it starts with a bracket and can be read as JSON, and then
it is the list that it denotes; any other variable is its own text, unless it is refused: in brackets it goes beyond a
limit of the reader, with an integer of too many digits or with too many opening brackets.

Merging variables into settings, whatever they are, succeeds exactly when none of those for settings goes beyond a limit. In
the environment one that does so stops loading. Without one, loading stops when it would without the environment, and with
the same problem, provided that the file of variables binds the same without the environment. -/
theorem variables_read_or_overflow (t : Text) (readers : Readers κ α) (sources : Sources α) :
    (∀ items, readVariable t = .ok (.list items) ↔ t.head? = some '[' ∧ Json.read t = .ok (.list items)) ∧
      (∀ v, t.head? = some '[' → Json.read t = .ok v → ∃ items, v = .list items) ∧
      (∀ v, readVariable t = .ok v → v = .text t ∨ ∃ items, v = .list items) ∧
      (∀ e, readVariable t = .error e ↔ ∃ limit, Overflows t limit ∧ e = .json limit) ∧
      (∀ (settings : Settings κ α) rows, (∃ after, mergeAll sources.lead settings rows = .ok after) ↔
        ∀ other, Assigns sources.lead rows other → ∀ limit, ¬ Overflows other limit) ∧
      (∀ limit, Assigns sources.lead sources.environmentVariables t → Overflows t limit →
        ∃ e, sources.load readers = .error e) ∧
      ((∀ other, Assigns sources.lead sources.environmentVariables other → ∀ limit, ¬ Overflows other limit) →
        sources.fileVariables readers = sources.withoutEnvironment.fileVariables readers →
        ∀ e, sources.load readers = .error e ↔ sources.withoutEnvironment.load readers = .error e) := by
  refine ⟨fun _ => readVariable_eq_list_iff, fun _ bracket read => Json.exists_list_of_read bracket read, ?_,
    fun _ => readVariable_eq_error_iff, ?_, fun _ => exists_load_eq_error, load_eq_error_iff⟩
  · intro v h
    rcases readVariable_eq_ok_cases h with ⟨bracket, read⟩ | text
    · exact .inr (Json.exists_list_of_read bracket read)
    · exact .inl text
  · intro settings rows
    rw [(meets_mergeAll sources.lead settings rows).exists_eq_ok_iff, flatMap_bindingProblems_eq_nil_iff]

/-- A list with an integer of too many digits and brackets that are nested too deep: neither is a list or kept as a text,
and either stops loading where there is no other source. -/
theorem variables_overflow_examples :
    let long := '[' :: (tooMany ++ [']'])
    let nested := List.replicate 991 '['
    let alone (t : Text) : Sources Dated := ofVariable t
    readVariable long = .error (.json (.tooManyDigits 4301)) ∧ readVariable nested = .error (.json (.tooDeep .array)) ∧
      (alone long).load datedReaders = .error (.json (.tooManyDigits 4301)) ∧
      (alone nested).load datedReaders = .error (.json (.tooDeep .array)) ∧
      (alone long).withoutEnvironment.load datedReaders = .ok [] ∧
      (alone nested).withoutEnvironment.load datedReaders = .ok [] := by
  intro long nested alone
  have all : ∀ c ∈ tooMany, c.isDigit = true := fun c member => by
    rw [List.eq_of_mem_replicate member]
    rfl
  have count : tooMany.length = 4301 := List.length_replicate
  have digits : Overflows long (.tooManyDigits 4301) := by
    rw [← count]
    exact overflows_long all (by simp [tooMany, List.replicate_succ]) (by rw [count]; decide) []
  have brackets : Overflows nested (.tooDeep .array) := by
    rw [← List.append_nil nested]
    exact overflows_nested (by decide) []
  have stops : ∀ t limit, Overflows t limit → readVariable t = .error (.json limit) ∧
      (alone t).load datedReaders = .error (.json limit) := by
    intro t limit overflows
    have refused : readVariable t = .error (.json limit) := readVariable_eq_error_iff.2 ⟨limit, overflows, rfl⟩
    have named : settingName? "TRAILHEAD_".toList "TRAILHEAD_ROUTER__X".toList = some ['x'] := by decide +kernel
    have merged : mergeAll "TRAILHEAD_".toList ([] : Settings Int Dated) [("TRAILHEAD_ROUTER__X".toList, some t)] =
        .error (.json limit) := by
      simp only [mergeAll, mergeVariables, named, refused]
    refine ⟨refused, ?_⟩
    change (mergeAll "TRAILHEAD_".toList [] [("TRAILHEAD_ROUTER__X".toList, some t)] >>= _) = _
    rw [merged]
    rfl
  exact ⟨(stops _ _ digits).1, (stops _ _ brackets).1, (stops _ _ digits).2, (stops _ _ brackets).2, rfl, rfl⟩

end Sources

end TypedRoutes
