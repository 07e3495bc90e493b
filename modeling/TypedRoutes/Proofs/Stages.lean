/-!
# Stages that may fail

A computation that may fail is a row of stages: reading an expression, merging the sources of settings, decoding the
fields of a record. These lemmas take such a row apart, whatever the failures are. What it succeeds with comes from stages
that all succeed (`bind_eq_ok_iff`), and it fails with the first failure (`bind_eq_error_iff`).
-/

namespace TypedRoutes

set_option autoImplicit false

variable {ε δ α β : Type}

/-- Stages in a row succeed exactly when each of them does. -/
theorem bind_eq_ok_iff {x : Except ε α} {f : α → Except ε β} {b : β} :
    (x >>= f) = .ok b ↔ ∃ a, x = .ok a ∧ f a = .ok b := by
  cases x with
  | error e => simp [bind, Except.bind]
  | ok a => simp [bind, Except.bind]

/-- Stages in a row fail exactly when the first of them does, or the first one succeeds and a later one fails. -/
theorem bind_eq_error_iff {x : Except ε α} {f : α → Except ε β} {e : ε} :
    (x >>= f) = .error e ↔ x = .error e ∨ ∃ a, x = .ok a ∧ f a = .error e := by
  cases x with
  | error e => simp [bind, Except.bind]
  | ok a => simp [bind, Except.bind]

/-- After a stage that succeeds, the row is what comes behind it. -/
theorem bind_of_eq_ok {x : Except ε α} {a : α} (h : x = .ok a) (f : α → Except ε β) :
    (x >>= f) = f a := by
  rw [h]
  rfl

/-- Reporting failures in another way changes no success. -/
theorem mapError_eq_ok_iff {x : Except ε α} {f : ε → δ} {a : α} :
    x.mapError f = .ok a ↔ x = .ok a := by
  cases x with
  | error e =>
    change Except.error (f e) = .ok a ↔ _
    simp
  | ok b =>
    change Except.ok b = .ok a ↔ _
    simp

/-- A failure that is reported in another way is that of some failure. -/
theorem mapError_eq_error_iff {x : Except ε α} {f : ε → δ} {d : δ} :
    x.mapError f = .error d ↔ ∃ e, x = .error e ∧ d = f e := by
  cases x with
  | error e =>
    change Except.error (f e) = .error d ↔ _
    simp [eq_comm]
  | ok b =>
    change Except.ok b = .error d ↔ _
    simp

theorem eq_of_map_eq_ok {x : Except ε α} {f : α → β} {a : α} {b : β} (h : x = .ok a)
    (mapped : x.map f = .ok b) : f a = b := by
  rw [h] at mapped
  exact Except.ok.inj mapped

end TypedRoutes
