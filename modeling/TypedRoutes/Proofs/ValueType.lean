import Mathlib.Data.List.Forall2
import TypedRoutes.TypeTable

/-!
# Conversions by functions

An array converts piece by piece (`convertPieces_eq_some_iff`): when it has a value, each piece has one, in order, and when
it has none, the first piece without a value decides how the conversion ends (`convertPieces_eq_halt_iff`). A conversion by
a guarded type, alone or as the elements of an array, therefore fails only with what its function reports and does not mean
as a refusal (`exists_calls_of_convert_eq_error`), and it has no value when a call of the function has none
(`convert_ne_some_of_fails`).
-/

namespace TypedRoutes

set_option autoImplicit false

/-- A function that fails in this way says that its text is not valid. -/
def Fault.IsRefusal : Fault → Prop
  | .invalidValue _ | .invalidKind _ => True
  | _ => False

/-- A function has no value for a text: it answers none, or it refuses the text. -/
def Conversions.Fails {κ : Type} [Conversions κ] (function : κ) (t : Text) : Prop :=
  apply function t = .ok .none ∨ ∃ fault, apply function t = .error fault ∧ fault.IsRefusal

namespace ValueType

section

variable {convert : Text → Except Fault (Option Value)} {pieces : List Text}

/-- What a piece of an array comes to: an empty one is not valid. -/
def element (convert : Text → Except Fault (Option Value)) (piece : Text) : Except Fault (Option Value) :=
  if piece = [] then .ok none else convert piece

theorem element_eq_some_iff {piece : Text} {v : Value} :
    element convert piece = .ok (some v) ↔ piece ≠ [] ∧ convert piece = .ok (some v) := by
  by_cases empty : piece = [] <;> simp [element, empty]

theorem element_eq_none_iff {piece : Text} :
    element convert piece = .ok none ↔ piece = [] ∨ convert piece = .ok none := by
  by_cases empty : piece = [] <;> simp [element, empty]

theorem element_eq_error_iff {piece : Text} {fault : Fault} :
    element convert piece = .error fault ↔ piece ≠ [] ∧ convert piece = .error fault := by
  by_cases empty : piece = [] <;> simp [element, empty]

/-- How a conversion ends without a value: with nothing, or with a failure. -/
def halt {α : Type} : Option Fault → Except Fault (Option α)
  | none => .ok none
  | some fault => .error fault

/-- A conversion has a value, or it ends without one. -/
theorem eq_some_or_eq_halt {α : Type} (x : Except Fault (Option α)) :
    (∃ a, x = .ok (some a)) ∨ ∃ cause, x = halt cause := by
  match x with
  | .ok (some a) => exact .inl ⟨a, rfl⟩
  | .ok none => exact .inr ⟨none, rfl⟩
  | .error fault => exact .inr ⟨some fault, rfl⟩

theorem halt_ne_some {α : Type} {cause : Option Fault} {a : α} : halt cause ≠ .ok (some a) := by
  cases cause <;> nofun

theorem halt_inj {α : Type} {cause other : Option Fault} (h : (halt cause : Except Fault (Option α)) = halt other) :
    cause = other := by
  cases cause <;> cases other <;> cases h <;> rfl

theorem convertPieces_cons_of_some {piece : Text} {v : Value} (rest : List Text)
    (h : element convert piece = .ok (some v)) :
    convertPieces convert (piece :: rest) = (convertPieces convert rest).map (Option.map (v :: ·)) := by
  obtain ⟨filled, converted⟩ := element_eq_some_iff.1 h
  rw [convertPieces, if_neg (by simpa using filled), converted]
  match convertPieces convert rest with
  | .ok (some vs) => rfl
  | .ok none => rfl
  | .error fault => rfl

/-- A first piece without a value decides for the others. -/
theorem convertPieces_cons_of_halt {piece : Text} {cause : Option Fault} (rest : List Text)
    (h : element convert piece = halt cause) : convertPieces convert (piece :: rest) = halt cause := by
  cases cause with
  | none =>
    rcases element_eq_none_iff.1 h with rfl | refused
    · rfl
    · rw [convertPieces, refused]
      split <;> rfl
  | some fault =>
    obtain ⟨filled, failed⟩ := element_eq_error_iff.1 h
    rw [convertPieces, if_neg (by simpa using filled), failed]
    rfl

/-- All pieces convert, each to the value at its place. -/
theorem convertPieces_eq_some_iff {vs : List Value} :
    convertPieces convert pieces = .ok (some vs) ↔
      List.Forall₂ (fun piece v => element convert piece = .ok (some v)) pieces vs := by
  induction pieces generalizing vs with
  | nil => cases vs <;> simp [convertPieces]
  | cons piece rest ih =>
    rcases eq_some_or_eq_halt (element convert piece) with ⟨v, converted⟩ | ⟨cause, halted⟩
    · rw [convertPieces_cons_of_some rest converted]
      constructor
      · intro h
        rcases eq_some_or_eq_halt (convertPieces convert rest) with ⟨more, later⟩ | ⟨cause, later⟩
        · rw [later] at h
          cases h
          exact .cons converted (ih.1 later)
        · rw [later] at h
          cases cause <;> cases h
      · rintro (_ | ⟨first, later⟩)
        rw [converted] at first
        cases first
        rw [ih.2 later]
        rfl
    · rw [convertPieces_cons_of_halt rest halted]
      refine ⟨fun h => absurd h halt_ne_some, ?_⟩
      rintro (_ | ⟨first, -⟩)
      exact absurd (halted.symm.trans first) halt_ne_some

/-- The first piece without a value decides how the conversion ends. -/
theorem convertPieces_eq_halt_iff {cause : Option Fault} :
    convertPieces convert pieces = halt cause ↔ ∃ before piece after, pieces = before ++ piece :: after ∧
      (∀ other ∈ before, ∃ v, element convert other = .ok (some v)) ∧ element convert piece = halt cause := by
  induction pieces with
  | nil => cases cause <;> simp [convertPieces, halt]
  | cons first rest ih =>
    rcases eq_some_or_eq_halt (element convert first) with ⟨v, converted⟩ | ⟨reason, halted⟩
    · rw [convertPieces_cons_of_some rest converted]
      have tail : (convertPieces convert rest).map (Option.map (v :: ·)) = halt cause ↔
          convertPieces convert rest = halt cause := by
        rcases eq_some_or_eq_halt (convertPieces convert rest) with ⟨vs, later⟩ | ⟨other, later⟩
        · rw [later]
          exact ⟨fun h => absurd h.symm halt_ne_some, fun h => absurd h.symm halt_ne_some⟩
        · rw [later]
          cases other <;> cases cause <;> simp [halt, Except.map]
      rw [tail, ih]
      constructor
      · rintro ⟨before, piece, after, rfl, all, stop⟩
        exact ⟨first :: before, piece, after, rfl, List.forall_mem_cons.2 ⟨⟨v, converted⟩, all⟩, stop⟩
      · rintro ⟨before, piece, after, cut, all, stop⟩
        cases before with
        | nil =>
          obtain ⟨rfl, -⟩ := List.cons.inj cut
          exact absurd (stop.symm.trans converted) halt_ne_some
        | cons other before =>
          obtain ⟨-, rfl⟩ := List.cons.inj cut
          exact ⟨before, piece, after, rfl, (List.forall_mem_cons.1 all).2, stop⟩
    · rw [convertPieces_cons_of_halt rest halted]
      constructor
      · intro same
        exact ⟨[], first, rest, rfl, by simp, halted.trans (congrArg halt (halt_inj same))⟩
      · rintro ⟨before, piece, after, cut, all, stop⟩
        cases before with
        | nil =>
          obtain ⟨rfl, -⟩ := List.cons.inj cut
          rw [halt_inj (halted.symm.trans stop)]
        | cons other before =>
          obtain ⟨rfl, -⟩ := List.cons.inj cut
          obtain ⟨v, converted⟩ := all first (List.mem_cons_self ..)
          exact absurd (halted.symm.trans converted) halt_ne_some

end

variable {κ : Type} [Conversions κ] {of : ValueType κ} {t : Text}

theorem convert_array_eq_some_iff {v : Value} :
    (array of).convert t = .ok (some v) ↔
      ∃ vs, v = .list vs ∧ convertPieces of.convert (Text.splitOn ',' t) = .ok (some vs) := by
  rw [ValueType.convert]
  rcases eq_some_or_eq_halt (convertPieces of.convert (Text.splitOn ',' t)) with ⟨vs, found⟩ | ⟨cause, found⟩
  · rw [found]
    constructor
    · rintro ⟨⟩
      exact ⟨vs, rfl, rfl⟩
    · rintro ⟨_, rfl, ⟨⟩⟩
      rfl
  · rw [found]
    cases cause <;> simp [halt]

theorem convert_array_eq_halt_iff {cause : Option Fault} :
    (array of).convert t = halt cause ↔ convertPieces of.convert (Text.splitOn ',' t) = halt cause := by
  rw [ValueType.convert]
  rcases eq_some_or_eq_halt (convertPieces of.convert (Text.splitOn ',' t)) with ⟨vs, found⟩ | ⟨other, found⟩
  · rw [found]
    exact ⟨fun h => absurd h.symm halt_ne_some, fun h => absurd h.symm halt_ne_some⟩
  · rw [found]
    cases other <;> cases cause <;> simp [halt]

/-- Each piece of an array that has a value has one. -/
theorem convert_array_eq_some {v : Value} (h : (array of).convert t = .ok (some v)) :
    ∃ vs, v = .list vs ∧ List.Forall₂ (fun piece w => of.convert piece = .ok (some w)) (Text.splitOn ',' t) vs := by
  obtain ⟨vs, rfl, converted⟩ := convert_array_eq_some_iff.1 h
  exact ⟨vs, rfl, (convertPieces_eq_some_iff.1 converted).imp fun _ _ own => (element_eq_some_iff.1 own).2⟩

/-- An array fails only when a piece of it does. -/
theorem convert_array_eq_error {fault : Fault} (h : (array of).convert t = .error fault) :
    ∃ piece ∈ Text.splitOn ',' t, piece ≠ [] ∧ of.convert piece = .error fault := by
  have halted : (array of).convert t = halt (some fault) := h
  obtain ⟨before, piece, after, cut, -, failed⟩ := convertPieces_eq_halt_iff.1 (convert_array_eq_halt_iff.1 halted)
  exact ⟨piece, by simp [cut], element_eq_error_iff.1 failed⟩

/-! ## Calls of functions -/

/-- The built-in types, the guarded types of some functions, and arrays of them. -/
inductive FromFunctions (functions : List (Text × κ)) : ValueType κ → Prop where
  | int : FromFunctions functions .int
  | string : FromFunctions functions .string
  | bool : FromFunctions functions .bool
  | guarded {name : Text} {function : κ} (known : (name, function) ∈ functions) :
      FromFunctions functions (.guarded (.text name) function)
  | array {of : ValueType κ} (elements : FromFunctions functions of) : FromFunctions functions (.array of)

/-- The calls of functions that the conversion of a text consists of: one with the whole text, or for an array one with
each piece that is not empty. -/
inductive Calls : ValueType κ → Text → κ → Text → Prop where
  | whole (name : TypeName) (function : κ) (t : Text) : Calls (.guarded name function) t function t
  | piece {of : ValueType κ} {t piece s : Text} {function : κ} (member : piece ∈ Text.splitOn ',' t)
      (filled : piece ≠ []) (calls : Calls of piece function s) : Calls (.array of) t function s

/-- A conversion fails only as one of its calls does, and not by a refusal. -/
theorem exists_calls_of_convert_eq_error {functions : List (Text × κ)} {type : ValueType κ}
    (known : type.FromFunctions functions) {fault : Fault} (h : type.convert t = .error fault) :
    ∃ name function s, (name, function) ∈ functions ∧ type.Calls t function s ∧
      Conversions.apply function s = .error fault ∧ ¬ fault.IsRefusal := by
  induction known generalizing t with
  | int | string | bool => cases h
  | @guarded name function known =>
    rw [convert] at h
    split at h
    · cases h
    · cases h
    · cases h
    · rename_i value kind failed
      cases h
      refine ⟨name, function, t, known, .whole _ _ _, failed, ?_⟩
      cases fault with
      | invalidValue text => exact absurd rfl (value text)
      | invalidKind text => exact absurd rfl (kind text)
      | _ => exact not_false
  | array _ ih =>
    obtain ⟨piece, member, filled, failed⟩ := convert_array_eq_error h
    obtain ⟨name, function, s, known, calls, raised⟩ := ih failed
    exact ⟨name, function, s, known, .piece member filled calls, raised⟩

/-- A call without a value leaves the whole text without one. -/
theorem convert_ne_some_of_fails {type : ValueType κ} {function : κ} {s : Text} (calls : type.Calls t function s)
    (fails : Conversions.Fails function s) (v : Value) : type.convert t ≠ .ok (some v) := by
  induction calls generalizing v with
  | whole name function t =>
    intro h
    rw [convert] at h
    rcases fails with answer | ⟨fault, raised, refusal⟩
    · rw [answer] at h
      cases h
    · rw [raised] at h
      cases fault with
      | invalidValue text => cases h
      | invalidKind text => cases h
      | _ => exact refusal
  | piece member _ _ ih =>
    intro h
    obtain ⟨vs, -, converted⟩ := convert_array_eq_some h
    rw [← List.map_fst_zip (Nat.le_of_eq converted.length_eq)] at member
    obtain ⟨⟨_, w⟩, pair, rfl⟩ := List.mem_map.1 member
    exact ih fails w (List.forall₂_zip converted pair)

end ValueType

end TypedRoutes
