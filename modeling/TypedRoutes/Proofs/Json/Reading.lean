import Mathlib.Data.List.Basic
import Mathlib.Data.List.TakeWhile
import TypedRoutes.Json.Reader

/-!
# Steps of the reader of JSON

What the readers do with blanks, with an array and with a text in brackets, in equations. A text that starts with a
bracket and is read is a list (`exists_list_of_read`).
-/

namespace TypedRoutes.Json

set_option autoImplicit false

/-! ## Blanks -/

/-- A text of nothing but blanks. -/
def Blank (gap : Text) : Prop := ∀ c ∈ gap, isBlank c = true

theorem blank_nil : Blank [] := List.forall_mem_nil _

theorem skipBlanks_cons {c : Char} (dark : isBlank c = false) (rest : Text) : skipBlanks (c :: rest) = c :: rest :=
  List.dropWhile_cons_of_neg (by simp [dark])

/-- Blanks are skipped up to the first character that is none. -/
theorem skipBlanks_append {gap : Text} (blank : Blank gap) {c : Char} (dark : isBlank c = false) (rest : Text) :
    skipBlanks (gap ++ c :: rest) = c :: rest := by
  rw [skipBlanks, List.dropWhile_append_of_pos blank]
  exact skipBlanks_cons dark rest

theorem skipBlanks_eq_nil_iff {gap : Text} : skipBlanks gap = [] ↔ Blank gap := List.dropWhile_eq_nil_iff

theorem skipBlanks_suffix (t : Text) : skipBlanks t <:+ t := List.dropWhile_suffix _

/-- Behind a sign that follows blanks there is less of the text. -/
theorem suffix_of_skipBlanks {t rest : Text} {c : Char} (h : skipBlanks t = c :: rest) : rest <:+ t :=
  (h ▸ List.suffix_cons c rest).trans (skipBlanks_suffix t)

/-! ## Arrays -/

section Arrays

variable {item : Text → Read Value} {t rest : Text} {c : Char}

/-- An array that is not closed at once is read item by item. -/
theorem readArray_of_ne (item : Text → Read Value) (start : skipBlanks t = c :: rest) (more : c ≠ ']') :
    readArray item t =
      (readItems item ((c :: rest).length + 1) (c :: rest)).map fun (items, rest) => (.list items, rest) := by
  unfold readArray
  rw [start]
  split
  · simp_all
  · rfl

/-- What stops the first item stops the array. -/
theorem readArray_of_error {fault : Fault} (stopped : item (c :: t) = .error fault) (dark : isBlank c = false)
    (more : c ≠ ']') : readArray item (c :: t) = .error fault := by
  rw [readArray_of_ne item (skipBlanks_cons dark t) more, readItems, stopped]
  rfl

/-- What is read behind an opening bracket is a list. -/
theorem exists_list_of_readArray {v : Value} (h : readArray item t = .ok (v, rest)) : ∃ items, v = .list items := by
  unfold readArray at h
  split at h
  · cases h
    exact ⟨[], rfl⟩
  · cases read : readItems item ((skipBlanks t).length + 1) (skipBlanks t) with
    | error fault =>
      rw [read] at h
      cases h
    | ok read' =>
      rw [read] at h
      cases h
      exact ⟨read'.1, rfl⟩

end Arrays

/-! ## Texts in brackets -/

variable {t : Text}

theorem skipBlanks_of_bracket (bracket : t.head? = some '[') : skipBlanks t = t := by
  obtain ⟨t, rfl⟩ := List.head?_eq_some_iff.1 bracket
  exact skipBlanks_cons (by decide) t

/-- What stops the value of a text that starts with a bracket is why the text is refused, at its place. -/
theorem read_eq_error_of_bracket (bracket : t.head? = some '[') {fault : Fault}
    (stopped : readValue maxDepth t = .error fault) : read t = .error (locate t fault) := by
  rw [read, readAll, if_neg (by simp [bracket]), skipBlanks_of_bracket bracket, stopped]
  rfl

/-- A text that starts with a bracket is a value exactly when a value is read from it and only blanks are left. -/
theorem read_eq_ok_iff_of_bracket (bracket : t.head? = some '[') {v : Value} :
    read t = .ok v ↔ ∃ rest, readValue maxDepth t = .ok (v, rest) ∧ Blank rest := by
  cases value : readValue maxDepth t with
  | error fault => simp [read_eq_error_of_bracket bracket value]
  | ok value' =>
    obtain ⟨w, rest⟩ := value'
    rw [read, readAll, if_neg (by simp [bracket]), skipBlanks_of_bracket bracket, value]
    cases behind : skipBlanks rest with
    | nil => simp [behind, skipBlanks_eq_nil_iff.1 behind, Except.mapError]
    | cons c more =>
      have dark : ¬ Blank rest := fun blank => by
        rw [skipBlanks_eq_nil_iff.2 blank] at behind
        cases behind
      simp [behind, dark, stop, Except.mapError]

/-- What starts with a bracket and is read is a list. -/
theorem exists_list_of_read (bracket : t.head? = some '[') {v : Value} (h : read t = .ok v) :
    ∃ items, v = .list items := by
  obtain ⟨rest, value, -⟩ := (read_eq_ok_iff_of_bracket bracket).1 h
  obtain ⟨t, rfl⟩ := List.head?_eq_some_iff.1 bracket
  exact exists_list_of_readArray value

end TypedRoutes.Json
