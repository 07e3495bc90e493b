import Mathlib.Data.List.Infix
import TypedRoutes.Proofs.Json.Reading

/-!
# Texts beyond the limits

Every reader of JSON leaves a suffix of what it is given. When it stops, the text is malformed, or it has an integer of
too many digits or more opening brackets than may be nested: `Leaves` says so of one reader, and there is one lemma for
each reader. So a text without a long row of digits and without that many brackets is read or malformed
(`exceeds_of_read`).

The limits are real ones: a list that starts with a longer row of digits is refused (`read_long`), and so is a longer row
of brackets (`read_nested`).
-/

namespace TypedRoutes.Json

set_option autoImplicit false

open Number (maxDigits)

/-- Whether a character opens an array or an object. -/
def opens (c : Char) : Bool := c == '[' || c == '\x7b'

/-- What a reader makes of a text when brackets may still be nested `depth` times: it leaves a suffix of the text, or it
stops because the text is malformed, has an integer of too many digits in it, or too many opening brackets. -/
inductive Leaves {α : Type} (depth : Nat) (t : Text) : Read α → Prop where
  | ok {a : α} {rest : Text} (suffix : rest <:+ t) : Leaves depth t (.ok (a, rest))
  | malformed {reason : Reason} {left : Nat} : Leaves depth t (.error (.malformed reason left))
  | long {digits : Text} (within : digits <:+: t) (all : ∀ c ∈ digits, c.isDigit = true)
      (long : maxDigits < digits.length) : Leaves depth t (.error (.tooManyDigits digits.length))
  | deep {bracket : Bracket} (deep : depth < t.countP opens) : Leaves depth t (.error (.tooDeep bracket))

section Readers

variable {α β : Type} {depth : Nat} {t u rest : Text} {x : Read α}

/-- What leaves a suffix of a text leaves a suffix of every longer text with it at the end. -/
theorem Leaves.mono (h : Leaves depth t x) (suffix : t <:+ u) : Leaves depth u x := by
  cases h with
  | ok within => exact .ok (within.trans suffix)
  | malformed => exact .malformed
  | long within all long => exact .long (within.trans suffix.isInfix) all long
  | deep deep => exact .deep (Nat.lt_of_lt_of_le deep suffix.sublist.countP_le)

/-- A reader that stops with what stops another one, and goes on with what that one leaves. -/
theorem Leaves.onward (h : Leaves depth t x) {y : Read β} (stops : ∀ fault, x = .error fault → y = .error fault)
    (goes : ∀ a rest, x = .ok (a, rest) → rest <:+ t → Leaves depth t y) : Leaves depth t y := by
  cases h with
  | ok suffix => exact goes _ _ rfl suffix
  | malformed =>
    rw [stops _ rfl]
    exact .malformed
  | long within all long =>
    rw [stops _ rfl]
    exact .long within all long
  | deep deep =>
    rw [stops _ rfl]
    exact .deep deep

/-- A function of what has been read changes nothing of what is left. -/
theorem Leaves.map (h : Leaves depth t x) (f : α → β) : Leaves depth t (x.map fun (a, rest) => (f a, rest)) := by
  apply h.onward
  · rintro fault rfl
    rfl
  · rintro a rest rfl suffix
    exact .ok suffix

theorem leaves_stop (reason : Reason) (at' : Text) : Leaves depth t (stop reason at' : Read α) := .malformed

/-! ## Texts and numbers -/

theorem Leaves.prepend {x : Read (List Nat)} (h : Leaves depth t x) (unit : Nat) :
    Leaves depth t (prepend unit x) := by
  apply h.onward
  · rintro fault rfl
    rfl
  · rintro units rest rfl suffix
    exact .ok suffix

/-- The units of a string are read up to its quotation mark, or the text is malformed. -/
theorem leaves_readUnits (depth opening : Nat) (t : Text) : Leaves depth t (readUnits opening t) := by
  fun_induction readUnits opening t with
  | case1 => exact .malformed
  | case2 rest => exact .ok (List.suffix_cons _ _)
  | case3 => exact .malformed
  | case4 a b c d e rest unit _ ih => exact (ih.prepend _).mono (List.suffix_append ['\\', 'u', a, b, c, d] (e :: rest))
  | case5 => exact .malformed
  | case6 => exact .malformed
  | case7 c rest _ _ _ _ ih => exact (ih.prepend _).mono (List.suffix_append ['\\', c] rest)
  | case8 => exact .malformed
  | case9 => exact .malformed
  | case10 c rest _ _ _ _ _ _ ih => exact (ih.prepend _).mono (List.suffix_cons _ _)

theorem leaves_readText (depth : Nat) (t : Text) : Leaves depth t (readText t) := by
  apply (leaves_readUnits depth (t.length + 1) t).onward
  · intro fault read
    rw [readText, read]
  · intro units rest read suffix
    rw [readText, read]
    exact .ok suffix

theorem isPrefix_integerDigits (t : Text) : integerDigits t <+: t := by
  unfold integerDigits
  split
  · exact ⟨_, rfl⟩
  · exact List.takeWhile_prefix _

theorem isDigit_of_mem_integerDigits {c : Char} (h : c ∈ integerDigits t) : c.isDigit = true := by
  unfold integerDigits at h
  split at h
  · rw [List.mem_singleton.1 h]
    rfl
  · exact List.all_eq_true.1 List.all_takeWhile c h

/-- The only limit that a number can go beyond is that of its digits, and these stand at the start of what was given
to the reader. -/
theorem leaves_readNumber (depth : Nat) (t : Text) : Leaves depth t (readNumber t) := by
  have behind : ∀ sign digits fraction exponent : Nat,
      (((t.drop sign).drop digits).drop fraction).drop exponent <:+ t := fun sign digits fraction exponent =>
    ((List.drop_suffix _ _).trans (List.drop_suffix _ _)).trans ((List.drop_suffix _ _).trans (List.drop_suffix _ _))
  unfold readNumber
  generalize (if t.head? = some '-' then ['-'] else []) = sign
  simp only
  split
  · exact leaves_stop _ _
  split
  · split
    · exact .long ((isPrefix_integerDigits _).isInfix.trans (List.drop_suffix _ _).isInfix)
        (fun c member => isDigit_of_mem_integerDigits member) ‹_›
    · exact .ok (behind _ _ _ _)
  · exact .ok (behind _ _ _ _)

theorem leaves_readAtom (depth : Nat) (t : Text) : Leaves depth t (readAtom t) := by
  unfold readAtom
  split
  · exact .ok (List.drop_suffix _ _)
  · exact leaves_readNumber depth t

/-! ## Arrays and objects -/

/-- Behind a bracket that opens, brackets may be nested once less. -/
theorem Leaves.inside (h : Leaves depth t x) {c : Char} (bracket : opens c = true) : Leaves (depth + 1) (c :: t) x := by
  cases h with
  | ok suffix => exact .ok (suffix.trans (List.suffix_cons c t))
  | malformed => exact .malformed
  | long within all long => exact .long (within.trans (List.suffix_cons c t).isInfix) all long
  | deep deep => exact .deep (by rw [List.countP_cons_of_pos bracket]; omega)

variable {item : Text → Read Value}

/-- When an item leaves a suffix of what it is given, so do the items of an array up to its bracket, whatever bounds
their number. -/
theorem leaves_readItems (items : ∀ t, Leaves depth t (item t)) (bound : Nat) (t : Text) :
    Leaves depth t (readItems item bound t) := by
  induction bound generalizing t with
  | zero => exact leaves_stop _ _
  | succ bound ih =>
    apply (items t).onward
    · intro fault read
      rw [readItems, read]
    · intro v rest read suffix
      simp only [readItems, read]
      split
      · exact .ok ((suffix_of_skipBlanks ‹_›).trans suffix)
      · rename_i rest comma
        have behind := (skipBlanks_suffix rest).trans ((suffix_of_skipBlanks comma).trans suffix)
        apply ((ih (skipBlanks rest)).mono behind).onward
        · intro fault read
          rw [read]
        · intro vs rest read suffix
          rw [read]
          exact .ok suffix
      · exact leaves_stop _ _

theorem leaves_readKey (depth : Nat) (t : Text) : Leaves depth t (readKey t) := by
  unfold readKey
  split
  · rename_i quoted
    have behind := List.suffix_cons '"' quoted
    apply ((leaves_readText depth quoted).mono behind).onward
    · intro fault read
      rw [read]
    · intro key rest read suffix
      simp only [read]
      split
      · exact .ok ((skipBlanks_suffix _).trans ((suffix_of_skipBlanks ‹_›).trans suffix))
      · exact leaves_stop _ _
  · exact leaves_stop _ _

/-- When a value leaves a suffix of what it is given, so do the entries of an object up to its brace. -/
theorem leaves_readEntries (items : ∀ t, Leaves depth t (item t)) (bound : Nat) (t : Text) :
    Leaves depth t (readEntries item bound t) := by
  induction bound generalizing t with
  | zero => exact leaves_stop _ _
  | succ bound ih =>
    apply (leaves_readKey depth t).onward
    · intro fault read
      rw [readEntries, read]
    · intro key rest read suffix
      apply ((items rest).mono suffix).onward
      · intro fault read'
        simp only [readEntries, read, read']
      · intro v rest read' suffix
        simp only [readEntries, read, read']
        split
        · exact .ok ((suffix_of_skipBlanks ‹_›).trans suffix)
        · rename_i rest comma
          have behind := (skipBlanks_suffix rest).trans ((suffix_of_skipBlanks comma).trans suffix)
          apply ((ih (skipBlanks rest)).mono behind).onward
          · intro fault read
            rw [read]
          · intro entries rest read suffix
            rw [read]
            exact .ok suffix
        · exact leaves_stop _ _

theorem leaves_readArray (items : ∀ t, Leaves depth t (item t)) (t : Text) : Leaves depth t (readArray item t) := by
  unfold readArray
  split
  · exact .ok (suffix_of_skipBlanks ‹_›)
  · exact ((leaves_readItems items _ _).mono (skipBlanks_suffix t)).map _

theorem leaves_readObject (items : ∀ t, Leaves depth t (item t)) (t : Text) : Leaves depth t (readObject item t) := by
  unfold readObject
  split
  · exact .ok (suffix_of_skipBlanks ‹_›)
  · have entries := leaves_readEntries items ((skipBlanks t).length + 1) (skipBlanks t)
    exact (entries.mono (skipBlanks_suffix t)).map fun entries => Value.map (Assoc.ofPairs entries)

/-- One level of nesting after the other, reading a value leaves a suffix, or goes beyond a limit that the text does
go beyond. -/
theorem leaves_readValue (depth : Nat) (t : Text) : Leaves depth t (readValue depth t) := by
  induction depth generalizing t with
  | zero =>
    unfold readValue
    split
    · exact ((leaves_readText 0 _).mono (List.suffix_cons _ _)).map _
    · exact .deep (by simp [opens])
    · exact .deep (by simp [opens])
    · exact leaves_readAtom 0 t
  | succ depth ih =>
    unfold readValue
    split
    · exact ((leaves_readText (depth + 1) _).mono (List.suffix_cons _ _)).map _
    · exact (leaves_readArray ih _).inside rfl
    · exact (leaves_readObject ih _).inside rfl
    · exact leaves_readAtom (depth + 1) t

end Readers

/-! ## Whole texts -/

/-- What a text goes beyond: it has an integer of too many digits in it, or too many opening brackets. -/
inductive Exceeds (t : Text) : ReadError → Prop where
  | digits {digits : Text} (within : digits <:+: t) (all : ∀ c ∈ digits, c.isDigit = true)
      (long : maxDigits < digits.length) : Exceeds t (.tooManyDigits digits.length)
  | depth {bracket : Bracket} (deep : maxDepth < t.countP opens) : Exceeds t (.tooDeep bracket)

/-- A text that is refused and not malformed goes beyond a limit. -/
theorem exceeds_of_read {t : Text} {e : ReadError} (h : read t = .error e) :
    (∃ reason line column offset, e = .malformed reason line column offset) ∨ Exceeds t e := by
  have value := (leaves_readValue maxDepth (skipBlanks t)).mono (skipBlanks_suffix t)
  unfold read readAll at h
  split at h
  · cases h
    exact .inl ⟨_, _, _, _, rfl⟩
  · cases stopped : readValue maxDepth (skipBlanks t) with
    | error fault =>
      rw [stopped] at h value
      cases h
      cases value with
      | malformed => exact .inl ⟨_, _, _, _, rfl⟩
      | long within all long => exact .inr (.digits within all long)
      | deep deep => exact .inr (.depth deep)
    | ok read =>
      simp only [stopped] at h
      split at h
      · cases h
      · cases h
        exact .inl ⟨_, _, _, _, rfl⟩

/-! ## Texts at the limits -/

theorem find?_words {c : Char} (digit : c.isDigit = true) (t : Text) :
    words.find? (fun (word, _) => word.isPrefixOf (c :: t)) = none := by
  have starts : ∀ entry ∈ words, entry.1.head?.any (fun first => !first.isDigit) = true := by decide
  refine List.find?_eq_none.2 fun (word, v) listed whole => ?_
  have start := starts _ listed
  cases word with
  | nil => cases start
  | cons first rest =>
    obtain rfl : first = c := by simp_all
    simp [digit] at start

/-- A text that starts with a digit is read as a number. -/
theorem readValue_of_isDigit {c : Char} (digit : c.isDigit = true) (depth : Nat) (t : Text) :
    readValue depth (c :: t) = readNumber (c :: t) := by
  have atom : readAtom (c :: t) = readNumber (c :: t) := by rw [readAtom, find?_words digit]
  unfold readValue
  split
  · rename_i h
    cases h
    cases digit
  · rename_i h
    cases h
    cases digit
  · rename_i h
    cases h
    cases digit
  · exact atom

/-- A row of digits that does not start with a zero is read as a whole. -/
theorem integerDigits_append {digits rest : Text} (all : ∀ c ∈ digits, c.isDigit = true) (filled : digits ≠ [])
    (first : digits.head? ≠ some '0') (stops : ∀ c ∈ rest.head?, c.isDigit = false) :
    integerDigits (digits ++ rest) = digits := by
  have whole : (digits ++ rest).takeWhile Char.isDigit = digits := by
    rw [List.takeWhile_append_of_pos all]
    cases rest with
    | nil => exact List.append_nil _
    | cons c rest => rw [List.takeWhile_cons_of_neg (by simp [stops c rfl]), List.append_nil]
  unfold integerDigits
  split
  · rename_i h
    rw [← List.head?_append_of_ne_nil _ filled, h] at first
    exact absurd rfl first
  · exact whole

/-- A row of too many digits is refused for their number, whatever comes behind the bracket. -/
theorem readNumber_long {digits : Text} (all : ∀ c ∈ digits, c.isDigit = true) (first : digits.head? ≠ some '0')
    (long : maxDigits < digits.length) (rest : Text) :
    readNumber (digits ++ ']' :: rest) = .error (.tooManyDigits digits.length) := by
  have filled : digits ≠ [] := by
    rintro rfl
    cases long
  have unsigned : (digits ++ ']' :: rest).head? ≠ some '-' := by
    rw [List.head?_append_of_ne_nil _ filled]
    intro minus
    cases all '-' (List.mem_of_mem_head? minus)
  have row : integerDigits (digits ++ ']' :: rest) = digits := integerDigits_append all filled first (by simp)
  have fraction : fractionText (']' :: rest) = [] := rfl
  have exponent : exponentText (']' :: rest) = [] := by simp [exponentText]
  unfold readNumber
  simp only [if_neg unsigned, List.length_nil, List.drop_zero, row, List.drop_left, fraction, exponent]
  simp [filled, long]

/-- An array that starts with an integer of too many digits is refused, whatever follows the array. -/
theorem read_long {digits : Text} (all : ∀ c ∈ digits, c.isDigit = true) (first : digits.head? ≠ some '0')
    (long : maxDigits < digits.length) (rest : Text) :
    read ('[' :: (digits ++ ']' :: rest)) = .error (.tooManyDigits digits.length) := by
  cases digits with
  | nil => cases long
  | cons c digits =>
    have digit := all c List.mem_cons_self
    have other : ∀ d : Char, d.isDigit = false → c ≠ d := by
      rintro d plain rfl
      rw [digit] at plain
      cases plain
    have visible : isBlank c = false := by simp [isBlank, other ' ' rfl, other '\t' rfl, other '\n' rfl, other '\r' rfl]
    have stopped : readValue (maxDepth - 1) (c :: digits ++ ']' :: rest) = .error (.tooManyDigits (c :: digits).length) :=
      (readValue_of_isDigit digit _ _).trans (readNumber_long all first long rest)
    have array : readValue maxDepth ('[' :: (c :: digits ++ ']' :: rest)) =
        .error (.tooManyDigits (c :: digits).length) := readArray_of_error stopped visible (other ']' rfl)
    exact read_eq_error_of_bracket rfl array

/-- Brackets that are nested deeper than allowed are refused at the bracket that is one too many. -/
theorem readValue_nested {depth n : Nat} (deep : depth < n) (rest : Text) :
    readValue depth (List.replicate n '[' ++ rest) = .error (.tooDeep .array) := by
  induction depth generalizing n with
  | zero =>
    cases n with
    | zero => cases deep
    | succ n => rfl
  | succ depth ih =>
    obtain _ | _ | n := n
    · omega
    · omega
    · exact readArray_of_error (ih (Nat.lt_of_succ_lt_succ deep)) (by decide) (by decide)

/-- More opening brackets in a row than may be nested are refused, whatever follows them. -/
theorem read_nested {n : Nat} (deep : maxDepth < n) (rest : Text) :
    read (List.replicate n '[' ++ rest) = .error (.tooDeep .array) := by
  cases n with
  | zero => cases deep
  | succ n => exact read_eq_error_of_bracket rfl (readValue_nested deep rest)

end TypedRoutes.Json
