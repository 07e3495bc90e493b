import Mathlib.Data.List.Induction
import Mathlib.Data.Nat.Digits.Defs
import TypedRoutes.Number.Decimal

/-!
# Spellings of integers

An integer is spelled as an optional sign and a row of digits (`Spells`). Reading accepts exactly the spellings and gives
the integer that is spelled, its digits weighted by powers of ten (`integer?_eq_some_iff`).

A row of digits without leading zeros is the text of its value (`naturalText_ofDigits`), so that the text of an integer is
the one spelling without superfluous characters: what is left of a spelling without a plus sign, leading zeros and the
sign of zero settles the integer (`bare_of_spells`), and reading undoes writing (`spells_integerText`).
-/

namespace TypedRoutes.Number

set_option autoImplicit false

/-! ## The value of a row of digits -/

/-- What a digit stands for. -/
def digitValue (c : Char) : Nat := c.toNat - '0'.toNat

/-- The value of a row of digits: the last one counts once, the one before it ten times, and so on. -/
def positional (digits : Text) : Nat := Nat.ofDigits 10 (digits.reverse.map digitValue)

/-- A digit at the end adds its value to ten times that of the others. -/
theorem ofDigits_append_singleton (digits : Text) (c : Char) :
    ofDigits (digits ++ [c]) = 10 * ofDigits digits + digitValue c := by
  rw [ofDigits, Nat.ofDigitChars_append, Nat.ofDigitChars_cons, Nat.ofDigitChars_nil]
  rfl

/-- Reading from the left gives each digit the weight of its place. -/
theorem ofDigits_eq_positional (digits : Text) : ofDigits digits = positional digits := by
  induction digits using List.reverseRecOn with
  | nil => rfl
  | append_singleton digits c ih =>
    rw [ofDigits_append_singleton, ih, positional, positional, List.reverse_concat, List.map_cons, Nat.ofDigits_cons,
      add_comm]

theorem ofDigits_zero_cons (digits : Text) : ofDigits ('0' :: digits) = ofDigits digits := by
  rw [ofDigits, Nat.ofDigitChars_cons]
  rfl

/-- Leading zeros do not count. -/
theorem ofDigits_dropWhile (digits : Text) : ofDigits (digits.dropWhile (· = '0')) = ofDigits digits := by
  induction digits with
  | nil => rfl
  | cons c digits ih =>
    by_cases zero : c = '0'
    · rw [List.dropWhile_cons_of_pos (by simpa using zero), ih, zero, ofDigits_zero_cons]
    · rw [List.dropWhile_cons_of_neg (by simpa using zero)]

/-! ## The text of a number -/

theorem digitValue_lt {c : Char} (digit : c.isDigit = true) : digitValue c < 10 := by
  have bounds := Char.isDigit_iff_toNat.1 digit
  have last : '9'.toNat = 57 := rfl
  have first : '0'.toNat = 48 := rfl
  rw [digitValue]
  omega

/-- The value of a digit is written as that digit. -/
theorem digitChar_digitValue {c : Char} (digit : c.isDigit = true) : (digitValue c).digitChar = c := by
  have bounds := Char.isDigit_iff_toNat.1 digit
  have first : '0'.toNat = 48 := rfl
  apply Char.toNat_inj.1
  rw [Nat.toNat_digitChar_of_lt_ten (digitValue_lt digit), digitValue]
  omega

theorem naturalText_ne_nil (n : Nat) : naturalText n ≠ [] := Nat.toDigits_ne_nil

theorem isDigit_of_mem_naturalText {n : Nat} {c : Char} (h : c ∈ naturalText n) : c.isDigit = true :=
  Nat.isDigit_of_mem_toDigits (by decide) (by decide) h

theorem naturalText_digitValue {c : Char} (digit : c.isDigit = true) : naturalText (digitValue c) = [c] := by
  rw [naturalText, Nat.toDigits_of_lt_base (digitValue_lt digit), digitChar_digitValue digit]

/-- A further digit behind a number that is not zero. -/
theorem naturalText_append {n : Nat} (positive : 0 < n) {c : Char} (digit : c.isDigit = true) :
    naturalText (10 * n + digitValue c) = naturalText n ++ [c] := by
  have joined := Nat.toDigits_append_toDigits (b := 10) (by decide) positive (digitValue_lt digit)
  rw [naturalText, ← joined, ← naturalText, ← naturalText, naturalText_digitValue digit]

/-- A row of digits without leading zeros is the text of its value. -/
theorem naturalText_ofDigits {digits : Text} (digit : ∀ c ∈ digits, c.isDigit = true) (filled : digits ≠ [])
    (lead : digits.head? ≠ some '0') : naturalText (ofDigits digits) = digits ∧ 0 < ofDigits digits := by
  induction digits using List.reverseRecOn with
  | nil => exact absurd rfl filled
  | append_singleton digits c ih =>
    have last : c.isDigit = true := digit c (by simp)
    rw [ofDigits_append_singleton]
    by_cases first : digits = []
    · subst first
      have value : 10 * ofDigits [] + digitValue c = digitValue c := by rw [ofDigits, Nat.ofDigitChars_nil]; omega
      rw [value, naturalText_digitValue last]
      refine ⟨rfl, Nat.pos_of_ne_zero fun zero => lead ?_⟩
      rw [List.nil_append, List.head?_cons, ← digitChar_digitValue last, zero]
      rfl
    · have lead : digits.head? ≠ some '0' := by
        obtain ⟨d, rest, rfl⟩ := List.exists_cons_of_ne_nil first
        exact lead
      obtain ⟨text, positive⟩ := ih (fun d hd => digit d (by simp [hd])) first lead
      rw [naturalText_append positive last, text]
      exact ⟨rfl, by omega⟩

/-- The text of a natural number has as many digits as its size asks for. -/
theorem length_naturalText_le_iff (n : Nat) : (naturalText n).length ≤ maxDigits ↔ n < 10 ^ maxDigits :=
  Nat.length_toDigits_le_iff (by decide) (by decide)

/-! ## Spellings -/

/-- A row of one or more ASCII digits, but not of too many. Leading zeros count. -/
structure Row (digits : Text) : Prop where
  filled : digits ≠ []
  digit : ∀ c ∈ digits, c.isDigit = true
  short : digits.length ≤ maxDigits

/-- A text spells an integer: a row of digits, perhaps with a sign before it, has the integer as its value. -/
inductive Spells : Text → Int → Prop where
  | unsigned {digits : Text} (row : Row digits) : Spells digits (positional digits)
  | plus {digits : Text} (row : Row digits) : Spells ('+' :: digits) (positional digits)
  | minus {digits : Text} (row : Row digits) : Spells ('-' :: digits) (-(positional digits : Int))

theorem row_iff {digits : Text} :
    Row digits ↔ (isDigits digits && decide (digits.length ≤ maxDigits)) = true := by
  rw [isDigits, Bool.and_eq_true, Bool.and_eq_true, decide_eq_true_iff, List.all_eq_true, Bool.not_eq_true',
    List.isEmpty_eq_false_iff, and_assoc]
  exact ⟨fun row => ⟨row.filled, row.digit, row.short⟩, fun valid => ⟨valid.1, valid.2.1, valid.2.2⟩⟩

/-- A row of digits starts with no sign. -/
theorem Row.head?_ne {digits : Text} (row : Row digits) {c : Char} (sign : c.isDigit = false) :
    digits.head? ≠ some c := by
  intro first
  rw [row.digit c (List.mem_of_head? first)] at sign
  cases sign

/-- A row of digits has no sign. -/
theorem Row.splitSign_eq {digits : Text} (row : Row digits) : splitSign digits = (false, digits) := by
  unfold splitSign
  split
  · exact absurd rfl (row.head?_ne (c := '+') rfl)
  · exact absurd rfl (row.head?_ne (c := '-') rfl)
  · rfl

/-- **Reading an integer.** What is accepted are the spellings, and each as the integer that it spells. -/
theorem integer?_eq_some_iff {t : Text} {n : Int} : integer? t = some n ↔ Spells t n := by
  constructor
  · intro read
    rw [integer?] at read
    split at read
    rename_i negative digits split_
    split at read
    · rename_i valid
      have row := row_iff.2 valid
      cases read
      rw [ofDigits_eq_positional, signed]
      unfold splitSign at split_
      split at split_ <;> cases split_
      · exact .plus row
      · exact .minus row
      · exact .unsigned row
    · cases read
  · intro spells
    have value {digits : Text} (row : Row digits) (negative : Bool) :
        (if isDigits digits && decide (digits.length ≤ maxDigits) then some (signed negative (ofDigits digits))
          else none) = some (signed negative (positional digits)) := by
      rw [if_pos (row_iff.1 row), ofDigits_eq_positional]
    cases spells with
    | unsigned row =>
      rw [integer?, row.splitSign_eq]
      exact value row false
    | plus row => exact value row false
    | minus row => exact value row true

/-! ## What of a spelling counts -/

/-- The digits without leading zeros. -/
def significant (digits : Text) : Text := digits.dropWhile (· = '0')

/-- A spelling without a plus sign, leading zeros and the sign of zero. -/
def bare : Text → Text
  | '+' :: digits => significant digits
  | '-' :: digits => if significant digits = [] then [] else '-' :: significant digits
  | digits => significant digits

/-- The text of an integer that is not zero. -/
def bareText (n : Int) : Text := if n = 0 then [] else integerText n

/-- Without leading zeros a row of digits is the text of its value, and nothing when the value is zero. -/
theorem significant_eq {digits : Text} (digit : ∀ c ∈ digits, c.isDigit = true) :
    significant digits = if positional digits = 0 then [] else naturalText (positional digits) := by
  rw [← ofDigits_eq_positional, ← ofDigits_dropWhile, ← significant]
  by_cases zero : significant digits = []
  · rw [zero]
    rfl
  · have lead : (significant digits).head? ≠ some '0' := by
      intro first
      have kept := List.head?_dropWhile_not (fun c => decide (c = '0')) digits
      rw [← significant, first] at kept
      cases kept
    have digit' : ∀ c ∈ significant digits, c.isDigit = true :=
      fun c hc => digit c ((List.dropWhile_sublist _).subset hc)
    obtain ⟨text, positive⟩ := naturalText_ofDigits digit' zero lead
    rw [if_neg (by omega), text]

theorem integerText_natCast (n : Nat) : integerText n = naturalText n := rfl

theorem integerText_neg {n : Nat} (positive : 0 < n) : integerText (-(n : Int)) = '-' :: naturalText n := by
  cases n with
  | zero => omega
  | succ n => rfl

/-- What counts of a spelling is the text of the integer that is spelled. -/
theorem bare_of_spells {t : Text} {n : Int} (spells : Spells t n) : bare t = bareText n := by
  have unsigned {digits : Text} (row : Row digits) : significant digits = bareText (positional digits) := by
    simp only [significant_eq row.digit, bareText, integerText_natCast, Int.natCast_eq_zero]
  cases spells with
  | plus row => exact unsigned row
  | unsigned row =>
    have plain : bare t = significant t := by
      unfold bare
      split
      · exact absurd rfl (row.head?_ne (c := '+') rfl)
      · exact absurd rfl (row.head?_ne (c := '-') rfl)
      · rfl
    rw [plain, unsigned row]
  | @minus digits row =>
    rw [bare, significant_eq row.digit, bareText]
    by_cases zero : positional digits = 0
    · simp [zero]
    · rw [if_neg zero, if_neg (naturalText_ne_nil _), if_neg (by omega), integerText_neg (by omega)]

/-- A decimal text is that of one number only. -/
theorem naturalText_injective {n m : Nat} (h : naturalText n = naturalText m) : n = m := by
  rw [← ofDigits_naturalText n, h, ofDigits_naturalText]

theorem naturalText_ne_minus {n : Nat} {rest : Text} : naturalText n ≠ '-' :: rest := by
  intro h
  have digit : '-'.isDigit = true := isDigit_of_mem_naturalText (n := n) (h ▸ List.mem_cons_self ..)
  cases digit

/-- The text of an integer is that of one integer only. -/
theorem integerText_injective {n m : Int} (h : integerText n = integerText m) : n = m := by
  cases n with
  | ofNat n =>
    cases m with
    | ofNat m => rw [naturalText_injective h]
    | negSucc m => exact absurd h naturalText_ne_minus
  | negSucc n =>
    cases m with
    | ofNat m => exact absurd h.symm naturalText_ne_minus
    | negSucc m => rw [Nat.succ.inj (naturalText_injective (List.cons.inj h).2)]

theorem integerText_ne_nil (n : Int) : integerText n ≠ [] := by
  cases n with
  | ofNat n => exact naturalText_ne_nil n
  | negSucc n => exact List.cons_ne_nil _ _

/-- Integers with the same sign and digits are equal. -/
theorem bareText_inj {n m : Int} : bareText n = bareText m ↔ n = m := by
  refine ⟨fun same => ?_, fun same => same ▸ rfl⟩
  unfold bareText at same
  split at same
  · rename_i zero
    split at same
    · rename_i zero'
      rw [zero, zero']
    · exact absurd same.symm (integerText_ne_nil m)
  · split at same
    · exact absurd same (integerText_ne_nil n)
    · exact integerText_injective same

/-- Two spellings are of the same integer exactly when they agree in what counts. -/
theorem Spells.eq_iff {s t : Text} {n m : Int} (left : Spells s n) (right : Spells t m) : n = m ↔ bare s = bare t := by
  rw [bare_of_spells left, bare_of_spells right, bareText_inj]

/-! ## The text of an integer as a spelling -/

/-- A number below the limit has a text with few enough digits. -/
theorem row_naturalText {n : Nat} (small : n < 10 ^ maxDigits) : Row (naturalText n) where
  filled := naturalText_ne_nil n
  digit _ h := isDigit_of_mem_naturalText h
  short := (length_naturalText_le_iff n).2 small

theorem positional_naturalText (n : Nat) : positional (naturalText n) = n := by
  rw [← ofDigits_eq_positional, ofDigits_naturalText]

/-- The text of an integer that is not too long spells it. -/
theorem spells_integerText {n : Int} (small : n.natAbs < 10 ^ maxDigits) : Spells (integerText n) n := by
  cases n with
  | ofNat n =>
    have spells := Spells.unsigned (row_naturalText small)
    rwa [positional_naturalText] at spells
  | negSucc n =>
    have spells := Spells.minus (row_naturalText small)
    rwa [positional_naturalText] at spells

end TypedRoutes.Number
