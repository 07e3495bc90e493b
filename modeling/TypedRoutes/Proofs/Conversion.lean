import TypedRoutes.Proofs.Number.Decimal
import TypedRoutes.Proofs.Text.Pieces
import TypedRoutes.Proofs.ValueType

/-!
# What conversions accept

An integer is read from its spellings and from nothing else (`convert_int_spec`).

An array has a value exactly when each piece between its commas has one, and otherwise the first piece without a value
decides, whatever the elements are (`convert_array_spec`). Pieces that convert may be joined with commas
(`convert_array_join`), so that arrays of texts and of integers are read back as they are written.
-/

namespace TypedRoutes

set_option autoImplicit false

open Number

namespace ValueType

variable {κ : Type} [Conversions κ]

/-- A value that a conversion has is there. -/
theorem convert_ne_some_none (type : ValueType κ) (t : Text) : type.convert t ≠ .ok (some .none) := by
  have present_ne (v : Value) : present v ≠ some .none := by
    cases v <;> simp [present, Value.isNone]
  intro h
  cases type with
  | int =>
    rw [convert] at h
    cases read : integer? t <;> simp [read] at h
  | string => cases h
  | bool =>
    rw [convert] at h
    cases read : bool? t <;> simp [read] at h
  | guarded name function =>
    rw [convert] at h
    split at h
    · exact present_ne _ (Except.ok.inj h)
    · cases h
    · cases h
    · cases h
  | plain name function =>
    rw [convert] at h
    split at h
    · exact present_ne _ (Except.ok.inj h)
    · cases h
  | abstract => cases h
  | array of =>
    obtain ⟨vs, none, -⟩ := convert_array_eq_some_iff.1 h
    cases none

/-! ## Integers -/

/-- A text converts to an integer exactly when it spells it. -/
theorem convert_int_eq_some_iff {t : Text} {n : Int} :
    (int : ValueType κ).convert t = .ok (some (.int n)) ↔ Spells t n := by
  rw [convert, ← integer?_eq_some_iff]
  cases integer? t <;> simp

theorem convert_int_of_not_spells {t : Text} (h : ∀ n, ¬ Spells t n) : (int : ValueType κ).convert t = .ok none := by
  rw [convert]
  cases read : integer? t with
  | none => rfl
  | some n => exact absurd (integer?_eq_some_iff.1 read) (h n)

/-- The text of an integer with few enough digits is read back. -/
theorem convert_int_integerText {n : Int} (small : n.natAbs < 10 ^ maxDigits) :
    (int : ValueType κ).convert (integerText n) = .ok (some (.int n)) :=
  convert_int_eq_some_iff.2 (spells_integerText small)

/-- **Integers.** A text converts to an integer exactly when it spells it, with an optional sign and at most 4300 digits;
any other text is not valid, and no text is a failure. The text of an integer that is not longer than that converts to the
integer, and two texts convert to the same one exactly when they agree without plus signs, leading zeros and the sign of
zero. -/
theorem convert_int_spec :
    (∀ t n, (int : ValueType κ).convert t = .ok (some (.int n)) ↔ Spells t n) ∧
    (∀ t, (∀ n, ¬ Spells t n) → (int : ValueType κ).convert t = .ok none) ∧
    (∀ n : Int, n.natAbs < 10 ^ maxDigits → (int : ValueType κ).convert (integerText n) = .ok (some (.int n))) ∧
    ∀ s t n m, (int : ValueType κ).convert s = .ok (some (.int n)) → (int : ValueType κ).convert t = .ok (some (.int m)) →
      (n = m ↔ bare s = bare t) := by
  refine ⟨fun t n => convert_int_eq_some_iff, fun t => convert_int_of_not_spells, fun n => convert_int_integerText, ?_⟩
  intro s t n m left right
  exact (convert_int_eq_some_iff.1 left).eq_iff (convert_int_eq_some_iff.1 right)

/-- A plus sign and leading zeros do not count, the sign of zero neither. A digit of another script, a space, a line break
and an underscore make no spelling, nor does a row of too many zeros. -/
theorem convert_int_spec_spellings :
    letI : Conversions Empty := ⟨fun function _ => nomatch function⟩
    let type : ValueType Empty := .int
    type.convert "+007".toList = .ok (some (.int 7)) ∧ type.convert "-0".toList = .ok (some (.int 0)) ∧
      type.convert (integerText (-7)) = .ok (some (.int (-7))) ∧ bare "+007".toList = bare "7".toList ∧
      ∀ t ∈ ["٧".toList, " 7".toList, "7\n".toList, "1_0".toList, '0' :: List.replicate 4300 '0'],
        type.convert t = .ok none := by
  intro type
  let _ : Conversions Empty := ⟨fun function _ => nomatch function⟩
  obtain ⟨accepts, refuses, reads, agree⟩ := @convert_int_spec Empty _
  have row {t : Text} (filled : t ≠ []) (digit : t.all Char.isDigit = true) (short : t.length ≤ maxDigits) : Row t :=
    ⟨filled, List.all_eq_true.1 digit, short⟩
  have seven : Spells "+007".toList 7 := .plus (row (t := "007".toList) nofun rfl (by decide))
  have zero : Spells "-0".toList 0 := .minus (row (t := "0".toList) nofun rfl (by decide))
  have plain : Spells "7".toList 7 := .unsigned (row nofun rfl (by decide))
  have small : (-7 : Int).natAbs < 10 ^ maxDigits := Nat.lt_of_lt_of_le (by decide) (Nat.le_self_pow (by decide) 10)
  have signed := (accepts _ _).2 seven
  refine ⟨signed, (accepts _ _).2 zero, reads (-7) small, (agree _ _ _ _ signed ((accepts _ _).2 plain)).1 rfl, ?_⟩
  have unread {t : Text} (h : integer? t = none) (n : Int) : ¬ Spells t n := by
    rw [← integer?_eq_some_iff, h]
    nofun
  have long (n : Int) : ¬ Spells ('0' :: List.replicate 4300 '0') n := by
    rintro ⟨row⟩
    have short := row.short
    rw [List.length_cons, List.length_replicate] at short
    exact absurd short (by decide)
  simp only [List.forall_mem_cons]
  exact ⟨refuses _ (unread rfl), refuses _ (unread rfl), refuses _ (unread rfl), refuses _ (unread rfl), refuses _ long,
    nofun⟩

/-! ## Arrays -/

/-- The first piece of an array that has no value has a property. -/
def StopsAt (of : ValueType κ) (t : Text) (p : Text → Prop) : Prop :=
  ∃ before piece after, Text.splitOn ',' t = before ++ piece :: after ∧
    (∀ other ∈ before, other ≠ [] ∧ ∃ v, of.convert other = .ok (some v)) ∧ p piece

/-- A conversion of an array has no value for the cause at which its first piece without a value stops. -/
theorem convert_array_eq_halt_iff_stopsAt {of : ValueType κ} {t : Text} {cause : Option Fault} :
    (array of).convert t = halt cause ↔ of.StopsAt t fun piece => element of.convert piece = halt cause := by
  rw [convert_array_eq_halt_iff, convertPieces_eq_halt_iff, StopsAt]
  simp only [element_eq_some_iff, exists_and_left]

/-- Pieces that convert make an array when they are joined. -/
theorem convert_array_join {of : ValueType κ} {pieces : List Text} {vs : List Value} (filled : pieces ≠ [])
    (whole : ∀ piece ∈ pieces, ',' ∉ piece)
    (converted : List.Forall₂ (fun piece v => piece ≠ [] ∧ of.convert piece = .ok (some v)) pieces vs) :
    (array of).convert (Text.join [','] pieces) = .ok (some (.list vs)) := by
  apply convert_array_eq_some_iff.2
  refine ⟨vs, rfl, convertPieces_eq_some_iff.2 ?_⟩
  rw [Text.splitOn_join filled whole]
  exact converted.imp fun _ _ => element_eq_some_iff.2

/-- Texts without commas that are joined by commas are read back. -/
theorem convert_array_texts {texts : List Text} (filled : texts ≠ []) (pieces : ∀ t ∈ texts, t ≠ [] ∧ ',' ∉ t) :
    (array string : ValueType κ).convert (Text.join [','] texts) = .ok (some (.list (texts.map .text))) := by
  apply convert_array_join filled fun t ht => (pieces t ht).2
  rw [List.forall₂_map_right_iff, List.forall₂_same]
  exact fun t ht => ⟨(pieces t ht).1, rfl⟩

/-- The items of an array of texts are its pieces. -/
theorem exists_texts_of_convert_array {t : Text} {v : Value} (h : (array string : ValueType κ).convert t = .ok (some v)) :
    ∃ texts : List Text, v = .list (texts.map .text) ∧ Text.join [','] texts = t := by
  obtain ⟨vs, rfl, converted⟩ := convert_array_eq_some h
  refine ⟨Text.splitOn ',' t, congrArg _ ?_, Text.join_splitOn ',' t⟩
  clear h
  generalize Text.splitOn ',' t = pieces at converted
  induction converted with
  | nil => rfl
  | cons first _ ih =>
    cases first
    rw [ih, List.map_cons]

theorem notMem_integerText (n : Int) : ',' ∉ integerText n := by
  have plain (m : Nat) : ',' ∉ naturalText m := fun comma => by cases isDigit_of_mem_naturalText comma
  cases n with
  | ofNat n => exact plain n
  | negSucc n => exact List.not_mem_cons_of_ne_of_not_mem (by decide) (plain (n + 1))

/-- Integers that are joined by commas are read back. -/
theorem convert_array_integers {numbers : List Int} (filled : numbers ≠ [])
    (small : ∀ n ∈ numbers, n.natAbs < 10 ^ maxDigits) :
    (array int : ValueType κ).convert (Text.join [','] (numbers.map integerText)) =
      .ok (some (.list (numbers.map .int))) := by
  apply convert_array_join (by simpa using filled)
  · intro piece hp
    obtain ⟨n, -, rfl⟩ := List.mem_map.1 hp
    exact notMem_integerText n
  · rw [List.forall₂_map_right_iff, List.forall₂_map_left_iff, List.forall₂_same]
    exact fun n hn => ⟨integerText_ne_nil n, convert_int_integerText (small n hn)⟩

/-- **Arrays.** A text converts to an array exactly when each piece between its commas has characters and a value, and the
items are these values in order. Otherwise the first piece without a value decides: the text is not valid when the piece is
empty or not valid, and a failure of the piece is one of the text. Therefore a text none of whose pieces fails either
converts or is not valid. Texts and integers that are joined with commas are read back, and the items of an array of texts
make the text again. -/
theorem convert_array_spec :
    (∀ (of : ValueType κ) (t : Text),
      (∀ v, (array of).convert t = .ok (some v) ↔ ∃ vs, v = .list vs ∧
        List.Forall₂ (fun piece w => piece ≠ [] ∧ of.convert piece = .ok (some w)) (Text.splitOn ',' t) vs) ∧
      ((array of).convert t = .ok none ↔ of.StopsAt t fun piece => piece = [] ∨ of.convert piece = .ok none) ∧
      (∀ fault, (array of).convert t = .error fault ↔
        of.StopsAt t fun piece => piece ≠ [] ∧ of.convert piece = .error fault) ∧
      ((∀ piece ∈ Text.splitOn ',' t, ∃ answer, of.convert piece = .ok answer) →
        (∃ vs, (array of).convert t = .ok (some (.list vs))) ∨ (array of).convert t = .ok none) ∧
      of.convert t ≠ .ok (some .none)) ∧
    (∀ texts : List Text, texts ≠ [] → (∀ t ∈ texts, t ≠ [] ∧ ',' ∉ t) →
      (array string : ValueType κ).convert (Text.join [','] texts) = .ok (some (.list (texts.map .text)))) ∧
    (∀ t v, (array string : ValueType κ).convert t = .ok (some v) →
      ∃ texts : List Text, v = .list (texts.map .text) ∧ Text.join [','] texts = t) ∧
    ∀ numbers : List Int, numbers ≠ [] → (∀ n ∈ numbers, n.natAbs < 10 ^ maxDigits) →
      (array int : ValueType κ).convert (Text.join [','] (numbers.map integerText)) =
        .ok (some (.list (numbers.map .int))) := by
  refine ⟨fun of t => ⟨fun v => ?_, ?_, fun fault => ?_, fun answers => ?_, convert_ne_some_none of t⟩,
    fun texts => convert_array_texts, fun t v => exists_texts_of_convert_array, fun numbers => convert_array_integers⟩
  · simp only [convert_array_eq_some_iff, convertPieces_eq_some_iff, element_eq_some_iff]
  · have halts : (array of).convert t = halt none ↔ _ := convert_array_eq_halt_iff_stopsAt
    simpa only [halt, element_eq_none_iff] using halts
  · have halts : (array of).convert t = halt (some fault) ↔ _ := convert_array_eq_halt_iff_stopsAt
    simpa only [halt, element_eq_error_iff] using halts
  · rcases eq_some_or_eq_halt ((array of).convert t) with ⟨v, converted⟩ | ⟨cause, halted⟩
    · obtain ⟨vs, rfl, -⟩ := convert_array_eq_some converted
      exact .inl ⟨vs, converted⟩
    · cases cause with
      | none => exact .inr halted
      | some fault =>
        obtain ⟨piece, member, -, failed⟩ := convert_array_eq_error halted
        obtain ⟨answer, answered⟩ := answers piece member
        cases failed.symm.trans answered

/-- Texts with blanks, and integers with signs, are joined and converted; behind a piece that converts, an empty piece and
one that is no integer stop the conversion. -/
theorem convert_array_spec_rows :
    letI : Conversions Empty := ⟨fun function _ => nomatch function⟩
    let texts : ValueType Empty := .array .string
    let integers : ValueType Empty := .array .int
    texts.convert "a,b c,é".toList = .ok (some (.list [.text "a".toList, .text "b c".toList, .text "é".toList])) ∧
      (∃ pieces : List Text, Value.list [.text "a".toList, .text "b c".toList, .text "é".toList] =
        .list (pieces.map .text) ∧ Text.join [','] pieces = "a,b c,é".toList) ∧
      integers.convert "-7,0,12".toList = .ok (some (.list [.int (-7), .int 0, .int 12])) ∧
      integers.convert "71,,x".toList = .ok none ∧ integers.convert "71,x,".toList = .ok none := by
  intro texts integers
  let _ : Conversions Empty := ⟨fun function _ => nomatch function⟩
  obtain ⟨arrays, join, split, numbers⟩ := @convert_array_spec Empty _
  have joined := join ["a".toList, "b c".toList, "é".toList] nofun (by decide)
  have small (n : Int) (h : n.natAbs < 10 ^ 2) : n.natAbs < 10 ^ maxDigits :=
    Nat.lt_of_lt_of_le h (Nat.pow_le_pow_right (show 0 < 10 by decide) (show 2 ≤ maxDigits by decide))
  have counted := numbers [-7, 0, 12] nofun fun n hn => small n (by revert n; decide)
  have first : "71".toList ≠ [] ∧ ∃ v, (int : ValueType Empty).convert "71".toList = .ok (some v) := ⟨nofun, _, rfl⟩
  refine ⟨joined, split _ _ joined, counted, (arrays .int _).2.1.2 ?_, (arrays .int _).2.1.2 ?_⟩
  · exact ⟨["71".toList], [], ["x".toList], rfl, by simpa using first, .inl rfl⟩
  · exact ⟨["71".toList], "x".toList, [[]], rfl, by simpa using first, .inr rfl⟩

/-- The failure of a function that is no refusal is the failure of an array of its type: the text has no value, but it is
not refused either. -/
theorem convert_array_eq_error_of_function :
    letI : Conversions Unit := ⟨fun _ t => .error (.missingKey t)⟩
    let type : ValueType Unit := .array (.guarded (.text "k".toList) ())
    type.convert "v".toList = .error (.missingKey "v".toList) ∧ (∀ vs, type.convert "v".toList ≠ .ok (some (.list vs))) ∧
      type.convert "v".toList ≠ .ok none := by
  intro type
  exact ⟨rfl, nofun, nofun⟩

end ValueType

end TypedRoutes
