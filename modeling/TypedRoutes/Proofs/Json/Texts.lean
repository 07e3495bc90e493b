import TypedRoutes.Json.Writer
import TypedRoutes.Proofs.Json.Reading
import TypedRoutes.Proofs.Text.Pieces

/-!
# Lists of texts in JSON

There are many ways to write a list of texts: a character stands for itself, is escaped by a letter, or by its units in
hexadecimal digits, capitals or small letters; and blanks may stand around every token. `SpellsTexts` is the grammar,
from the opening bracket on. Reading takes every such text back to the list (`read_of_spellsTexts`), and what is written
for a list, on one line or with an indentation, is such a text (`spellsTexts_write`).
-/

namespace TypedRoutes.Json

set_option autoImplicit false

/-! ## Grammar -/

/-- A unit in hexadecimal digits. -/
inductive SpellsUnit (n : Nat) : Text → Prop where
  | digits {a b c d : Char} (unit : hexUnit? a b c d = some n) : SpellsUnit n ['\\', 'u', a, b, c, d]

/-- The first half of the pair of units for a character beyond the first plane. -/
def highHalf (c : Char) : Nat := 0xD800 + (c.toNat - 0x10000) / 0x400

/-- The second half of the pair. -/
def lowHalf (c : Char) : Nat := 0xDC00 + (c.toNat - 0x10000) % 0x400

/-- A character between quotes. -/
inductive SpellsChar (c : Char) : Text → Prop where
  | plain (printable : 32 ≤ c.toNat) (quote : c ≠ '"') (backslash : c ≠ '\\') : SpellsChar c [c]
  | short {e : Char} (escape : escaped? e = some c) : SpellsChar c ['\\', e]
  | unit {w : Text} (unit : SpellsUnit c.toNat w) : SpellsChar c w
  | pair {v w : Text} (beyond : 0x10000 ≤ c.toNat) (high : SpellsUnit (highHalf c) v) (low : SpellsUnit (lowHalf c) w) :
      SpellsChar c (v ++ w)

/-- The characters of a text between quotes. -/
inductive SpellsText : Text → Text → Prop where
  | nil : SpellsText [] []
  | cons {c : Char} {t v w : Text} (first : SpellsChar c v) (rest : SpellsText t w) : SpellsText (c :: t) (v ++ w)

/-- The further texts of a list behind one of them, or its end. -/
inductive SpellsRest : List Text → Text → Prop where
  | close {gap tail : Text} (before : Blank gap) (after : Blank tail) : SpellsRest [] (gap ++ ']' :: tail)
  | next {gap gap' name w rest : Text} {names : List Text} (before : Blank gap) (after : Blank gap')
      (text : SpellsText name w) (others : SpellsRest names rest) :
      SpellsRest (name :: names) (gap ++ ',' :: gap' ++ '"' :: w ++ '"' :: rest)

/-- A list of texts from its opening bracket on. -/
inductive SpellsTexts : List Text → Text → Prop where
  | empty {rest : Text} (close : SpellsRest [] rest) : SpellsTexts [] ('[' :: rest)
  | cons {gap name w rest : Text} {names : List Text} (blank : Blank gap) (text : SpellsText name w)
      (others : SpellsRest names rest) : SpellsTexts (name :: names) ('[' :: gap ++ '"' :: w ++ '"' :: rest)

/-! ## Reading a text -/

/-- The number of a character is no half of a pair, and within the range of characters. -/
theorem toNat_scalar (c : Char) : c.toNat < 0xD800 ∨ 0xDFFF < c.toNat ∧ c.toNat < 0x110000 := c.valid

/-- No character is half of a pair: the code points of the halves are those of no character. -/
theorem isHighHalf_toNat (c : Char) : isHighHalf c.toNat = false := by
  have scalar := toNat_scalar c
  simp only [isHighHalf, Bool.and_eq_false_iff, decide_eq_false_iff_not]
  omega

theorem isLowHalf_toNat (c : Char) : isLowHalf c.toNat = false := by
  have scalar := toNat_scalar c
  simp only [isLowHalf, Bool.and_eq_false_iff, decide_eq_false_iff_not]
  omega

/-- A unit that is the code point of a character stands for that character. -/
theorem ofUnits_toNat_cons (c : Char) (units : List Nat) : ofUnits (c.toNat :: units) = c :: ofUnits units := by
  have own : unitChar c.toNat = c := by simp [unitChar, isHighHalf_toNat, isLowHalf_toNat]
  cases units with
  | nil => exact congrArg (· :: []) own
  | cons unit units => rw [ofUnits, isHighHalf_toNat, Bool.false_and, if_neg (by simp), own]

/-- The two halves of a character beyond the basic plane stand for it together. -/
theorem ofUnits_halves_cons {c : Char} (beyond : 0x10000 ≤ c.toNat) (units : List Nat) :
    ofUnits (highHalf c :: lowHalf c :: units) = c :: ofUnits units := by
  have scalar := toNat_scalar c
  have high : isHighHalf (highHalf c) = true := by
    rw [isHighHalf, highHalf, decide_eq_true (by omega), decide_eq_true (by omega)]
    rfl
  have low : isLowHalf (lowHalf c) = true := by
    rw [isLowHalf, lowHalf, decide_eq_true (by omega), decide_eq_true (by omega)]
    rfl
  have value : 0x10000 + (highHalf c - 0xD800) * 0x400 + (lowHalf c - 0xDC00) = c.toNat := by
    simp only [highHalf, lowHalf]
    omega
  rw [ofUnits, high, low, Bool.and_self, if_pos rfl, value, Char.ofNat_toNat]

/-- An escape of a unit is read when something stands behind it. -/
theorem SpellsUnit.readUnits_append {n : Nat} {w : Text} (spells : SpellsUnit n w) (opening : Nat) {rest : Text}
    (more : rest ≠ []) : readUnits opening (w ++ rest) = prepend n (readUnits opening rest) := by
  obtain ⟨unit⟩ := spells
  cases rest with
  | nil => exact absurd rfl more
  | cons c rest => simp only [List.cons_append, List.nil_append, readUnits, unit]

/-- Whatever way a character is written, its units are read, and they make up the character. -/
theorem SpellsChar.readUnits_append {c : Char} {w : Text} (spells : SpellsChar c w) :
    ∃ units, (∀ opening rest, rest ≠ [] → readUnits opening (w ++ rest) = units.foldr prepend (readUnits opening rest)) ∧
      ∀ more, ofUnits (units ++ more) = c :: ofUnits more := by
  cases spells with
  | plain printable quote backslash =>
    refine ⟨[c.toNat], fun opening rest _ => ?_, ofUnits_toNat_cons c⟩
    rw [List.singleton_append, readUnits, if_neg (by omega)]
    · rfl
    all_goals simp_all
  | @short e escape =>
    refine ⟨[c.toNat], fun opening rest _ => ?_, ofUnits_toNat_cons c⟩
    have letter : e ≠ 'u' := by
      rintro rfl
      cases escape
    rw [List.cons_append, List.singleton_append, readUnits, escape]
    · rfl
    all_goals simp_all
  | unit unit => exact ⟨[c.toNat], fun opening rest more => unit.readUnits_append opening more, ofUnits_toNat_cons c⟩
  | @pair v w beyond high low =>
    refine ⟨[highHalf c, lowHalf c], fun opening rest more => ?_, ofUnits_halves_cons beyond⟩
    rw [List.append_assoc, high.readUnits_append opening (by simp [more]), low.readUnits_append opening more]
    rfl

/-- The reader follows a spelling of a text up to the closing quotation mark, and its units stand for the text. -/
theorem SpellsText.readUnits_append {t w : Text} (spells : SpellsText t w) :
    ∃ units, ofUnits units = t ∧ ∀ opening rest, readUnits opening (w ++ '"' :: rest) = .ok (units, rest) := by
  induction spells with
  | nil => exact ⟨[], rfl, fun _ _ => rfl⟩
  | @cons c t v w first _ ih =>
    obtain ⟨units, denote, read⟩ := ih
    obtain ⟨own, readOwn, ofOwn⟩ := first.readUnits_append
    refine ⟨own ++ units, by rw [ofOwn, denote], fun opening rest => ?_⟩
    rw [List.append_assoc, readOwn _ _ (by simp), read]
    clear readOwn ofOwn
    induction own with
    | nil => rfl
    | cons unit own ih => rw [List.foldr_cons, ih, prepend, List.cons_append]

/-- A text is read in whatever way it is written. -/
theorem SpellsText.readText_append {t w : Text} (spells : SpellsText t w) (rest : Text) :
    readText (w ++ '"' :: rest) = .ok (t, rest) := by
  obtain ⟨units, denote, read⟩ := spells.readUnits_append
  simp only [readText, read, denote]

/-! ## Reading a list -/

/-- A spelling of a text between quotation marks is read as the text. -/
theorem readValue_quote (depth : Nat) {t w : Text} (spells : SpellsText t w) (rest : Text) :
    readValue depth ('"' :: (w ++ '"' :: rest)) = .ok (.text t, rest) := by
  cases depth <;> simp only [readValue, spells.readText_append] <;> rfl

/-- Each further name takes at least one character, so that the length of a text bounds their number. -/
theorem SpellsRest.length_le {names : List Text} {rest : Text} (spells : SpellsRest names rest) :
    names.length ≤ rest.length := by
  induction spells with
  | close => simp
  | next _ _ _ _ ih =>
    simp only [List.length_cons, List.length_append]
    omega

/-- The items of a list are read up to its closing bracket, behind which there are only blanks. -/
theorem SpellsRest.readItems (depth : Nat) {names : List Text} {rest : Text} (spells : SpellsRest names rest)
    {name w : Text} (text : SpellsText name w) {bound : Nat} (enough : names.length < bound) :
    ∃ tail, Blank tail ∧ readItems (readValue depth) bound ('"' :: (w ++ '"' :: rest)) =
      .ok ((name :: names).map .text, tail) := by
  induction spells generalizing name w bound with
  | @close gap tail before after =>
    obtain ⟨bound, rfl⟩ := Nat.exists_eq_succ_of_ne_zero (Nat.ne_of_gt enough)
    refine ⟨tail, after, ?_⟩
    rw [Json.readItems, readValue_quote depth text]
    simp only [skipBlanks_append before (by decide : isBlank ']' = false)]
    rfl
  | @next gap gap' other v rest names before after second _ ih =>
    obtain ⟨bound, rfl⟩ := Nat.exists_eq_succ_of_ne_zero (Nat.ne_of_gt (Nat.zero_lt_of_lt enough))
    obtain ⟨tail, blank, read⟩ := ih second (Nat.lt_of_succ_lt_succ enough)
    refine ⟨tail, blank, ?_⟩
    rw [Json.readItems, readValue_quote depth text]
    simp only [List.append_assoc, List.cons_append, skipBlanks_append before (by decide : isBlank ',' = false),
      skipBlanks_append after (by decide : isBlank '"' = false), read]
    rfl

/-- A list of texts is read in whatever way it is written. -/
theorem read_of_spellsTexts {names : List Text} {t : Text} (spells : SpellsTexts names t) :
    read t = .ok (.list (names.map .text)) := by
  cases spells with
  | empty close =>
    obtain ⟨before, after⟩ := close
    refine (read_eq_ok_iff_of_bracket rfl).2 ⟨_, ?_, after⟩
    rw [maxDepth, readValue, readArray, skipBlanks_append before (by decide)]
    rfl
  | @cons gap name w rest names blank text others =>
    have enough : names.length < ('"' :: (w ++ '"' :: rest)).length + 1 := by
      have := others.length_le
      simp only [List.length_cons, List.length_append]
      omega
    obtain ⟨tail, clear, items⟩ := others.readItems (maxDepth - 1) text enough
    refine (read_eq_ok_iff_of_bracket rfl).2 ⟨tail, ?_, clear⟩
    rw [maxDepth, List.append_assoc, List.cons_append, List.cons_append, readValue]
    rw [readArray_of_ne _ (skipBlanks_append blank (by decide) _) (by decide)]
    exact congrArg (Except.map _) items

/-! ## Writing a list -/

/-- Four hexadecimal digits spell the unit that they are written for. -/
theorem spellsUnit_unitEscape {n : Nat} (small : n < 0x10000) : SpellsUnit n (unitEscape n) := by
  have digit : ∀ m < 16, Text.hexValue? (Text.hexDigit m) = some m := by decide
  refine .digits ?_
  simp only [hexUnit?, Text.hexOctet?, digit _ (Nat.mod_lt _ (by decide : 0 < 16))]
  refine congrArg some ?_
  omega

/-- Writing a character spells it: as it stands, by a short escape, or by the escapes of its units. -/
theorem spellsChar_writtenChar (c : Char) : SpellsChar c (writtenChar c) := by
  unfold writtenChar
  -- the characters that have an escape of their own
  iterate 7
    split
    · rename_i same
      exact same ▸ .short rfl
  split
  · rename_i quote backslash _ _ _ _ _ printable
    exact .plain printable.1 quote backslash
  split
  · rename_i small
    exact .unit (spellsUnit_unitEscape small)
  · rename_i large
    have scalar := toNat_scalar c
    have high : highHalf c < 0x10000 := by
      unfold highHalf
      omega
    have low : lowHalf c < 0x10000 := by
      unfold lowHalf
      omega
    exact .pair (by omega) (spellsUnit_unitEscape high) (spellsUnit_unitEscape low)

theorem spellsText_flatMap (t : Text) : SpellsText t (t.flatMap writtenChar) := by
  induction t with
  | nil => exact .nil
  | cons c t ih => exact .cons (spellsChar_writtenChar c) ih

theorem blank_lineBreak (indent : Option Int) (depth : Nat) : Blank (lineBreak indent depth) := by
  cases indent with
  | none => exact blank_nil
  | some width =>
    refine List.forall_mem_cons.2 ⟨rfl, fun c member => ?_⟩
    rw [List.eq_of_mem_replicate member]
    rfl

/-- Names that are written behind a comma and a gap each spell the rest of a list. -/
theorem spellsRest_written {gap close : Text} (before : Blank gap) (after : Blank close) (names : List Text) :
    SpellsRest names (names.flatMap (fun name => ',' :: gap ++ writtenText name) ++ (close ++ [']'])) := by
  induction names with
  | nil => exact .close after blank_nil
  | cons name names ih =>
    have first : SpellsRest (name :: names) ([] ++ ',' :: gap ++ '"' :: name.flatMap writtenChar ++ '"' :: _) :=
      .next blank_nil before (spellsText_flatMap name) ih
    simpa [writtenText] using first

/-- What is written for a list of texts is a way to write it. -/
theorem spellsTexts_write (indent : Option Int) (names : List Text) :
    SpellsTexts names (write indent (.list (names.map .text))) := by
  have items : ∀ names : List Text, writtenItems indent 1 (names.map .text) = names.map writtenText := by
    intro names
    induction names with
    | nil => rfl
    | cons name names ih => simp [writtenItems, written, ih]
  have separated : ∃ gap, Blank gap ∧
      (if indent.isNone then ", ".toList else ',' :: lineBreak indent (0 + 1)) = ',' :: gap := by
    cases indent with
    | none => exact ⟨[' '], by simp [Blank, isBlank], rfl⟩
    | some width => exact ⟨_, blank_lineBreak (some width) 1, rfl⟩
  obtain ⟨gap, blank, separator⟩ := separated
  cases names with
  | nil => exact .empty (.close blank_nil blank_nil)
  | cons name names =>
    have whole : SpellsTexts (name :: names) ('[' :: lineBreak indent 1 ++ '"' :: name.flatMap writtenChar ++ '"' :: _) :=
      .cons (blank_lineBreak indent 1) (spellsText_flatMap name) (spellsRest_written blank (blank_lineBreak indent 0) names)
    rw [write, written, items, bracketed, separator, if_neg (by simp), List.map_cons]
    dsimp only
    rw [Text.join_glue_cons, List.flatMap_map]
    simpa [writtenText] using whole

end TypedRoutes.Json
