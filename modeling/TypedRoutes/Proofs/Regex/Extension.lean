import TypedRoutes.Proofs.Regex.Covering
import TypedRoutes.Proofs.Stages
import TypedRoutes.Regex.Parser

/-!
# Reading with a dollar sign behind the text

A dollar sign put behind a text is one more piece, or the character that a backslash at the end escapes (`extended`).
The readers of the parts of an expression do not see it: each of them stops at a sign that it looks for, or at the
number of digits that it wants, so that what it reads is the same and the dollar sign is still there afterwards
(`…_extended`). Where the text ends too early for a reader, it fails, and nothing is said.
-/

namespace TypedRoutes.Regex

set_option autoImplicit false

/-- The pieces of a text with a dollar sign behind it, given those of the text. A backslash at the end takes the sign
as the character that it escapes. -/
def extended : List Piece → List Piece
  | [] => [.plain '$']
  | [.dangling] => [.escaped '$']
  | piece :: rest => piece :: extended rest

@[simp] theorem extended_plain (c : Char) (rest : List Piece) : extended (.plain c :: rest) = .plain c :: extended rest := rfl

@[simp] theorem extended_escaped (c : Char) (rest : List Piece) :
    extended (.escaped c :: rest) = .escaped c :: extended rest := rfl

/-- A dollar sign behind a text is a piece of its own, or the one that a final backslash escapes. -/
theorem pieces_append_dollar (t : Text) : pieces (t ++ ['$']) = extended (pieces t) := by
  induction t using pieces.induct with
  | case1 => rfl
  | case2 c => by_cases hc : c = '\\' <;> simp [pieces, extended, hc]
  | case3 d rest ih => simp [pieces, ih]
  | case4 c d rest hc ih =>
    rw [List.cons_append, List.cons_append, pieces, if_neg hc, ← List.cons_append, ih, pieces, if_neg hc]
    rfl

/-- A sign other than the dollar sign is seen in front only when it stands there anyway. -/
theorem eq_cons_of_extended {c : Char} (hc : c ≠ '$') {rest more : List Piece} (h : extended rest = .plain c :: more) :
    ∃ after, rest = .plain c :: after ∧ extended after = more := by
  match rest with
  | [] => exact absurd (by cases h; rfl) hc
  | .plain d :: rest =>
    obtain ⟨hd, hm⟩ := List.cons_eq_cons.1 h
    exact ⟨rest, by rw [hd], hm⟩
  | .escaped d :: rest => cases h
  | [.dangling] => cases h
  | .dangling :: piece :: rest => cases h

/-- What does not start with a sign other than the dollar does not start with it in the longer source either. -/
theorem extended_ne_cons {c : Char} (hc : c ≠ '$') {rest : List Piece} (h : ∀ more, rest ≠ .plain c :: more)
    (more : List Piece) : extended rest ≠ .plain c :: more := by
  intro he
  obtain ⟨after, ha, -⟩ := eq_cons_of_extended hc he
  exact h after ha

/-- A source with a dollar sign behind what is left to read. -/
def Source.extended (source : Source) : Source := { source with rest := Regex.extended source.rest }

/-! ## Digits and escapes -/

section Readers

variable {rest rest' : List Piece} {source source' : Source}

/-- A dollar sign is no digit, so that the same digits are taken. -/
theorem takeDigits_extended {isDigit : Char → Bool} (dollar : isDigit '$' = false) (n : Nat) (rest : List Piece) :
    takeDigits isDigit n (extended rest) =
      ((takeDigits isDigit n rest).1, extended (takeDigits isDigit n rest).2) := by
  induction n generalizing rest with
  | zero => rfl
  | succ n ih =>
    match rest with
    | [] => simp [extended, takeDigits, dollar]
    | .plain c :: rest =>
      rw [extended_plain, takeDigits, takeDigits]
      by_cases hc : isDigit c = true <;> simp [hc, ih]
    | .escaped c :: rest => rfl
    | [.dangling] => rfl
    | .dangling :: piece :: rest => rfl

/-- Wanting more digits than there are pieces makes no difference. -/
theorem takeDigits_of_length_le {isDigit : Char → Bool} {n : Nat} (h : rest.length ≤ n) :
    takeDigits isDigit n rest = takeDigits isDigit rest.length rest := by
  induction rest generalizing n with
  | nil => cases n <;> rfl
  | cons piece rest ih =>
    obtain ⟨n, rfl⟩ : ∃ m, n = m + 1 := ⟨n - 1, by simp at h; omega⟩
    cases piece with
    | plain c =>
      have fewer : rest.length ≤ n := by simpa using h
      rw [List.length_cons, takeDigits, takeDigits, ih fewer]
    | escaped c => rfl
    | dangling => rfl

theorem hexCode_extended {count code : Nat} (h : hexCode count rest = .ok (code, rest')) :
    hexCode count (extended rest) = .ok (code, extended rest') := by
  have dollar : (Text.hexValue? '$').isSome = false := by decide
  unfold hexCode at h ⊢
  rw [takeDigits_extended dollar]
  simp only at h ⊢
  split at h
  · rw [if_pos ‹_›]
    cases h
    rfl
  · cases h

/-- A name that ends at a sign is the same in the longer source. -/
theorem nameUntil_extended {close : Char} {name : Text} (h : nameUntil close rest = some (name, rest')) :
    nameUntil close (extended rest) = some (name, extended rest') := by
  induction rest using nameUntil.induct close generalizing name with
  | case1 => cases h
  | case2 rest =>
    rw [nameUntil, if_pos rfl] at h
    cases h
    rw [extended_plain, nameUntil, if_pos rfl]
  | case3 c rest hc ih =>
    rw [nameUntil, if_neg hc] at h
    obtain ⟨⟨name, after⟩, hn, h⟩ := Option.map_eq_some_iff.1 h
    cases h
    rw [extended_plain, nameUntil, if_neg hc, ih hn]
    rfl
  | case4 c rest ih =>
    rw [nameUntil] at h
    obtain ⟨⟨name, after⟩, hn, h⟩ := Option.map_eq_some_iff.1 h
    cases h
    rw [extended_escaped, nameUntil, ih hn]
    rfl
  | case5 => cases h

theorem namedCode_extended [CharacterNames] {code : Nat} (h : namedCode rest = .ok (code, rest')) :
    namedCode (extended rest) = .ok (code, extended rest') := by
  unfold namedCode at h
  split at h
  · rename_i rest
    split at h
    · rename_i name after read
      rw [extended_plain, namedCode, nameUntil_extended read]
      simp only
      split at h
      · cases h
        rfl
      · cases h
    · cases h
  · cases h

/-- What a backslash stands in front of reads the same code point in the longer source. -/
theorem escapedCode_extended [CharacterNames] {c : Char} {code : Nat} (h : escapedCode c rest = .ok (code, rest')) :
    escapedCode c (extended rest) = .ok (code, extended rest') := by
  have dollar : isOctal '$' = false := by decide
  unfold escapedCode at h ⊢
  cases hc : control? c with
  | some n =>
    rw [hc] at h
    cases h
    rfl
  | none =>
    rw [hc] at h
    simp only at h ⊢
    split at h
    · rw [if_pos ‹_›]
      exact hexCode_extended h
    rw [if_neg ‹_›]
    split at h
    · rw [if_pos ‹_›]
      exact hexCode_extended h
    rw [if_neg ‹_›]
    split at h
    · rw [if_pos ‹_›]
      exact hexCode_extended h
    rw [if_neg ‹_›]
    split at h
    · rw [if_pos ‹_›]
      exact namedCode_extended h
    rw [if_neg ‹_›]
    split at h
    · rw [if_pos ‹_›, takeDigits_extended dollar]
      simp only
      split at h
      · rw [if_pos ‹_›]
        cases h
        rfl
      · cases h
    rw [if_neg ‹_›]
    split at h
    · cases h
    · rw [if_neg ‹_›]
      cases h
      rfl

theorem reference_extended {flags : Flags} {index : Nat} {r : Regex} (h : reference flags index source = .ok (r, source')) :
    reference flags index source.extended = .ok (r, source'.extended) ∧ source'.book = source.book := by
  unfold reference at h ⊢
  split at h
  · rw [if_pos (by assumption)]
    cases h
    exact ⟨rfl, rfl⟩
  · cases h

/-- An escape reads the same item in the longer source. -/
theorem escape_extended [CharacterNames] {flags : Flags} {c : Char} {r : Regex}
    (h : escape flags c source = .ok (r, source')) :
    escape flags c source.extended = .ok (r, source'.extended) ∧ source'.book = source.book := by
  have decimal : Char.isDigit '$' = false := by decide
  have octal : isOctal '$' = false := by decide
  unfold escape at h ⊢
  cases hk : category? c with
  | some found =>
    obtain ⟨kind, negated⟩ := found
    rw [hk] at h
    cases h
    exact ⟨rfl, rfl⟩
  | none =>
    cases ha : anchor? flags c with
    | some a =>
      rw [hk, ha] at h
      cases h
      exact ⟨rfl, rfl⟩
    | none =>
      simp only [hk, ha] at h ⊢
      split at h
      · rw [if_pos ‹_›]
        simp only [Source.extended, takeDigits_extended decimal, takeDigits_extended octal]
        split at h
        · rw [if_pos ‹_›]
          split at h
          · rw [if_pos ‹_›]
            cases h
            exact ⟨rfl, rfl⟩
          · cases h
        · rw [if_neg ‹_›]
          exact reference_extended h
      · rw [if_neg ‹_›]
        obtain ⟨⟨code, rest⟩, hc, h⟩ := bind_eq_ok_iff.1 h
        cases h
        refine ⟨?_, rfl⟩
        rw [Source.extended, escapedCode_extended hc]
        rfl

/-! ## Sets and repetitions -/

/-- A member of a set reads the same in the longer source. -/
theorem setAtom_extended [CharacterNames] {asciiOnly : Bool} {piece : Piece} {item : SetItem}
    (h : setAtom asciiOnly piece rest = .ok (item, rest')) :
    setAtom asciiOnly piece (extended rest) = .ok (item, extended rest') := by
  cases piece with
  | plain c =>
    cases h
    rfl
  | escaped c =>
    unfold setAtom at h ⊢
    cases hk : category? c with
    | some found =>
      simp only [hk] at h ⊢
      cases h
      rfl
    | none =>
      simp only [hk] at h ⊢
      split at h
      · rw [if_pos ‹_›]
        cases h
        rfl
      · rw [if_neg ‹_›]
        obtain ⟨⟨code, rest⟩, hc, h⟩ := bind_eq_ok_iff.1 h
        cases h
        rw [escapedCode_extended hc]
        rfl
  | dangling => cases h

/-- A piece that makes a member of a set is not a backslash at the end, so that the sign comes behind it. -/
theorem extended_cons_of_setAtom [CharacterNames] {asciiOnly : Bool} {piece : Piece} {item : SetItem}
    (h : setAtom asciiOnly piece rest = .ok (item, rest')) : extended (piece :: rest) = piece :: extended rest := by
  cases piece with
  | plain c => rfl
  | escaped c => rfl
  | dangling => cases h

theorem setItems_nil [CharacterNames] (asciiOnly : Bool) (n : Nat) (items : List SetItem) :
    setItems asciiOnly n items [] = .error .malformed := by
  cases n <;> rfl

theorem setItems_dash [CharacterNames] (asciiOnly : Bool) (n : Nat) (items : List SetItem) :
    setItems asciiOnly n items [.plain '-'] = .error .malformed := by
  cases n with
  | zero => rfl
  | succ n => simp [setItems, setAtom, setItems_nil, bind, Except.bind]

/-- The members of a set of characters end before the sign, since a bracket has to close them. -/
theorem setItems_extended [CharacterNames] {asciiOnly : Bool} {n : Nat} {items all : List SetItem}
    (h : setItems asciiOnly n items rest = .ok (all, rest')) (k : Nat) :
    setItems asciiOnly (n + k) items (extended rest) = .ok (all, extended rest') := by
  induction n generalizing items rest with
  | zero => cases h
  | succ n ih =>
    rw [Nat.add_right_comm]
    match rest with
    | [] => cases h
    | piece :: rest =>
      rw [setItems] at h
      split at h
      · rename_i closes
        cases h
        rw [closes.1, extended_plain, setItems, if_pos ⟨rfl, closes.2⟩]
      · rename_i goes
        obtain ⟨⟨item, after⟩, hi, h⟩ := bind_eq_ok_iff.1 h
        rw [extended_cons_of_setAtom hi, setItems, if_neg goes, setAtom_extended hi]
        refine bind_eq_ok_iff.2 ⟨_, rfl, ?_⟩
        simp only at h ⊢
        split at h
        · cases h
          rfl
        · rename_i last more unclosed
          obtain ⟨⟨lastItem, after⟩, hl, h⟩ := bind_eq_ok_iff.1 h
          rw [extended_plain, extended_cons_of_setAtom hl]
          simp only [setAtom_extended hl]
          refine bind_eq_ok_iff.2 ⟨_, rfl, ?_⟩
          simp only at h ⊢
          split at h
          · split at h
            · rw [if_pos ‹_›]
              exact ih h
            · cases h
          · cases h
        · rename_i unranged
          have single : after ≠ [.plain '-'] := by
            rintro rfl
            rw [setItems_dash] at h
            cases h
          have far : ∀ last more, extended after ≠ .plain '-' :: last :: more := by
            intro last more he
            obtain ⟨next, rfl, hn⟩ := eq_cons_of_extended (by decide) he
            cases next with
            | nil => exact single rfl
            | cons last more => exact unranged last more rfl
          split
          · exact absurd ‹_› (far _ _)
          · exact absurd ‹_› (far _ _)
          · exact ih h

theorem length_le_extended (rest : List Piece) : rest.length ≤ (extended rest).length := by
  induction rest using extended.induct with
  | case1 => simp
  | case2 => simp [extended]
  | case3 piece rest h ih => simpa [extended] using ih

/-- The set of characters once it is settled whether it is negated. -/
def membersOf [CharacterNames] (flags : Flags) (negated : Bool) (rest : List Piece) :
    Except Refusal (Regex × List Piece) := do
  let (items, rest) ← setItems flags.asciiOnly rest.length [] rest
  return (.set { negated, items := foldItems flags.folding items, folding := flags.folding }, rest)

theorem charSet_caret [CharacterNames] (flags : Flags) (rest : List Piece) :
    charSet flags (.plain '^' :: rest) = membersOf flags true rest := rfl

theorem charSet_of_ne [CharacterNames] {flags : Flags} (h : ∀ more, rest ≠ .plain '^' :: more) :
    charSet flags rest = membersOf flags false rest := by
  match rest with
  | [] => rfl
  | .plain c :: rest =>
    simp [charSet, membersOf]
  | .escaped c :: rest => rfl
  | .dangling :: rest => rfl

theorem membersOf_extended [CharacterNames] {flags : Flags} {negated : Bool} {r : Regex}
    (h : membersOf flags negated rest = .ok (r, rest')) :
    membersOf flags negated (extended rest) = .ok (r, extended rest') := by
  obtain ⟨⟨items, after⟩, hm, h⟩ := bind_eq_ok_iff.1 h
  cases h
  obtain ⟨k, hk⟩ := Nat.exists_eq_add_of_le (length_le_extended rest)
  rw [membersOf, hk, setItems_extended hm k]
  rfl

/-- A set in brackets is the same in the longer source. -/
theorem charSet_extended [CharacterNames] {flags : Flags} {r : Regex} (h : charSet flags rest = .ok (r, rest')) :
    charSet flags (extended rest) = .ok (r, extended rest') := by
  by_cases caret : ∃ more, rest = .plain '^' :: more
  · obtain ⟨more, rfl⟩ := caret
    rw [charSet_caret] at h
    rw [extended_plain, charSet_caret]
    exact membersOf_extended h
  · have unnegated : ∀ more, rest ≠ .plain '^' :: more := fun more hm => caret ⟨more, hm⟩
    rw [charSet_of_ne unnegated] at h
    rw [charSet_of_ne (extended_ne_cons (by decide) unnegated)]
    exact membersOf_extended h

theorem greed_extended (rest : List Piece) : greed (extended rest) = ((greed rest).1, extended (greed rest).2) := by
  match rest with
  | [] => rfl
  | .plain c :: rest =>
    rw [extended_plain]
    by_cases lazy : c = '?'
    · rw [lazy]; rfl
    · by_cases possessive : c = '+'
      · rw [possessive]; rfl
      · simp [greed, lazy, possessive]
  | .escaped c :: rest => rfl
  | [.dangling] => rfl
  | .dangling :: piece :: rest => rfl

/-- A repetition of the last item leaves the items below it alone. -/
theorem repeatLast_append {greed : Greed} {least : Nat} {most : Option Nat} {items items' : List Item}
    (h : repeatLast greed least most items = .ok items') (base : List Item) :
    repeatLast greed least most (items ++ base) = .ok (items' ++ base) ∧ items' ≠ [] := by
  unfold repeatLast at h
  split at h
  · cases h
    exact ⟨rfl, by simp⟩
  · cases h

theorem takeAllDigits_extended (rest : List Piece) :
    takeDigits Char.isDigit (extended rest).length (extended rest) =
      ((takeDigits Char.isDigit rest.length rest).1, extended (takeDigits Char.isDigit rest.length rest).2) := by
  rw [takeDigits_extended (by decide), takeDigits_of_length_le (length_le_extended rest)]

/-- The texts of two counts, whether a comma is between them, and what follows. -/
def countTexts (rest : List Piece) : Text × Text × Bool × List Piece :=
  let (least, after) := takeDigits Char.isDigit rest.length rest
  match after with
  | .plain ',' :: after =>
    let (most, after) := takeDigits Char.isDigit after.length after
    (least, most, true, after)
  | after => (least, least, false, after)

/-- The numbers of repetitions with the given texts, when a brace closes them. -/
def countsOf (least most : Text) (comma : Bool) (after : List Piece) :
    Except Refusal (Option (Nat × Option Nat × List Piece)) := do
  match after with
  | .plain '\x7d' :: after =>
    if least = [] ∧ !comma then return none
    if after.head? = some .dangling then .error .malformed
    let low ← if least = [] then pure 0 else repetitions least
    let high ← if most = [] then pure none else (repetitions most).map some
    match high with
    | some high => if high < low then .error .malformed else return some (low, some high, after)
    | none => return some (low, none, after)
  | _ => return none

/-- A count in braces is read in two steps: the texts of its bounds, and what they come to. -/
theorem braces_eq (rest : List Piece) :
    braces rest = countsOf (countTexts rest).1 (countTexts rest).2.1 (countTexts rest).2.2.1 (countTexts rest).2.2.2 := by
  unfold braces countTexts
  rcases takeDigits Char.isDigit rest.length rest with ⟨least, after⟩
  match after with
  | [] => rfl
  | .plain c :: after =>
    by_cases comma : c = ','
    · subst comma
      rfl
    · simp only [List.cons.injEq, Piece.plain.injEq, comma, false_and, imp_self, implies_true]
      rfl
  | .escaped c :: after => rfl
  | .dangling :: after => rfl

theorem countTexts_extended (rest : List Piece) :
    countTexts (extended rest) =
      ((countTexts rest).1, (countTexts rest).2.1, (countTexts rest).2.2.1, extended (countTexts rest).2.2.2) := by
  unfold countTexts
  rw [takeAllDigits_extended]
  simp only
  split
  · rename_i more he
    obtain ⟨after, ha, rfl⟩ := eq_cons_of_extended (by decide) he
    rw [ha]
    simp only [takeAllDigits_extended]
  · rename_i far
    split
    · rename_i after ha
      exact absurd (by rw [ha]; rfl) (far (extended after))
    · rfl

theorem head?_extended_ne_dangling (h : rest.head? ≠ some .dangling) : (extended rest).head? ≠ some .dangling := by
  match rest with
  | [] => simp [extended]
  | .plain c :: rest => simp
  | .escaped c :: rest => simp
  | .dangling :: rest => exact absurd rfl h

/-- The numbers of repetitions that two texts stand for. -/
def bounds (least most : Text) : Except Refusal (Nat × Option Nat) := do
  let low ← if least = [] then .ok 0 else repetitions least
  let high ← if most = [] then .ok none else (repetitions most).map some
  match high with
  | some high => if high < low then .error .malformed else .ok (low, some high)
  | none => .ok (low, none)

/-- Before a closing brace the bounds are a count, unless the braces are empty. -/
theorem countsOf_brace (least most : Text) (comma : Bool) (after : List Piece) :
    countsOf least most comma (.plain '\x7d' :: after) =
      if least = [] ∧ !comma then .ok none
      else if after.head? = some .dangling then .error .malformed
      else (bounds least most).map fun q => some (q.1, q.2, after) := by
  unfold countsOf bounds
  by_cases bare : least = [] ∧ (!comma) = true
  · simp only [bare, and_self, if_true]
    rfl
  by_cases dangling : after.head? = some .dangling
  · simp only [bare, dangling, if_true, if_false]
    rfl
  simp only [bare, dangling, if_false]
  by_cases hl : least = [] <;> by_cases hm : most = []
  all_goals simp only [hl, hm, if_true, if_false]
  · rfl
  · cases repetitions most with
    | error refusal => rfl
    | ok high => simp [bind, Except.bind, pure, Except.pure, Except.map]
  · cases repetitions least with
    | error refusal => rfl
    | ok low => rfl
  · cases repetitions least with
    | error refusal => rfl
    | ok low =>
      cases repetitions most with
      | error refusal => rfl
      | ok high => by_cases hh : high < low <;> simp [bind, Except.bind, pure, Except.pure, Except.map, hh]

theorem countsOf_of_ne {least most : Text} {comma : Bool} (h : ∀ after, rest ≠ .plain '\x7d' :: after) :
    countsOf least most comma rest = .ok none := by
  unfold countsOf
  split
  · exact absurd rfl (h _)
  · rfl

/-- What the texts of the bounds come to is the same in the longer source. -/
theorem countsOf_extended {least most : Text} {comma : Bool} {found : Option (Nat × Option Nat × List Piece)}
    (h : countsOf least most comma rest = .ok found) :
    countsOf least most comma (extended rest) = .ok (found.map fun q => (q.1, q.2.1, extended q.2.2)) := by
  by_cases brace : ∃ after, rest = .plain '\x7d' :: after
  · obtain ⟨after, rfl⟩ := brace
    rw [countsOf_brace] at h
    rw [extended_plain, countsOf_brace]
    split at h
    · rw [if_pos ‹_›]
      cases h
      rfl
    rw [if_neg ‹_›]
    split at h
    · cases h
    rw [if_neg (head?_extended_ne_dangling ‹_›)]
    cases hb : bounds least most with
    | error refusal =>
      rw [hb] at h
      cases h
    | ok q =>
      rw [hb] at h
      cases h
      rfl
  · have unbraced : ∀ after, rest ≠ .plain '\x7d' :: after := fun after ha => brace ⟨after, ha⟩
    rw [countsOf_of_ne unbraced] at h
    rw [countsOf_of_ne (extended_ne_cons (by decide) unbraced)]
    cases h
    rfl

theorem braces_extended {found : Option (Nat × Option Nat × List Piece)} (h : braces rest = .ok found) :
    braces (extended rest) = .ok (found.map fun q => (q.1, q.2.1, extended q.2.2)) := by
  rw [braces_eq] at h
  rw [braces_eq, countTexts_extended]
  exact countsOf_extended h

/-- A repetition is the same in the longer source. -/
theorem quantifier_extended {c : Char} {found : Option (Nat × Option Nat × List Piece)}
    (h : quantifier c rest = .ok found) :
    quantifier c (extended rest) = .ok (found.map fun q => (q.1, q.2.1, extended q.2.2)) := by
  unfold quantifier at h ⊢
  split at h
  · rw [if_pos ‹_›]
    cases h
    rfl
  rw [if_neg ‹_›]
  split at h
  · rw [if_pos ‹_›]
    cases h
    rfl
  rw [if_neg ‹_›]
  split at h
  · rw [if_pos ‹_›]
    cases h
    rfl
  rw [if_neg ‹_›]
  exact braces_extended h

/-! ## Parentheses -/

theorem skipComment_extended (h : skipComment rest = some rest') :
    skipComment (extended rest) = some (extended rest') := by
  induction rest with
  | nil => cases h
  | cons piece rest ih =>
    cases piece with
    | plain c =>
      by_cases hc : c = ')'
      · subst hc
        cases h
        rfl
      · have skip : ∀ rest, skipComment (.plain c :: rest) = skipComment rest := by simp [skipComment, hc]
        rw [skip] at h
        rw [extended_plain, skip]
        exact ih h
    | escaped c => exact ih h
    | dangling =>
      cases rest with
      | nil => cases h
      | cons piece rest => exact ih h

/-- A line that ends before the end of the text, and not with a lone backslash, ends before the sign. -/
theorem skipLine_extended (filled : skipLine rest ≠ []) (undangling : ∀ more, skipLine rest ≠ .dangling :: more) :
    skipLine (extended rest) = extended (skipLine rest) := by
  induction rest with
  | nil => exact absurd rfl filled
  | cons piece rest ih =>
    cases piece with
    | plain c =>
      by_cases hc : c = '\n'
      · subst hc
        rfl
      · have skip : ∀ rest, skipLine (.plain c :: rest) = skipLine rest := by simp [skipLine, hc]
        rw [skip] at filled undangling
        rw [extended_plain, skip, skip]
        exact ih filled undangling
    | escaped c => exact ih filled undangling
    | dangling => exact absurd rfl (undangling rest)

theorem flagLetters_extended {allowed closing letters found : List Char} {close : Char}
    (h : flagLetters allowed closing letters rest = some (found, close, rest')) :
    flagLetters allowed closing letters (extended rest) = some (found, close, extended rest') := by
  induction rest generalizing letters with
  | nil => cases h
  | cons piece rest ih =>
    cases piece with
    | plain c =>
      rw [flagLetters] at h
      rw [extended_plain, flagLetters]
      split at h
      · rw [if_pos ‹_›]
        cases h
        rfl
      rw [if_neg ‹_›]
      split at h
      · rw [if_pos ‹_›]
        exact ih h
      · cases h
    | escaped c => cases h
    | dangling => cases h

/-- What closes a parenthesis leaves the global flags alone. -/
def Opening.Keeps : Opening → Prop
  | .body _ close => ∀ r book, (close r book).2.globals = book.globals
  | _ => True

/-- A group that is opened is the same in the longer source, and leaves the global flags alone. -/
theorem openGroup_extended {flags : Flags} {name : Option Text} {opened : Opening}
    (h : openGroup flags name source = .ok (opened, source')) :
    openGroup flags name source.extended = .ok (opened, source'.extended) ∧
      source'.book.globals = source.book.globals ∧ opened.Keeps := by
  unfold openGroup at h ⊢
  cases name with
  | none =>
    cases h
    exact ⟨rfl, rfl, fun r book => rfl⟩
  | some name =>
    by_cases known : (source.book.names.lookup name).isSome = true
    · simp [known] at h
    · simp only [Source.extended, known] at h ⊢
      cases h
      exact ⟨rfl, rfl, fun r book => rfl⟩

theorem openLook_extended {flags : Flags} {isBehind negated : Bool} {opened : Opening}
    (h : openLook flags isBehind negated source = (opened, source')) :
    openLook flags isBehind negated source.extended = (opened, source'.extended) ∧
      source'.book.globals = source.book.globals ∧ opened.Keeps := by
  cases isBehind with
  | true =>
    cases h
    exact ⟨rfl, rfl, fun r book => rfl⟩
  | false =>
    cases h
    exact ⟨rfl, rfl, fun r book => rfl⟩

theorem openCondition_extended {opened : Opening} (h : openCondition source = .ok (opened, source')) :
    openCondition source.extended = .ok (opened, source'.extended) ∧
      source'.book.globals = source.book.globals ∧ opened.Keeps := by
  unfold openCondition at h ⊢
  cases hn : nameUntil ')' source.rest with
  | none =>
    rw [hn] at h
    cases h
  | some found =>
    obtain ⟨name, after⟩ := found
    rw [hn] at h
    simp only [Source.extended, nameUntil_extended hn] at h ⊢
    split at h
    · cases h
    · split at h
      · cases h
        exact ⟨if_pos ‹_›, rfl, trivial⟩
      · cases h

/-- Flags that are not at the very start are those of a group. -/
theorem openFlags_extended {flags : Flags} {opened : Opening} (h : openFlags flags false source = .ok (opened, source')) :
    openFlags flags false source.extended = .ok (opened, source'.extended) ∧
      source'.book.globals = source.book.globals ∧ opened.Keeps := by
  unfold openFlags at h ⊢
  cases hf : flagLetters ['i', 'm', 's', 'x', 'a', 'u', 't'] [')', ':', '-'] [] source.rest with
  | none =>
    rw [hf] at h
    cases h
  | some found =>
    obtain ⟨on, close, after⟩ := found
    rw [hf] at h
    simp only [Source.extended, flagLetters_extended hf] at h ⊢
    split at h
    · cases h
    rw [if_neg ‹_›]
    split at h
    · split at h
      · rename_i start
        exact absurd start.2 (by decide)
      · cases h
    rw [if_neg ‹_›]
    split at h
    · cases h
    rw [if_neg ‹_›]
    split at h
    · rw [if_pos ‹_›]
      split at h
      · rw [if_pos ‹_›]
        cases h
        exact ⟨rfl, rfl, fun r book => rfl⟩
      · cases h
    rw [if_neg ‹_›]
    cases ho : flagLetters scopedFlags.2 [':'] [] after with
    | none =>
      rw [ho] at h
      cases h
    | some found =>
      obtain ⟨off, close', after'⟩ := found
      rw [ho] at h
      simp only [flagLetters_extended ho] at h ⊢
      split at h
      · cases h
      · rw [if_neg ‹_›]
        cases h
        exact ⟨rfl, rfl, fun r book => rfl⟩

theorem openNamed_extended {flags : Flags} {opened : Opening} (h : openNamed flags source = .ok (opened, source')) :
    openNamed flags source.extended = .ok (opened, source'.extended) ∧
      source'.book.globals = source.book.globals ∧ opened.Keeps := by
  unfold openNamed at h ⊢
  split at h
  · rename_i rest hr
    simp only [Source.extended, hr, extended_plain]
    split at h
    · rename_i name after hn
      rw [nameUntil_extended hn]
      simp only
      split at h
      · rw [if_pos ‹_›]
        exact openGroup_extended h
      · cases h
    · cases h
  · rename_i rest hr
    simp only [Source.extended, hr, extended_plain]
    split at h
    · rename_i name after hn
      rw [nameUntil_extended hn]
      simp only
      split at h
      · obtain ⟨⟨r, source⟩, href, h⟩ := bind_eq_ok_iff.1 h
        cases h
        obtain ⟨href, book⟩ := reference_extended href
        exact ⟨bind_eq_ok_iff.2 ⟨_, href, rfl⟩, congrArg Book.globals book, trivial⟩
      · cases h
    · cases h
  · cases h

theorem opening_of_ne {flags : Flags} {atStart : Bool} {book : Book} (h : ∀ more, rest ≠ .plain '?' :: more) :
    opening flags atStart ⟨rest, book⟩ = openGroup flags none ⟨rest, book⟩ := by
  unfold opening
  split
  · exact absurd ‹_› (h _)
  · exact absurd ‹_› (h _)
  · rfl

/-- What a parenthesis opens, other than at the very start, is read before the sign. -/
theorem opening_extended {flags : Flags} {opened : Opening} (h : opening flags false source = .ok (opened, source')) :
    opening flags false source.extended = .ok (opened, source'.extended) ∧
      source'.book.globals = source.book.globals ∧ opened.Keeps := by
  obtain ⟨rest, book⟩ := source
  by_cases question : ∃ more, rest = .plain '?' :: more
  · obtain ⟨more, rfl⟩ := question
    match more with
    | [] => cases h
    | .escaped c :: rest => cases h
    | .dangling :: rest => cases h
    | .plain c :: rest =>
      unfold opening at h ⊢
      simp only [Source.extended, extended_plain] at h ⊢
      split at h
      · rw [if_pos ‹_›]
        cases h
        exact ⟨rfl, rfl, fun r book => rfl⟩
      rw [if_neg ‹_›]
      split at h
      · rw [if_pos ‹_›]
        exact openNamed_extended h
      rw [if_neg ‹_›]
      split at h
      · rw [if_pos ‹_›]
        split at h
        · rename_i after ha
          cases h
          rw [skipComment_extended ha]
          exact ⟨rfl, rfl, trivial⟩
        · cases h
      rw [if_neg ‹_›]
      split at h
      · rw [if_pos ‹_›]
        obtain ⟨ho, hk⟩ := openLook_extended (Except.ok.inj h)
        exact ⟨congrArg Except.ok ho, hk⟩
      rw [if_neg ‹_›]
      split at h
      · rw [if_pos ‹_›]
        split at h
        · rw [extended_plain]
          simp only
          split at h
          · rw [if_pos ‹_›]
            obtain ⟨ho, hk⟩ := openLook_extended (Except.ok.inj h)
            exact ⟨congrArg Except.ok ho, hk⟩
          · cases h
        · cases h
      rw [if_neg ‹_›]
      split at h
      · rw [if_pos ‹_›]
        exact openCondition_extended h
      rw [if_neg ‹_›]
      split at h
      · rw [if_pos ‹_›]
        cases h
        exact ⟨rfl, rfl, fun r book => rfl⟩
      · rw [if_neg ‹_›]
        exact openFlags_extended h
  · have unmarked : ∀ more, rest ≠ .plain '?' :: more := fun more hm => question ⟨more, hm⟩
    rw [opening_of_ne unmarked] at h
    rw [Source.extended, opening_of_ne (extended_ne_cons (by decide) unmarked)]
    exact openGroup_extended h

theorem close_extended (h : source.close = .ok source') :
    source.extended.close = .ok source'.extended ∧ source'.book = source.book ∧ source.rest ≠ [] := by
  unfold Source.close at h ⊢
  split at h
  · rename_i rest hr
    cases h
    simp [Source.extended, hr]
  · cases h

end Readers

end TypedRoutes.Regex
