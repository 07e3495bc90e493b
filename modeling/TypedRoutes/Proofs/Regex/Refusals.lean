import TypedRoutes.Proofs.Regex.Anchoring
import TypedRoutes.Proofs.Regex.Moves
import TypedRoutes.Proofs.Text.Pieces

/-!
# Why a text is refused

Every reader of a part of an expression leaves a suffix of what it is given, and when it fails the text is malformed,
unless a count of repetitions is too large, which then stands between braces in what it was given. `Onward` says so of one
reader; it goes through readers in a row (`Onward.bind`), so that there is one lemma for each reader, and one induction on
the bound for branches and alternatives (`readsOnward`).

So a text that starts with a caret is a regular expression, or malformed, or one with such a count in it
(`parse_eq_error`): no global flags can be set in it.
-/

namespace TypedRoutes.Regex

set_option autoImplicit false

/-! ## Counts -/

/-- A count of repetitions that cannot be used, and what is said of it. -/
inductive TooLarge : Text → Refusal → Prop where
  | digits {t : Text} (long : Number.maxDigits < t.length) : TooLarge t (.tooManyDigits t.length)
  | number {t : Text} (short : t.length ≤ Number.maxDigits) (large : widthLimit ≤ Number.ofDigits t) :
      TooLarge t .tooManyRepetitions

/-- What stands between braces: digits and commas, with a count among them that cannot be used. -/
def Overcount (counts : Text) (e : Refusal) : Prop :=
  (∀ c ∈ counts, c.isDigit = true ∨ c = ',') ∧ ∃ count ∈ Text.splitOn ',' counts, TooLarge count e

/-- Braces with such a count stand in a row of pieces. -/
def Overcounts (rest : List Piece) (e : Refusal) : Prop :=
  ∃ counts after, Overcount counts e ∧ (.plain '\x7b' :: (counts.map .plain ++ .plain '\x7d' :: after)) <:+ rest

theorem repetitions_eq_error {digits : Text} {e : Refusal} (h : repetitions digits = .error e) : TooLarge digits e := by
  unfold repetitions at h
  split at h
  · cases h
    exact .digits ‹_›
  · split at h
    · cases h
      exact .number (by omega) ‹_›
    · cases h

/-! ## Readers -/

/-- What a reader makes of a row of pieces: it leaves a suffix of them, or it fails, and then they are malformed or have a
count in them that is too large. -/
inductive Onward {α : Type} (left : α → List Piece) (rest : List Piece) : Except Refusal α → Prop where
  | ok {a : α} (suffix : left a <:+ rest) : Onward left rest (.ok a)
  | malformed : Onward left rest (.error .malformed)
  | overcount {e : Refusal} (excess : Overcounts rest e) : Onward left rest (.error e)

/-- What is left after something has been read. -/
def leftover {α : Type} (read : α × Source) : List Piece := read.2.rest

section Readers

variable {α β : Type} {left : α → List Piece} {left' : β → List Piece} {rest rest' : List Piece} {x : Except Refusal α}

/-- What goes on within a row of pieces goes on within every row that it is the end of. -/
theorem Onward.mono (h : Onward left rest x) (suffix : rest <:+ rest') : Onward left rest' x := by
  cases h with
  | ok within => exact .ok (within.trans suffix)
  | malformed => exact .malformed
  | overcount excess =>
    obtain ⟨counts, after, large, within⟩ := excess
    exact .overcount ⟨counts, after, large, within.trans suffix⟩

/-- Readers in a row. -/
theorem Onward.bind (h : Onward left rest x) {f : α → Except Refusal β} (next : ∀ a, Onward left' (left a) (f a)) :
    Onward left' rest (x >>= f) := by
  cases h with
  | ok within => exact (next _).mono within
  | malformed => exact .malformed
  | overcount excess => exact .overcount excess

/-- The digits that are taken are the start of the row, and there is nothing else among them. -/
theorem takeDigits_eq (isDigit : Char → Bool) (n : Nat) (rest : List Piece) :
    rest = (takeDigits isDigit n rest).1.map .plain ++ (takeDigits isDigit n rest).2 ∧
      ∀ c ∈ (takeDigits isDigit n rest).1, isDigit c = true := by
  induction n generalizing rest with
  | zero => simp [takeDigits]
  | succ n ih =>
    cases rest with
    | nil => simp [takeDigits]
    | cons piece rest =>
      cases piece with
      | plain c =>
        rw [takeDigits]
        by_cases digit : isDigit c = true
        · obtain ⟨whole, all⟩ := ih rest
          simp only [digit, if_true, List.map_cons, List.cons_append, ← whole, List.forall_mem_cons]
          exact ⟨trivial, trivial, all⟩
        · simp [digit]
      | escaped c => simp [takeDigits]
      | dangling => simp [takeDigits]

theorem takeDigits_suffix (isDigit : Char → Bool) (n : Nat) (rest : List Piece) :
    (takeDigits isDigit n rest).2 <:+ rest :=
  ⟨_, (takeDigits_eq isDigit n rest).1.symm⟩

theorem onward_hexCode (count : Nat) (rest : List Piece) : Onward Prod.snd rest (hexCode count rest) := by
  unfold hexCode
  simp only
  split
  · exact .ok (takeDigits_suffix _ _ _)
  · exact .malformed

theorem nameUntil_suffix {close : Char} {name : Text} (h : nameUntil close rest = some (name, rest')) : rest' <:+ rest := by
  induction rest using nameUntil.induct close generalizing name with
  | case1 => cases h
  | case2 rest =>
    rw [nameUntil, if_pos rfl] at h
    cases h
    exact List.suffix_cons _ _
  | case3 c rest hc ih =>
    rw [nameUntil, if_neg hc] at h
    obtain ⟨⟨name, after⟩, hn, h⟩ := Option.map_eq_some_iff.1 h
    cases h
    exact (ih hn).trans (List.suffix_cons _ _)
  | case4 c rest ih =>
    rw [nameUntil] at h
    obtain ⟨⟨name, after⟩, hn, h⟩ := Option.map_eq_some_iff.1 h
    cases h
    exact (ih hn).trans (List.suffix_cons _ _)
  | case5 => cases h

theorem onward_namedCode [CharacterNames] (rest : List Piece) : Onward Prod.snd rest (namedCode rest) := by
  unfold namedCode
  split
  · rename_i rest
    split
    · rename_i name after read
      have within : after <:+ .plain '\x7b' :: rest := (nameUntil_suffix read).trans (List.suffix_cons _ _)
      split
      · exact .ok within
      · exact .malformed
    · exact .malformed
  · exact .malformed

/-- An escape reads its digits or its name, and nothing is left but what is behind them. -/
theorem onward_escapedCode [CharacterNames] (c : Char) (rest : List Piece) :
    Onward Prod.snd rest (escapedCode c rest) := by
  unfold escapedCode
  split
  · exact .ok List.suffix_rfl
  split
  · exact onward_hexCode 2 rest
  split
  · exact onward_hexCode 4 rest
  split
  · exact onward_hexCode 8 rest
  split
  · exact onward_namedCode rest
  split
  · simp only
    split
    · exact .ok (takeDigits_suffix _ _ _)
    · exact .malformed
  split
  · exact .malformed
  · exact .ok List.suffix_rfl

theorem onward_reference (flags : Flags) (index : Nat) (source : Source) :
    Onward leftover source.rest (reference flags index source) := by
  unfold reference
  split
  · exact .ok List.suffix_rfl
  · exact .malformed

theorem onward_escape [CharacterNames] (flags : Flags) (c : Char) (source : Source) :
    Onward leftover source.rest (escape flags c source) := by
  unfold escape
  split
  · exact .ok List.suffix_rfl
  · exact .ok List.suffix_rfl
  simp only
  split
  · have first := takeDigits_suffix Char.isDigit 1 source.rest
    split
    · split
      · exact .ok ((takeDigits_suffix _ _ _).trans first)
      · exact .malformed
    · exact (onward_reference _ _ _).mono first
  · exact (onward_escapedCode c source.rest).bind fun read => .ok List.suffix_rfl

theorem onward_setAtom [CharacterNames] (asciiOnly : Bool) (piece : Piece) (rest : List Piece) :
    Onward Prod.snd rest (setAtom asciiOnly piece rest) := by
  unfold setAtom
  split
  · exact .ok List.suffix_rfl
  · split
    · exact .ok List.suffix_rfl
    · split
      · exact .ok List.suffix_rfl
      · exact (onward_escapedCode _ rest).bind fun read => .ok List.suffix_rfl
  · exact .malformed

/-- The members of a set are read up to its bracket, whatever bounds their number. -/
theorem onward_setItems [CharacterNames] (asciiOnly : Bool) (n : Nat) (items : List SetItem) (rest : List Piece) :
    Onward Prod.snd rest (setItems asciiOnly n items rest) := by
  induction n generalizing items rest with
  | zero => exact .malformed
  | succ n ih =>
    match rest with
    | [] => exact .malformed
    | piece :: rest =>
      have tail : rest <:+ piece :: rest := List.suffix_cons piece rest
      rw [setItems]
      split
      · exact .ok tail
      refine Onward.bind ((onward_setAtom asciiOnly piece rest).mono tail) fun read => ?_
      obtain ⟨item, after⟩ := read
      simp only
      split
      · exact .ok ((List.suffix_cons _ _).trans (List.suffix_cons _ _))
      · rename_i last more _
        have beyond : more <:+ .plain '-' :: last :: more := (List.suffix_cons _ _).trans (List.suffix_cons _ _)
        refine Onward.bind ((onward_setAtom asciiOnly last more).mono beyond) fun read => ?_
        obtain ⟨lastItem, after⟩ := read
        simp only
        split
        · split
          · exact ih _ after
          · exact .malformed
        · exact .malformed
      · exact ih _ after

theorem onward_charSet [CharacterNames] (flags : Flags) (rest : List Piece) :
    Onward Prod.snd rest (charSet flags rest) := by
  have members : ∀ negated rest, Onward Prod.snd rest (membersOf flags negated rest) := fun negated rest =>
    (onward_setItems flags.asciiOnly rest.length [] rest).bind fun read => .ok List.suffix_rfl
  by_cases caret : ∃ more, rest = .plain '^' :: more
  · obtain ⟨more, rfl⟩ := caret
    rw [charSet_caret]
    exact (members true more).mono (List.suffix_cons _ _)
  · rw [charSet_of_ne fun more hm => caret ⟨more, hm⟩]
    exact members false rest

/-! ## Quantifiers -/

/-- The count after a comma, which may be left out. -/
def mostOf (most : Text) : Except Refusal (Option Nat) := if most = [] then .ok none else (repetitions most).map some

theorem bounds_eq_bind (least most : Text) :
    bounds least most = repetitions least >>= fun low => mostOf most >>= fun
      | some high => if high < low then .error .malformed else .ok (low, some high)
      | none => .ok (low, none) := by
  cases least <;> cases most <;> rfl

/-- Bounds are refused because they are the wrong way round, or because one of them is too large. -/
theorem bounds_eq_error {least most : Text} {e : Refusal} (h : bounds least most = .error e) :
    e = .malformed ∨ TooLarge least e ∨ TooLarge most e := by
  rw [bounds_eq_bind] at h
  rcases bind_eq_error_iff.1 h with low | ⟨low, -, h⟩
  · exact .inr (.inl (repetitions_eq_error low))
  rcases bind_eq_error_iff.1 h with high | ⟨high, -, h⟩
  · unfold mostOf at high
    split at high
    · cases high
    · cases read : repetitions most with
      | error e' =>
        rw [read] at high
        cases high
        exact .inr (.inr (repetitions_eq_error read))
      | ok n =>
        rw [read] at high
        cases high
  · split at h
    · split at h
      · cases h
        exact .inl rfl
      · cases h
    · cases h

/-- The counts that a row of pieces starts with, before what follows them. -/
theorem countTexts_spec (rest : List Piece) :
    ∃ counts, rest = counts.map .plain ++ (countTexts rest).2.2.2 ∧ (∀ c ∈ counts, c.isDigit = true ∨ c = ',') ∧
      (countTexts rest).1 ∈ Text.splitOn ',' counts ∧ (countTexts rest).2.1 ∈ Text.splitOn ',' counts := by
  obtain ⟨whole, digits⟩ := takeDigits_eq Char.isDigit rest.length rest
  have plain : ∀ {t : Text}, (∀ c ∈ t, c.isDigit = true) → ',' ∉ t := fun all comma => by
    cases all ',' comma
  unfold countTexts
  generalize takeDigits Char.isDigit rest.length rest = taken at whole digits ⊢
  obtain ⟨least, after⟩ := taken
  simp only
  split
  · rename_i after
    obtain ⟨whole', digits'⟩ := takeDigits_eq Char.isDigit after.length after
    generalize takeDigits Char.isDigit after.length after = taken at whole' digits' ⊢
    obtain ⟨most, beyond⟩ := taken
    refine ⟨least ++ ',' :: most, ?_, ?_, ?_⟩
    · rw [whole, whole']
      simp
    · simp only [List.mem_append, List.mem_cons]
      rintro c (member | rfl | member)
      · exact .inl (digits c member)
      · exact .inr rfl
      · exact .inl (digits' c member)
    · rw [Text.splitOn_append_cons (plain digits), Text.splitOn_of_notMem (plain digits')]
      simp
  · refine ⟨least, whole, fun c member => .inl (digits c member), ?_⟩
    rw [Text.splitOn_of_notMem (plain digits)]
    simp

/-- What is left after a quantifier, or after a sign that is none. -/
def afterCounts (rest : List Piece) : Option (Nat × Option Nat × List Piece) → List Piece
  | none => rest
  | some (_, _, after) => after

/-- A count in braces is refused for a bound that is too large, or leaves what is behind the braces, or all of it when
it is no count. -/
theorem onward_braces (rest : List Piece) :
    Onward (afterCounts rest) (.plain '\x7b' :: rest) (braces rest) := by
  have tail : rest <:+ .plain '\x7b' :: rest := List.suffix_cons _ rest
  obtain ⟨counts, whole, signs, first, second⟩ := countTexts_spec rest
  rw [braces_eq]
  generalize countTexts rest = texts at whole first second ⊢
  obtain ⟨least, most, comma, after⟩ := texts
  simp only at whole first second ⊢
  by_cases brace : ∃ beyond, after = .plain '\x7d' :: beyond
  · obtain ⟨beyond, rfl⟩ := brace
    rw [countsOf_brace]
    split
    · exact .ok tail
    split
    · exact .malformed
    cases read : bounds least most with
    | ok found =>
      refine .ok ?_
      have behind : beyond <:+ rest := ⟨counts.map .plain ++ [.plain '\x7d'], by rw [whole]; simp⟩
      exact behind.trans tail
    | error e =>
      have excess : ∀ {count}, count ∈ Text.splitOn ',' counts → TooLarge count e →
          Onward (afterCounts rest) (.plain '\x7b' :: rest) (.error e) := fun member large =>
        .overcount ⟨counts, beyond, ⟨signs, _, member, large⟩, whole ▸ List.suffix_rfl⟩
      rcases bounds_eq_error read with rfl | large | large
      · exact .malformed
      · exact excess first large
      · exact excess second large
  · rw [countsOf_of_ne fun beyond hb => brace ⟨beyond, hb⟩]
    exact .ok tail

theorem onward_quantifier {c : Char} (quantified : c = '*' ∨ c = '+' ∨ c = '?' ∨ c = '\x7b') (rest : List Piece) :
    Onward (afterCounts rest) (.plain c :: rest) (quantifier c rest) := by
  have tail : rest <:+ .plain c :: rest := List.suffix_cons _ rest
  rcases quantified with rfl | rfl | rfl | rfl
  · exact .ok tail
  · exact .ok tail
  · exact .ok tail
  · exact onward_braces rest

theorem greed_suffix (rest : List Piece) : (greed rest).2 <:+ rest := by
  unfold greed
  split
  · exact List.suffix_cons _ _
  · exact List.suffix_cons _ _
  · exact List.suffix_rfl

/-! ## Parentheses -/

theorem skipComment_suffix (h : skipComment rest = some rest') : rest' <:+ rest := by
  induction rest using skipComment.induct with
  | case1 => cases h
  | case2 rest =>
    cases h
    exact List.suffix_cons _ _
  | case3 piece rest open' ih =>
    rw [skipComment] at h
    · exact (ih h).trans (List.suffix_cons _ _)
    · exact open'

theorem skipLine_suffix (rest : List Piece) : skipLine rest <:+ rest := by
  induction rest using skipLine.induct with
  | case1 => exact List.suffix_rfl
  | case2 rest => exact List.suffix_cons _ _
  | case3 rest => exact List.suffix_rfl
  | case4 piece rest line more ih =>
    rw [skipLine]
    · exact ih.trans (List.suffix_cons _ _)
    · exact line
    · exact more

theorem flagLetters_suffix {allowed closing letters on : List Char} {close : Char}
    (h : flagLetters allowed closing letters rest = some (on, close, rest')) : rest' <:+ rest := by
  induction rest generalizing letters with
  | nil => cases h
  | cons piece rest ih =>
    cases piece with
    | plain c =>
      rw [flagLetters] at h
      split at h
      · cases h
        exact List.suffix_cons _ _
      · split at h
        · exact (ih h).trans (List.suffix_cons _ _)
        · cases h
    | escaped c => cases h
    | dangling => cases h

theorem onward_openGroup (flags : Flags) (name : Option Text) (source : Source) :
    Onward leftover source.rest (openGroup flags name source) := by
  unfold openGroup
  simp only
  split
  · exact .malformed
  · exact .ok List.suffix_rfl

theorem onward_openLook (flags : Flags) (isBehind negated : Bool) (source : Source) :
    Onward leftover source.rest (.ok (openLook flags isBehind negated source)) := by
  unfold openLook
  split
  · exact .ok List.suffix_rfl
  · exact .ok List.suffix_rfl

theorem onward_openCondition (source : Source) : Onward leftover source.rest (openCondition source) := by
  unfold openCondition
  split
  · exact .malformed
  · rename_i name rest read
    simp only
    split
    · exact .malformed
    · split
      · exact .ok (nameUntil_suffix read)
      · exact .malformed

theorem onward_openFlags (flags : Flags) (atStart : Bool) (source : Source) :
    Onward leftover source.rest (openFlags flags atStart source) := by
  unfold openFlags
  split
  · exact .malformed
  · rename_i on close rest read
    have within := flagLetters_suffix read
    split
    · exact .malformed
    split
    · split
      · exact .ok within
      · exact .malformed
    split
    · exact .malformed
    split
    · split
      · exact .ok within
      · exact .malformed
    · split
      · exact .malformed
      · rename_i off _ rest' read'
        split
        · exact .malformed
        · exact .ok ((flagLetters_suffix read').trans within)

theorem onward_openNamed (flags : Flags) (source : Source) : Onward leftover source.rest (openNamed flags source) := by
  unfold openNamed
  split
  · rename_i rest sign
    rw [sign]
    split
    · rename_i name rest' read
      have within : rest' <:+ .plain '<' :: rest := (nameUntil_suffix read).trans (List.suffix_cons _ _)
      split
      · exact (onward_openGroup flags (some name) { source with rest := rest' }).mono within
      · exact .malformed
    · exact .malformed
  · rename_i rest sign
    rw [sign]
    split
    · rename_i name rest' read
      have within : rest' <:+ .plain '=' :: rest := (nameUntil_suffix read).trans (List.suffix_cons _ _)
      split
      · exact ((onward_reference flags _ { source with rest := rest' }).mono within).bind fun read => .ok List.suffix_rfl
      · exact .malformed
    · exact .malformed
  · exact .malformed

/-- What a parenthesis opens is read onward, in each of its forms. -/
theorem onward_opening (flags : Flags) (atStart : Bool) (source : Source) :
    Onward leftover source.rest (opening flags atStart source) := by
  unfold opening
  split
  · rename_i c rest signs
    rw [signs]
    have tail : rest <:+ .plain '?' :: .plain c :: rest := (List.suffix_cons _ _).trans (List.suffix_cons _ _)
    simp only
    split
    · exact .ok tail
    split
    · exact (onward_openNamed flags { source with rest }).mono tail
    split
    · split
      · exact .ok ((skipComment_suffix ‹_›).trans tail)
      · exact .malformed
    split
    · exact (onward_openLook flags false (c == '!') { source with rest }).mono tail
    split
    · split
      · rename_i d rest
        have beyond : rest <:+ .plain '?' :: .plain c :: .plain d :: rest := (List.suffix_cons _ _).trans tail
        split
        · exact (onward_openLook flags true (d == '!') { source with rest }).mono beyond
        · exact .malformed
      · exact .malformed
    split
    · exact (onward_openCondition { source with rest }).mono tail
    split
    · exact .ok tail
    · exact (onward_openFlags flags atStart { source with rest := .plain c :: rest }).mono (List.suffix_cons _ _)
  · exact .malformed
  · exact onward_openGroup flags none source

theorem onward_close (source : Source) : Onward Source.rest source.rest source.close := by
  unfold Source.close
  split
  · rename_i rest closed
    rw [closed]
    exact .ok (List.suffix_cons _ _)
  · exact .malformed

end Readers

/-! ## Branches -/

section Branches

variable {n : Nat} {level : Level} {flags : Flags} {items : List Item} {source : Source}

/-- What is left after a move. -/
def Move.leftover (here : List Piece) : Move → List Piece
  | .stop => here
  | .goOn _ _ source | .enter _ _ source | .ask _ source => source.rest

theorem leftover_move (here : List Piece) (opened : Opening × Source) :
    (Opening.move level flags items opened).leftover here = leftover opened := by
  obtain ⟨opened, source⟩ := opened
  cases opened <;> rfl

/-- One move of a branch reads onward. -/
theorem onward_move [CharacterNames] (level : Level) (flags : Flags) (items : List Item) (source : Source) :
    Onward (Move.leftover source.rest) source.rest (move level flags items source) := by
  obtain ⟨rest, book⟩ := source
  cases rest with
  | nil => exact .ok List.suffix_rfl
  | cons piece rest =>
    have tail : rest <:+ piece :: rest := List.suffix_cons _ _
    cases piece with
    | dangling => exact .malformed
    | escaped c => exact ((onward_escape flags c ⟨rest, book⟩).mono tail).bind fun read => .ok List.suffix_rfl
    | plain c =>
      simp only [move]
      split
      · exact .ok List.suffix_rfl
      split
      · refine ((onward_opening flags _ ⟨rest, book⟩).mono tail).bind fun opened => .ok ?_
        exact (leftover_move (.plain c :: rest) opened).symm ▸ List.suffix_rfl
      split
      · exact ((onward_charSet flags rest).mono tail).bind fun read => .ok List.suffix_rfl
      split
      · rename_i quantified
        refine (onward_quantifier quantified rest).bind fun counts => ?_
        cases counts with
        | none => exact .ok List.suffix_rfl
        | some counts =>
          unfold quantifierMove repeatLast
          simp only
          split
          · exact .ok (greed_suffix counts.2.2)
          · exact .malformed
      split
      · exact .ok tail
      split
      · exact .ok ((skipLine_suffix rest).trans tail)
      · exact .ok tail

/-- Branches and alternatives read onward, with so much of a bound. -/
def ReadsOnward [CharacterNames] (n : Nat) : Prop :=
  (∀ level flags source, Onward leftover source.rest (alternatives n level flags source)) ∧
    ∀ level flags items source, Onward leftover source.rest (branch n level flags items source)

theorem ReadsOnward.otherwise [CharacterNames] (reads : ReadsOnward n) (flags : Flags) (source : Source) :
    Onward leftover source.rest (otherwise n flags source) := by
  unfold Regex.otherwise
  split
  · rename_i rest bar
    rw [bar]
    exact (reads.2 .nested flags [] { source with rest }).mono (List.suffix_cons _ _)
  · exact .ok List.suffix_rfl

/-- What comes after a move reads onward when branches and alternatives with one level less to go do. -/
theorem ReadsOnward.afterMove [CharacterNames] (reads : ReadsOnward n) (level : Level) (flags : Flags)
    (items : List Item) (source : Source) (next : Move) :
    Onward leftover (next.leftover source.rest) (afterMove n level flags items source next) := by
  cases next with
  | stop => exact .ok List.suffix_rfl
  | goOn flags items next => exact reads.2 level flags items next
  | enter inner close next =>
    refine (reads.1 .nested inner next).bind fun read => ?_
    refine (onward_close read.2).bind fun closed => ?_
    exact reads.2 level flags _ { closed with book := (close read.1 closed.book).2 }
  | ask index next =>
    refine (reads.2 .nested flags [] next).bind fun yes => ?_
    refine (reads.otherwise flags yes.2).bind fun no => ?_
    exact (onward_close no.2).bind fun closed => reads.2 level flags _ closed

/-- Branches and alternatives read onward, by induction on the bound. -/
theorem readsOnward [CharacterNames] (n : Nat) : ReadsOnward n := by
  induction n with
  | zero => exact ⟨fun _ _ _ => .malformed, fun _ _ _ _ => .malformed⟩
  | succ n ih =>
    constructor
    · intro level flags source
      rw [alternatives]
      refine (ih.2 level _ [] source).bind fun read => ?_
      obtain ⟨r, next⟩ := read
      simp only
      split
      · rename_i rest bar
        rw [leftover, bar]
        exact ((ih.1 level.next flags { next with rest }).mono (List.suffix_cons _ _)).bind fun read => .ok List.suffix_rfl
      · exact .ok List.suffix_rfl
    · intro level flags items source
      rw [branch_succ]
      exact (onward_move level flags items source).bind (ih.afterMove level flags items source)

end Branches

/-! ## Whole texts -/

section Texts

variable {n : Nat} {level : Level} {source next source' : Source} {r : Regex} {t : Text} {e : Refusal}

/-- Global flags can be set at the very start only, so that further branches leave them as they are. -/
theorem globals_of_following [CharacterNames]
    (top : ∀ {source : Source} {r : Regex} {source' : Source}, alternatives n .top {} source = .ok (r, source') →
      source.book.globals = [] → source'.book.globals = [])
    (unnested : level ≠ .nested) {s : Regex} (h : following n level s next = .ok (r, source'))
    (globals : next.book.globals = []) : source'.book.globals = [] := by
  have nextTop : level.next = .top := by cases level <;> first | rfl | exact absurd rfl unnested
  unfold following at h
  rw [nextTop] at h
  split at h
  · obtain ⟨⟨second, last⟩, ha, h⟩ := bind_eq_ok_iff.1 h
    cases h
    exact top ha globals
  · cases h
    exact globals

/-- Alternatives that are not at the very start set no global flags. -/
theorem globals_of_alternatives [CharacterNames] (h : alternatives n .top {} source = .ok (r, source'))
    (globals : source.book.globals = []) : source'.book.globals = [] := by
  induction n generalizing source r source' with
  | zero => cases h
  | succ n ih =>
    have settled : Level.flags .top {} source.book = {} := by
      have start : Level.flags .top {} {} = {} := rfl
      rw [← start]
      exact flags_of_globals globals
    rw [alternatives_eq n settled] at h
    obtain ⟨⟨s, next⟩, hb, h⟩ := bind_eq_ok_iff.1 h
    have reads := (reads_extended n).2 _ _ _ _ _ _ hb rfl settled (.inr rfl)
    exact globals_of_following ih (by decide) h (reads.globals.trans globals)

/-- Nor does a text that starts with a caret, because its flags would not be the first thing in it. -/
theorem globals_of_caret [CharacterNames] (h : alternatives n .start {} ⟨pieces ('^' :: t), {}⟩ = .ok (r, source')) :
    source'.book.globals = [] := by
  match n with
  | 0 => cases h
  | 1 => cases h
  | n + 2 =>
    have settled : Level.flags .start {} {} = {} := rfl
    have caret : branch (n + 1) .start {} [] ⟨pieces ('^' :: t), {}⟩ =
        branch n .start {} [(.anchor, .anchor .subjectStart)] ⟨pieces t, {}⟩ := by
      rw [pieces_cons (by decide)]
      rfl
    rw [alternatives_eq _ settled] at h
    obtain ⟨⟨s, next⟩, hb, h⟩ := bind_eq_ok_iff.1 h
    rw [caret] at hb
    have reads := (reads_extended n).2 _ _ _ _ _ _ hb rfl settled (.inr rfl)
    exact globals_of_following globals_of_alternatives (by decide) h reads.globals

/-- **Why a text is refused** that starts with a caret: it is malformed, or a count in it is too large. -/
theorem parse_eq_error [CharacterNames] (h : parse ('^' :: t) = .error e) :
    e = .malformed ∨ Overcounts (pieces ('^' :: t)) e := by
  rcases bind_eq_error_iff.1 h with read | ⟨⟨r, source⟩, read, h⟩
  · have onward := (readsOnward (2 * (pieces ('^' :: t)).length + 2)).1 .start {} ⟨pieces ('^' :: t), {}⟩
    rw [read] at onward
    cases onward with
    | malformed => exact .inl rfl
    | overcount excess => exact .inr excess
  · have globals := globals_of_caret read
    simp only [finalFault?, globals] at h
    split at h
    · rename_i fault found
      split at found
      · simp at *
      · cases h
        split at found
        · cases found
          exact .inl rfl
        · cases found
    · cases h

/-! ## Pieces and texts -/

/-- The text of a piece. -/
def Piece.text : Piece → Text
  | .plain c => [c]
  | .escaped c => ['\\', c]
  | .dangling => ['\\']

/-- The texts of the pieces are the text again. -/
theorem flatMap_text_pieces (t : Text) : (pieces t).flatMap Piece.text = t := by
  induction t using pieces.induct with
  | case1 => rfl
  | case2 c => by_cases hc : c = '\\' <;> simp [pieces, Piece.text, hc]
  | case3 d rest ih => simp [pieces, Piece.text, ih]
  | case4 c d rest hc ih => rw [pieces, if_neg hc, List.flatMap_cons, ih]; rfl

/-- Counts that stand in the pieces of a text stand in the text. -/
theorem infix_of_overcounts (h : Overcounts (pieces t) e) :
    ∃ counts, Overcount counts e ∧ '\x7b' :: counts ++ ['\x7d'] <:+: t := by
  obtain ⟨counts, after, excess, before, whole⟩ := h
  have texts : ∀ t : Text, (t.map Piece.plain).flatMap Piece.text = t := by
    intro t
    simp [List.flatMap_map, Piece.text]
  refine ⟨counts, excess, before.flatMap Piece.text, after.flatMap Piece.text, ?_⟩
  rw [← flatMap_text_pieces t, ← whole]
  simp [texts, Piece.text]

end Texts

end TypedRoutes.Regex
