import TypedRoutes.Proofs.Regex.Running
import TypedRoutes.Regex.Parser

/-!
# Steps of the reader

The reader takes a plain text apart into one piece for each character. A branch looks at one piece at a time: a bar or
a closing parenthesis ends it, and what it does at any other piece is one equation for each kind of piece (`branch_…`).
A piece that has no meaning of its own makes an item (`branch_singles`).
-/

namespace TypedRoutes.Regex

set_option autoImplicit false

/-! ## Pieces -/

theorem pieces_cons {c : Char} (h : c ≠ '\\') (rest : Text) : pieces (c :: rest) = .plain c :: pieces rest := by
  cases rest with
  | nil => simp [pieces, h]
  | cons d rest => simp [pieces, h]

/-- A text without backslashes is the pieces of its characters. -/
theorem pieces_append {t : Text} (h : '\\' ∉ t) (rest : Text) : pieces (t ++ rest) = t.map .plain ++ pieces rest := by
  induction t with
  | nil => rfl
  | cons c t ih =>
    simp only [List.mem_cons, not_or] at h
    rw [List.cons_append, pieces_cons (Ne.symm h.1), ih h.2]
    rfl

/-! ## Steps of the reader -/

section Steps

variable {n : Nat} {level : Level} {flags : Flags} {items : List Item} {c : Char} {rest : List Piece} {book : Book}

variable [CharacterNames]

theorem branch_stop (stop : c = '|' ∨ c = ')') :
    branch (n + 1) level flags items ⟨.plain c :: rest, book⟩ = .ok (ofItems items, ⟨.plain c :: rest, book⟩) := by
  rw [branch]
  exact if_pos stop

theorem branch_blank (verbose : flags.verbose = true) (blank : isVerboseBlank c = true) :
    branch (n + 1) level flags items ⟨.plain c :: rest, book⟩ = branch n level flags items ⟨rest, book⟩ := by
  have goes : ¬ (c = '|' ∨ c = ')') := by
    rintro (rfl | rfl)
    · cases blank
    · cases blank
  rw [branch]
  simp only
  rw [if_neg goes, if_pos (by rw [verbose, blank]; rfl)]

theorem branch_comment (verbose : flags.verbose = true) :
    branch (n + 1) level flags items ⟨.plain '#' :: rest, book⟩ =
      branch n level flags items ⟨skipLine rest, book⟩ := by
  have unblank : isVerboseBlank '#' = false := by decide
  rw [branch]
  simp only
  rw [if_neg (by decide), if_neg (by simp [unblank]), if_pos (by rw [verbose]; rfl)]

theorem branch_bracket :
    branch (n + 1) level flags items ⟨.plain '[' :: rest, book⟩ =
      charSet flags rest >>= fun read => branch n level flags ((.other, read.1) :: items) ⟨read.2, book⟩ := by
  have unblank : isVerboseBlank '[' = false := by decide
  rw [branch]
  simp only
  rw [if_neg (by decide), if_neg (by simp [unblank]), if_neg (by simp), if_pos trivial]

/-- How a branch goes on after a sign that may repeat its last item. -/
def afterQuantifier (n : Nat) (level : Level) (flags : Flags) (items : List Item) (c : Char) (rest : List Piece)
    (book : Book) : Option (Nat × Option Nat × List Piece) → Except Refusal (Regex × Source)
  | none => branch n level flags ((.other, literal flags c.toNat) :: items) ⟨rest, book⟩
  | some (least, most, after) => do
    let items ← repeatLast (greed after).1 least most items
    branch n level flags items ⟨(greed after).2, book⟩

/-- A sign of repetition is read, and then the last item repeats. -/
theorem branch_quantified (quantified : c = '*' ∨ c = '+' ∨ c = '?' ∨ c = '\x7b') :
    branch (n + 1) level flags items ⟨.plain c :: rest, book⟩ =
      quantifier c rest >>= afterQuantifier n level flags items c rest book := by
  have others : ¬ (c = '|' ∨ c = ')') ∧ isVerboseBlank c = false ∧ (c == '#') = false ∧ c ≠ '[' := by
    rcases quantified with rfl | rfl | rfl | rfl <;> decide
  obtain ⟨goes, unblank, uncommented, unbracketed⟩ := others
  rw [branch]
  simp only
  rw [if_neg goes, if_neg (by simp [unblank]), if_neg (by simp [uncommented]), if_neg unbracketed, if_pos quantified]
  rfl

/-- The second branch of a condition on a group, which may be left out. -/
def otherwise (n : Nat) (flags : Flags) (source : Source) : Except Refusal (Regex × Source) :=
  match source.rest with
  | .plain '|' :: rest => branch n .nested flags [] { source with rest }
  | _ => .ok (.empty, source)

/-- How a branch goes on after what a parenthesis opens. -/
def afterOpening (n : Nat) (level : Level) (flags : Flags) (items : List Item) :
    Opening × Source → Except Refusal (Regex × Source)
  | (.nothing, source) => branch n level (level.flags flags source.book) items source
  | (.item r, source) => branch n level flags ((.other, r) :: items) source
  | (.body inner close, source) => do
    let (r, source) ← alternatives n .nested inner source
    let source ← source.close
    let (r, book) := close r source.book
    branch n level flags ((.other, r) :: items) { source with book }
  | (.condition index, source) => do
    let (yes, source) ← branch n .nested flags [] source
    let (no, source) ← otherwise n flags source
    let source ← source.close
    branch n level flags ((.other, .conditional index yes no) :: items) source

/-- A parenthesis is read, and the branch goes on by what it opens. -/
theorem branch_parenthesis :
    branch (n + 1) level flags items ⟨.plain '(' :: rest, book⟩ =
      opening flags (level == .start && items.isEmpty) ⟨rest, book⟩ >>= afterOpening n level flags items := by
  have inVerbose : isVerboseBlank '(' = false ∧ ('(' == '#') = false := by decide
  rw [branch]
  simp only
  rw [if_neg (by decide), if_neg (by simp [inVerbose.1]), if_neg (by simp [inVerbose.2]), if_neg (by decide),
    if_neg (by decide), if_pos trivial]
  congr 1
  funext opened
  obtain ⟨opened, source⟩ := opened
  cases opened with
  | condition index =>
    simp only [afterOpening]
    congr 1
    funext read
    obtain ⟨yes, rest, book⟩ := read
    match rest with
    | [] => rfl
    | .plain c :: rest =>
      by_cases bar : c = '|'
      · subst bar
        rfl
      · simp [otherwise, bar]
    | .escaped c :: rest => rfl
    | .dangling :: rest => rfl
  | _ => rfl

/-- A piece that is none of the others makes an item of its own. -/
theorem branch_plain (goes : ¬ (c = '|' ∨ c = ')')) (unblank : (flags.verbose && isVerboseBlank c) = false)
    (uncommented : (flags.verbose && c == '#') = false) (unbracketed : c ≠ '[')
    (unquantified : ¬ (c = '*' ∨ c = '+' ∨ c = '?' ∨ c = '\x7b')) (unparenthesized : c ≠ '(') :
    branch (n + 1) level flags items ⟨.plain c :: rest, book⟩ =
      branch n level flags (plainItem flags c :: items) ⟨rest, book⟩ := by
  rw [branch]
  simp only
  rw [if_neg goes, if_neg (by simp [unblank]), if_neg (by simp [uncommented]), if_neg unbracketed,
    if_neg unquantified, if_neg unparenthesized]

end Steps

/-- A character that stands for itself. -/
def Ordinary (c : Char) : Prop := c ∉ ['|', ')', '[', '*', '+', '?', '{', '(', '.', '^', '$', '\\']

instance (c : Char) : Decidable (Ordinary c) := inferInstanceAs (Decidable (c ∉ _))

/-- A character that stands for itself makes an item. -/
theorem branch_single [CharacterNames] {c : Char} (h : Ordinary c) (n : Nat) (items : List Item) (rest : List Piece)
    (book : Book) :
    branch (n + 1) .start {} items ⟨.plain c :: rest, book⟩ =
      branch n .start {} ((.other, single c) :: items) ⟨rest, book⟩ := by
  simp only [Ordinary, List.mem_cons, List.not_mem_nil, or_false, not_or] at h
  obtain ⟨h1, h2, h3, h4, h5, h6, h7, h8, h9, h10, h11, -⟩ := h
  have itself : plainItem {} c = (.other, single c) := by
    simp only [plainItem, h9, h10, h11, if_false]
    rfl
  rw [branch_plain (by simp [h1, h2]) rfl rfl h3 (by simp [h4, h5, h6, h7]) h8, itself]

/-- A text of such characters makes an item of each of them. -/
theorem branch_singles [CharacterNames] {t : Text} (h : ∀ c ∈ t, Ordinary c) (n : Nat) (items : List Item)
    (rest : List Piece) (book : Book) :
    branch (n + t.length) .start {} items ⟨t.map .plain ++ rest, book⟩ =
      branch n .start {} ((t.map fun c => (.other, single c)).reverse ++ items) ⟨rest, book⟩ := by
  induction t generalizing items with
  | nil => rfl
  | cons c t ih =>
    rw [List.length_cons, ← Nat.add_assoc, List.map_cons, List.cons_append, branch_single (h c (List.mem_cons_self ..)),
      ih fun d hd => h d (List.mem_cons_of_mem _ hd)]
    simp

/-- A book with nothing in it that is judged at the end. -/
structure Book.Quiet (book : Book) : Prop where
  globals : book.globals = []
  conditions : book.conditions = []
  faulty : book.faulty = false

/-- A source that has been read to its end, with nothing in the book to be judged, has no fault. -/
theorem finalFault?_of_quiet {book : Book} (quiet : book.Quiet) (r : Regex) : finalFault? r ⟨[], book⟩ = none := by
  simp [finalFault?, quiet.globals, quiet.conditions, quiet.faulty]

end TypedRoutes.Regex
