import Mathlib.Tactic.Tauto
import TypedRoutes.Proofs.Path.Segment
import TypedRoutes.Proofs.Regex.Reading

/-!
# The regular expression of a plain path

A plain path becomes a regular expression of one row: the start of the subject, the characters of the fixed texts
and a group for each token, and the end, before which a wildcard has a slash and `.*` (`parse_slashed`). The reader
takes one step for each of these units, and `branch_segments` folds its steps over the segments.
-/

namespace TypedRoutes.Regex

set_option autoImplicit false

/-- The pieces of the group of a token. -/
def groupPieces : List Piece := pieces Vocabulary.componentGroup

theorem pieces_componentGroup (rest : Text) : pieces (Vocabulary.componentGroup ++ rest) = groupPieces ++ pieces rest := by
  have opened : '\\' ∉ "([A-Za-z0-9_.".toList := by decide
  have closed : '\\' ∉ "~]+)".toList := by decide
  have parts : Vocabulary.componentGroup = "([A-Za-z0-9_.".toList ++ ('\\' :: '-' :: "~]+)".toList) := rfl
  have escaped : ∀ t, pieces ('\\' :: '-' :: t) = .escaped '-' :: pieces t := fun _ => rfl
  rw [groupPieces, parts, List.append_assoc, pieces_append opened, pieces_append opened, List.cons_append,
    List.cons_append, escaped, escaped, pieces_append closed, ← List.append_nil "~]+)".toList, pieces_append closed]
  simp [pieces]

/-! ## The group of a token -/

/-- The characters that a group in place of a token captures. -/
def componentSet : CharSet where
  items := [.range 65 90, .range 97 122, .range 48 57, .code 95, .code 46, .code 45, .code 126]

/-- The group in place of a token. -/
def component (index : Nat) : Regex := .group index (.repeated .greedy 1 none (.set componentSet))

theorem isAlphanum_iff {c : Char} : c.isAlphanum = true ↔
    65 ≤ c.toNat ∧ c.toNat ≤ 90 ∨ 97 ≤ c.toNat ∧ c.toNat ≤ 122 ∨ 48 ≤ c.toNat ∧ c.toNat ≤ 57 := by
  have spelled : c.isAlphanum = (decide (c.val ≥ 'A'.val ∧ c.val ≤ 'Z'.val) ||
      c.val ≥ 'a'.val && c.val ≤ 'z'.val || c.val ≥ '0'.val && c.val ≤ '9'.val) := rfl
  simp only [spelled, Bool.or_eq_true, Bool.and_eq_true, decide_eq_true_eq, UInt32.le_iff_toNat_le, ge_iff_le]
  exact or_assoc

/-- The group of a token captures the characters that a token can stand for. -/
theorem has_componentSet (c : Char) : componentSet.has c = Path.isComponentChar c := by
  have hcode : ∀ d : Char, SetItem.hasFolded .exact c (.code d.toNat) = (c == d) := by
    intro d
    rw [Bool.eq_iff_iff]
    simp [SetItem.hasFolded, Folding.fold, Char.toNat_inj]
  have hrange : ∀ m n, SetItem.hasFolded .exact c (.range m n) = (decide (m ≤ c.toNat) && decide (c.toNat ≤ n)) := by
    intro m n
    simp [SetItem.hasFolded, Folding.variants]
  have items : componentSet.has c = (SetItem.hasFolded .exact c (.range 65 90) ||
      (SetItem.hasFolded .exact c (.range 97 122) || (SetItem.hasFolded .exact c (.range 48 57) ||
        (SetItem.hasFolded .exact c (.code '_'.toNat) || (SetItem.hasFolded .exact c (.code '.'.toNat) ||
          (SetItem.hasFolded .exact c (.code '-'.toNat) || SetItem.hasFolded .exact c (.code '~'.toNat))))))) := by
    simp [CharSet.has, componentSet]
  rw [items, Bool.eq_iff_iff]
  simp only [hcode, hrange, Path.isComponentChar, Path.isFixedChar, Bool.or_eq_true, Bool.and_eq_true,
    decide_eq_true_eq, beq_iff_eq, isAlphanum_iff]
  tauto

/-- The book after the group of a token. -/
def Book.grouped (book : Book) : Book :=
  { book with
    next := book.next + 1
    closed := (book.next, { book with next := book.next + 1 }.width
      (.repeated .greedy 1 none (.set componentSet))) :: book.closed }

theorem Book.Quiet.grouped {book : Book} (quiet : book.Quiet) : book.grouped.Quiet :=
  ⟨quiet.globals, quiet.conditions, quiet.faulty⟩

/-- The group of a token is read as one item, which takes the next number. -/
theorem branch_component [CharacterNames] (n : Nat) (items : List Item) (rest : List Piece) (book : Book) :
    branch (n + 5) .start {} items ⟨groupPieces ++ rest, book⟩ =
      branch (n + 4) .start {} ((.other, component book.next) :: items) ⟨rest, book.grouped⟩ := by
  rfl

end TypedRoutes.Regex

namespace TypedRoutes.Path

set_option autoImplicit false

open Regex

/-- A segment as text of a regular expression. -/
def Segment.regexText : Segment → Text
  | fixed t => t
  | token _ _ => Vocabulary.componentGroup

/-- A segment, with the slash before it, as units of a regular expression. The group of a token has the given
number. -/
def Segment.units (index : Nat) : Segment → List Regex
  | fixed t => ('/' :: t).map single
  | token _ _ => [single '/', Regex.component index]

/-- The number of the next group after a segment. -/
def Segment.nextIndex (index : Nat) : Segment → Nat
  | fixed _ => index
  | token _ _ => index + 1

/-- Segments as units of a regular expression, groups numbered on from the given number. -/
def unitsFrom : Nat → List Segment → List Regex
  | _, [] => []
  | index, segment :: rest => segment.units index ++ unitsFrom (segment.nextIndex index) rest

/-- The fixed texts are made of the characters that they may have. -/
def Readable (segments : List Segment) : Prop := ∀ t, Segment.fixed t ∈ segments → ∀ c ∈ t, isFixedChar c = true

/-- The characters that fixed segments are made of stand for themselves. -/
theorem ordinary_of_isFixedChar {c : Char} (h : isFixedChar c = true) : Ordinary c := by
  intro hm
  simp only [List.mem_cons, List.not_mem_nil, or_false] at hm
  rcases hm with rfl | rfl | rfl | rfl | rfl | rfl | rfl | rfl | rfl | rfl | rfl | rfl <;> revert h <;> decide

theorem Plain.readable {segments : List Segment} (h : Plain segments) : Readable segments := by
  rcases h with rfl | ⟨-, h⟩
  · simp [Readable]
  · exact fun t ht => (h _ ht).2

theorem slashed_regexText (segment : Segment) (rest : List Segment) (tail : Text) :
    slashed ((segment :: rest).map Segment.regexText) ++ tail =
      '/' :: (segment.regexText ++ (slashed (rest.map Segment.regexText) ++ tail)) := by
  simp

/-- The steps of the reader over segments: one for each unit. -/
theorem branch_segments [CharacterNames] {segments : List Segment} (readable : Readable segments) {n : Nat} (hn : 4 ≤ n)
    (items : List Item) (tail : Text) {book : Book} (quiet : book.Quiet) :
    ∃ book' : Book, book'.Quiet ∧
      branch (n + (unitsFrom book.next segments).length) .start {} items
          ⟨pieces (slashed (segments.map Segment.regexText) ++ tail), book⟩ =
        branch n .start {} (((unitsFrom book.next segments).map fun r => (.other, r)).reverse ++ items)
          ⟨pieces tail, book'⟩ := by
  induction segments generalizing items book with
  | nil => exact ⟨book, quiet, rfl⟩
  | cons segment rest ih =>
    have later : Readable rest := fun t ht => readable t (List.mem_cons_of_mem _ ht)
    cases segment with
    | fixed t =>
      have ordinary : ∀ c ∈ '/' :: t, Ordinary c := by
        intro c hc
        rcases List.mem_cons.1 hc with rfl | hc
        · decide
        · exact ordinary_of_isFixedChar (readable t (List.mem_cons_self ..) c hc)
      have plain : '\\' ∉ '/' :: t := fun hm => absurd (ordinary _ hm) (by decide)
      obtain ⟨book', quiet', step⟩ := ih later ((('/' :: t).map fun c => (.other, single c)).reverse ++ items) quiet
      refine ⟨book', quiet', ?_⟩
      have text : slashed ((Segment.fixed t :: rest).map Segment.regexText) ++ tail =
          ('/' :: t) ++ (slashed (rest.map Segment.regexText) ++ tail) := slashed_regexText ..
      have fuel : n + (unitsFrom book.next (.fixed t :: rest)).length =
          n + (unitsFrom book.next rest).length + ('/' :: t).length := by
        simp only [unitsFrom, Segment.units, Segment.nextIndex, List.length_append, List.length_map]
        omega
      rw [text, fuel, pieces_append plain, branch_singles ordinary, step]
      simp [unitsFrom, Segment.units, Segment.nextIndex, Function.comp_def]
    | token name type =>
      obtain ⟨book', quiet', step⟩ := ih later
        ((.other, Regex.component book.next) :: (.other, single '/') :: items) quiet.grouped
      refine ⟨book', quiet', ?_⟩
      have units : unitsFrom book.next (.token name type :: rest) =
          single '/' :: Regex.component book.next :: unitsFrom book.grouped.next rest := rfl
      obtain ⟨k, rfl⟩ : ∃ k, n = k + 4 := ⟨n - 4, by omega⟩
      have fuel : k + 4 + (unitsFrom book.next (.token name type :: rest)).length =
          k + (unitsFrom book.grouped.next rest).length + 5 + 1 := by
        rw [units, List.length_cons, List.length_cons]
        omega
      have fuel' : k + (unitsFrom book.grouped.next rest).length + 4 =
          k + 4 + (unitsFrom book.grouped.next rest).length := by omega
      rw [slashed_regexText, Segment.regexText, fuel, pieces_cons (by decide), branch_single (by decide),
        pieces_componentGroup, branch_component, fuel', step, units]
      simp

/-- There are no more units than pieces. -/
theorem length_unitsFrom_le {segments : List Segment} (readable : Readable segments) (index : Nat) (tail : Text) :
    (unitsFrom index segments).length + (pieces tail).length ≤
      (pieces (slashed (segments.map Segment.regexText) ++ tail)).length := by
  induction segments generalizing index with
  | nil => simp [unitsFrom]
  | cons segment rest ih =>
    have later := ih (fun t ht => readable t (List.mem_cons_of_mem _ ht)) (segment.nextIndex index)
    cases segment with
    | fixed t =>
      have plain : '\\' ∉ t := notMem_of_isFixedChar (readable t (List.mem_cons_self ..)) (by decide)
      rw [slashed_regexText, Segment.regexText, pieces_cons (by decide), pieces_append plain]
      simp only [unitsFrom, Segment.units, List.length_append, List.length_map, List.length_cons]
      omega
    | token name type =>
      have group : groupPieces.length = 18 := rfl
      rw [slashed_regexText, Segment.regexText, pieces_cons (by decide), pieces_componentGroup]
      simp only [unitsFrom, Segment.units, List.length_append, List.length_cons, List.length_nil, group]
      omega

/-- Any character but a newline. -/
def dot : CharSet := { negated := true, items := [.code 10] }

theorem has_dot {c : Char} (h : c ≠ '\n') : dot.has c = true := by
  simpa [dot, CharSet.has, SetItem.hasFolded, Folding.fold] using fun hc : c.toNat = '\n'.toNat => h (Char.toNat_inj.1 hc)

/-- What stands behind the segments of a regular expression: as text, as items of the reader, and by the rests of a
path, newlines apart, that it matches. -/
structure Closing where
  text : Text
  items : List Item
  closes : Text → Prop
  filled : 0 < (pieces text).length
  reads : ∀ [CharacterNames] (n : Nat) (items' : List Item) (book : Book),
    branch (n + ((pieces text).length + 1)) .start {} items' ⟨pieces text, book⟩ =
      .ok (ofItems (items.reverse ++ items'), ⟨[], book⟩)
  ungrouped : groupTotal (items.map Prod.snd) = 0
  stops : ∀ rest, closes rest → rest = [] ∨ ∃ more, rest = '/' :: more
  runs : ∀ s : State, '\n' ∉ s.cursor.after → closes s.cursor.after →
    ∃ x, run (sequence (items.map Prod.snd)) s some = some x
  ran : ∀ s x : State, '\n' ∉ s.cursor.after → run (sequence (items.map Prod.snd)) s some = some x →
    closes s.cursor.after ∧ x.marks = s.marks ∧ (s.cursor.before ≠ [] → x.cursor.before ≠ [])

namespace Closing

/-- The units of a closing. -/
def units (closing : Closing) : List Regex := closing.items.map Prod.snd

/-- In a text without line breaks the last line ends where the text does. -/
theorem holds_lastLineEnd {s : State} (line : '\n' ∉ s.cursor.after) :
    Anchor.holds s.cursor .lastLineEnd = true ↔ s.cursor.after = [] := by
  have h : s.cursor.after ≠ ['\n'] := fun h => by simp [h] at line
  simp [Anchor.holds, h]

/-- The end of the path. -/
def plain : Closing where
  text := ['$']
  items := [(.anchor, .anchor .lastLineEnd)]
  closes rest := rest = []
  filled := by decide
  reads := fun _ _ _ => rfl
  ungrouped := rfl
  stops := fun _ h => .inl h
  runs := by
    intro s line closed
    exact ⟨s, if_pos ((holds_lastLineEnd line).2 closed)⟩
  ran := by
    intro s x line h
    simp only [List.map_cons, List.map_nil, Regex.sequence, run] at h
    split at h
    · rename_i holds
      cases h
      exact ⟨(holds_lastLineEnd line).1 holds, rfl, id⟩
    · cases h

/-- The items of a wildcard: a slash and anything up to the end of the path. -/
def wildcardItems : List Item :=
  [(.other, single '/'), (.repetition, .repeated .greedy 0 none (.set dot)), (.anchor, .anchor .lastLineEnd)]

theorem run_wildcardItems (s : State) :
    run (sequence (wildcardItems.map Prod.snd)) s some = run (single '/') s fun t =>
      greedyRounds (run (.set dot)) t.bound none none t fun u =>
        if Anchor.holds u.cursor .lastLineEnd then some u else none := rfl

/-- A slash and anything up to the end of the path. -/
def wildcard : Closing where
  text := "/.*$".toList
  items := wildcardItems
  closes rest := ∃ more, rest = '/' :: more
  filled := by decide
  reads := fun _ _ _ => rfl
  ungrouped := rfl
  stops := fun _ h => .inr h
  runs := by
    rintro s line ⟨more, hs⟩
    have after : (s.over ['/']).cursor.after = more := State.over_after (t := ['/']) hs
    have all : ∀ c ∈ more, dot.has c = true := by
      intro c hc
      refine has_dot ?_
      rintro rfl
      exact line (by rw [hs]; exact List.mem_cons_of_mem _ hc)
    refine ⟨(s.over ['/']).over more, ?_⟩
    rw [run_wildcardItems]
    refine run_set_eq_some_iff.2 ⟨'/', more, hs, (has_single '/' '/').2 rfl, ?_⟩
    have whole : (s.over ['/']).cursor.after = more ++ [] := by rw [after, List.append_nil]
    refine greedyRounds_eq_some whole all (by simp) ?_ ?_ (by simp)
    · have ended : ((s.over ['/']).over more).cursor.after = [] := State.over_after (by rw [after, List.append_nil])
      exact if_pos (by rw [Anchor.holds, ended]; rfl)
    · simp [State.bound, after]
  ran := by
    intro s x line h
    rw [run_wildcardItems] at h
    obtain ⟨c, more, hs, hc, h⟩ := run_set_eq_some_iff.1 h
    obtain rfl := (has_single '/' c).1 hc
    obtain ⟨t, rest, -, -, h⟩ := passed_of_greedyRounds h
    split at h
    · cases h
      exact ⟨⟨more, hs⟩, rfl, by simp [State.over]⟩
    · cases h

end Closing

/-- The regular expression of segments: from the start of the subject, the units of the segments, and the closing. -/
def regex (segments : List Segment) (closing : Closing) : Regex :=
  sequence (.anchor .subjectStart :: (unitsFrom 1 segments ++ closing.units))

/-- **Reading** the text of segments and a closing. -/
theorem parse_slashed [CharacterNames] {segments : List Segment} (readable : Readable segments) (closing : Closing) :
    Regex.parse ('^' :: (slashed (segments.map Segment.regexText) ++ closing.text)) = .ok (regex segments closing) := by
  have quiet : Book.Quiet {} := ⟨rfl, rfl, rfl⟩
  have long := length_unitsFrom_le readable 1 closing.text
  have filled := closing.filled
  generalize htext : slashed (segments.map Segment.regexText) ++ closing.text = text at long
  obtain ⟨n, hn⟩ : ∃ n, 2 * (pieces text).length + 2 =
      n + ((pieces closing.text).length + 1) + (unitsFrom 1 segments).length :=
    ⟨2 * (pieces text).length + 1 - (pieces closing.text).length - (unitsFrom 1 segments).length, by omega⟩
  obtain ⟨book, quiet', steps⟩ := branch_segments readable (n := n + ((pieces closing.text).length + 1)) (by omega)
    [(.anchor, .anchor .subjectStart)] closing.text quiet
  -- The start is read in one step, the segments in one for each unit, and the closing to the end.
  have read : branch (2 * (pieces text).length + 3) .start {} [] ⟨pieces ('^' :: text), {}⟩ =
      .ok (regex segments closing, ⟨[], book⟩) := by
    have start : branch (2 * (pieces text).length + 3) .start {} [] ⟨pieces ('^' :: text), {}⟩ =
        branch (2 * (pieces text).length + 2) .start {} [(.anchor, .anchor .subjectStart)] ⟨pieces text, {}⟩ := by
      rw [pieces_cons (by decide)]
      rfl
    rw [htext] at steps
    rw [start, hn, steps, closing.reads]
    simp [regex, ofItems, Closing.units, Function.comp_def]
  have fuel : 2 * (pieces ('^' :: text)).length + 2 = 2 * (pieces text).length + 3 + 1 := by
    rw [pieces_cons (by decide), List.length_cons]
    omega
  have flags : Level.flags .start {} {} = {} := rfl
  have whole : alternatives (2 * (pieces text).length + 3 + 1) .start {} ⟨pieces ('^' :: text), {}⟩ =
      .ok (regex segments closing, ⟨[], book⟩) := by
    rw [alternatives, flags, read]
    rfl
  rw [parse, fuel, bind_of_eq_ok whole]
  simp only
  rw [finalFault?_of_quiet quiet']
  rfl

end TypedRoutes.Path
