import Mathlib.Data.List.Basic
import Mathlib.Data.List.TakeWhile
import TypedRoutes.Text.Pieces

/-!
# Cutting what has been joined

`splitOn_append_separator` is the one equation about cutting: a separator cuts, whatever stands on its two sides. Pieces
without separators that are joined by it come apart again (`splitOn_join`), and the pieces of a text have none.
-/

namespace TypedRoutes.Text

set_option autoImplicit false

variable {separator : Char}

theorem splitOn_of_notMem {t : Text} (h : separator ∉ t) : splitOn separator t = [t] := by
  induction t with
  | nil => rfl
  | cons c rest ih =>
    simp only [List.mem_cons, not_or] at h
    rw [splitOn, if_neg (Ne.symm h.1), ih h.2]

/-- A separator cuts, whatever stands on its two sides. -/
theorem splitOn_append_separator (before after : Text) :
    splitOn separator (before ++ separator :: after) = splitOn separator before ++ splitOn separator after := by
  induction before with
  | nil => simp [splitOn]
  | cons c before ih =>
    rw [List.cons_append, splitOn, splitOn, ih]
    split
    · rw [List.cons_append]
    · obtain ⟨piece, pieces, cut⟩ := List.exists_cons_of_ne_nil (splitOn_ne_nil separator before)
      rw [cut, List.cons_append, List.cons_append]

/-- A text without the separator in front of one is the first piece. -/
theorem splitOn_append_cons {t : Text} (h : separator ∉ t) (rest : Text) :
    splitOn separator (t ++ separator :: rest) = t :: splitOn separator rest := by
  rw [splitOn_append_separator, splitOn_of_notMem h, List.singleton_append]

/-- Pieces in a row are the first one and the glue before each of the others. -/
theorem join_glue_cons (glue piece : Text) (pieces : List Text) :
    join glue (piece :: pieces) = piece ++ pieces.flatMap (glue ++ ·) := by
  induction pieces generalizing piece with
  | nil => simp [join]
  | cons next rest ih =>
    rw [join]
    · rw [ih next]
      simp
    · simp

theorem join_cons (piece : Text) (pieces : List Text) :
    join [separator] (piece :: pieces) = piece ++ pieces.flatMap (separator :: ·) :=
  join_glue_cons [separator] piece pieces

/-- Pieces without the separator that are joined by it come apart again. -/
theorem splitOn_join {pieces : List Text} (hne : pieces ≠ []) (h : ∀ piece ∈ pieces, separator ∉ piece) :
    splitOn separator (join [separator] pieces) = pieces := by
  induction pieces with
  | nil => exact absurd rfl hne
  | cons piece rest ih =>
    have plain := h piece (List.mem_cons_self ..)
    cases rest with
    | nil => exact splitOn_of_notMem plain
    | cons next rest =>
      have tail := ih (by simp) fun q hq => h q (List.mem_cons_of_mem _ hq)
      rw [join_cons] at tail ⊢
      rw [List.flatMap_cons, List.cons_append, splitOn_append_cons plain, tail]

/-- What stands in none of the pieces and is no separator does not stand in them put together. -/
theorem notMem_flatMap {pieces : List Text} {c : Char} (hs : c ≠ separator) (h : ∀ piece ∈ pieces, c ∉ piece) :
    c ∉ pieces.flatMap (separator :: ·) := by
  rw [List.mem_flatMap]
  rintro ⟨piece, hp, hm⟩
  rcases List.mem_cons.1 hm with hm | hm
  · exact hs hm
  · exact h piece hp hm

theorem notMem_join {pieces : List Text} {c : Char} (hs : c ≠ separator) (h : ∀ piece ∈ pieces, c ∉ piece) :
    c ∉ join [separator] pieces := by
  cases pieces with
  | nil => simp [join]
  | cons piece rest =>
    rw [join_cons, List.mem_append, not_or]
    exact ⟨h piece (List.mem_cons_self ..), notMem_flatMap hs fun q hq => h q (List.mem_cons_of_mem _ hq)⟩

/-- A text ends as its last piece does, unless that is empty. -/
theorem getLast?_join {pieces : List Text} {last : Text} {c : Char} (h : pieces.getLast? = some last)
    (hc : last.getLast? = some c) : (join [separator] pieces).getLast? = some c := by
  obtain ⟨front, rfl⟩ := List.getLast?_eq_some_iff.1 h
  have filled : last ≠ [] := by
    rintro rfl
    cases hc
  cases front with
  | nil => exact hc
  | cons piece front =>
    rw [List.cons_append, join_cons, List.flatMap_append, List.flatMap_singleton,
      ← List.append_assoc, List.append_cons, List.getLast?_append_of_ne_nil _ filled, hc]

/-- No piece has a separator in it. -/
theorem notMem_of_mem_splitOn {t piece : Text} (h : piece ∈ splitOn separator t) : separator ∉ piece := by
  induction t generalizing piece with
  | nil =>
    rw [splitOn, List.mem_singleton] at h
    simp [h]
  | cons c rest ih =>
    rw [splitOn] at h
    split at h
    · rcases List.mem_cons.1 h with rfl | h
      · simp
      · exact ih h
    · rename_i hc
      cases hs : splitOn separator rest with
      | nil => exact absurd hs (splitOn_ne_nil separator rest)
      | cons p ps =>
        rw [hs] at h ih
        rcases List.mem_cons.1 h with rfl | h
        · simpa [Ne.symm hc] using ih (List.mem_cons_self ..)
        · exact ih (List.mem_cons_of_mem _ h)

/-- Two characters in a row stand in one piece, where the second one is not the first of the piece. -/
theorem exists_mem_tail_of_splitOn {a b : Char} (ha : a ≠ separator) (hb : b ≠ separator) (before after : Text) :
    ∃ piece ∈ splitOn separator (before ++ a :: b :: after), b ∈ piece.tail := by
  induction before with
  | nil =>
    obtain ⟨first, rest, hs⟩ := List.exists_cons_of_ne_nil (splitOn_ne_nil separator after)
    have pieces : splitOn separator (a :: b :: after) = (a :: b :: first) :: rest := by
      rw [splitOn, if_neg ha, splitOn, if_neg hb, hs]
    exact ⟨a :: b :: first, by simp [pieces], List.mem_cons_self ..⟩
  | cons c before ih =>
    obtain ⟨piece, member, tail⟩ := ih
    rw [List.cons_append, splitOn]
    split
    · exact ⟨piece, List.mem_cons_of_mem _ member, tail⟩
    · obtain ⟨first, rest, hs⟩ := List.exists_cons_of_ne_nil (splitOn_ne_nil separator (before ++ a :: b :: after))
      rw [hs] at member ⊢
      rcases List.mem_cons.1 member with rfl | member
      · exact ⟨c :: piece, List.mem_cons_self .., List.mem_of_mem_tail tail⟩
      · exact ⟨piece, List.mem_cons_of_mem _ member, tail⟩

/-- A text that starts with the separator is its further pieces with a separator before each. -/
theorem eq_flatMap_splitOn {t : Text} (h : t.head? = some separator) :
    t = (splitOn separator t).tail.flatMap (separator :: ·) := by
  cases t with
  | nil => simp at h
  | cons c rest =>
    obtain rfl : c = separator := by simpa using h
    have joined := join_splitOn c (c :: rest)
    rw [splitOn, if_pos rfl, join_cons] at joined
    rw [splitOn, if_pos rfl]
    exact joined.symm

/-- Pieces without separators, with a separator before each, come apart again. -/
theorem splitOn_flatMap {pieces : List Text} (h : ∀ piece ∈ pieces, separator ∉ piece) :
    splitOn separator (pieces.flatMap (separator :: ·)) = [] :: pieces := by
  have joined : splitOn separator (join [separator] ([] :: pieces)) = [] :: pieces :=
    splitOn_join (by simp) (by simpa using h)
  rwa [join_cons] at joined

/-- What has no separator in it stands on one side of each. -/
theorem infix_of_infix_append_cons {t before after : Text} (plain : separator ∉ t)
    (h : t <:+: before ++ separator :: after) : t <:+: before ∨ t <:+: after := by
  rcases List.infix_append_iff.1 h with inner | inner | ⟨front, back, rfl, left, right⟩
  · exact .inl inner
  · rcases List.infix_cons_iff.1 inner with start | inner
    · rcases List.prefix_cons_iff.1 start with rfl | ⟨rest, rfl, -⟩
      · exact .inr (List.nil_infix)
      · exact absurd (List.mem_cons_self ..) plain
    · exact .inr inner
  · rcases List.prefix_cons_iff.1 right with rfl | ⟨rest, rfl, -⟩
    · rw [List.append_nil]
      exact .inl left.isInfix
    · exact absurd (by simp) plain

/-- What has no separator in it stands in one of the pieces that are joined. -/
theorem exists_infix_of_infix_join {t : Text} (filled : t ≠ []) (plain : separator ∉ t) {pieces : List Text}
    (h : t <:+: join [separator] pieces) : ∃ piece ∈ pieces, t <:+: piece := by
  induction pieces with
  | nil => exact absurd (List.infix_nil.1 h) filled
  | cons piece rest ih =>
    cases rest with
    | nil => exact ⟨piece, by simp, h⟩
    | cons next rest =>
      rw [join, List.append_assoc, List.singleton_append] at h
      · rcases infix_of_infix_append_cons plain h with inner | inner
        · exact ⟨piece, List.mem_cons_self .., inner⟩
        · obtain ⟨other, member, inner⟩ := ih inner
          exact ⟨other, List.mem_cons_of_mem _ member, inner⟩
      · simp

/-- A piece stands in the text. -/
theorem infix_of_mem_splitOn {t piece : Text} (h : piece ∈ splitOn separator t) : piece <:+: t := by
  obtain ⟨first, rest, pieces⟩ := List.exists_cons_of_ne_nil (splitOn_ne_nil separator t)
  have joined := join_splitOn separator t
  rw [pieces, join_cons] at joined
  rw [pieces] at h
  rw [← joined]
  rcases List.mem_cons.1 h with rfl | member
  · exact (List.prefix_append _ _).isInfix
  · obtain ⟨before, after, rfl⟩ := List.append_of_mem member
    exact ⟨first ++ before.flatMap (separator :: ·) ++ [separator], after.flatMap (separator :: ·), by simp⟩

theorem cut?_of_notMem {t : Text} (h : separator ∉ t) : cut? separator t = none := by
  induction t with
  | nil => rfl
  | cons c t ih =>
    simp only [List.mem_cons, not_or] at h
    rw [cut?, if_neg (Ne.symm h.1), ih h.2, Option.map_none]

theorem cut?_append_cons {t : Text} (h : separator ∉ t) (rest : Text) :
    cut? separator (t ++ separator :: rest) = some (t, rest) := by
  induction t with
  | nil => rw [List.nil_append, cut?, if_pos rfl]
  | cons c t ih =>
    simp only [List.mem_cons, not_or] at h
    rw [List.cons_append, cut?, if_neg (Ne.symm h.1), ih h.2, Option.map_some]

/-- What stands before and after a separator, and the separator, are the text. -/
theorem eq_of_cut? {t before after : Text} (h : cut? separator t = some (before, after)) :
    t = before ++ separator :: after := by
  induction t generalizing before after with
  | nil => cases h
  | cons c t ih =>
    rw [cut?] at h
    split at h
    · rename_i hc
      cases h
      rw [hc, List.nil_append]
    · obtain ⟨⟨before', after'⟩, hcut, hpair⟩ := Option.map_eq_some_iff.1 h
      cases hpair
      rw [List.cons_append, ← ih hcut]

/-- The cut is at the first separator. -/
theorem cut?_eq_some_iff {t before after : Text} :
    cut? separator t = some (before, after) ↔ t = before ++ separator :: after ∧ separator ∉ before := by
  constructor
  · intro cut
    have inside : separator ∈ t := by simp [eq_of_cut? cut]
    obtain ⟨front, back, rfl, plain⟩ := List.eq_append_cons_of_mem inside
    rw [cut?_append_cons plain] at cut
    cases cut
    exact ⟨rfl, plain⟩
  · rintro ⟨rfl, plain⟩
    exact cut?_append_cons plain after

/-- A text is cut at its last separator. -/
theorem cutLast?_append_cons {t : Text} (h : separator ∉ t) (before : Text) :
    cutLast? separator (before ++ separator :: t) = some (before, t) := by
  have turned : (before ++ separator :: t).reverse = t.reverse ++ separator :: before.reverse := by simp
  have plain : separator ∉ t.reverse := by simpa using h
  rw [cutLast?, turned, cut?_append_cons plain]
  simp

theorem exists_eq_append_last {t : Text} (h : separator ∈ t) :
    ∃ before last, t = before ++ separator :: last ∧ separator ∉ last := by
  obtain ⟨last, before, turned, plain⟩ := List.eq_append_cons_of_mem (List.mem_reverse.2 h)
  refine ⟨before.reverse, last.reverse, ?_, by simpa using plain⟩
  simpa using congrArg List.reverse turned

theorem upTo_of_notMem {t : Text} (h : separator ∉ t) : upTo separator t = t := by
  rw [upTo, List.takeWhile_eq_self_iff]
  intro c hc
  simpa using fun he : c = separator => h (he ▸ hc)

theorem upTo_append_cons {t : Text} (h : separator ∉ t) (rest : Text) :
    upTo separator (t ++ separator :: rest) = t := by
  have kept : t.takeWhile (· != separator) = t := upTo_of_notMem h
  rw [upTo, List.takeWhile_append, kept, if_pos rfl, List.takeWhile_cons_of_neg (by simp), List.append_nil]

theorem withoutFinalSlash_of_getLast? {path : Text} (h : path.getLast? ≠ some '/') : withoutFinalSlash path = path := by
  rw [withoutFinalSlash, if_neg fun both => h both.2]

/-- A slash at the end is what is taken away. -/
theorem withoutFinalSlash_append {path : Text} (h : path ≠ []) : withoutFinalSlash (path ++ ['/']) = path := by
  rw [withoutFinalSlash, if_pos]
  · simp
  · refine ⟨fun he => h ?_, by simp⟩
    simpa using congrArg List.dropLast he

theorem head?_withoutFinalSlash {path : Text} (h : path.head? = some '/') :
    (withoutFinalSlash path).head? = some '/' := by
  unfold withoutFinalSlash
  split
  · rename_i both
    cases path with
    | nil => cases h
    | cons c rest =>
      cases rest with
      | nil => exact absurd (by simpa using h) both.1
      | cons d rest => exact h
  · exact h

/-- A slash is all that a path can lose. -/
theorem withoutFinalSlash_eq_or (path : Text) :
    withoutFinalSlash path = path ∨ withoutFinalSlash path ++ ['/'] = path := by
  unfold withoutFinalSlash
  split
  · rename_i both
    exact .inr (List.dropLast_append_getLast? _ both.2)
  · exact .inl rfl

/-- Taking away a final slash leaves a start of the path. -/
theorem isPrefix_withoutFinalSlash (path : Text) : withoutFinalSlash path <+: path := by
  unfold withoutFinalSlash
  split
  · exact List.dropLast_prefix path
  · exact List.prefix_rfl

theorem mem_of_mem_withoutFinalSlash {path : Text} {c : Char} (h : c ∈ withoutFinalSlash path) : c ∈ path :=
  (isPrefix_withoutFinalSlash path).subset h

end TypedRoutes.Text
