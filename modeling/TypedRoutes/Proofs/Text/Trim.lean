import Mathlib.Data.List.TakeWhile
import TypedRoutes.Text.Pieces

/-!
# Trimming

Trimming takes away the blanks around a text that neither starts nor ends with one (`trim_append`), and all of a text
that is nothing else (`trim_of_blank`). The characters of words are no blanks (`isBlank_of_isWord`).
-/

namespace TypedRoutes.Text

set_option autoImplicit false

/-- The code points of the blanks beyond ASCII are in no range of the word characters. -/
theorem not_word_of_mem_blankRanges : ∀ r ∈ blankRanges, ∀ k < r.2 - r.1 + 1, inRanges wordRanges (r.1 + k) = false := by
  decide +kernel

theorem not_blank_of_ascii_word : ∀ n < 128, isWord (Char.ofNat n) = true → isBlank (Char.ofNat n) = false := by
  decide +kernel

/-- No word character is a blank. -/
theorem isBlank_of_isWord {c : Char} (word : isWord c = true) : isBlank c = false := by
  by_cases ascii : c.toNat < 128
  · have settled := not_blank_of_ascii_word c.toNat ascii
    rw [Char.ofNat_toNat] at settled
    exact settled word
  · simp only [isWord, isBlank, ascii, if_false] at word ⊢
    by_contra blank
    obtain ⟨r, member, low, high⟩ := inRanges_iff.1 (by simpa using blank)
    have foreign := not_word_of_mem_blankRanges r member (c.toNat - r.1) (by omega)
    rw [Nat.add_sub_cancel' low, word] at foreign
    cases foreign

theorem dropWhile_isBlank_append {gap t : Text} (blank : ∀ c ∈ gap, isBlank c = true)
    (dark : ∀ c, t.head? = some c → isBlank c = false) : (gap ++ t).dropWhile isBlank = t := by
  rw [List.dropWhile_append_of_pos blank]
  cases t with
  | nil => rfl
  | cons c rest => exact List.dropWhile_cons_of_neg (by simp [dark c rfl])

theorem trim_of_blank {gap : Text} (blank : ∀ c ∈ gap, isBlank c = true) : trim gap = [] := by
  rw [trim, List.dropWhile_eq_nil_iff.2 blank]
  rfl

/-- The blanks around a text of other characters are taken away. -/
theorem trim_append {before t after : Text} (blank : ∀ c ∈ before, isBlank c = true)
    (blank' : ∀ c ∈ after, isBlank c = true) (ne : t ≠ []) (dark : ∀ c ∈ t, isBlank c = false) :
    trim (before ++ t ++ after) = t := by
  have start : (before ++ (t ++ after)).dropWhile isBlank = t ++ after := by
    refine dropWhile_isBlank_append blank fun c first => dark c ?_
    obtain ⟨d, rest, rfl⟩ := List.exists_cons_of_ne_nil ne
    exact List.mem_of_mem_head? (first : (d :: rest).head? = some c)
  have finish : (after.reverse ++ t.reverse).dropWhile isBlank = t.reverse := by
    refine dropWhile_isBlank_append (by simpa using blank') fun c last => dark c ?_
    exact List.mem_reverse.1 (List.mem_of_mem_head? last)
  rw [trim, trimEnd, List.append_assoc, start, List.reverse_append, finish, List.reverse_reverse]

end TypedRoutes.Text
