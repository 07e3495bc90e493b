/-!
# Texts and ranges of code points

A text is a list of characters: every length, position and reversal in this library counts code points. A
class of characters is given by closed ranges of code points; `inRanges_iff` says what the look-up means.
-/

namespace TypedRoutes

set_option autoImplicit false

/-- A sequence of Unicode characters. -/
abbrev Text := List Char

namespace Text

/-- Membership of a code point in a list of closed ranges. -/
def inRanges (ranges : List (Nat × Nat)) (n : Nat) : Bool :=
  ranges.any fun r => decide (r.1 ≤ n) && decide (n ≤ r.2)

theorem inRanges_iff {ranges : List (Nat × Nat)} {n : Nat} :
    inRanges ranges n = true ↔ ∃ r ∈ ranges, r.1 ≤ n ∧ n ≤ r.2 := by
  simp [inRanges]

/-- A number that the characters of a text determine. -/
def hash (t : Text) : UInt64 := t.foldl (fun h c => mixHash h c.val.toUInt64) 7

end Text

end TypedRoutes
