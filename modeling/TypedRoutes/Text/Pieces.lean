import TypedRoutes.Text.Class

/-!
# Cutting and joining texts

`splitOn` cuts a text at every separator and `join` puts the pieces back (`join_splitOn`); `cut?` cuts at the
first separator only; `trim` takes the blanks off both ends, and `withoutFinalSlash` the slash off the end of a
path.
-/

namespace TypedRoutes.Text

set_option autoImplicit false

/-- The pieces between the separators, one more than there are separators. -/
def splitOn (separator : Char) : Text → List Text
  | [] => [[]]
  | c :: rest =>
    if c = separator then [] :: splitOn separator rest
    else match splitOn separator rest with
      | [] => [[c]]
      | piece :: pieces => (c :: piece) :: pieces

/-- The pieces in a row, with `glue` between neighbours. -/
def join (glue : Text) : List Text → Text
  | [] => []
  | [piece] => piece
  | piece :: pieces => piece ++ glue ++ join glue pieces

/-- What stands before and after the first separator. -/
def cut? (separator : Char) : Text → Option (Text × Text)
  | [] => none
  | c :: rest =>
    if c = separator then some ([], rest)
    else (cut? separator rest).map fun (before, after) => (c :: before, after)

/-- What stands before and after the last separator. -/
def cutLast? (separator : Char) (t : Text) : Option (Text × Text) :=
  (cut? separator t.reverse).map fun (after, before) => (before.reverse, after.reverse)

/-- What stands before the first separator, all of the text when there is none. -/
def upTo (separator : Char) (t : Text) : Text :=
  t.takeWhile (· != separator)

/-- A path without the slash at its end, unless it is nothing else. -/
def withoutFinalSlash (path : Text) : Text :=
  if path ≠ ['/'] ∧ path.getLast? = some '/' then path.dropLast else path

/-- The text without the blanks at its end. -/
def trimEnd (t : Text) : Text := (t.reverse.dropWhile isBlank).reverse

/-- The text without the blanks at either end. -/
def trim (t : Text) : Text := trimEnd (t.dropWhile isBlank)

/-- Every line break, in any of the three spellings, as a single newline. -/
def unifyNewlines : Text → Text
  | [] => []
  | '\r' :: '\n' :: rest => '\n' :: unifyNewlines rest
  | '\r' :: rest => '\n' :: unifyNewlines rest
  | c :: rest => c :: unifyNewlines rest

theorem splitOn_ne_nil (separator : Char) (t : Text) : splitOn separator t ≠ [] := by
  cases t with
  | nil => simp [splitOn]
  | cons c rest =>
    unfold splitOn
    split
    · simp
    · split <;> simp

/-- Joining with the separator undoes the cutting. -/
theorem join_splitOn (separator : Char) (t : Text) : join [separator] (splitOn separator t) = t := by
  induction t with
  | nil => rfl
  | cons c rest ih =>
    unfold splitOn
    split
    · rename_i h
      cases hs : splitOn separator rest with
      | nil => exact absurd hs (splitOn_ne_nil separator rest)
      | cons p ps => rw [hs] at ih; simp [join, ih, h]
    · cases hs : splitOn separator rest with
      | nil => exact absurd hs (splitOn_ne_nil separator rest)
      | cons p ps =>
        rw [hs] at ih
        cases ps with
        | nil => simpa [join] using ih
        | cons q qs => simpa [join] using ih

end TypedRoutes.Text
