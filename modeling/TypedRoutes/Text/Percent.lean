import TypedRoutes.Text.Ranges

/-!
# Percent-decoding

A percent-encoded text is first read into units: an escape `%XX` is an octet, every other character stands for
itself, and a `%` that two hexadecimal digits do not follow is such a character. The octets between two
characters are then read as UTF-8. An ill-formed stretch of octets gives one replacement character for each of
its maximal parts that could have begun a well-formed one.
-/

namespace TypedRoutes.Text

set_option autoImplicit false

/-- The value of a hexadecimal digit. -/
def hexValue? (c : Char) : Option Nat :=
  if '0' ≤ c ∧ c ≤ '9' then some (c.toNat - 48)
  else if 'a' ≤ c ∧ c ≤ 'f' then some (c.toNat - 87)
  else if 'A' ≤ c ∧ c ≤ 'F' then some (c.toNat - 55)
  else none

/-- The octet that two hexadecimal digits denote. -/
def hexOctet? (a b : Char) : Option Nat := do
  return 16 * (← hexValue? a) + (← hexValue? b)

/-- What a percent-encoded text is made of. -/
inductive CodeUnit where
  | char (c : Char)
  | octet (n : Nat)
  deriving DecidableEq, Repr

/-- The units of a percent-encoded text. -/
def units : Text → List CodeUnit
  | [] => []
  | [a] => [.char a]
  | [a, b] => [.char a, .char b]
  | a :: b :: c :: rest =>
    if a = '%' then
      match hexOctet? b c with
      | some n => .octet n :: units rest
      | none => .char a :: units (b :: c :: rest)
    else .char a :: units (b :: c :: rest)

/-- A UTF-8 sequence of which some octets are still missing: the value so far, how many octets are due, and the
closed range in which the next one has to lie. -/
structure Partial where
  value : Nat
  due : Nat
  low : Nat
  high : Nat
  deriving DecidableEq, Repr

/-- The sequence that a leading octet opens, for the leading octets of more than one. -/
def Partial.ofLead? (n : Nat) : Option Partial :=
  if 0xC2 ≤ n ∧ n ≤ 0xDF then some ⟨n - 0xC0, 1, 0x80, 0xBF⟩
  else if n = 0xE0 then some ⟨0, 2, 0xA0, 0xBF⟩
  else if n = 0xED then some ⟨0xD, 2, 0x80, 0x9F⟩
  else if 0xE1 ≤ n ∧ n ≤ 0xEF then some ⟨n - 0xE0, 2, 0x80, 0xBF⟩
  else if n = 0xF0 then some ⟨0, 3, 0x90, 0xBF⟩
  else if 0xF1 ≤ n ∧ n ≤ 0xF3 then some ⟨n - 0xF0, 3, 0x80, 0xBF⟩
  else if n = 0xF4 then some ⟨4, 3, 0x80, 0x8F⟩
  else none

/-- The character that stands for an ill-formed stretch. -/
def replacement : Char := Char.ofNat 0xFFFD

/-- An octet at the start of a sequence: the characters that it settles and the sequence that it opens. -/
def openSequence (n : Nat) : Text × Option Partial :=
  if n < 0x80 then ([Char.ofNat n], none)
  else match Partial.ofLead? n with
    | some p => ([], some p)
    | none => ([replacement], none)

/-- One more octet: the characters that it settles and the sequence left open. -/
def stepOctet (state : Option Partial) (n : Nat) : Text × Option Partial :=
  match state with
  | none => openSequence n
  | some p =>
    if p.low ≤ n ∧ n ≤ p.high then
      let value := 64 * p.value + (n - 0x80)
      if p.due ≤ 1 then ([Char.ofNat value], none) else ([], some ⟨value, p.due - 1, 0x80, 0xBF⟩)
    else
      let (settled, state) := openSequence n
      (replacement :: settled, state)

/-- What is left of a sequence that nothing completes. -/
def closeSequence : Option Partial → Text
  | none => []
  | some _ => [replacement]

/-- The characters that units denote after an open sequence. -/
def decodeUnits (state : Option Partial) : List CodeUnit → Text
  | [] => closeSequence state
  | .char c :: rest => closeSequence state ++ c :: decodeUnits none rest
  | .octet n :: rest => (stepOctet state n).1 ++ decodeUnits (stepOctet state n).2 rest

/-- The text that a percent-encoded text denotes. -/
def percentDecode (t : Text) : Text := decodeUnits none (units t)

end TypedRoutes.Text
