import TypedRoutes.Text.Ranges

/-!
# Decimal integers

Integers are read and written in base ten. Reading takes an optional sign and ASCII digits; a text of more than
`maxDigits` digits is refused, leading zeros counted and the sign not. Writing is canonical, and reading undoes
it (`ofDigits_naturalText`).
-/

namespace TypedRoutes.Number

set_option autoImplicit false

/-- The number of digits above which no integer is read. -/
def maxDigits : Nat := 4300

/-- The decimal text of a natural number. -/
def naturalText (n : Nat) : Text := Nat.toDigits 10 n

/-- The decimal text of an integer. -/
def integerText : Int → Text
  | .ofNat n => naturalText n
  | .negSucc n => '-' :: naturalText (n + 1)

/-- The value of a row of digits. -/
def ofDigits (digits : Text) : Nat := Nat.ofDigitChars 10 digits 0

/-- The integer of a sign and a row of digits. -/
def signed (negative : Bool) (n : Nat) : Int := if negative then -(n : Int) else n

/-- Whether a text starts with a minus sign, and what follows an optional sign. -/
def splitSign : Text → Bool × Text
  | '+' :: rest => (false, rest)
  | '-' :: rest => (true, rest)
  | rest => (false, rest)

/-- A row of one or more ASCII digits. -/
def isDigits (t : Text) : Bool := !t.isEmpty && t.all Char.isDigit

/-- The integer that a text denotes, when it is a sign and at most `maxDigits` digits. -/
def integer? (t : Text) : Option Int :=
  let (negative, digits) := splitSign t
  if isDigits digits && decide (digits.length ≤ maxDigits) then some (signed negative (ofDigits digits)) else none

/-- Why a number of `count` digits is refused, in words. -/
def tooManyDigits (count : Nat) : Text :=
  "Exceeds the limit (4300 digits) for integer string conversion: value has ".toList ++ naturalText count ++
    " digits; use sys.set_int_max_str_digits() to increase the limit".toList

theorem ofDigits_naturalText (n : Nat) : ofDigits (naturalText n) = n :=
  Nat.ofDigitChars_ten_toDigits

end TypedRoutes.Number
