import TypedRoutes.Number.Decimal

/-!
# Floating-point numbers

Binary floating-point numbers of 64 bits, as a sign, a significand below `2 ^ 53` and an exponent of two. A
decimal is rounded to the nearest of them, a half to the even significand. A number is written with the fewest
decimal digits that read back as the number, and of those texts the nearest one is taken.
-/

namespace TypedRoutes.Number

set_option autoImplicit false

/-- A floating-point number: `finite s m q` is `m * 2 ^ q`, negated when `s` holds. -/
inductive Binary64 where
  | nan
  | infinite (negative : Bool)
  | finite (negative : Bool) (significand : Nat) (exponent : Int)
  deriving DecidableEq, Repr

namespace Binary64

/-- The exponent of the smallest steps. -/
def minExponent : Int := -1074

/-- The exponent of the largest steps. -/
def maxExponent : Int := 971

/-- The natural number nearest to a quotient, of two the even one. -/
def roundDiv (num den : Nat) : Nat :=
  let floor := num / den
  let twice := 2 * (num % den)
  if twice < den then floor
  else if den < twice then floor + 1
  else floor + floor % 2

/-- The number nearest to `num / den`, whose magnitude has to be positive. -/
def ofQuotient (negative : Bool) (num den : Nat) : Binary64 :=
  let scaled (q : Int) : Nat × Nat := (num * Nat.pow 2 (-q).toNat, den * Nat.pow 2 q.toNat)
  let low := max minExponent ((Nat.log2 num : Int) - Nat.log2 den - 53)
  let q := if (scaled low).1 / (scaled low).2 < Nat.pow 2 53 then low else low + 1
  let m := roundDiv (scaled q).1 (scaled q).2
  let (m, q) := if m = Nat.pow 2 53 then (Nat.pow 2 52, q + 1) else (m, q)
  if maxExponent < q then .infinite negative else .finite negative m q

/-- The number nearest to the decimal `digits * 10 ^ power`. Decimals far outside the range are settled by their
order of magnitude. -/
def ofDecimal (negative : Bool) (digits : Nat) (power : Int) : Binary64 :=
  let order := (naturalText digits).length + power
  if digits = 0 ∨ order < -400 then .finite negative 0 minExponent
  else if 400 < order then .infinite negative
  else ofQuotient negative (digits * Nat.pow 10 power.toNat) (Nat.pow 10 (-power).toNat)

/-- The least power of ten above a quotient, searched upward from a bound below. -/
def decimalOrder (num den : Nat) : Nat → Int → Int
  | 0, order => order
  | fuel + 1, order =>
    if num * Nat.pow 10 (-order).toNat < den * Nat.pow 10 order.toNat then order
    else decimalOrder num den fuel (order + 1)

/-- The points of the decimal grid of step `10 ^ power` next to `num / den` that lie within the bounds `low / den`
and `high / den`, nearest first; at the same distance the even one. -/
def gridPoint? (num low high den : Nat) (closed : Bool) (power : Int) : Option Nat :=
  let up := Nat.pow 10 (-power).toNat
  let step := den * Nat.pow 10 power.toNat
  let below := num * up / step
  let inside (n : Nat) : Bool :=
    if closed then low * up ≤ n * step && n * step ≤ high * up else low * up < n * step && n * step < high * up
  let twice := 2 * (num * up % step)
  let belowFirst := twice < step || (twice == step && below % 2 == 0)
  if belowFirst then
    if inside below then some below else if inside (below + 1) then some (below + 1) else none
  else if inside (below + 1) then some (below + 1) else if inside below then some below else none

/-- The first grid with a point within the bounds, from the coarsest of the given number of grids on: its point and
its power of ten. -/
def shortestFrom (num low high den : Nat) (closed : Bool) : Nat → Int → Nat × Int
  | 0, power => (num, power)
  | count + 1, power =>
    match gridPoint? num low high den closed power with
    | some n => (n, power)
    | none => shortestFrom num low high den closed count (power - 1)

/-- The shortest decimal that reads back as `m * 2 ^ q`: its digits and its power of ten. -/
def shortest (m : Nat) (q : Int) : Nat × Int :=
  let unit := 4 * Nat.pow 2 q.toNat
  let den := 4 * Nat.pow 2 (-q).toNat
  let num := m * unit
  let below := if m = Nat.pow 2 52 ∧ minExponent < q then unit / 4 else unit / 2
  let start := ((Nat.log2 num : Int) - Nat.log2 den) * 30103 / 100000 - 1
  let order := decimalOrder num den 8 start
  shortestFrom num (num - below) (num + unit / 2) den (m % 2 == 0) 18 (order - 1)

/-- How a positive decimal is laid out: up to the order `positionalLimit` and above the order `-4` with a point among its
digits, otherwise with one digit before the point and the power of ten in two digits at least. -/
def positionalLimit : Int := 16

/-- The digits without the zeros at their end. -/
def dropZeros (digits : Text) : Text := (digits.reverse.dropWhile (· == '0')).reverse

/-- The text of the decimal `0.d₁d₂… * 10 ^ order` with the given digits. -/
def layout (digits : Text) (order : Int) : Text :=
  let zeros (n : Int) : Text := List.replicate n.toNat '0'
  if -4 < order ∧ order ≤ positionalLimit then
    if order ≤ 0 then "0.".toList ++ zeros (-order) ++ digits
    else if (digits.length : Int) ≤ order then digits ++ zeros (order - digits.length) ++ ".0".toList
    else digits.take order.toNat ++ '.' :: digits.drop order.toNat
  else
    let power := order - 1
    let magnitude := naturalText power.natAbs
    digits.take 1 ++ (if digits.length ≤ 1 then [] else '.' :: digits.drop 1)
      ++ ['e', if power < 0 then '-' else '+'] ++ (if magnitude.length < 2 then '0' :: magnitude else magnitude)

/-- The text of a number. -/
def text : Binary64 → Text
  | nan => "nan".toList
  | infinite negative => (if negative then ['-'] else []) ++ "inf".toList
  | finite negative m q =>
    (if negative then ['-'] else []) ++
      if m = 0 then "0.0".toList
      else
        let (n, power) := shortest m q
        let digits := naturalText n
        layout (dropZeros digits) (digits.length + power)

/-- A decimal with an optional fraction and exponent, after its sign: the digits as one number and the power of ten
that scales it. -/
def decimal? (t : Text) : Option (Nat × Int) := do
  let whole := t.takeWhile Char.isDigit
  let rest := t.drop whole.length
  let (fraction, rest) := match rest with
    | '.' :: more => (more.takeWhile Char.isDigit, more.dropWhile Char.isDigit)
    | _ => ([], rest)
  if whole.isEmpty && fraction.isEmpty then none
  let power : Int ← match rest with
    | [] => some 0
    | e :: more =>
      if e = 'e' ∨ e = 'E' then
        let (negative, digits) := splitSign more
        if isDigits digits then some (signed negative (ofDigits digits)) else none
      else none
  return (ofDigits (whole ++ fraction), power - fraction.length)

/-- The number that a text denotes: a signed decimal, `inf` or `nan`. -/
def ofText? (t : Text) : Option Binary64 :=
  let (negative, rest) := splitSign t
  if rest = "inf".toList then some (infinite negative)
  else if rest = "nan".toList then some nan
  else (decimal? rest).map fun (digits, power) => ofDecimal negative digits power

end Binary64

end TypedRoutes.Number
