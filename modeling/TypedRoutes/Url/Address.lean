import TypedRoutes.Number.Decimal
import TypedRoutes.Text.Percent
import TypedRoutes.Text.Pieces

/-!
# Internet addresses

Which texts are written addresses. A version 4 address is four decimal octets without leading zeros. A version 6
address is eight groups of up to four hexadecimal digits; one `::` stands for a row of zero groups, the last two
groups may be written as a version 4 address, and a zone may follow a percent sign.
-/

namespace TypedRoutes.Url

set_option autoImplicit false

/-- A decimal octet: up to three digits, no leading zero, below 256. -/
def isOctet (t : Text) : Bool :=
  Number.isDigits t && decide (t.length ≤ 3) && (t.length == 1 || t.head? != some '0')
    && decide (Number.ofDigits t < 256)

/-- A version 4 address. -/
def isIPv4 (t : Text) : Bool :=
  let octets := Text.splitOn '.' t
  octets.length == 4 && octets.all isOctet

/-- One to four hexadecimal digits. -/
def isGroup (t : Text) : Bool :=
  !t.isEmpty && decide (t.length ≤ 4) && t.all fun c => (Text.hexValue? c).isSome

/-- The groups of a version 6 address when its tail is written as a version 4 address. -/
def expandTail (parts : List Text) : Option (List Text) :=
  match parts.getLast? with
  | none => some parts
  | some last =>
    if last.contains '.' then
      if isIPv4 last then some (parts.dropLast ++ [['0'], ['0']]) else none
    else some parts

/-- The groups between colons make a version 6 address. The place of a `::` is the one empty part that is neither
the first nor the last. -/
def areGroups (parts : List Text) : Bool :=
  let inner := (parts.drop 1).dropLast
  match inner.findIdx? List.isEmpty with
  | none => parts.length == 8 && parts.all isGroup
  | some i =>
    let before := parts.take (i + 1)
    let after := parts.drop (i + 2)
    let before := if before == [[]] then [] else before
    let after := if after == [[]] then [] else after
    decide (before.length + after.length ≤ 7) && before.all isGroup && after.all isGroup

/-- A version 6 address, with or without a zone. -/
def isIPv6 (t : Text) : Bool :=
  let (address, zoneFits) := match Text.cut? '%' t with
    | none => (t, true)
    | some (address, zone) => (address, !zone.isEmpty && !zone.contains '%')
  let parts := Text.splitOn ':' address
  zoneFits && !t.contains '/' && decide (3 ≤ parts.length) &&
    match expandTail parts with
    | some groups => decide (groups.length ≤ 9) && areGroups groups
    | none => false

end TypedRoutes.Url
