import TypedRoutes.Text.Case
import TypedRoutes.Text.Quoted
import TypedRoutes.Url.Address

/-!
# Authorities

The part of a URL between `//` and the path: `user@host:8080`. The host may be an address in brackets, whose
spelling is checked. A character that could be taken for a delimiter after compatibility folding is refused.
-/

namespace TypedRoutes.Url

set_option autoImplicit false

/-- Why a text is no URL. -/
inductive Malformed where
  | brackets
  | futureAddress
  | bracketedIPv4
  | notAnAddress (host : Text)
  | lookalike (authority : Text)
  deriving DecidableEq, Repr

/-- The reason in words. -/
def Malformed.message : Malformed → Text
  | brackets => "Invalid IPv6 URL".toList
  | futureAddress => "IPvFuture address is invalid".toList
  | bracketedIPv4 => "An IPv4 address cannot be in brackets".toList
  | notAnAddress host => Text.quoted host ++ " does not appear to be an IPv4 or IPv6 address".toList
  | lookalike authority =>
    "netloc '".toList ++ authority ++ "' contains invalid characters under NFKC normalization".toList

namespace Authority

/-- What stands after the user information. -/
def hostPart (authority : Text) : Text :=
  match Text.cutLast? '@' authority with
  | some (_, rest) => rest
  | none => authority

/-- An address of a later version: `v`, a hexadecimal number, a dot, and more. -/
def isFutureAddress (t : Text) : Bool :=
  match t with
  | 'v' :: rest =>
    let digits := rest.takeWhile fun c => (Text.hexValue? c).isSome
    match rest.drop digits.length with
    | '.' :: _ :: _ => !digits.isEmpty
    | _ => false
  | _ => false

/-- The check of what stands between brackets. -/
def checkBracketed (host : Text) : Except Malformed PUnit :=
  if host.head? = some 'v' then
    if isFutureAddress host then .ok ⟨⟩ else .error .futureAddress
  else if isIPv4 host then .error .bracketedIPv4
  else if isIPv6 host then .ok ⟨⟩
  else .error (.notAnAddress host)

/-- The check of the brackets of an authority: they come in a pair, and beside them stands only what a colon starts. -/
def checkBrackets (authority : Text) : Except Malformed PUnit :=
  match authority.contains '[', authority.contains ']' with
  | false, false => .ok ⟨⟩
  | true, true =>
    let place := hostPart authority
    match Text.cut? '[' place with
    | some (before, inside) =>
      let tail := match Text.cut? ']' inside with
        | some (_, tail) => tail
        | none => []
      if !before.isEmpty || !(tail.isEmpty || tail.head? == some ':') then .error .brackets
      else checkBracketed (Text.upTo ']' inside)
    | none => checkBracketed (Text.upTo ':' place)
  | _, _ => .error .brackets

/-- Characters beyond ASCII whose compatibility form holds one of the delimiters of a URL. -/
def lookalikes : List Nat :=
  [0x2047, 0x2048, 0x2049, 0x2100, 0x2101, 0x2105, 0x2106, 0x2A74, 0xFE13, 0xFE16, 0xFE55, 0xFE56, 0xFE5F,
    0xFE6B, 0xFF03, 0xFF0F, 0xFF1A, 0xFF1F, 0xFF20]

/-- The check for characters that could be taken for delimiters. -/
def checkLookalikes (authority : Text) : Except Malformed PUnit :=
  if authority.any fun c => lookalikes.contains c.toNat then .error (.lookalike authority) else .ok ⟨⟩

/-- The host in lower case, apart from a zone after a percent sign. -/
def host (authority : Text) : Text :=
  let place := hostPart authority
  let name := match Text.cut? '[' place with
    | some (_, inside) => Text.upTo ']' inside
    | none => Text.upTo ':' place
  let zoned := Text.upTo '%' name
  Text.lower zoned ++ name.drop zoned.length

end Authority

end TypedRoutes.Url
