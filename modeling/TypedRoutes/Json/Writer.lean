import TypedRoutes.Value.Basic

/-!
# Writing JSON

Values are written as ASCII text, either on one line or with one item a line. Every character outside the
printable ASCII ones is escaped, as one unit of four hexadecimal digits or as a pair of them.
-/

namespace TypedRoutes.Json

set_option autoImplicit false

/-- An escape of four hexadecimal digits. -/
def unitEscape (n : Nat) : Text := '\\' :: 'u' :: Text.hexDigits 4 n

/-- A character as it is written between quotes. -/
def writtenChar (c : Char) : Text :=
  if c = '"' then "\\\"".toList
  else if c = '\\' then "\\\\".toList
  else if c = '\n' then "\\n".toList
  else if c = '\r' then "\\r".toList
  else if c = '\t' then "\\t".toList
  else if c = '\x08' then "\\b".toList
  else if c = '\x0c' then "\\f".toList
  else if 32 ≤ c.toNat ∧ c.toNat ≤ 126 then [c]
  else if c.toNat < 0x10000 then unitEscape c.toNat
  else
    let n := c.toNat - 0x10000
    unitEscape (0xD800 + n / 0x400) ++ unitEscape (0xDC00 + n % 0x400)

/-- A text between quotes. -/
def writtenText (t : Text) : Text := '"' :: t.flatMap writtenChar ++ ['"']

/-- A floating-point number; the values that JSON has no form for are spelled out. -/
def writtenFloat : Number.Binary64 → Text
  | .nan => "NaN".toList
  | .infinite false => "Infinity".toList
  | .infinite true => "-Infinity".toList
  | x => x.text

/-- The line break before an item at a depth, or nothing on one line. -/
def lineBreak (indent : Option Int) (depth : Nat) : Text :=
  match indent with
  | none => []
  | some width => '\n' :: List.replicate (width.toNat * depth) ' '

/-- Items between brackets, at the depth of the brackets. -/
def bracketed (indent : Option Int) (depth : Nat) (first last : Char) (items : List Text) : Text :=
  if items.isEmpty then [first, last]
  else
    let separator := if indent.isNone then ", ".toList else ',' :: lineBreak indent (depth + 1)
    first :: lineBreak indent (depth + 1) ++ Text.join separator items ++ lineBreak indent depth ++ [last]

mutual

/-- A value at a depth. -/
def written (indent : Option Int) (depth : Nat) : Value → Text
  | .none => "null".toList
  | .bool true => "true".toList
  | .bool false => "false".toList
  | .int n => Number.integerText n
  | .float x => writtenFloat x
  | .text t => writtenText t
  | .list items => bracketed indent depth '[' ']' (writtenItems indent (depth + 1) items)
  | .map entries => bracketed indent depth '\x7b' '\x7d' (writtenEntries indent (depth + 1) entries)
  | .record _ fields => bracketed indent depth '\x7b' '\x7d' (writtenEntries indent (depth + 1) fields)

/-- The items of a list. -/
def writtenItems (indent : Option Int) (depth : Nat) : List Value → List Text
  | [] => []
  | v :: rest => written indent depth v :: writtenItems indent depth rest

/-- The entries of a map. -/
def writtenEntries (indent : Option Int) (depth : Nat) : List (Text × Value) → List Text
  | [] => []
  | (key, v) :: rest =>
    (writtenText key ++ ": ".toList ++ written indent depth v) :: writtenEntries indent depth rest

end

/-- A value as JSON, on one line or with the given indentation. -/
def write (indent : Option Int) (v : Value) : Text := written indent 0 v

end TypedRoutes.Json
