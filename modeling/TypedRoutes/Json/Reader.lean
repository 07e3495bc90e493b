import TypedRoutes.Assoc
import TypedRoutes.Text.Percent
import TypedRoutes.Value.Basic

/-!
# Reading JSON

A text is read into a value, or refused at the first place where no value can go on. Beside the standard forms,
`NaN`, `Infinity` and `-Infinity` are read as floating-point numbers. A repeated key keeps its first place and its
last value. Integers of too many digits are refused, and so is nesting beyond `maxDepth`.

Every reader takes the text that is left and returns what it read together with the rest. A fault carries the
number of characters that were left, from which `locate` finds the place.
-/

namespace TypedRoutes.Json

set_option autoImplicit false

open Number

/-- What is wrong at a place. -/
inductive Reason where
  | value
  | propertyName
  | colon
  | comma
  | trailing
  | byteOrderMark
  | unterminated
  | controlCharacter
  | escape
  | unicodeEscape
  deriving DecidableEq, Repr

/-- The reason in words. -/
def Reason.message : Reason → Text
  | value => "Expecting value".toList
  | propertyName => "Expecting property name enclosed in double quotes".toList
  | colon => "Expecting ':' delimiter".toList
  | comma => "Expecting ',' delimiter".toList
  | trailing => "Extra data".toList
  | byteOrderMark => "Unexpected UTF-8 BOM (decode using utf-8-sig)".toList
  | unterminated => "Unterminated string starting at".toList
  | controlCharacter => "Invalid control character at".toList
  | escape => "Invalid \\escape".toList
  | unicodeEscape => "Invalid \\uXXXX escape".toList

/-- The two kinds of brackets. -/
inductive Bracket where
  | array
  | object
  deriving DecidableEq, Repr

/-- Why reading stopped. A `malformed` text is so where `left` characters are left. -/
inductive Fault where
  | malformed (reason : Reason) (left : Nat)
  | tooManyDigits (count : Nat)
  | tooDeep (bracket : Bracket)
  deriving DecidableEq, Repr

/-- What a reader yields: what it read and the rest of the text. -/
abbrev Read (α : Type) := Except Fault (α × Text)

/-- The fault at the start of a rest. -/
def stop {α : Type} (reason : Reason) (rest : Text) : Except Fault α := .error (.malformed reason rest.length)

/-- A blank between tokens. -/
def isBlank (c : Char) : Bool := c == ' ' || c == '\t' || c == '\n' || c == '\r'

/-- The text without the blanks at its start. -/
def skipBlanks (t : Text) : Text := t.dropWhile isBlank

/-- What stands for a character after a backslash. -/
def escaped? (c : Char) : Option Char :=
  match c with
  | '"' => some '"'
  | '\\' => some '\\'
  | '/' => some '/'
  | 'b' => some '\x08'
  | 'f' => some '\x0c'
  | 'n' => some '\n'
  | 'r' => some '\r'
  | 't' => some '\t'
  | _ => none

/-- The number that four hexadecimal digits denote. -/
def hexUnit? (a b c d : Char) : Option Nat := do
  return 256 * (← Text.hexOctet? a b) + (← Text.hexOctet? c d)

/-- A unit before the units of the rest. -/
def prepend (unit : Nat) : Read (List Nat) → Read (List Nat)
  | .ok (units, rest) => .ok (unit :: units, rest)
  | .error fault => .error fault

/-- The units of a text up to its closing quote; `opening` is what was left at its opening one. A numeric escape
needs four digits and a character behind them. -/
def readUnits (opening : Nat) : Text → Read (List Nat)
  | [] => .error (.malformed .unterminated opening)
  | '"' :: rest => .ok ([], rest)
  | ['\\'] => .error (.malformed .unterminated opening)
  | '\\' :: 'u' :: a :: b :: c :: d :: e :: rest =>
    match hexUnit? a b c d with
    | some unit => prepend unit (readUnits opening (e :: rest))
    | none => stop .unicodeEscape ('u' :: a :: b :: c :: d :: e :: rest)
  | '\\' :: 'u' :: rest => stop .unicodeEscape ('u' :: rest)
  | '\\' :: c :: rest =>
    match escaped? c with
    | some c => prepend c.toNat (readUnits opening rest)
    | none => stop .escape ('\\' :: c :: rest)
  | c :: rest =>
    if c.toNat < 32 then stop .controlCharacter (c :: rest)
    else prepend c.toNat (readUnits opening rest)

/-- The first half of a pair of units. -/
def isHighHalf (unit : Nat) : Bool := decide (0xD800 ≤ unit) && decide (unit ≤ 0xDBFF)

/-- The second half of a pair of units. -/
def isLowHalf (unit : Nat) : Bool := decide (0xDC00 ≤ unit) && decide (unit ≤ 0xDFFF)

/-- The character of a unit by itself; half a pair has none and is replaced. -/
def unitChar (unit : Nat) : Char :=
  if isHighHalf unit || isLowHalf unit then Text.replacement else Char.ofNat unit

/-- The characters of units, of which pairs make one character. -/
def ofUnits : List Nat → Text
  | [] => []
  | [unit] => [unitChar unit]
  | high :: low :: rest =>
    if isHighHalf high && isLowHalf low then
      Char.ofNat (0x10000 + (high - 0xD800) * 0x400 + (low - 0xDC00)) :: ofUnits rest
    else unitChar high :: ofUnits (low :: rest)

/-- A text after its opening quote. -/
def readText (rest : Text) : Read Text :=
  match readUnits (rest.length + 1) rest with
  | .ok (units, rest) => .ok (ofUnits units, rest)
  | .error fault => .error fault

/-- The digits of an integer: one zero, or digits that do not start with one. -/
def integerDigits : Text → Text
  | '0' :: _ => ['0']
  | t => t.takeWhile Char.isDigit

/-- The point and the digits of a fraction, if there is one. -/
def fractionText : Text → Text
  | '.' :: rest =>
    let digits := rest.takeWhile Char.isDigit
    if digits.isEmpty then [] else '.' :: digits
  | _ => []

/-- The letter, sign and digits of an exponent, if there is one. -/
def exponentText : Text → Text
  | [] => []
  | e :: rest =>
    let sign := match rest with
      | '+' :: _ => ['+']
      | '-' :: _ => ['-']
      | _ => []
    let digits := (rest.drop sign.length).takeWhile Char.isDigit
    if (e = 'e' ∨ e = 'E') ∧ !digits.isEmpty then e :: sign ++ digits else []

/-- A number. Without fraction and exponent it is an integer. -/
def readNumber (t : Text) : Read Value :=
  let sign := if t.head? = some '-' then ['-'] else []
  let afterSign := t.drop sign.length
  let digits := integerDigits afterSign
  let afterDigits := afterSign.drop digits.length
  let fraction := fractionText afterDigits
  let afterFraction := afterDigits.drop fraction.length
  let exponent := exponentText afterFraction
  let rest := afterFraction.drop exponent.length
  if digits.isEmpty then stop .value t
  else if fraction.isEmpty && exponent.isEmpty then
    if maxDigits < digits.length then .error (.tooManyDigits digits.length)
    else .ok (.int (signed (!sign.isEmpty) (ofDigits digits)), rest)
  else .ok (.float ((Binary64.ofText? (sign ++ digits ++ fraction ++ exponent)).getD .nan), rest)

/-- The words that stand for values. -/
def words : List (Text × Value) :=
  [("null".toList, .none), ("true".toList, .bool true), ("false".toList, .bool false),
    ("NaN".toList, .float .nan), ("Infinity".toList, .float (.infinite false)),
    ("-Infinity".toList, .float (.infinite true))]

/-- A value without parts that is no text. -/
def readAtom (t : Text) : Read Value :=
  match words.find? fun (word, _) => word.isPrefixOf t with
  | some (word, v) => .ok (v, t.drop word.length)
  | none => readNumber t

/-- The items of an array from the first one on, up to its closing bracket. The number bounds how many there
are. -/
def readItems (item : Text → Read Value) : Nat → Text → Read (List Value)
  | 0, t => stop .value t
  | bound + 1, t =>
    match item t with
    | .error fault => .error fault
    | .ok (v, rest) =>
      match skipBlanks rest with
      | ']' :: rest => .ok ([v], rest)
      | ',' :: rest =>
        match readItems item bound (skipBlanks rest) with
        | .ok (vs, rest) => .ok (v :: vs, rest)
        | .error fault => .error fault
      | rest => stop .comma rest

/-- A key with its colon. -/
def readKey : Text → Read Text
  | '"' :: rest =>
    match readText rest with
    | .error fault => .error fault
    | .ok (key, rest) =>
      match skipBlanks rest with
      | ':' :: rest => .ok (key, skipBlanks rest)
      | rest => stop .colon rest
  | t => stop .propertyName t

/-- The entries of an object from the first one on, up to its closing bracket. The number bounds how many there
are. -/
def readEntries (item : Text → Read Value) : Nat → Text → Read (List (Text × Value))
  | 0, t => stop .propertyName t
  | bound + 1, t =>
    match readKey t with
    | .error fault => .error fault
    | .ok (key, rest) =>
      match item rest with
      | .error fault => .error fault
      | .ok (v, rest) =>
        match skipBlanks rest with
        | '\x7d' :: rest => .ok ([(key, v)], rest)
        | ',' :: rest =>
          match readEntries item bound (skipBlanks rest) with
          | .ok (entries, rest) => .ok ((key, v) :: entries, rest)
          | .error fault => .error fault
        | rest => stop .comma rest

/-- An array after its opening bracket. -/
def readArray (item : Text → Read Value) (t : Text) : Read Value :=
  match skipBlanks t with
  | ']' :: rest => .ok (.list [], rest)
  | t => (readItems item (t.length + 1) t).map fun (items, rest) => (.list items, rest)

/-- An object after its opening bracket. -/
def readObject (item : Text → Read Value) (t : Text) : Read Value :=
  match skipBlanks t with
  | '\x7d' :: rest => .ok (.map [], rest)
  | t => (readEntries item (t.length + 1) t).map fun (entries, rest) => (.map (Assoc.ofPairs entries), rest)

/-- A value in which brackets are nested at most `depth` times. -/
def readValue (depth : Nat) (t : Text) : Read Value :=
  match t with
  | '"' :: rest => (readText rest).map fun (text, rest) => (.text text, rest)
  | '[' :: rest =>
    match depth with
    | 0 => .error (.tooDeep .array)
    | depth + 1 => readArray (readValue depth) rest
  | '\x7b' :: rest =>
    match depth with
    | 0 => .error (.tooDeep .object)
    | depth + 1 => readObject (readValue depth) rest
  | t => readAtom t

/-- How deep brackets may be nested. -/
def maxDepth : Nat := 990

/-- A text that is a value with nothing but blanks around it. -/
def readAll (t : Text) : Except Fault Value :=
  if t.head? = some '\uFEFF' then stop .byteOrderMark t
  else match readValue maxDepth (skipBlanks t) with
    | .error fault => .error fault
    | .ok (v, rest) =>
      match skipBlanks rest with
      | [] => .ok v
      | rest => stop .trailing rest

/-- Why a text is refused: it is malformed at a place, or it goes beyond a limit. -/
inductive ReadError where
  | malformed (reason : Reason) (line column offset : Nat)
  | tooManyDigits (count : Nat)
  | tooDeep (bracket : Bracket)
  deriving DecidableEq, Repr

/-- The reason in words. -/
def ReadError.message : ReadError → Text
  | malformed reason line column offset =>
    reason.message ++ ": line ".toList ++ naturalText line ++ " column ".toList ++ naturalText column
      ++ " (char ".toList ++ naturalText offset ++ [')']
  | tooManyDigits count => Number.tooManyDigits count
  | tooDeep .array => "maximum recursion depth exceeded while decoding a JSON array from a unicode string".toList
  | tooDeep .object => "maximum recursion depth exceeded while decoding a JSON object from a unicode string".toList

/-- A fault with its place in the text. Lines and columns count from one. -/
def locate (t : Text) : Fault → ReadError
  | .malformed reason left =>
    let before := t.take (t.length - left)
    let column := (before.reverse.takeWhile (· != '\n')).length + 1
    .malformed reason (before.count '\n' + 1) column before.length
  | .tooManyDigits count => .tooManyDigits count
  | .tooDeep bracket => .tooDeep bracket

/-- The value that a text denotes. -/
def read (t : Text) : Except ReadError Value := (readAll t).mapError (locate t)

end TypedRoutes.Json
