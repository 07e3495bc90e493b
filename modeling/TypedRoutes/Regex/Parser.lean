import TypedRoutes.Number.Decimal
import TypedRoutes.Regex.Syntax
import TypedRoutes.Text.Identifier
import TypedRoutes.Text.Percent
import TypedRoutes.Text.Pieces

/-!
# Reading regular expressions

A text is first cut into pieces, each a plain character or one behind a backslash. `alternatives` reads branches
between bars and `branch` reads one of them, piece by piece; both carry the source, which is what is left to read
together with the book on the groups met so far. Every step takes a piece, so that twice the number of pieces
bounds the depth of the recursion.

An expression that makes no sense is `malformed`. Three faults are told apart from that: a count of repetitions
that is too large, a count with too many digits, and two global flags that exclude each other. Some faults of the
first kind are noticed only at the end, so that one of the others goes before them.
-/

namespace TypedRoutes

set_option autoImplicit false

/-- The names of characters: the character that has a given name, if there is one. Everything that reads regular
expressions takes the table of names as a parameter, and nothing is assumed of it. -/
class CharacterNames where
  named? : Text → Option Char

/-- The table without names. -/
@[reducible] def CharacterNames.empty : CharacterNames := ⟨fun _ => none⟩

namespace Regex

/-- Why a text is no regular expression. -/
inductive Refusal where
  | malformed
  | tooManyRepetitions
  | tooManyDigits (count : Nat)
  | incompatibleFlags
  deriving DecidableEq, Repr

/-- The reason in words. -/
def Refusal.message : Refusal → Text
  | malformed => []
  | tooManyRepetitions => "the repetition number is too large".toList
  | tooManyDigits count => Number.tooManyDigits count
  | incompatibleFlags => "ASCII and UNICODE flags are incompatible".toList

/-- A unit of the text: a character, one behind a backslash, or a backslash at the very end. -/
inductive Piece where
  | plain (c : Char)
  | escaped (c : Char)
  | dangling
  deriving DecidableEq, Repr

/-- The pieces of a text. -/
def pieces : Text → List Piece
  | [] => []
  | [c] => [if c = '\\' then .dangling else .plain c]
  | c :: d :: rest => if c = '\\' then .escaped d :: pieces rest else .plain c :: pieces (d :: rest)

/-- The flags in force. -/
structure Flags where
  ignoreCase : Bool := false
  multiline : Bool := false
  dotAll : Bool := false
  verbose : Bool := false
  asciiOnly : Bool := false
  deriving DecidableEq, Repr

/-- How literals treat case. -/
def Flags.folding (flags : Flags) : Folding :=
  if flags.ignoreCase then (if flags.asciiOnly then .ascii else .unicode) else .exact

/-- The flags with one of them changed, given its letter. -/
def Flags.put (flags : Flags) (on : Bool) (letter : Char) : Flags :=
  if letter = 'i' then { flags with ignoreCase := on }
  else if letter = 'm' then { flags with multiline := on }
  else if letter = 's' then { flags with dotAll := on }
  else if letter = 'x' then { flags with verbose := on }
  else if letter = 'a' then { flags with asciiOnly := on }
  else if letter = 'u' then { flags with asciiOnly := !on }
  else flags

/-- The flags with some turned on and some turned off. -/
def Flags.change (flags : Flags) (on off : List Char) : Flags :=
  off.foldl (fun f c => f.put false c) (on.foldl (fun f c => f.put true c) flags)

/-- What is known about the groups and the global flags so far. Groups are numbered from one, and `next` is the
number that the next one gets; a closed group has its widths in `closed`. Inside a look-behind only the groups
below `visible` may be referred to. `faulty` records a fault that is reported at the end. -/
structure Book where
  next : Nat := 1
  names : List (Text × Nat) := []
  closed : List (Nat × (Nat × Nat)) := []
  visible : Option Nat := none
  conditions : List Nat := []
  globals : List Char := []
  faulty : Bool := false

/-- The global flags in force. -/
def Book.flags (book : Book) : Flags := Flags.change {} book.globals []

/-- The widths of a group, when it is closed. -/
def Book.width? (book : Book) (index : Nat) : Option (Nat × Nat) :=
  (book.closed.find? fun entry => entry.1 == index).map Prod.snd

/-- The least and the greatest length of what an expression matches. -/
def Book.width (book : Book) (r : Regex) : Nat × Nat :=
  r.width fun index => (book.width? index).getD (0, 0)

/-- Whether a look-behind, when inside one, lets a group be referred to. -/
def Book.sees (book : Book) (index : Nat) : Bool :=
  match book.visible with
  | some limit => (book.width? index).isSome && decide (index < limit)
  | none => true

/-- What is left to read, and the book. -/
structure Source where
  rest : List Piece
  book : Book := {}

/-- The expression that matches one character. -/
def literal (flags : Flags) (code : Nat) : Regex :=
  .set { items := [.code (flags.folding.fold code)], folding := flags.folding }

/-- The expression that matches a character of a class. -/
def ofCategory (flags : Flags) (kind : Category) (negated : Bool) : Regex :=
  .set { items := [.category kind negated flags.asciiOnly], folding := flags.folding }

/-- The plain digits that a source starts with, as many as wanted at most, and what follows. -/
def takeDigits (isDigit : Char → Bool) : Nat → List Piece → Text × List Piece
  | n + 1, .plain c :: rest =>
    if isDigit c then
      let (digits, rest) := takeDigits isDigit n rest
      (c :: digits, rest)
    else ([], .plain c :: rest)
  | _, rest => ([], rest)

/-- An octal digit. -/
def isOctal (c : Char) : Bool := decide ('0' ≤ c) && decide (c ≤ '7')

/-- The value of digits in a base. -/
def ofBase (base : Nat) (digits : Text) : Nat :=
  digits.foldl (fun n c => base * n + (Text.hexValue? c).getD 0) 0

/-- The code point written with exactly so many hexadecimal digits. -/
def hexCode (count : Nat) (rest : List Piece) : Except Refusal (Nat × List Piece) :=
  let (digits, rest) := takeDigits (fun c => (Text.hexValue? c).isSome) count rest
  if digits.length = count ∧ ofBase 16 digits ≤ 0x10FFFF then .ok (ofBase 16 digits, rest) else .error .malformed

/-- The control character that a letter stands for behind a backslash. -/
def control? (c : Char) : Option Nat :=
  if c = 'a' then some 7
  else if c = 'f' then some 12
  else if c = 'n' then some 10
  else if c = 'r' then some 13
  else if c = 't' then some 9
  else if c = 'v' then some 11
  else none

/-- The class of characters that a letter stands for behind a backslash, and whether it is negated. -/
def category? (c : Char) : Option (Category × Bool) :=
  if c = 'd' then some (.digit, false)
  else if c = 'D' then some (.digit, true)
  else if c = 's' then some (.space, false)
  else if c = 'S' then some (.space, true)
  else if c = 'w' then some (.word, false)
  else if c = 'W' then some (.word, true)
  else none

/-- The anchor that a letter stands for behind a backslash. -/
def anchor? (flags : Flags) (c : Char) : Option Anchor :=
  if c = 'A' then some .subjectStart
  else if c = 'Z' then some .subjectEnd
  else if c = 'b' then some (.wordEdge flags.asciiOnly)
  else if c = 'B' then some (.noWordEdge flags.asciiOnly)
  else none

/-- The name up to a closing sign. -/
def nameUntil (close : Char) : List Piece → Option (Text × List Piece)
  | [] => none
  | .plain c :: rest =>
    if c = close then some ([], rest) else (nameUntil close rest).map fun (name, rest) => (c :: name, rest)
  | .escaped c :: rest => (nameUntil close rest).map fun (name, rest) => ('\\' :: c :: name, rest)
  | .dangling :: _ => none

variable [CharacterNames]

/-- The code point of a character given by its name between braces. -/
def namedCode : List Piece → Except Refusal (Nat × List Piece)
  | .plain '\x7b' :: rest =>
    match nameUntil '\x7d' rest with
    | some (name, rest) =>
      match if name = [] then none else CharacterNames.named? name with
      | some c => .ok (c.toNat, rest)
      | none => .error .malformed
    | none => .error .malformed
  | _ => .error .malformed

/-- The code point that a letter, digit or sign stands for behind a backslash, where digits are octal. A capital `N` stands
for the character whose name in braces follows. -/
def escapedCode (c : Char) (rest : List Piece) : Except Refusal (Nat × List Piece) :=
  match control? c with
  | some code => .ok (code, rest)
  | none =>
    if c = 'x' then hexCode 2 rest
    else if c = 'u' then hexCode 4 rest
    else if c = 'U' then hexCode 8 rest
    else if c = 'N' then namedCode rest
    else if isOctal c then
      let (digits, rest) := takeDigits isOctal 2 rest
      if ofBase 8 (c :: digits) ≤ 0xFF then .ok (ofBase 8 (c :: digits), rest) else .error .malformed
    else if c.isAlphanum then .error .malformed
    else .ok (c.toNat, rest)

example :
    letI : CharacterNames := ⟨fun name => if name = "BULLET".toList then some '•' else none⟩
    escapedCode 'N' (pieces "\x7bBULLET\x7d*".toList) = .ok ('•'.toNat, [.plain '*']) ∧
      escapedCode 'N' (pieces "\x7bBULLETS\x7d*".toList) = .error .malformed := ⟨rfl, rfl⟩

/-- A reference to a group by its number. -/
def reference (flags : Flags) (index : Nat) (source : Source) : Except Refusal (Regex × Source) :=
  if (source.book.width? index).isSome && source.book.sees index then
    .ok (.backreference index flags.folding, source)
  else .error .malformed

/-- The expression for a character behind a backslash. A digit other than zero starts the number of a group, unless
three octal digits follow each other. -/
def escape (flags : Flags) (c : Char) (source : Source) : Except Refusal (Regex × Source) :=
  match category? c, anchor? flags c with
  | some (kind, negated), _ => .ok (ofCategory flags kind negated, source)
  | _, some a => .ok (.anchor a, source)
  | none, none =>
    if decide ('1' ≤ c) && decide (c ≤ '9') then
      let (digits, rest) := takeDigits Char.isDigit 1 source.rest
      let (octal, after) := takeDigits isOctal 1 rest
      let all := c :: digits ++ octal
      if all.length = 3 ∧ all.all isOctal then
        if ofBase 8 all ≤ 0xFF then .ok (literal flags (ofBase 8 all), { source with rest := after })
        else .error .malformed
      else reference flags (ofBase 10 (c :: digits)) { source with rest }
    else do
      let (code, rest) ← escapedCode c source.rest
      return (literal flags code, { source with rest })

/-- A member of a set of characters. -/
def setAtom (asciiOnly : Bool) (piece : Piece) (rest : List Piece) : Except Refusal (SetItem × List Piece) :=
  match piece with
  | .plain c => .ok (.code c.toNat, rest)
  | .escaped c =>
    match category? c with
    | some (kind, negated) => .ok (.category kind negated asciiOnly, rest)
    | none =>
      if c = 'b' then .ok (.code 8, rest)
      else do
        let (code, rest) ← escapedCode c rest
        return (.code code, rest)
  | .dangling => .error .malformed

/-- The members of a set of characters, up to the closing bracket. A bracket that would be the first member is one,
and so is a dash before the closing bracket. The number bounds the members. -/
def setItems (asciiOnly : Bool) : Nat → List SetItem → List Piece → Except Refusal (List SetItem × List Piece)
  | bound + 1, items, piece :: rest =>
    if piece = .plain ']' ∧ items ≠ [] then .ok (items, rest)
    else do
      let (item, rest) ← setAtom asciiOnly piece rest
      match rest with
      | .plain '-' :: .plain ']' :: rest => return (items ++ [item, .code '-'.toNat], rest)
      | .plain '-' :: last :: rest =>
        let (lastItem, rest) ← setAtom asciiOnly last rest
        match item, lastItem with
        | .code first, .code last =>
          if first ≤ last then setItems asciiOnly bound (items ++ [.range first last]) rest else .error .malformed
        | _, _ => .error .malformed
      | rest => setItems asciiOnly bound (items ++ [item]) rest
  | _, _, _ => .error .malformed

/-- The members with case set aside. In a set of several members one beyond the basic plane stays as it is. -/
def foldItems (folding : Folding) (items : List SetItem) : List SetItem :=
  let lone := items.all fun item => some item == items.head?
  items.map fun
    | .code n => .code (if n < 0x10000 ∨ lone then folding.fold n else n)
    | item => item

/-- The set of characters after an opening bracket. -/
def charSet (flags : Flags) (rest : List Piece) : Except Refusal (Regex × List Piece) := do
  let (negated, rest) := match rest with
    | .plain '^' :: rest => (true, rest)
    | rest => (false, rest)
  let (items, rest) ← setItems flags.asciiOnly rest.length [] rest
  return (.set { negated, items := foldItems flags.folding items, folding := flags.folding }, rest)

/-- A count of repetitions. -/
def repetitions (digits : Text) : Except Refusal Nat :=
  if Number.maxDigits < digits.length then .error (.tooManyDigits digits.length)
  else if widthLimit ≤ Number.ofDigits digits then .error .tooManyRepetitions
  else .ok (Number.ofDigits digits)

/-- The numbers of repetitions between braces, or nothing when the braces are no such thing. -/
def braces (rest : List Piece) : Except Refusal (Option (Nat × Option Nat × List Piece)) := do
  let (least, after) := takeDigits Char.isDigit rest.length rest
  let (most, after, comma) := match after with
    | .plain ',' :: after =>
      let (most, after) := takeDigits Char.isDigit after.length after
      (most, after, true)
    | after => (least, after, false)
  match after with
  | .plain '\x7d' :: after =>
    if least = [] ∧ !comma then return none
    if after.head? = some .dangling then .error .malformed
    let low ← if least = [] then pure 0 else repetitions least
    let high ← if most = [] then pure none else (repetitions most).map some
    match high with
    | some high => if high < low then .error .malformed else return some (low, some high, after)
    | none => return some (low, none, after)
  | _ => return none

/-- The numbers of repetitions that a sign or a brace stands for. -/
def quantifier (c : Char) (rest : List Piece) : Except Refusal (Option (Nat × Option Nat × List Piece)) :=
  if c = '*' then .ok (some (0, none, rest))
  else if c = '+' then .ok (some (1, none, rest))
  else if c = '?' then .ok (some (0, some 1, rest))
  else braces rest

/-- What quantifiers have to know about an item: an anchor and a repetition cannot be repeated. -/
inductive ItemKind where
  | anchor
  | repetition
  | other
  deriving DecidableEq, Repr

/-- The kind of an expression as an item. -/
def itemKind : Regex → ItemKind
  | .anchor _ => .anchor
  | .repeated _ _ _ _ => .repetition
  | _ => .other

/-- An item of a branch. A group that only brackets other items is an item of its own, whatever is in it. -/
abbrev Item := ItemKind × Regex

/-- The sign after a quantifier says how greedy it is. -/
def greed : List Piece → Greed × List Piece
  | .plain '?' :: rest => (.lazy, rest)
  | .plain '+' :: rest => (.possessive, rest)
  | rest => (.greedy, rest)

/-- The items, latest first, with the latest one repeated. -/
def repeatLast (greed : Greed) (least : Nat) (most : Option Nat) : List Item → Except Refusal (List Item)
  | (.other, r) :: items => .ok ((.repetition, .repeated greed least most r) :: items)
  | _ => .error .malformed

/-- The number that a text denotes as the number of a group: digits of any script, perhaps after a plus sign and
with single underscores between them. -/
def groupNumber? (t : Text) : Option Nat := do
  let digits := match Text.trim t with
    | '+' :: rest => rest
    | rest => rest
  let rows := Text.splitOn '_' digits
  if rows.any List.isEmpty || Number.maxDigits < digits.length then none
  let values ← rows.flatten.mapM Text.digitValue?
  let n := values.foldl (fun n d => 10 * n + d) 0
  if n = 0 then none else some n

/-- What follows a comment, after its closing parenthesis. -/
def skipComment : List Piece → Option (List Piece)
  | [] => none
  | .plain ')' :: rest => some rest
  | _ :: rest => skipComment rest

/-- What follows the line, for comments up to its end. -/
def skipLine : List Piece → List Piece
  | [] => []
  | .plain '\n' :: rest => rest
  | .dangling :: rest => .dangling :: rest
  | _ :: rest => skipLine rest

/-- The letters of flags up to one of the closing signs, which is given too. Some letters exclude each other. -/
def flagLetters (allowed : List Char) (closing : List Char) :
    List Char → List Piece → Option (List Char × Char × List Piece)
  | letters, .plain c :: rest =>
    if closing.contains c then some (letters, c, rest)
    else if allowed.contains c then flagLetters allowed closing (letters ++ [c]) rest
    else none
  | _, _ => none

/-- The flags that a group can turn on and those that it can turn off. -/
def scopedFlags : List Char × List Char := (['i', 'm', 's', 'x', 'a', 'u'], ['i', 'm', 's', 'x'])

/-- What a parenthesis opens. -/
inductive Opening where
  | nothing
  | item (r : Regex)
  | body (flags : Flags) (close : Regex → Book → Regex × Book)
  | condition (index : Nat)

/-- A group that only brackets what is in it. -/
def Opening.plain (flags : Flags) : Opening := .body flags fun r book => (r, book)

/-- The group with the next number, and perhaps with a name. -/
def openGroup (flags : Flags) (name : Option Text) (source : Source) : Except Refusal (Opening × Source) :=
  let book := source.book
  let index := book.next
  let named := match name with
    | some name => if (book.names.lookup name).isSome then none else some ((name, index) :: book.names)
    | none => some book.names
  match named with
  | none => .error .malformed
  | some names =>
    .ok (.body flags fun r book =>
        (.group index r, { book with closed := (index, book.width r) :: book.closed }),
      { source with book := { book with next := index + 1, names } })

/-- A condition on what lies ahead, or behind the place. What a look-behind matches has one length only; its groups
cannot be referred to within it. -/
def openLook (flags : Flags) (isBehind negated : Bool) (source : Source) : Opening × Source :=
  if isBehind then
    let visible := source.book.visible
    (.body flags fun r book =>
        let (least, most) := book.width r
        (.look (some least) negated r, { book with visible, faulty := book.faulty || least != most }),
      { source with book := { source.book with visible := some (visible.getD source.book.next) } })
  else (.body flags fun r book => (.look none negated r, book), source)

/-- The group that a condition asks about, given by its name or number. -/
def openCondition (source : Source) : Except Refusal (Opening × Source) :=
  match nameUntil ')' source.rest with
  | none => .error .malformed
  | some (name, rest) =>
    let found := if Text.isIdentifier name then source.book.names.lookup name else groupNumber? name
    match found with
    | none => .error .malformed
    | some index =>
      if source.book.sees index then
        .ok (.condition index,
          { rest, book := { source.book with conditions := index :: source.book.conditions } })
      else .error .malformed

/-- Flags for the whole expression, when nothing has been read yet, or for a group. -/
def openFlags (flags : Flags) (atStart : Bool) (source : Source) : Except Refusal (Opening × Source) :=
  match flagLetters ['i', 'm', 's', 'x', 'a', 'u', 't'] [')', ':', '-'] [] source.rest with
  | none => .error .malformed
  | some (on, close, rest) =>
    if on.contains 'a' && on.contains 'u' then .error .malformed
    else if close = ')' then
      if on ≠ [] ∧ atStart then
        .ok (.nothing, { rest, book := { source.book with globals := source.book.globals ++ on } })
      else .error .malformed
    else if on.contains 't' then .error .malformed
    else if close = ':' then
      if on ≠ [] then .ok (.plain (flags.change on []), { source with rest }) else .error .malformed
    else match flagLetters scopedFlags.2 [':'] [] rest with
      | none => .error .malformed
      | some (off, _, rest) =>
        if off = [] ∨ off.any on.contains then .error .malformed
        else .ok (.plain (flags.change on off), { source with rest })

/-- A named group, or a reference to one. -/
def openNamed (flags : Flags) (source : Source) : Except Refusal (Opening × Source) :=
  match source.rest with
  | .plain '<' :: rest =>
    match nameUntil '>' rest with
    | some (name, rest) =>
      if Text.isIdentifier name then openGroup flags (some name) { source with rest } else .error .malformed
    | none => .error .malformed
  | .plain '=' :: rest =>
    match nameUntil ')' rest with
    | some (name, rest) =>
      match source.book.names.lookup name with
      | some index => do
        let (r, source) ← reference flags index { source with rest }
        return (.item r, source)
      | none => .error .malformed
    | none => .error .malformed
  | _ => .error .malformed

/-- What a parenthesis opens, judged by the signs after it. -/
def opening (flags : Flags) (atStart : Bool) (source : Source) : Except Refusal (Opening × Source) :=
  match source.rest with
  | .plain '?' :: .plain c :: rest =>
    let source' := { source with rest }
    if c = ':' then .ok (.plain flags, source')
    else if c = 'P' then openNamed flags source'
    else if c = '#' then
      match skipComment rest with
      | some rest => .ok (.nothing, { source with rest })
      | none => .error .malformed
    else if c = '=' ∨ c = '!' then .ok (openLook flags false (c == '!') source')
    else if c = '<' then
      match rest with
      | .plain d :: rest =>
        if d = '=' ∨ d = '!' then .ok (openLook flags true (d == '!') { source with rest }) else .error .malformed
      | _ => .error .malformed
    else if c = '(' then openCondition source'
    else if c = '>' then .ok (.body flags fun r book => (.atomic r, book), source')
    else openFlags flags atStart { source with rest := .plain c :: rest }
  | .plain '?' :: _ => .error .malformed
  | _ => openGroup flags none source

/-- White space that the verbose form leaves out. -/
def isVerboseBlank (c : Char) : Bool :=
  c == ' ' || c == '\t' || c == '\n' || c == '\r' || c == '\x0b' || c == '\x0c'

/-- Where alternatives stand: at the start of the whole expression, at its top level, or in a group. -/
inductive Level where
  | start
  | top
  | nested
  deriving DecidableEq, Repr

/-- The level of the next alternative. -/
def Level.next : Level → Level
  | start | top => top
  | nested => nested

/-- The flags at a level: the global ones outside of groups. -/
def Level.flags (level : Level) (flags : Flags) (book : Book) : Flags :=
  if level = .nested then flags else book.flags

/-- The source after a closing parenthesis. -/
def Source.close (source : Source) : Except Refusal Source :=
  match source.rest with
  | .plain ')' :: rest => .ok { source with rest }
  | _ => .error .malformed

/-- The expression of a branch, from its items, latest first. -/
def ofItems (items : List Item) : Regex := sequence (items.reverse.map Prod.snd)

/-- The item for a character that has no meaning of its own here. -/
def plainItem (flags : Flags) (c : Char) : Item :=
  if c = '.' then (.other, .set { negated := true, items := if flags.dotAll then [] else [.code '\n'.toNat] })
  else if c = '^' then (.anchor, .anchor (if flags.multiline then .lineStart else .subjectStart))
  else if c = '$' then (.anchor, .anchor (if flags.multiline then .lineEnd else .lastLineEnd))
  else (.other, literal flags c.toNat)

mutual

/-- The branches between bars. -/
def alternatives : Nat → Level → Flags → Source → Except Refusal (Regex × Source)
  | 0, _, _, _ => .error .malformed
  | bound + 1, level, flags, source => do
    let (r, source) ← branch bound level (level.flags flags source.book) [] source
    match source.rest with
    | .plain '|' :: rest =>
      let (s, source) ← alternatives bound level.next flags { source with rest }
      return (.alt r s, source)
    | _ => return (r, source)

/-- One branch, up to a bar, a closing parenthesis or the end; its items so far are given, latest first. -/
def branch : Nat → Level → Flags → List Item → Source → Except Refusal (Regex × Source)
  | 0, _, _, _, _ => .error .malformed
  | bound + 1, level, flags, items, source =>
    match source.rest with
    | [] => .ok (ofItems items, source)
    | .dangling :: _ => .error .malformed
    | .escaped c :: rest => do
      let (r, source) ← escape flags c { source with rest }
      branch bound level flags ((itemKind r, r) :: items) source
    | .plain c :: rest =>
      if c = '|' ∨ c = ')' then .ok (ofItems items, source)
      else if flags.verbose && isVerboseBlank c then branch bound level flags items { source with rest }
      else if flags.verbose && c == '#' then branch bound level flags items { source with rest := skipLine rest }
      else if c = '[' then do
        let (r, rest) ← charSet flags rest
        branch bound level flags ((.other, r) :: items) { source with rest }
      else if c = '*' ∨ c = '+' ∨ c = '?' ∨ c = '\x7b' then do
        match ← quantifier c rest with
        | none => branch bound level flags ((.other, literal flags c.toNat) :: items) { source with rest }
        | some (least, most, rest) =>
          let (greed, rest) := greed rest
          let items ← repeatLast greed least most items
          branch bound level flags items { source with rest }
      else if c = '(' then do
        let (opened, source) ← opening flags (level == .start && items.isEmpty) { source with rest }
        match opened with
        | .nothing => branch bound level (level.flags flags source.book) items source
        | .item r => branch bound level flags ((.other, r) :: items) source
        | .body inner close =>
          let (r, source) ← alternatives bound .nested inner source
          let source ← source.close
          let (r, book) := close r source.book
          branch bound level flags ((.other, r) :: items) { source with book }
        | .condition index =>
          let (yes, source) ← branch bound .nested flags [] source
          let (no, source) ← match source.rest with
            | .plain '|' :: rest => branch bound .nested flags [] { source with rest }
            | _ => .ok (.empty, source)
          let source ← source.close
          branch bound level flags ((.other, .conditional index yes no) :: items) source
      else branch bound level flags (plainItem flags c :: items) { source with rest }

end

/-- Whether an expression repeats anything. -/
def hasRepetition : Regex → Bool
  | .empty | .set _ | .anchor _ | .backreference _ _ => false
  | .cat r s | .alt r s | .conditional _ r s => hasRepetition r || hasRepetition s
  | .group _ r | .look _ _ r | .atomic r => hasRepetition r
  | .repeated _ _ _ _ => true

/-- What is wrong with an expression that has been read to the end. -/
def finalFault? (r : Regex) (source : Source) : Option Refusal :=
  let book := source.book
  if book.globals.contains 'a' && book.globals.contains 'u' then some .incompatibleFlags
  else if !source.rest.isEmpty || book.conditions.any (fun index => decide (book.next ≤ index)) || book.faulty
      || (book.globals.contains 't' && hasRepetition r) then some .malformed
  else none

/-- The regular expression that a text denotes. Groups may be nested to any depth: what a reader does that runs out of
stack on some hundreds of them is left out. -/
def parse (t : Text) : Except Refusal Regex := do
  let rest := pieces t
  let (r, source) ← alternatives (2 * rest.length + 2) .start {} { rest }
  match finalFault? r source with
  | some refusal => .error refusal
  | none => return r

end Regex

end TypedRoutes
