import TypedRoutes.Pattern.Vocabulary
import TypedRoutes.Regex.Search

/-!
# The grammar as regular expressions

The tokens of paths and queries as regular expressions. One expression finds the query part of an expression, one for each
kind of token finds the tokens of that kind in it, and one finds the tokens of the path. A second family takes the name
and the type or value out of a token that has been found. `extract`, `pathItems` and `queryItems` read expressions with
them, and `capturedPath` puts a group in place of each token of the path.

A rule carries the text of its regular expression. An unpacking fails when a token comes apart into another number of
texts than wanted.
-/

namespace TypedRoutes

set_option autoImplicit false

namespace Pattern.Grammar

open Regex

/-- A regular expression with the text that denotes it, whatever the names of characters are. -/
structure Rule where
  text : Text
  regex : Regex
  denotes : ∀ [CharacterNames], Regex.parse text = .ok regex

/-- The characters of words. -/
def wordSet : CharSet := { items := [.category .word false false] }

/-- The characters of type names. -/
def typeSet : CharSet := { items := [.range 'a'.toNat 'z'.toNat] }

/-- One or more characters of a set. -/
def oneOrMore (chars : CharSet) : Regex := .repeated .greedy 1 none (.set chars)

/-- One or more characters of a set between two texts. -/
def enclosed (opening : Text) (chars : CharSet) (closing : Text) : List Regex :=
  opening.map single ++ oneOrMore chars :: closing.map single

/-- A colon and a name, and what comes behind. -/
def named (behind : List Regex) : Regex := sequence (single ':' :: oneOrMore wordSet :: behind)

/-! ## Finding tokens -/

/-- The forms of a required token, with three groups numbered on from the given number. A bare name ends before `&` or
at the end. -/
def requiredForms (index : Nat) : List Regex :=
  [named [.group index (sequence (enclosed ['\x7b'] typeSet ['\x7d']))],
    .group (index + 1) (named [.look none false (.alt (single '&') (.anchor .lastLineEnd))]),
    named [.group (index + 2) (sequence (enclosed ['\x7b', '['] typeSet [']', '\x7d']))]]

/-- The forms of an optional token. -/
def optionalForms : List Regex :=
  [named (enclosed ['\x7b'] typeSet ['?', '\x7d']), named (enclosed ['\x7b', '['] typeSet [']', '?', '\x7d'])]

/-- The form of a literal token. -/
def literalForms : List Regex := [named (enclosed ['\x7b', '\''] wordSet ['\'', '\x7d'])]

/-- Any token, with four groups numbered on from the given number. -/
def anyToken (index : Nat) : Regex :=
  .group index (choice (requiredForms (index + 1) ++ literalForms ++ optionalForms))

/-- The text of the expression for required tokens. -/
def requiredText : Text :=
  ":\\w+(\\\x7b[a-z]+\\\x7d)|(:\\w+(?=&|$))|:\\w+(\\\x7b\\[[a-z]+\\]\\\x7d)".toList

/-- The text of the expression for optional tokens. -/
def optionalText : Text := ":\\w+\\\x7b[a-z]+\\?\\\x7d|:\\w+\\\x7b\\[[a-z]+\\]\\?\\\x7d".toList

/-- The text of the expression for literal tokens. -/
def literalText : Text := ":\\w+\\\x7b'\\w+'\\\x7d".toList

/-- The text of an expression with parentheses around it. -/
def grouped (t : Text) : Text := '(' :: t ++ [')']

/-- The text of the expression for any token. -/
def anyText : Text := grouped (Text.join ['|'] [requiredText, literalText, optionalText])

/-- The required tokens of a query. -/
def requiredToken : Rule where
  text := grouped requiredText
  regex := .group 1 (choice (requiredForms 2))
  denotes := rfl

/-- The optional tokens of a query. -/
def optionalToken : Rule where
  text := grouped optionalText
  regex := .group 1 (choice optionalForms)
  denotes := rfl

/-- The literal tokens of a query. -/
def literalToken : Rule where
  text := grouped literalText
  regex := .group 1 (choice literalForms)
  denotes := rfl

set_option maxRecDepth 1500 in
/-- The query part: a question mark and tokens with `&` between them, up to the end. -/
def queryPart : Rule where
  text := "\\?".toList ++ grouped (anyText ++ grouped ('&' :: anyText) ++ ['*']) ++ ['$']
  regex := sequence [single '?',
    .group 1 (sequence [anyToken 2, .repeated .greedy 0 none (.group 6 (sequence [single '&', anyToken 7]))]),
    .anchor .lastLineEnd]
  denotes := rfl

/-- The forms of a token of the path, with a group of the given number in the typed one. -/
def pathForms (index : Nat) : List Regex :=
  [named [.group index (sequence (enclosed ['\x7b'] typeSet ['\x7d']))], named []]

/-- The tokens of a path: between a slash and either the next one or the end. -/
def pathToken : Rule where
  text := grouped "(?<=/)(:\\w+(\\\x7b[a-z]+\\\x7d)|:\\w+)(?=(/|$))".toList
  regex := .group 1 (sequence [.look (some 1) false (single '/'), .group 2 (choice (pathForms 3)),
    .look none false (.group 4 (.alt (single '/') (.anchor .lastLineEnd)))])
  denotes := rfl

/-! ## Taking tokens apart -/

/-- A whole token of which the name is captured. -/
def nameCapture : Regex :=
  sequence [.anchor .subjectStart, single ':', .group 1 (oneOrMore wordSet), .anchor .lastLineEnd]

/-- A whole token of which the name and what stands between two texts behind it are captured. -/
def pairCapture (opening : Text) (chars : CharSet) (closing : Text) : Regex :=
  sequence (.anchor .subjectStart :: single ':' :: .group 1 (oneOrMore wordSet) ::
    (opening.map single ++ .group 2 (oneOrMore chars) :: (closing.map single ++ [.anchor .lastLineEnd])))

/-- The name of a bare token. -/
def requiredInferred : Rule where
  text := "^:(\\w+)$".toList
  regex := nameCapture
  denotes := rfl

/-- The name and the type of a required token. -/
def requiredTyped : Rule where
  text := "^:(\\w+)\\\x7b([a-z]+)\\\x7d$".toList
  regex := pairCapture ['\x7b'] typeSet ['\x7d']
  denotes := rfl

/-- The name and the type of the elements of a required token. -/
def requiredArray : Rule where
  text := "^:(\\w+)\\\x7b\\[([a-z]+)\\]\\\x7d$".toList
  regex := pairCapture ['\x7b', '['] typeSet [']', '\x7d']
  denotes := rfl

/-- The name and the type of an optional token. -/
def optionalTyped : Rule where
  text := "^:(\\w+)\\\x7b([a-z]+)\\?\\\x7d$".toList
  regex := pairCapture ['\x7b'] typeSet ['?', '\x7d']
  denotes := rfl

/-- The name and the type of the elements of an optional token. -/
def optionalArray : Rule where
  text := "^:(\\w+)\\\x7b\\[([a-z]+)\\]\\?\\\x7d$".toList
  regex := pairCapture ['\x7b', '['] typeSet [']', '?', '\x7d']
  denotes := rfl

/-- The name and the value of a literal token. -/
def literalValue : Rule where
  text := "^:(\\w+)\\\x7b'(\\w+)'\\\x7d$".toList
  regex := pairCapture ['\x7b', '\''] wordSet ['\'', '\x7d']
  denotes := rfl

/-! ## The query part of an expression -/

/-- The path of an expression and its query part, which starts at the first question mark with tokens behind it. -/
def cut (expression : Text) : Text × Option Text :=
  match queryPart.regex.firstSpan? expression with
  | some span => (expression.take span.1, some (slice expression span))
  | none => (expression, none)

/-- The path and the query part of an expression that starts with a slash. -/
def extract (expression : Text) : Except Diagnostic (Text × Option Text) :=
  let (path, query) := cut expression
  if path.head? = some '/' then .ok (path, query) else .error (.noLeadingSlash expression)

end Pattern.Grammar

/-- Why a scan of a path or a query makes no parameters. -/
inductive ScanError where
  | diagnostic (d : Diagnostic)
  | unpacking (wanted found : Nat)
  deriving DecidableEq, Repr

namespace Vocabulary

open Pattern.Grammar

variable {κ : Type}

/-- The only text in a row. -/
def unpackOne : List Text → Except ScanError Text
  | [a] => .ok a
  | texts => .error (.unpacking 1 texts.length)

/-- The two texts in a row. -/
def unpackTwo : List Text → Except ScanError (Text × Text)
  | [a, b] => .ok (a, b)
  | texts => .error (.unpacking 2 texts.length)

/-- The parameter with a name and a type of the given texts, or an array of the type. -/
def typedParam (vocabulary : Vocabulary κ) (expression : Text) (variant : Text → ValueType κ → Param κ)
    (isArray : Bool) (found : List Text) : Except ScanError (Param κ) := do
  let (name, type) ← unpackTwo found
  let type ← (vocabulary.resolve expression { name := type, isArray }).mapError .diagnostic
  return variant name type

/-- The parameter of a required token: an array, a type, or a bare name, in this order. -/
def requiredParam (vocabulary : Vocabulary κ) (expression token : Text) : Except ScanError (Param κ) :=
  match requiredArray.regex.captures token with
  | [] =>
    match requiredTyped.regex.captures token with
    | [] => do
      let name ← unpackOne (requiredInferred.regex.captures token)
      return .required name vocabulary.types.inferred
    | found => vocabulary.typedParam expression .required false found
  | found => vocabulary.typedParam expression .required true found

/-- The parameter of an optional token: an array or a type, in this order. -/
def optionalParam (vocabulary : Vocabulary κ) (expression token : Text) : Except ScanError (Param κ) :=
  match optionalArray.regex.captures token with
  | [] => vocabulary.typedParam expression .optional false (optionalTyped.regex.captures token)
  | found => vocabulary.typedParam expression .optional true found

/-- The parameter of a literal token. -/
def literalParam (token : Text) : Except ScanError (Param κ) := do
  let (name, value) ← unpackTwo (literalValue.regex.captures token)
  return .literal name value

/-- The parameters of a path, from a scan for its tokens. -/
def pathItems (vocabulary : Vocabulary κ) (expression path : Text) : Except ScanError (List (Param κ)) :=
  (pathToken.regex.matchedTexts path).mapM (vocabulary.requiredParam expression)

/-- The text of the regular expression for a path: the path with a group in place of each token, from end to end. -/
def capturedPath (path : Text) : Text :=
  '^' :: Text.withoutFinalSlash (pathToken.regex.replaceAll componentGroup path) ++ ['$']

/-- The parameters of a query part, from one scan for each kind of token. -/
def queryItems (vocabulary : Vocabulary κ) (expression : Text) : Option Text → Except ScanError (List (Param κ))
  | none => .ok []
  | some query => do
    let required ← (requiredToken.regex.matchedTexts query).mapM (vocabulary.requiredParam expression)
    let optional ← (optionalToken.regex.matchedTexts query).mapM (vocabulary.optionalParam expression)
    let literals ← (literalToken.regex.matchedTexts query).mapM literalParam
    return required ++ optional ++ literals

end Vocabulary

end TypedRoutes
