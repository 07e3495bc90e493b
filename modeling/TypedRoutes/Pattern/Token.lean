import TypedRoutes.Text.Class
import TypedRoutes.Text.Pieces

/-!
# Tokens of expressions

The parts of an expression that stand for parameters. Every token starts with a colon and a name:

* `:name`, a parameter of the inferred type;
* `:name{type}` and `:name{[type]}`, a parameter of a type or an array of it;
* `:name{type?}` and `:name{[type]?}`, one that may be absent;
* `:name{'word'}`, one whose text is given.

The path knows the first form and the second one without an array, each as a whole component. `splitExpression`
finds the query part, which is the longest end of the expression after a question mark that is a row of tokens.
-/

namespace TypedRoutes.Pattern

set_option autoImplicit false

/-- A character of type names in expressions. -/
def isTypeChar (c : Char) : Bool := decide ('a' ≤ c) && decide (c ≤ 'z')

/-- A type name as expressions write it. -/
def isTypeWord (t : Text) : Bool := !t.isEmpty && t.all isTypeChar

/-- A name of one or more word characters. -/
def isName (t : Text) : Bool := !t.isEmpty && t.all Text.isWord

/-- What stands between two signs at the ends of a text. -/
def between? (first last : Char) : Text → Option Text
  | [] => none
  | c :: rest =>
    if c = first ∧ rest.getLast? = some last then some rest.dropLast else none

/-- A mention of a type: its name, or the name in brackets for an array of it. -/
structure TypeRef where
  name : Text
  isArray : Bool := false
  deriving DecidableEq, Repr

/-- The type that a text mentions. -/
def TypeRef.ofText? (t : Text) : Option TypeRef :=
  if isTypeWord t then some { name := t }
  else match between? '[' ']' t with
    | some name => if isTypeWord name then some { name, isArray := true } else none
    | none => none

/-- The form in which expressions mention a type. -/
def TypeRef.text (ref : TypeRef) : Text :=
  if ref.isArray then '[' :: ref.name ++ [']'] else ref.name

/-- A token. A required token without a type is of the inferred type. -/
inductive Token where
  | required (name : Text) (type : Option TypeRef)
  | optional (name : Text) (type : TypeRef)
  | literal (name value : Text)
  deriving DecidableEq, Repr

namespace Token

/-- The name after a colon, and what stands between braces behind it. -/
def split? : Text → Option (Text × Option Text)
  | [] => none
  | c :: rest =>
    let name := rest.takeWhile Text.isWord
    let body := rest.drop name.length
    if c ≠ ':' ∨ name.isEmpty then none
    else if body.isEmpty then some (name, none)
    else (between? '\x7b' '\x7d' body).map fun body => (name, some body)

/-- The token with a name and a text between braces. -/
def ofBody? (name body : Text) : Option Token :=
  match between? '\'' '\'' body with
  | some value => if isName value then some (.literal name value) else none
  | none =>
    if body.getLast? = some '?' then (TypeRef.ofText? body.dropLast).map (.optional name)
    else (TypeRef.ofText? body).map fun ref => .required name (some ref)

/-- The token that a text is. -/
def ofText? (t : Text) : Option Token :=
  match split? t with
  | none => none
  | some (name, none) => some (.required name none)
  | some (name, some body) => ofBody? name body

/-- A text between braces. -/
def braced (t : Text) : Text := '\x7b' :: t ++ ['\x7d']

/-- The text of a token. -/
def text : Token → Text
  | required name none => ':' :: name
  | required name (some ref) => ':' :: name ++ braced ref.text
  | optional name ref => ':' :: name ++ braced (ref.text ++ ['?'])
  | literal name value => ':' :: name ++ braced ('\'' :: value ++ ['\''])

end Token

/-- The tokens that a text is a row of, with `&` between them. -/
def tokenRow? (t : Text) : Option (List Token) := (Text.splitOn '&' t).mapM Token.ofText?

/-- A text without the newline at its end. -/
def dropFinalNewline (t : Text) : Text := if t.getLast? = some '\n' then t.dropLast else t

/-- The path and the tokens of the query part, when there is one. A newline at the end of the query part does not
count. -/
def splitExpression : Text → Text × Option (List Token)
  | [] => ([], none)
  | c :: rest =>
    let here := if c = '?' then tokenRow? (dropFinalNewline rest) else none
    match here with
    | some tokens => ([], some tokens)
    | none =>
      let (path, query) := splitExpression rest
      (c :: path, query)

/-- A component of a path: a token with the text that follows it, or any other text, which is kept as it is. -/
inductive Component where
  | token (name : Text) (type : Option Text) (tail : Text)
  | verbatim (t : Text)
  deriving DecidableEq, Repr

namespace Component

/-- The name and type of the path token that a text is. -/
def token? (t : Text) : Option (Text × Option Text) :=
  match Token.ofText? t with
  | some (.required name none) => some (name, none)
  | some (.required name (some ref)) => if ref.isArray then none else some (name, some ref.name)
  | _ => none

/-- The component that a text is. -/
def ofText (t : Text) : Component :=
  match token? t with
  | some (name, type) => token name type []
  | none => verbatim t

/-- The component that a text at the end of a path is. A newline at its end does not count. -/
def ofLastText (t : Text) : Component :=
  match token? (dropFinalNewline t) with
  | some (name, type) => token name type (t.drop (dropFinalNewline t).length)
  | none => verbatim t

/-- The components of the texts between slashes. -/
def ofTexts : List Text → List Component
  | [] => []
  | [t] => [ofLastText t]
  | t :: rest => ofText t :: ofTexts rest

end Component

/-- The components of a path. What stands before the first slash is no component of its own. -/
def components (path : Text) : List Component :=
  match Text.splitOn '/' path with
  | [] => []
  | first :: rest => .verbatim first :: Component.ofTexts rest

end TypedRoutes.Pattern
