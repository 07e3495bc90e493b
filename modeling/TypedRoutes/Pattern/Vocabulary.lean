import TypedRoutes.Pattern.Basic
import TypedRoutes.Pattern.Token
import TypedRoutes.Regex.Parser
import TypedRoutes.TypeTable

/-!
# From expressions to patterns

The vocabulary of expressions is a table of types and the names of the global parameters, which are optional query
parameters of every pattern. An expression such as `/feed/:id{int}/?:ref{string?}` becomes a pattern: its tokens
become parameters, and its path becomes a regular expression from end to end, with a group in place of each token.

What is wrong with an expression is reported in a fixed order: its start, the types of its path, the types of its
query, and then names that occur twice.
-/

namespace TypedRoutes

set_option autoImplicit false

/-- Why an expression makes no pattern. A path whose counts of repetitions cannot be read is refused. -/
inductive CompileError where
  | diagnostic (d : Diagnostic)
  | path (refusal : Regex.Refusal)
  deriving DecidableEq, Repr

/-- What expressions are compiled against. -/
structure Vocabulary (κ : Type) where
  types : TypeTable κ := .default
  globals : List (Param κ) := []

namespace Vocabulary

variable {κ : Type}

/-- The group in place of a path token: one or more of the characters of a component. -/
def componentGroup : Text := "([A-Za-z0-9_.\\-~]+)".toList

/-- The global parameters of the given names, after the names seen before. A name has to be a text of word
characters. -/
def globalsNamed (types : TypeTable κ) (seen : List Text) : List Value → Except Diagnostic (List (Param κ))
  | [] => .ok []
  | .text name :: rest =>
    if !Pattern.isName name then .error (.badGlobalName name)
    else if seen.contains name then .error (.duplicateName name none)
    else match globalsNamed types (name :: seen) rest with
      | .ok params => .ok (.optional name types.inferred :: params)
      | .error d => .error d
  | v :: _ => .error (.badGlobalName v.display)

/-- The vocabulary with a table of types and the names of the global parameters. -/
def ofNames (types : TypeTable κ) (names : List Value) : Except Diagnostic (Vocabulary κ) :=
  match globalsNamed types [] names with
  | .ok globals => .ok { types, globals }
  | .error d => .error d

/-- The type that an expression mentions. -/
def resolve (vocabulary : Vocabulary κ) (expression : Text) (ref : Pattern.TypeRef) :
    Except Diagnostic (ValueType κ) :=
  match vocabulary.types.get? ref.name with
  | some type => .ok (if ref.isArray then .array type else type)
  | none => .error (.unknownType ref.name (some expression) vocabulary.types.names)

/-- The type of a required token. -/
def resolveOrInfer (vocabulary : Vocabulary κ) (expression : Text) :
    Option Pattern.TypeRef → Except Diagnostic (ValueType κ)
  | some ref => vocabulary.resolve expression ref
  | none => .ok vocabulary.types.inferred

/-- The parameters of the tokens of a path. -/
def pathParams (vocabulary : Vocabulary κ) (expression : Text) :
    List Pattern.Component → Except Diagnostic (List (Param κ))
  | [] => .ok []
  | .verbatim _ :: rest => pathParams vocabulary expression rest
  | .token name type _ :: rest => do
    let type ← vocabulary.resolveOrInfer expression (type.map fun name => { name })
    return .required name type :: (← pathParams vocabulary expression rest)

/-- The parameters of the required tokens of a query. -/
def requiredParams (vocabulary : Vocabulary κ) (expression : Text) :
    List Pattern.Token → Except Diagnostic (List (Param κ))
  | [] => .ok []
  | .required name ref :: rest => do
    let type ← vocabulary.resolveOrInfer expression ref
    return .required name type :: (← requiredParams vocabulary expression rest)
  | _ :: rest => requiredParams vocabulary expression rest

/-- The parameters of the optional tokens of a query. -/
def optionalParams (vocabulary : Vocabulary κ) (expression : Text) :
    List Pattern.Token → Except Diagnostic (List (Param κ))
  | [] => .ok []
  | .optional name ref :: rest => do
    let type ← vocabulary.resolve expression ref
    return .optional name type :: (← optionalParams vocabulary expression rest)
  | _ :: rest => optionalParams vocabulary expression rest

/-- The parameters of the literal tokens of a query. -/
def literalParams : List Pattern.Token → List (Param κ)
  | [] => []
  | .literal name value :: rest => .literal name value :: literalParams rest
  | _ :: rest => literalParams rest

/-- The parameters of a query: the required ones, the optional ones, and then the literal ones. -/
def queryParams (vocabulary : Vocabulary κ) (expression : Text) (tokens : List Pattern.Token) :
    Except Diagnostic (List (Param κ)) := do
  let required ← vocabulary.requiredParams expression tokens
  let optional ← vocabulary.optionalParams expression tokens
  return required ++ optional ++ literalParams tokens

/-- A component as text of a regular expression. -/
def componentText : Pattern.Component → Text
  | .token _ _ tail => componentGroup ++ tail
  | .verbatim t => t

/-- The text of the regular expression for a path. -/
def pathRegex (components : List Pattern.Component) : Text :=
  '^' :: Text.withoutFinalSlash (Text.join ['/'] (components.map componentText)) ++ ['$']

/-- The regular expression of a text; a malformed one is none. -/
def regexOf [CharacterNames] (t : Text) : Except Regex.Refusal (Option Regex) :=
  match Regex.parse t with
  | .ok r => .ok (some r)
  | .error .malformed => .ok none
  | .error refusal => .error refusal

/-- The first name that occurs among those before it. -/
def firstDuplicate? (seen : List Text) : List Text → Option Text
  | [] => none
  | name :: rest => if seen.contains name then some name else firstDuplicate? (name :: seen) rest

/-- The pattern of an expression. -/
def compile [CharacterNames] (vocabulary : Vocabulary κ) (expression : Text) : Except CompileError (Pattern κ) := do
  let (path, query) := Pattern.splitExpression expression
  if path.head? ≠ some '/' then throw (.diagnostic (.noLeadingSlash expression))
  let components := Pattern.components path
  let pathParams ← (vocabulary.pathParams expression components).mapError .diagnostic
  let queryParams ← (vocabulary.queryParams expression (query.getD [])).mapError .diagnostic
  let regexText := pathRegex components
  let regex ← (regexOf regexText).mapError .path
  let pattern : Pattern κ :=
    { raw := expression, pathRegex := regexText, pathParams, globalParams := vocabulary.globals, queryParams, regex }
  match firstDuplicate? [] pattern.names with
  | some name => throw (.diagnostic (.duplicateName name (some expression)))
  | none => return pattern

end Vocabulary

end TypedRoutes
