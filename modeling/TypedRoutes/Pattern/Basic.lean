import TypedRoutes.Json.Writer
import TypedRoutes.Pattern.Param
import TypedRoutes.Regex.Syntax

/-!
# Patterns

A compiled expression: the regular expression for the path, and the parameters of the path, of every pattern of
the vocabulary, and of the query. Two patterns count as the same when all but the regular expression agree, which
the text of it determines.
-/

namespace TypedRoutes

set_option autoImplicit false

/-- A compiled expression. There is no regular expression when its text is not one, and then nothing matches. -/
structure Pattern (κ : Type) where
  raw : Text
  pathRegex : Text
  pathParams : List (Param κ)
  globalParams : List (Param κ)
  queryParams : List (Param κ)
  regex : Option Regex

namespace Pattern

variable {κ : Type}

/-- The parameters of the path, the global ones, and those of the query. -/
def params (pattern : Pattern κ) : List (Param κ) :=
  pattern.pathParams ++ pattern.globalParams ++ pattern.queryParams

/-- The names of all parameters. -/
def names (pattern : Pattern κ) : List Text := pattern.params.map Param.name

/-- Whether two rows of parameters count as the same. -/
def sameParams [DecidableEq κ] : List (Param κ) → List (Param κ) → Bool
  | [], [] => true
  | p :: ps, q :: qs => p.same q && sameParams ps qs
  | _, _ => false

/-- Whether two patterns count as the same. -/
def same [DecidableEq κ] (p q : Pattern κ) : Bool :=
  p.raw == q.raw && p.pathRegex == q.pathRegex && sameParams p.pathParams q.pathParams
    && sameParams p.globalParams q.globalParams && sameParams p.queryParams q.queryParams

/-- A number that rows of parameters which count as the same share. -/
def hashParams [Hashable κ] (params : List (Param κ)) : UInt64 :=
  params.foldl (fun h p => mixHash h p.hash) 7

/-- A number that patterns which count as the same share. -/
def hash [Hashable κ] (p : Pattern κ) : UInt64 :=
  mixHash (mixHash (Text.hash p.raw) (Text.hash p.pathRegex))
    (mixHash (hashParams p.pathParams) (mixHash (hashParams p.globalParams) (hashParams p.queryParams)))

/-- A pattern as data. -/
def toValue (p : Pattern κ) : Value :=
  .map [("raw".toList, .text p.raw), ("captured_path_regex".toList, .text p.pathRegex),
    ("path_params".toList, .list (p.pathParams.map Param.toValue)),
    ("global_query_params".toList, .list (p.globalParams.map Param.toValue)),
    ("query_params".toList, .list (p.queryParams.map Param.toValue))]

/-- A pattern as JSON. -/
def jsonText (p : Pattern κ) (indent : Option Int) : Text := Json.write indent p.toValue

end Pattern

end TypedRoutes
