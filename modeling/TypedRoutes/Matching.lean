import TypedRoutes.Assoc
import TypedRoutes.Pattern.Basic
import TypedRoutes.Regex.Search
import TypedRoutes.Url.Query

/-!
# Matching

A URL is matched against patterns by its path and its query items. One slash at the end of the path does not
count, and a pattern that captures nothing from the path is tried on the path with a slash at its end, so that
`/feed/.*` matches `/feed`. A parameter that is missing or does not convert makes the pattern not match; only what
an application's own code reports goes through.
-/

namespace TypedRoutes

set_option autoImplicit false

/-- What of a URL takes part in matching. -/
structure Subject where
  path : Text
  query : Query
  deriving DecidableEq, Repr

namespace Subject

variable {κ : Type} [Conversions κ]

/-- The part of a URL that takes part in matching. -/
def ofUrl (url : Url) : Subject := { path := Text.withoutFinalSlash url.path, query := url.items }

/-- The path with a slash at its end, when it has none. -/
def slashed? (subject : Subject) : Option Text :=
  if subject.path.getLast? = some '/' then none else some (subject.path ++ ['/'])

/-- The texts that the groups of a regular expression capture from the path. -/
def captures (subject : Subject) (r : Regex) : List Text :=
  let found := r.captures subject.path
  if found.isEmpty then
    match subject.slashed? with
    | some path => r.captures path
    | none => []
  else found

/-- Whether a regular expression matches the path. -/
def pathMatches (subject : Subject) (r : Regex) : Bool :=
  r.hasMatch subject.path ||
    match subject.slashed? with
    | some path => r.hasMatch path
    | none => false

/-- The values of parameters converted from texts, each from the text at its place. -/
def bind : List (Param κ) → List Text → Except Fault (Option Params)
  | param :: params, t :: texts =>
    match param.convert t with
    | .error fault => .error fault
    | .ok none => .ok none
    | .ok (some v) =>
      match bind params texts with
      | .ok (some values) => .ok (some ((param.name, v) :: values))
      | other => other
  | _, _ => .ok (some [])

/-- The values of the path parameters. -/
def bindPath (subject : Subject) (pattern : Pattern κ) : Except Fault (Option Params) :=
  match pattern.regex with
  | none => .ok none
  | some r =>
    let captures := subject.captures r
    if captures.length ≠ pattern.pathParams.length then .ok none
    else if pattern.pathParams.isEmpty then .ok (if subject.pathMatches r then some [] else none)
    else bind pattern.pathParams captures

/-- The value of a query parameter: `none` when it rules the pattern out, and an empty answer when it is absent
without harm. -/
def queryValue (subject : Subject) (param : Param κ) : Except Fault (Option (Option Value)) :=
  let raw := Assoc.get? param.name subject.query
  match param, raw with
  | .required _ type, some t => (type.convert t).map fun v => v.map some
  | .required _ _, none => .ok none
  | .optional _ type, some t => (type.convert t).map fun v => v.map some
  | .optional _ _, none => .ok (some none)
  | .literal _ value, raw => .ok (if raw = some value then some (some (.text value)) else none)
  | .foreign _ owner, _ => .error (.unknownVariant owner)

/-- The values of the query parameters. The first parameter that rules the pattern out decides. -/
def bindQuery (subject : Subject) : List (Param κ) → Except Fault (Option Params)
  | [] => .ok (some [])
  | param :: params =>
    match subject.queryValue param with
    | .error fault => .error fault
    | .ok none => .ok none
    | .ok (some v) =>
      match subject.bindQuery params with
      | .ok (some values) =>
        .ok (some (match v with
          | some v => (param.name, v) :: values
          | none => values))
      | other => other

/-- The values of the parameters of a pattern, when it matches. -/
def matchPattern (subject : Subject) (pattern : Pattern κ) : Except Fault (Option Params) :=
  match subject.bindPath pattern with
  | .ok (some found) =>
    match subject.bindQuery pattern.queryParams with
    | .ok (some more) => .ok (some (Assoc.ofPairs (found ++ more)))
    | other => other
  | other => other

/-- The values of the global parameters that are present. One that does not convert leaves none of them. -/
def globalValues (subject : Subject) : List (Param κ) → Except Fault (Option Params)
  | [] => .ok (some [])
  | param :: params =>
    match Assoc.get? param.name subject.query with
    | none => subject.globalValues params
    | some t =>
      match param.convert t with
      | .error fault => .error fault
      | .ok none => .ok none
      | .ok (some v) =>
        match subject.globalValues params with
        | .ok (some values) => .ok (some ((param.name, v) :: values))
        | other => other

/-- The values of the global parameters, all of them or none. -/
def globals (subject : Subject) (params : List (Param κ)) : Except Fault Params :=
  (subject.globalValues params).map fun values => Assoc.ofPairs (values.getD [])

end Subject

end TypedRoutes
