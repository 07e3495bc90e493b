import TypedRoutes.Matching
import TypedRoutes.Pattern.Vocabulary
import TypedRoutes.Record.Basic

/-!
# Tables of routes

A table holds routes, each a pattern and a decoder, in the order in which they were registered. A URL resolves to
the first route whose pattern matches, whose decoder accepts the values, and whose global parameters decode. A
decoder that rejects values rules out its own route only; what interrupts a decoder ends the resolution.

A resolution also tells which decoders were called with what, because that can be seen from outside.
-/

namespace TypedRoutes

set_option autoImplicit false

/-- What a decoder makes of parameters. -/
inductive Decoded where
  | value (v : Value)
  | rejected
  | interrupted (cause : Text)
  deriving Repr

/-- A decoder turns parameters into a value of an application. -/
abbrev Decoder := Params → Decoded

/-- The decoder that makes records of a type. -/
def RecordType.decoder (type : RecordType) : Decoder := fun params =>
  match type.decode params with
  | .ok v => .value v
  | .error _ => .rejected

/-- What becomes of the global parameters of a match: they are not looked at, they are kept as they are, or a
decoder turns them into a value. -/
inductive GlobalDecoding where
  | unconfigured
  | kept
  | decoded (decoder : Decoder)

/-- A pattern with the decoder of its values. -/
structure Route (κ : Type) where
  pattern : Pattern κ
  decoder : Decoder

/-- An ordered list of routes over one vocabulary. -/
structure RouteTable (κ : Type) where
  vocabulary : Vocabulary κ := {}
  globals : GlobalDecoding := .unconfigured
  routes : List (Route κ) := []

/-- The result of a resolution. Without configured global parameters there is no value for them. -/
structure Destination where
  route : Value
  globals : Option Value
  deriving Repr

/-- Why a resolution has no result. -/
inductive ResolveError where
  | malformed (reason : Url.Malformed)
  | fault (f : Fault)
  | interrupted (cause : Text)

/-- Whose decoder is called: that of the route at a place, or that of the global parameters. -/
inductive Caller where
  | route (index : Nat)
  | globals
  deriving DecidableEq, Repr

/-- A call of a decoder. -/
structure Call where
  caller : Caller
  params : Params
  deriving Repr

/-- The calls of decoders, in order, and how the resolution ended. -/
structure Resolution where
  calls : List Call
  outcome : Except ResolveError (Option Destination)

/-- A resolution with other calls before its own. -/
def Resolution.after (calls : List Call) (resolution : Resolution) : Resolution :=
  { resolution with calls := calls ++ resolution.calls }

/-- What trying one route leads to, after some calls of decoders: the end of the resolution, or the next route. -/
inductive Attempt where
  | settled (calls : List Call) (outcome : Except ResolveError (Option Destination))
  | passed (calls : List Call)

namespace RouteTable

variable {κ : Type}

/-- The table without routes over the given types, with global parameters of the given names when a way to decode
them is given. -/
def ofTypes (types : TypeTable κ) (globals : Option (List Value × Decoder) := none) :
    Except Diagnostic (RouteTable κ) := do
  let vocabulary ← Vocabulary.ofNames types (match globals with
    | some (names, _) => names
    | none => [])
  return {
    vocabulary
    globals := match globals with
      | some (_, decoder) => .decoded decoder
      | none => .unconfigured }

/-- The table without routes for configured names of global parameters. Without a decoder their values are kept. -/
def ofNames (types : TypeTable κ) (names : List Value) (decoder : Option Decoder) :
    Except Diagnostic (RouteTable κ) := do
  let vocabulary ← Vocabulary.ofNames types names
  return {
    vocabulary
    globals := if names.isEmpty then .unconfigured else match decoder with
      | some decoder => .decoded decoder
      | none => .kept }

/-- The table with one more route at its end, and the pattern of that route. -/
def register [CharacterNames] (table : RouteTable κ) (expression : Text) (decoder : Decoder) :
    Except CompileError (Pattern κ × RouteTable κ) := do
  let pattern ← table.vocabulary.compile expression
  return (pattern, { table with routes := table.routes ++ [{ pattern, decoder }] })

/-- Registers a decoder and hands it back, so that a decoder can be registered where it is defined. -/
def decorate [CharacterNames] (table : RouteTable κ) (expression : Text) (decoder : Decoder) :
    Except CompileError (Decoder × RouteTable κ) := do
  let (_, table) ← table.register expression decoder
  return (decoder, table)

variable [Conversions κ]

/-- The end of an attempt at a route that made `v` of its values, when the global parameters have the given
values. -/
def finish (globals : GlobalDecoding) (calls : List Call) (v : Value) (params : Params) : Attempt :=
  match globals with
  | .unconfigured => .settled calls (.ok (some { route := v, globals := none }))
  | .kept => .settled calls (.ok (some { route := v, globals := some (.map params) }))
  | .decoded decoder =>
    let calls := calls ++ [{ caller := .globals, params }]
    match decoder params with
    | .value g => .settled calls (.ok (some { route := v, globals := some g }))
    | .rejected => .passed calls
    | .interrupted cause => .settled calls (.error (.interrupted cause))

/-- The attempt at the route at a place. -/
def attempt (globals : GlobalDecoding) (subject : Subject) (index : Nat) (route : Route κ) : Attempt :=
  match subject.matchPattern route.pattern with
  | .error f => .settled [] (.error (.fault f))
  | .ok none => .passed []
  | .ok (some params) =>
    let calls := [{ caller := .route index, params }]
    match route.decoder params with
    | .rejected => .passed calls
    | .interrupted cause => .settled calls (.error (.interrupted cause))
    | .value v =>
      match subject.globals route.pattern.globalParams with
      | .error f => .settled calls (.error (.fault f))
      | .ok found => finish globals calls v found

/-- The resolution by routes, of which the first has the given place. -/
def resolveFrom (globals : GlobalDecoding) (subject : Subject) (index : Nat) : List (Route κ) → Resolution
  | [] => { calls := [], outcome := .ok none }
  | route :: rest =>
    match attempt globals subject index route with
    | .settled calls outcome => { calls, outcome }
    | .passed calls => (resolveFrom globals subject (index + 1) rest).after calls

/-- The resolution of a URL. -/
def resolve (table : RouteTable κ) (url : Url) : Resolution :=
  resolveFrom table.globals (.ofUrl url) 0 table.routes

/-- The resolution of the text of a URL. -/
def resolveText (table : RouteTable κ) (t : Text) : Resolution :=
  match Url.parse t with
  | .ok url => table.resolve url
  | .error reason => { calls := [], outcome := .error (.malformed reason) }

end RouteTable

end TypedRoutes
