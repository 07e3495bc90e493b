import TypedRoutes.Value.Basic

/-!
# Objects and readers

Settings come from documents in JSON, from documents in YAML, from files of variables and from the application itself.
The library reads JSON on its own. The readers of YAML and of files of variables are parameters (`Readers`): nothing is
assumed of them, so that what is proved about settings holds whatever they make of a text.

What they make of it, and what an application hands over, need not be a value of this library: it may be a date, a set,
a map with numbers as keys or a list that contains itself. An object is thus a value or a `foreign` one. Settings look
at one layer of an object at a time (`Shape`), and at what messages show of it.
-/

namespace TypedRoutes

set_option autoImplicit false

/-- The error that a reader of another format stops with, or that an object has in place of a text. -/
structure ReaderError where
  kind : Text
  message : Text
  deriving DecidableEq, Repr

/-- A key of a map: a text, or anything else that can be compared. -/
inductive Key (κ : Type) where
  | text (t : Text)
  | other (k : κ)
  deriving DecidableEq, Repr

/-- An object: a value, or one that only its reader knows. -/
inductive Object (α : Type) where
  | value (v : Value)
  | foreign (a : α)
  deriving Repr

/-- The outermost layer of an object, with the objects in it. -/
inductive Shape (κ ω : Type) where
  | none
  | text (t : Text)
  | list (items : List ω)
  | map (entries : List (Key κ × ω))
  | other (isFalsy : Bool)

/-- The outermost layer of a value. -/
def Shape.ofValue {κ α : Type} : Value → Shape κ (Object α)
  | .none => .none
  | .text t => .text t
  | .list items => .list (items.map .value)
  | .map entries => .map (entries.map fun (key, v) => (.text key, .value v))
  | v => .other v.isFalsy

/-- Whether an object of a shape counts as nothing given. -/
def Shape.isFalsy {κ ω : Type} : Shape κ ω → Bool
  | none | text [] | list [] | map [] => true
  | other isFalsy => isFalsy
  | _ => false

/-- The readers of other formats, and what can be seen of the objects that are not values. A document is read with the
path that messages name, a file of variables in an environment whose variables its own may refer to. -/
structure Readers (κ α : Type) where
  yaml (path content : Text) : Except ReaderError (Object α)
  bindings (environment : List (Text × Text)) (content : Text) : Except ReaderError (List (Text × Option Text))
  shape : α → Shape κ (Object α)
  shown : α → Except ReaderError Text

/-- The outermost layer of an object. -/
def Readers.look {κ α : Type} (readers : Readers κ α) : Object α → Shape κ (Object α)
  | .value v => .ofValue v
  | .foreign a => readers.shape a

end TypedRoutes
