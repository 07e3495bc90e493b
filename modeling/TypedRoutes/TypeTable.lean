import TypedRoutes.Diagnostic
import TypedRoutes.ValueType

/-!
# Tables of types

The types that expressions may name: the built-in ones and those that an application adds. Their names are
distinct words of ASCII letters, which is checked once, when the table is made (`TypeTable.ofTypes`), and kept
as a field of the table.
-/

namespace TypedRoutes

set_option autoImplicit false

/-- Why types make no table. -/
inductive TypeTableError where
  | diagnostic (d : Diagnostic)
  | fault (f : Fault)
  deriving DecidableEq, Repr

namespace TypeTable

variable {κ : Type}

/-- The types of every table. -/
def builtins : List (ValueType κ) := [.int, .string, .bool]

/-- A name of one or more ASCII letters. -/
def isTypeName (t : Text) : Bool := !t.isEmpty && t.all Char.isAlpha

/-- What is wrong with a name after the names seen before it. -/
def nameError? (seen : List Text) : TypeName → Option TypeTableError
  | .text t =>
    if seen.contains t then some (.diagnostic (.duplicateTypeName t))
    else if isTypeName t then none
    else some (.diagnostic (.badTypeName t))
  | .foreign display kind =>
    if kind = "list".toList ∨ kind = "dict".toList then some (.fault (.unhashable kind))
    else some (.diagnostic (.badTypeName display))

/-- The first thing wrong with the names of types. -/
def firstError? (seen : List Text) : List (ValueType κ) → Option TypeTableError
  | [] => none
  | type :: rest =>
    match type.name? with
    | none => some (.fault (.noAttribute "TypeDescriptor".toList "name".toList))
    | some name =>
      match nameError? seen name with
      | some e => some e
      | none => firstError? (name.display :: seen) rest

end TypeTable

/-- The types that expressions may name. -/
structure TypeTable (κ : Type) where
  custom : List (ValueType κ) := []
  valid : TypeTable.firstError? [] (TypeTable.builtins ++ custom) = none := by decide

namespace TypeTable

variable {κ : Type}

/-- The table with only the built-in types. -/
def default : TypeTable κ where
  custom := []
  valid := rfl

/-- The table with the given types added, or the first thing wrong with them. -/
def ofTypes (custom : List (ValueType κ)) : Except TypeTableError (TypeTable κ) :=
  match h : firstError? [] (builtins ++ custom) with
  | some e => .error e
  | none => .ok ⟨custom, h⟩

/-- The guarded types of an ordered map of functions. -/
def guardedTypes (functions : List (Text × κ)) : List (ValueType κ) :=
  functions.map fun (name, function) => .guarded (.text name) function

/-- Every type, the built-in ones first. -/
def all (table : TypeTable κ) : List (ValueType κ) := builtins ++ table.custom

/-- The names of the types in order. -/
def names (table : TypeTable κ) : List Text := table.all.map ValueType.label

/-- The type of a name. -/
def get? (table : TypeTable κ) (name : Text) : Option (ValueType κ) :=
  table.all.find? fun type => type.label == name

/-- Whether there is a type of a name. -/
def contains (table : TypeTable κ) (name : Text) : Bool := (table.get? name).isSome

/-- The type of a parameter that names none. -/
def inferred (_ : TypeTable κ) : ValueType κ := .string

/-- The table as messages show it. -/
def shown (table : TypeTable κ) : Text :=
  "TypeRegistry(".toList ++ Text.join ", ".toList table.names ++ [')']

end TypeTable

end TypedRoutes
