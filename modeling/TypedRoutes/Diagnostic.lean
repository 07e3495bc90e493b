import TypedRoutes.Number.Decimal
import TypedRoutes.Text.Pieces
import TypedRoutes.Text.Similarity

/-!
# Diagnostics

What can be wrong with an expression or with a list of types. A diagnostic has a kind, a message and perhaps the
expression at fault and suggestions; `format` lays all of it out. The kinds form a tree, and `Kind.lineage` is the
way from a kind to the root.
-/

namespace TypedRoutes

set_option autoImplicit false

namespace Diagnostic

/-- The kinds of diagnostics, the general ones included. -/
inductive Kind where
  | diagnostic
  | semantic
  | invalidFormat
  | invalidType
  | duplicateName
  | typeTable
  | invalidTypeName
  | duplicateTypeName
  deriving DecidableEq, Repr

/-- The name of a kind. -/
def Kind.name : Kind → Text
  | diagnostic => "PatternDiagnostic".toList
  | semantic => "PatternSemanticError".toList
  | invalidFormat => "InvalidFormatError".toList
  | invalidType => "InvalidTypeError".toList
  | duplicateName => "DuplicateNamedParameterError".toList
  | typeTable => "TypeRegistryError".toList
  | invalidTypeName => "InvalidTypeNameError".toList
  | duplicateTypeName => "DuplicateTypeNameError".toList

/-- A kind and the more general ones that it belongs to. -/
def Kind.lineage : Kind → List Kind
  | diagnostic => [diagnostic]
  | semantic => [semantic, diagnostic]
  | typeTable => [typeTable, diagnostic]
  | invalidFormat => [invalidFormat, semantic, diagnostic]
  | invalidType => [invalidType, semantic, diagnostic]
  | duplicateName => [duplicateName, semantic, diagnostic]
  | invalidTypeName => [invalidTypeName, typeTable, diagnostic]
  | duplicateTypeName => [duplicateTypeName, typeTable, diagnostic]

end Diagnostic

/-- A problem found while types are collected or expressions are compiled. The last form is for problems stated in
full by the one who reports them. -/
inductive Diagnostic where
  | noLeadingSlash (expression : Text)
  | badGlobalName (name : Text)
  | unknownType (name : Text) (expression : Option Text) (known : List Text)
  | duplicateName (name : Text) (expression : Option Text)
  | badTypeName (name : Text)
  | duplicateTypeName (name : Text)
  | stated (kind : Diagnostic.Kind) (message : Text) (expression : Option Text) (suggestions : List Text)
  deriving DecidableEq, Repr

namespace Diagnostic

/-- The kind of a diagnostic. -/
def kind : Diagnostic → Kind
  | noLeadingSlash _ | badGlobalName _ => .invalidFormat
  | unknownType _ _ _ => .invalidType
  | duplicateName _ _ => .duplicateName
  | badTypeName _ => .invalidTypeName
  | duplicateTypeName _ => .duplicateTypeName
  | stated kind _ _ _ => kind

/-- The problem in words. -/
def message : Diagnostic → Text
  | noLeadingSlash _ => "Expression must start with \"/\"".toList
  | badGlobalName name => "Global query param name \"".toList ++ name ++ "\" has invalid characters".toList
  | unknownType name _ _ => "Unrecognized type: \"".toList ++ name ++ ['"']
  | duplicateName name _ =>
    "Param name \"".toList ++ name ++ "\" can only be referenced once in expression".toList
  | badTypeName name => "Type \"".toList ++ name ++ "\" is not alphabetic".toList
  | duplicateTypeName name => "Cannot re-declare type \"".toList ++ name ++ ['"']
  | stated _ message _ _ => message

/-- The expression at fault. -/
def expression : Diagnostic → Option Text
  | noLeadingSlash expression => some expression
  | unknownType _ expression _ | duplicateName _ expression | stated _ _ expression _ => expression
  | badGlobalName _ | badTypeName _ | duplicateTypeName _ => none

/-- What could be done about it. -/
def suggestions : Diagnostic → List Text
  | unknownType name _ known =>
    (Text.closest name known).map fun candidate => "Did you mean '".toList ++ candidate ++ "'?".toList
  | duplicateName name _ => ["Rename one of the '".toList ++ name ++ "' parameters".toList]
  | stated _ _ _ suggestions => suggestions
  | noLeadingSlash _ | badGlobalName _ | badTypeName _ | duplicateTypeName _ => []

/-- The type that a diagnostic is about. -/
def typeName? : Diagnostic → Option Text
  | unknownType name _ _ | badTypeName name | duplicateTypeName name => some name
  | _ => none

/-- The parameter that a diagnostic is about. -/
def paramName? : Diagnostic → Option Text
  | duplicateName name _ => some name
  | _ => none

/-- The lines of the suggestions, numbered from one. -/
def suggestionLines (suggestions : List Text) : List Text :=
  suggestions.mapIdx fun i suggestion =>
    "  ".toList ++ Number.naturalText (i + 1) ++ ") ".toList ++ suggestion

/-- The diagnostic laid out for display. -/
def format (d : Diagnostic) : Text :=
  let head := d.kind.name ++ ": ".toList ++ d.message
  let place := match d.expression with
    | some expression => ["  --> ".toList ++ expression]
    | none => []
  let hints := if d.suggestions.isEmpty then [] else "\nSuggestions:".toList :: suggestionLines d.suggestions
  Text.join ['\n'] (head :: place ++ hints)

end Diagnostic

end TypedRoutes
