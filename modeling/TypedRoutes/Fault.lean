import TypedRoutes.Text.Quoted

/-!
# Faults

How code that an application brings along, or a parameter made by hand, can fail: the causes that a conversion or
a match passes on.
-/

namespace TypedRoutes

set_option autoImplicit false

/-- A failure of a conversion or of a parameter. -/
inductive Fault where
  | invalidValue (text : Text)
  | invalidKind (text : Text)
  | missingKey (key : Text)
  | failed (text : Text)
  | unimplemented
  | noAttribute (owner name : Text)
  | unhashable (kind : Text)
  | unknownVariant (owner : Text)
  deriving DecidableEq, Repr

/-- The failure in words. -/
def Fault.message : Fault → Text
  | invalidValue text | invalidKind text | failed text => text
  | missingKey key => Text.quoted key
  | unimplemented => []
  | noAttribute owner name =>
    Text.quoted owner ++ " object has no attribute ".toList ++ Text.quoted name
  | unhashable kind => "unhashable type: ".toList ++ Text.quoted kind
  | unknownVariant owner => "Unknown query parameter variant: ".toList ++ owner

end TypedRoutes
