import TypedRoutes.ValueType

/-!
# Parameters

What a pattern binds. A required parameter has to be present and to convert, an optional one has to convert when
it is present, and a literal one has to be present with the text that it states. A parameter of any other variant
can only come from a pattern made by hand, and matching rejects it.
-/

namespace TypedRoutes

set_option autoImplicit false

/-- A parameter of a pattern. -/
inductive Param (κ : Type) where
  | required (name : Text) (type : ValueType κ)
  | optional (name : Text) (type : ValueType κ)
  | literal (name value : Text)
  | foreign (name owner : Text)
  deriving DecidableEq, Repr

namespace Param

variable {κ : Type}

/-- The name of a parameter. -/
def name : Param κ → Text
  | required name _ | optional name _ | literal name _ | foreign name _ => name

/-- The type of a parameter; a literal has none. -/
def type : Param κ → Except Fault (ValueType κ)
  | required _ type | optional _ type => .ok type
  | literal _ _ => .error (.noAttribute "LiteralParam".toList "type".toList)
  | foreign _ owner => .error (.noAttribute owner "type".toList)

/-- The conversion of a text by the type of a parameter. -/
def convert [Conversions κ] (param : Param κ) (t : Text) : Except Fault (Option Value) :=
  match param.type with
  | .ok type => type.convert t
  | .error fault => .error fault

/-- Whether two parameters count as the same. -/
def same [DecidableEq κ] : Param κ → Param κ → Bool
  | required n a, required m b | optional n a, optional m b => n == m && a.same b
  | literal n a, literal m b | foreign n a, foreign m b => n == m && a == b
  | _, _ => false

/-- A number that parameters which count as the same share. -/
def hash [Hashable κ] : Param κ → UInt64
  | required name type => mixHash 37 (mixHash (Text.hash name) type.hash)
  | optional name type => mixHash 41 (mixHash (Text.hash name) type.hash)
  | literal name value => mixHash 43 (mixHash (Text.hash name) (Text.hash value))
  | foreign name owner => mixHash 47 (mixHash (Text.hash name) (Text.hash owner))

/-- A parameter as data. -/
def toValue : Param κ → Value
  | required name type => entry name "required" "type" type.label
  | optional name type => entry name "optional" "type" type.label
  | literal name value => entry name "literal" "value" value
  | foreign name owner => entry name "foreign" "owner" owner
where
  /-- The three entries of a parameter. -/
  entry (name : Text) (kind detail : String) (content : Text) : Value :=
    .map [("name".toList, .text name), ("kind".toList, .text kind.toList), (detail.toList, .text content)]

end Param

end TypedRoutes
