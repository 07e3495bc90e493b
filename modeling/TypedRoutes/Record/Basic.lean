import TypedRoutes.Assoc
import TypedRoutes.Record.FieldType

/-!
# Records

A record type has a name and fields. `RecordType.decode` builds a record from parameters: each field is looked up
by its name, and its value has to fit the type of the field. The first field that has no value, or one that does
not fit, decides. Parameters that are no fields do not matter.
-/

namespace TypedRoutes

set_option autoImplicit false

/-- A field. A field that is not `given` takes no parameter; it has its default or no value at all. -/
structure Field where
  name : Text
  type : FieldType
  default : Option Value := none
  given : Bool := true
  deriving Repr

/-- A type of records. -/
structure RecordType where
  name : Text
  fields : List Field
  deriving Repr

/-- Why parameters make no record. -/
inductive RecordError where
  | mismatch (field owner expected actual : Text)
  | missing (field owner : Text)
  | uncheckable
  | notRecord (target : Text)
  deriving DecidableEq, Repr

/-- The reason in words. -/
def RecordError.message : RecordError → Text
  | mismatch field owner expected actual =>
    "Field ".toList ++ Text.quoted field ++ " of ".toList ++ owner ++ " expected ".toList ++ expected
      ++ ", got ".toList ++ actual
  | missing field owner =>
    "Field ".toList ++ Text.quoted field ++ " of ".toList ++ owner ++ " is missing".toList
  | uncheckable => "typing.Literal cannot be used with isinstance()".toList
  | notRecord target => target ++ " is not a dataclass type".toList

namespace Field

/-- The value of a field that no parameter is there for: its default, or none when the type allows for it. -/
def absent (owner : Text) (field : Field) : Except RecordError Value :=
  match field.default with
  | some v => .ok v
  | none =>
    if field.type.allowsNone then .ok .none
    else .error (.missing field.name owner)

/-- The value of a field that a parameter is there for. -/
def present (owner : Text) (field : Field) (v : Value) : Except RecordError Value :=
  match field.type.resolved.check v with
  | .fits => .ok v
  | .misfit => .error (.mismatch field.name owner field.type.resolved.name v.typeName)
  | .uncheckable => .error .uncheckable

/-- The value of a field, if it has one. -/
def value? (owner : Text) (params : Params) (field : Field) : Except RecordError (Option Value) :=
  if field.given then
    match Assoc.get? field.name params with
    | some v => (field.present owner v).map some
    | none => (field.absent owner).map some
  else .ok field.default

end Field

namespace RecordType

/-- The values of fields by name. -/
def decodeFields (owner : Text) (params : Params) : List Field → Except RecordError (List (Text × Value))
  | [] => .ok []
  | field :: fields => do
    let v ← field.value? owner params
    let rest ← decodeFields owner params fields
    return match v with
      | some v => (field.name, v) :: rest
      | none => rest

/-- The record that parameters make. -/
def decode (type : RecordType) (params : Params) : Except RecordError Value := do
  return .record type.name (← decodeFields type.name params type.fields)

/-- The name of the decoder for a type. -/
def decoderName (type : RecordType) : Text := "decode_".toList ++ type.name

/-- The record in which every field has its default. -/
def sample (type : RecordType) : Value :=
  .record type.name (type.fields.filterMap fun field => field.default.map fun v => (field.name, v))

end RecordType

/-- What an application names as the target of a decoder: a type of records, another type, or a record itself. -/
inductive Target where
  | record (type : RecordType)
  | builtin (name : Text)
  | sample (type : RecordType)
  deriving Repr

/-- The type of records that a target is. -/
def Target.recordType : Target → Except RecordError RecordType
  | record type => .ok type
  | builtin name => .error (.notRecord ("<class ".toList ++ Text.quoted name ++ ['>']))
  | sample type => .error (.notRecord type.sample.shown)

end TypedRoutes
