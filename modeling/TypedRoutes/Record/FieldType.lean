import TypedRoutes.Value.Basic

/-!
# Types of record fields

What a field of a record may hold. List types and unions have two notations: the classic one writes `List[int]`
and `Union[int, str]`, the modern one `list[int]` and `int | str`. They accept the same values, and messages name
them differently. Unions are simplified as they are made: nested ones are merged, repeated members go, and one
member alone is no union.

A check has three outcomes, because no value can be held against a type that lists literals.
-/

namespace TypedRoutes

set_option autoImplicit false

/-- How a list type or a union is written. -/
inductive Style where
  | classic
  | modern
  deriving DecidableEq, Repr

/-- What a field may hold. `nothing` holds the value none only. `null` is that value used as a type: it stands for
`nothing`, but as the item of a modern list it restricts nothing. A `generic` type stands for any type. -/
inductive FieldType where
  | int
  | float
  | bool
  | text
  | nothing
  | null
  | any
  | object
  | generic
  | anyList (style : Style)
  | listOf (style : Style) (item : FieldType)
  | anyMap
  | mapOf (key value : FieldType)
  | union (style : Style) (members : List FieldType)
  | literal (options : List Text)
  deriving Repr, Inhabited

/-- The outcome of a check. -/
inductive Verdict where
  | fits
  | misfit
  | uncheckable
  deriving DecidableEq, Repr

namespace Verdict

/-- The outcome of a check that can be made. -/
def ofBool (b : Bool) : Verdict := if b then fits else misfit

/-- The outcome for a list whose items have the given ones: the first that is no fit decides. -/
def every : List Verdict → Verdict
  | [] => fits
  | fits :: rest => every rest
  | verdict :: _ => verdict

/-- The outcome for a union whose members have the given ones: the first that is no misfit decides. -/
def some : List Verdict → Verdict
  | [] => misfit
  | misfit :: rest => some rest
  | verdict :: _ => verdict

end Verdict

namespace FieldType

/-- A type by itself, with `null` read as `nothing`. -/
def resolved : FieldType → FieldType
  | null => nothing
  | type => type

mutual

/-- Whether two types are the same. The notation and the order of a union do not count. -/
def same : FieldType → FieldType → Bool
  | int, int | float, float | bool, bool | text, text | nothing, nothing | null, null | any, any
  | object, object | generic, generic | anyMap, anyMap => true
  | anyList s, anyList t => s == t
  | listOf s a, listOf t b => s == t && same a b
  | mapOf k v, mapOf l w => same k l && same v w
  | union _ as, union _ bs => as.length == bs.length && allAmong as bs
  | literal as, literal bs => as.length == bs.length && as.all bs.contains
  | _, _ => false

/-- Whether all types are among others. -/
def allAmong : List FieldType → List FieldType → Bool
  | [], _ => true
  | a :: as, bs => bs.any (fun b => same a b) && allAmong as bs

end

/-- Types without those that are the same as earlier ones. -/
def distinct (types : List FieldType) : List FieldType :=
  types.foldl (fun seen type => if seen.any type.same then seen else seen ++ [type]) []

/-- The members of a union; any other type is the only member of its own. -/
def members : FieldType → List FieldType
  | union _ members => members
  | type => [type.resolved]

/-- The union of types in a notation. -/
def ofMembers (style : Style) (types : List FieldType) : FieldType :=
  match distinct (types.flatMap members) with
  | [type] => type
  | types => union style types

/-- The classic union of types. -/
def anyOf (types : List FieldType) : FieldType := ofMembers .classic types

/-- A type or nothing. -/
def optional (type : FieldType) : FieldType := anyOf [type, nothing]

/-- A classic list of items. -/
def classicList (item : FieldType) : FieldType := listOf .classic item.resolved

/-- A modern list of items. -/
def modernList (item : FieldType) : FieldType := listOf .modern item

/-- The type of the literals with the given values. -/
def literals (values : List Value) : FieldType := literal (values.map Value.shown).eraseDups

/-- Whether a type makes a union with it a classic one. -/
def isClassic : FieldType → Bool
  | generic | literal _ => true
  | anyList style | listOf style _ | union style _ => style == .classic
  | _ => false

/-- The modern union of two types; a classic type makes it classic. -/
def or (a b : FieldType) : FieldType :=
  ofMembers (if a.isClassic || b.isClassic then .classic else .modern) [a, b]

/-- The modern union of types in a row. -/
def oneOf : List FieldType → FieldType
  | [] => nothing
  | type :: types => types.foldl or type

/-- Whether a type is a union with nothing as a member. -/
def allowsNone : FieldType → Bool
  | union _ members => members.any (same nothing)
  | _ => false

/-- The name of list types in a notation. -/
def listName : Style → Text
  | .classic => "List".toList
  | .modern => "list".toList

/-- A name with what stands in brackets behind it. -/
def bracketed (name inner : Text) : Text := name ++ '[' :: inner ++ [']']

/-- The name of the type `nothing` when it stands by itself. -/
def nothingName : Text := "NoneType".toList

/-- The classic form of a union of the given members, of which one of two may be nothing. -/
def classicUnion (members : List Text) : Text :=
  match members with
  | [a, b] =>
    if a = nothingName then bracketed "typing.Optional".toList b
    else if b = nothingName then bracketed "typing.Optional".toList a
    else bracketed "typing.Union".toList (Text.join ", ".toList members)
  | _ => bracketed "typing.Union".toList (Text.join ", ".toList members)

/-- The modern form of a union of the given members. -/
def modernUnion (members : List Text) : Text :=
  Text.join " | ".toList (members.map fun t => if t = nothingName then "None".toList else t)

mutual

/-- A type as it is written inside another one. -/
def written : FieldType → Text
  | int => "int".toList
  | float => "float".toList
  | bool => "bool".toList
  | text => "str".toList
  | nothing => nothingName
  | null => "None".toList
  | any => "typing.Any".toList
  | object => "object".toList
  | generic => "~T".toList
  | anyList .classic => "typing.List".toList
  | anyList .modern => listName .modern
  | listOf .classic item => bracketed "typing.List".toList (written item)
  | listOf .modern item => bracketed (listName .modern) (written item)
  | anyMap => "dict".toList
  | mapOf key value => bracketed "dict".toList (written key ++ ", ".toList ++ written value)
  | union .classic members => classicUnion (writtenAll members)
  | union .modern members => modernUnion (writtenAll members)
  | literal options => bracketed "typing.Literal".toList (Text.join ", ".toList options)

/-- Types as they are written inside another one. -/
def writtenAll : List FieldType → List Text
  | [] => []
  | type :: types => written type :: writtenAll types

end

/-- The name of a type in messages. -/
def name (type : FieldType) : Text :=
  match type with
  | any => "Any".toList
  | generic => "T".toList
  | anyList style | listOf style _ => listName style
  | mapOf _ _ => "dict".toList
  | union .classic members =>
    if members.length = 2 ∧ type.allowsNone then "Optional".toList else "Union".toList
  | literal _ => "Literal".toList
  | type => type.written

mutual

/-- Whether a value may stand where a type is asked for. A truth value is no number, and an integer may stand for
a floating-point number. -/
def check : FieldType → Value → Verdict
  | int, v => .ofBool v.isInt
  | float, v => .ofBool (v.isInt || v.isFloat)
  | bool, v => .ofBool v.isBool
  | text, v => .ofBool v.isText
  | nothing, v => .ofBool v.isNone
  | null, _ | any, _ | object, _ | generic, _ => .fits
  | anyList _, v => .ofBool v.items?.isSome
  | listOf _ item, v =>
    match v.items? with
    | some items => .every (items.map fun v => check item v)
    | none => .misfit
  | anyMap, v | mapOf _ _, v => .ofBool v.isMap
  | union _ members, v => .some (checkEach members v)
  | literal _, _ => .uncheckable

/-- The outcomes for the members of a union. -/
def checkEach : List FieldType → Value → List Verdict
  | [], _ => []
  | type :: types, v => check type v :: checkEach types v

end

end FieldType

end TypedRoutes
