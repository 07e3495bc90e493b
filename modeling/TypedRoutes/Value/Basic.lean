import TypedRoutes.Number.Binary64
import TypedRoutes.Text.Quoted
import TypedRoutes.Text.Pieces

/-!
# Values

The values that travel through the library: what conversions yield, what configuration files hold and what
decoders build. `shown` is the form of a value inside messages; `display` differs from it for texts only, which
stand there without quotes.
-/

namespace TypedRoutes

set_option autoImplicit false

open Number

/-- A value. A record has the name of its class and its fields in declaration order. -/
inductive Value where
  | none
  | bool (b : Bool)
  | int (n : Int)
  | float (x : Binary64)
  | text (t : Text)
  | list (items : List Value)
  | map (entries : List (Text × Value))
  | record (name : Text) (fields : List (Text × Value))
  deriving Repr, Inhabited

namespace Value

/-- Whether a value is there at all. -/
def isNone : Value → Bool
  | none => true
  | _ => false

/-- The name of the kind of a value. -/
def typeName : Value → Text
  | none => "NoneType".toList
  | bool _ => "bool".toList
  | int _ => "int".toList
  | float _ => "float".toList
  | text _ => "str".toList
  | list _ => "list".toList
  | map _ => "dict".toList
  | record name _ => name

mutual

/-- A value as messages show it. -/
def shown : Value → Text
  | none => "None".toList
  | bool true => "True".toList
  | bool false => "False".toList
  | int n => integerText n
  | float x => x.text
  | text t => Text.quoted t
  | list items => '[' :: Text.join ", ".toList (shownItems items) ++ [']']
  | map entries => '\x7b' :: Text.join ", ".toList (shownEntries entries) ++ ['\x7d']
  | record name fields => name ++ '(' :: Text.join ", ".toList (shownFields fields) ++ [')']

/-- The items of a list as messages show them. -/
def shownItems : List Value → List Text
  | [] => []
  | v :: rest => shown v :: shownItems rest

/-- The entries of a map as messages show them. -/
def shownEntries : List (Text × Value) → List Text
  | [] => []
  | (key, v) :: rest => (Text.quoted key ++ ": ".toList ++ shown v) :: shownEntries rest

/-- The fields of a record as messages show them. -/
def shownFields : List (Text × Value) → List Text
  | [] => []
  | (name, v) :: rest => (name ++ '=' :: shown v) :: shownFields rest

end

mutual

/-- Whether messages can show a value: an integer of more than `maxDigits` digits has no text. -/
def isShowable : Value → Bool
  | int n => decide (n.natAbs < Nat.pow 10 maxDigits)
  | list items => areShowable items
  | map entries | record _ entries => entriesShowable entries
  | _ => true

/-- Whether messages can show the items of a list. -/
def areShowable : List Value → Bool
  | [] => true
  | v :: rest => isShowable v && areShowable rest

/-- Whether messages can show the entries of a map or the fields of a record. -/
def entriesShowable : List (Text × Value) → Bool
  | [] => true
  | (_, v) :: rest => isShowable v && entriesShowable rest

end

/-- A value as running text. -/
def display : Value → Text
  | text t => t
  | v => shown v

/-- A value that counts as nothing given: none, false, zero, or empty. -/
def isFalsy : Value → Bool
  | none | bool false | int 0 | text [] | list [] | map [] => true
  | float (.finite _ 0 _) => true
  | _ => false

/-- Whether a value is a truth value. -/
def isBool : Value → Bool
  | bool _ => true
  | _ => false

/-- Whether a value is an integer; a truth value is none. -/
def isInt : Value → Bool
  | int _ => true
  | _ => false

/-- Whether a value is a floating-point number. -/
def isFloat : Value → Bool
  | float _ => true
  | _ => false

/-- Whether a value is a text. -/
def isText : Value → Bool
  | text _ => true
  | _ => false

/-- Whether a value is a map. -/
def isMap : Value → Bool
  | map _ => true
  | _ => false

/-- The items of a list. -/
def items? : Value → Option (List Value)
  | list items => some items
  | _ => Option.none

end Value

/-- The values of parameters by name. -/
abbrev Params := List (Text × Value)

end TypedRoutes
