import TypedRoutes.Fault
import TypedRoutes.Value.Basic

/-!
# Value types

A value type is a named conversion from the text of a path component or a query value to a value. Integers, texts
and truth values are built in, arrays are made of other types, and an application adds types of its own: named
functions. A conversion answers `none` for a text that is not valid.

Those functions are known by an identity from a type `κ`; `Conversions κ` says what each of them does, so that two
types can be compared although functions cannot.
-/

namespace TypedRoutes

set_option autoImplicit false

/-- What the functions named by `κ` do with a text. -/
class Conversions (κ : Type) where
  apply : κ → Text → Except Fault Value

/-- The name that an application gives to a type: a text, or a value of another kind, which only messages show. -/
inductive TypeName where
  | text (t : Text)
  | foreign (display kind : Text)
  deriving DecidableEq, Repr

/-- The name that a value makes. -/
def TypeName.ofValue : Value → TypeName
  | .text t => .text t
  | v => .foreign v.display v.typeName

/-- A name as running text. -/
def TypeName.display : TypeName → Text
  | text t => t
  | foreign display _ => display

/-- A name as messages show it. -/
def TypeName.shown : TypeName → Text
  | text t => Text.quoted t
  | foreign display _ => display

/-- A number that a name determines. -/
def TypeName.hash : TypeName → UInt64
  | text t => mixHash 3 (Text.hash t)
  | foreign display kind => mixHash 5 (mixHash (Text.hash display) (Text.hash kind))

/-- A type of parameters. A `guarded` type takes a refused text for one that is not valid; a `plain` type passes on
every failure of its function and is known by its name alone; an `abstract` type converts nothing. -/
inductive ValueType (κ : Type) where
  | int
  | string
  | bool
  | guarded (name : TypeName) (function : κ)
  | plain (name : TypeName) (function : κ)
  | abstract
  | array (of : ValueType κ)
  deriving DecidableEq, Repr, Inhabited

namespace ValueType

variable {κ : Type}

/-- The name of a type; an array is named for its elements. -/
def name? : ValueType κ → Option TypeName
  | int => some (.text "int".toList)
  | string => some (.text "string".toList)
  | bool => some (.text "bool".toList)
  | guarded name _ | plain name _ => some name
  | abstract => none
  | array of => (name? of).map fun name => .text ('[' :: name.display ++ [']'])

/-- The name of a type as running text. -/
def label (type : ValueType κ) : Text :=
  match type.name? with
  | some name => name.display
  | none => []

/-- A value that is there, or nothing. -/
def present (v : Value) : Option Value := if v.isNone then none else some v

/-- The words for true. -/
def trueWords : List Text := ["True".toList, "true".toList, "yes".toList, "1".toList]

/-- The words for false. -/
def falseWords : List Text := ["False".toList, "false".toList, "no".toList, "0".toList]

/-- The truth value of a word. -/
def bool? (t : Text) : Option Bool :=
  if trueWords.contains t then some true
  else if falseWords.contains t then some false
  else none

/-- The conversions of all pieces, when no piece is empty and all of them convert. The first piece that does not
decides. -/
def convertPieces (convert : Text → Except Fault (Option Value)) : List Text → Except Fault (Option (List Value))
  | [] => .ok (some [])
  | piece :: rest =>
    if piece.isEmpty then .ok none
    else match convert piece with
      | .error fault => .error fault
      | .ok none => .ok none
      | .ok (some v) =>
        match convertPieces convert rest with
        | .error fault => .error fault
        | .ok none => .ok none
        | .ok (some vs) => .ok (some (v :: vs))

/-- The value that a text denotes as an instance of a type, or `none` when the text is not valid. -/
def convert [Conversions κ] : ValueType κ → Text → Except Fault (Option Value)
  | int, t => .ok ((Number.integer? t).map .int)
  | string, t => .ok (some (.text t))
  | bool, t => .ok ((bool? t).map .bool)
  | guarded _ function, t =>
    match Conversions.apply function t with
    | .ok v => .ok (present v)
    | .error (.invalidValue _) | .error (.invalidKind _) => .ok none
    | .error fault => .error fault
  | plain _ function, t =>
    match Conversions.apply function t with
    | .ok v => .ok (present v)
    | .error fault => .error fault
  | abstract, _ => .error .unimplemented
  | array of, t =>
    match convertPieces (convert of) (Text.splitOn ',' t) with
    | .ok (some vs) => .ok (some (.list vs))
    | .ok none => .ok none
    | .error fault => .error fault

/-- Whether two types count as the same. A plain type is known by its name. -/
def same [DecidableEq κ] : ValueType κ → ValueType κ → Bool
  | int, int | string, string | bool, bool | abstract, abstract => true
  | guarded n f, guarded m g => n == m && f == g
  | plain n _, plain m _ => n == m
  | array a, array b => same a b
  | _, _ => false

/-- A number that types which count as the same share. -/
def hash [Hashable κ] : ValueType κ → UInt64
  | int => 11
  | string => 13
  | bool => 17
  | guarded n f => mixHash 19 (mixHash n.hash (Hashable.hash f))
  | plain n _ => mixHash 23 n.hash
  | abstract => 29
  | array of => mixHash 31 (hash of)

/-- A type as messages show it; the function of a guarded type has no written form. -/
def shown? : ValueType κ → Option Text
  | int => some "IntType(name='int')".toList
  | string => some "StringType(name='string')".toList
  | bool => some "BoolType(name='bool')".toList
  | guarded _ _ | abstract => none
  | plain name _ => some ("PlainType(name=".toList ++ name.shown ++ [')'])
  | array of => (shown? of).map fun inner => "ArrayType(of=".toList ++ inner ++ [')']

end ValueType

end TypedRoutes
