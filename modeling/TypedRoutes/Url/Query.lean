import TypedRoutes.Assoc
import TypedRoutes.Text.Pieces
import TypedRoutes.Text.Percent
import TypedRoutes.Text.Quoted
import TypedRoutes.Url.Basic

/-!
# Query items

The items of a query are `key=value` pairs between `&` signs. Keys and values are percent-decoded and nothing
else: a `+` stays a `+`. An item without `=` has no value and is left out. When a key repeats, its last value
counts, at the place of the first.
-/

namespace TypedRoutes

set_option autoImplicit false

/-- The query items in order, each key once. -/
abbrev Query := List (Text × Text)

namespace Query

/-- The decoded key and value of an item. -/
def item? (item : Text) : Option (Text × Text) :=
  (Text.cut? '=' item).map fun (key, value) => (Text.percentDecode key, Text.percentDecode value)

/-- The items of a query. -/
def parse (query : Text) : Query :=
  Assoc.ofPairs ((Text.splitOn '&' query).filterMap item?)

/-- The items as messages show them. -/
def shown (items : Query) : Text :=
  let entries := items.map fun (key, value) => Text.quoted key ++ ": ".toList ++ Text.quoted value
  "QueryItems(\x7b".toList ++ Text.join ", ".toList entries ++ "\x7d)".toList

end Query

/-- The query items of a URL. -/
def Url.items (url : Url) : Query := Query.parse url.query

end TypedRoutes
