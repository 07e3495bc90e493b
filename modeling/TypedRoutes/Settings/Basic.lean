import TypedRoutes.Assoc
import TypedRoutes.Json.Reader
import TypedRoutes.Settings.Object
import TypedRoutes.Text.Case

/-!
# Settings

The settings of a table of routes, by name. Sources are merged into them one after the other, and a later one
overrides an earlier one name by name: documents, of which only one section counts, and variables, whose names
start with a lead and go on with the name of a setting.

`Settings.names` is the list of names of global parameters that the settings give.
-/

namespace TypedRoutes

set_option autoImplicit false

/-- What can be wrong with configuration. -/
inductive SettingsError where
  | noFile (pattern : Text)
  | unsupported (path : Text)
  | directory (path : Text)
  | notMap (source : Text)
  | sectionNotMap (source : Text)
  | badNames (shown : Text)
  | unshowable
  | json (e : Json.ReadError)
  | reader (e : ReaderError)
  deriving Repr

/-- The problem in words. -/
def SettingsError.message : SettingsError → Text
  | noFile pattern => "No config file matches '".toList ++ pattern ++ ['\'']
  | unsupported path => "Unsupported config file type: ".toList ++ path
  | directory path => "[Errno 21] Is a directory: ".toList ++ Text.quoted path
  | notMap source => "Config from ".toList ++ source ++ " must contain a mapping".toList
  | sectionNotMap source => "Section 'router' from ".toList ++ source ++ " must be a mapping".toList
  | badNames shown => "Config field 'global_query_params' expected a list of strings, got ".toList ++ shown
  | unshowable =>
    "Exceeds the limit (4300 digits) for integer string conversion; ".toList ++
      "use sys.set_int_max_str_digits() to increase the limit".toList
  | json e => e.message
  | reader e => e.message

/-- Whether a problem is reported as one of the configuration. The others are those of a reader, or of the text of a
message, and go through as they are. -/
def SettingsError.isReported : SettingsError → Bool
  | noFile _ | unsupported _ | notMap _ | sectionNotMap _ | badNames _ => true
  | directory _ | unshowable | json _ | reader _ => false

/-- An object as messages show it, unless it has no text. A value is shown whatever its depth: one that is nested too
deep for that is given as a foreign object. -/
def Readers.shownText {κ α : Type} (readers : Readers κ α) : Object α → Except SettingsError Text
  | .value v => if v.isShowable then .ok v.shown else .error .unshowable
  | .foreign a => (readers.shown a).mapError .reader

/-- Settings by name. A name need not be a text. -/
abbrev Settings (κ α : Type) := List (Key κ × Object α)

namespace Settings

variable {κ α : Type} [DecidableEq κ]

/-- The key of the section that counts in a document. -/
def sectionKey : Key κ := .text "router".toList

/-- The key of the names of global parameters. -/
def namesKey : Key κ := .text "global_query_params".toList

/-- The settings with a document from a source merged in. -/
def merge (readers : Readers κ α) (settings : Settings κ α) (source : Text) (document : Object α) :
    Except SettingsError (Settings κ α) :=
  match readers.look document with
  | .map entries =>
    match (Assoc.get? sectionKey entries).map readers.look with
    | none | some .none => .ok settings
    | some (.map more) => .ok (Assoc.update settings more)
    | some _ => .error (.sectionNotMap source)
  | _ => .error (.notMap source)

/-- The value of a variable: the list that it spells out as JSON, or else its text. -/
def readVariable (t : Text) : Except SettingsError Value :=
  if t.head? = some '[' then
    match Json.read t with
    | .ok v => .ok v
    | .error (.malformed _ _ _ _) => .ok (.text t)
    | .error e => .error (.json e)
  else .ok (.text t)

/-- What the names of variables for settings start with, after a lead of the application's choice. -/
def variableLead (lead : Text) : Text := lead ++ "ROUTER__".toList

/-- The setting that a variable is for. -/
def settingName? (lead key : Text) : Option Text :=
  if (variableLead lead).isPrefixOf key then
    some (Text.lower (key.drop (variableLead lead).length))
  else none

/-- The settings with variables merged in up to the first one whose value cannot be parsed, and what is wrong with
that one. -/
def mergeVariables (lead : Text) (settings : Settings κ α) :
    List (Text × Option Text) → Settings κ α × Option SettingsError
  | [] => (settings, none)
  | (key, value) :: rest =>
    match settingName? lead key, value with
    | some name, some t =>
      match readVariable t with
      | .ok v => mergeVariables lead (Assoc.set (.text name) (.value v) settings) rest
      | .error e => (settings, some e)
    | _, _ => mergeVariables lead settings rest

/-- The names in a text with commas between them. Pieces of nothing but blanks do not count. -/
def namesOfText (t : Text) : List Text :=
  ((Text.splitOn ',' t).map Text.trim).filter fun name => !name.isEmpty

/-- The text that an object is. -/
def text? (readers : Readers κ α) (given : Object α) : Option Text :=
  match readers.look given with
  | .text t => some t
  | _ => none

/-- The names that an object gives: those in a text, or those that a list consists of. -/
def names? (readers : Readers κ α) (given : Object α) : Option (List Text) :=
  match readers.look given with
  | .text t => some (namesOfText t)
  | .list items => items.mapM (text? readers)
  | _ => none

/-- The problem with an object that gives no names. Its message shows the object. -/
def refusal (readers : Readers κ α) (given : Object α) : SettingsError :=
  match readers.shownText given with
  | .ok shown => .badNames shown
  | .error e => e

/-- The names of global parameters. -/
def names (readers : Readers κ α) (settings : Settings κ α) : Except SettingsError (List Text) :=
  match Assoc.get? namesKey settings with
  | none => .ok []
  | some given =>
    match names? readers given with
    | some names => .ok names
    | none => .error (refusal readers given)

end Settings

end TypedRoutes
