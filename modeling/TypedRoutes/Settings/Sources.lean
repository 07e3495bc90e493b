import TypedRoutes.Settings.Basic
import TypedRoutes.Settings.Glob

/-!
# Sources of settings

Settings come from files, a file of variables, the environment and overrides, and each of them overrides those
before it. Patterns are taken in the order given, and the files of one pattern in the order of their paths.
-/

namespace TypedRoutes

set_option autoImplicit false

/-- Where settings come from. -/
structure Sources (α : Type) where
  tree : FileTree := {}
  patterns : List Text := []
  lead : Text := "TRAILHEAD_".toList
  variableFile : Text := []
  environment : List (Text × Text) := []
  overrides : Object α := .value .none
  deriving Repr

namespace Sources

variable {κ α : Type}

/-- The document in a file, which its ending tells how to read. -/
def readDocument (readers : Readers κ α) (path content : Text) : Except SettingsError (Object α) :=
  let ending := FileTree.ending path
  let content := Text.unifyNewlines content
  if ending = ".json".toList then ((Json.read content).map .value).mapError .json
  else if ending = ".yaml".toList ∨ ending = ".yml".toList then
    (readers.yaml (FileTree.shownPath path) content).mapError .reader
  else .error (.unsupported (FileTree.shownPath path))

/-- The variables of the environment, each once. -/
def environ (sources : Sources α) : List (Text × Text) := Assoc.ofPairs sources.environment

/-- The variables of the file of variables, if there is one. -/
def fileVariables (readers : Readers κ α) (sources : Sources α) :
    Except SettingsError (List (Text × Option Text)) :=
  match sources.tree.read? sources.variableFile with
  | some content => (readers.bindings sources.environ (Text.unifyNewlines content)).mapError .reader
  | none => .ok []

/-- The variables of the environment as rows like those of a file. -/
def environmentVariables (sources : Sources α) : List (Text × Option Text) :=
  sources.environ.map fun (key, value) => (key, some value)

variable [DecidableEq κ]

/-- The settings with the file at a path merged in. An empty document has no effect. -/
def mergeFile (readers : Readers κ α) (tree : FileTree) (settings : Settings κ α) (path : Text) :
    Except SettingsError (Settings κ α) :=
  match tree.read? path with
  | none => .error (.directory (FileTree.shownPath path))
  | some content =>
    match readDocument readers path content with
    | .error e => .error e
    | .ok document =>
      match readers.look document with
      | .none => .ok settings
      | _ => settings.merge readers (FileTree.shownPath path) document

/-- The settings with the files that match a pattern merged in. There has to be one. -/
def mergePattern (readers : Readers κ α) (tree : FileTree) (settings : Settings κ α) (pattern : Text) :
    Except SettingsError (Settings κ α) :=
  match tree.glob pattern with
  | [] => .error (.noFile pattern)
  | paths => paths.foldlM (mergeFile readers tree) settings

/-- The settings with variables merged in. -/
def mergeAll (lead : Text) (settings : Settings κ α) (bindings : List (Text × Option Text)) :
    Except SettingsError (Settings κ α) :=
  match settings.mergeVariables lead bindings with
  | (settings, none) => .ok settings
  | (_, some e) => .error e

/-- The settings of all sources together. -/
def load (readers : Readers κ α) (sources : Sources α) : Except SettingsError (Settings κ α) := do
  let settings ← sources.patterns.foldlM (mergePattern readers sources.tree) []
  let bindings ← sources.fileVariables readers
  let settings ← mergeAll sources.lead settings bindings
  let settings ← mergeAll sources.lead settings sources.environmentVariables
  if (readers.look sources.overrides).isFalsy then return settings
  else settings.merge readers "overrides".toList sources.overrides

/-- The names of global parameters that the sources give. -/
def names (readers : Readers κ α) (sources : Sources α) : Except SettingsError (List Text) := do
  let settings ← sources.load readers
  settings.names readers

end Sources

end TypedRoutes
