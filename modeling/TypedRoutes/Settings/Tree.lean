import TypedRoutes.Assoc
import TypedRoutes.Text.Pieces

/-!
# File trees

The files that configuration is read from, by their paths. A directory is there when a file lies below it. Paths
are looked up from the root of the tree; an absolute path, or one that leaves the tree, leads nowhere.
-/

namespace TypedRoutes

set_option autoImplicit false

/-- Files by the names on the way to them. -/
structure FileTree where
  files : List (List Text × Text) := []
  deriving Repr

namespace FileTree

/-- The name of the directory that a path is looked up from. -/
def here : Text := ['.']

/-- The name of the directory above. -/
def above : Text := ['.', '.']

/-- The names on the way along a path, without those that stay in place. -/
def steps (path : Text) : List Text := (Text.splitOn '/' path).filter fun name => !name.isEmpty && name != here

/-- The tree of files with the given paths. -/
def ofFiles (files : List (Text × Text)) : FileTree where
  files := files.map fun (path, content) => (steps path, content)

/-- The content of a file. -/
def content? (tree : FileTree) (way : List Text) : Option Text :=
  (tree.files.reverse.find? (·.1 == way)).map Prod.snd

/-- Whether there is a directory. -/
def isDirectory (tree : FileTree) (way : List Text) : Bool :=
  way.isEmpty || tree.files.any fun (file, _) => way.isPrefixOf file && way.length < file.length

/-- The names in a directory. -/
def names (tree : FileTree) (way : List Text) : List Text :=
  (tree.files.filterMap fun (file, _) => if way.isPrefixOf file then file[way.length]? else none).eraseDups

/-- The way that names lead along from a directory. -/
def walk? (tree : FileTree) (way : List Text) : List Text → Option (List Text)
  | [] => some way
  | name :: names =>
    if !tree.isDirectory way then none
    else if name.isEmpty || name == here then tree.walk? way names
    else if name = above then (if way.isEmpty then none else tree.walk? way.dropLast names)
    else
      let next := way ++ [name]
      if tree.isDirectory next || (tree.content? next).isSome then tree.walk? next names else none

/-- The way to a file or directory. -/
def find? (tree : FileTree) (path : Text) : Option (List Text) :=
  if path.isEmpty ∨ path.head? = some '/' then none else tree.walk? [] (Text.splitOn '/' path)

/-- Whether a path leads to a file or directory. -/
def hasPath (tree : FileTree) (path : Text) : Bool := (tree.find? path).isSome

/-- Whether a path leads to a directory. -/
def hasDirectory (tree : FileTree) (path : Text) : Bool := (tree.find? path).any tree.isDirectory

/-- The content of the file that a path leads to. -/
def read? (tree : FileTree) (path : Text) : Option Text := (tree.find? path).bind tree.content?

/-- A path as messages show it. -/
def shownPath (path : Text) : Text :=
  let names := Text.join ['/'] (steps path)
  if path.head? = some '/' then '/' :: names
  else if names.isEmpty then here
  else names

/-- The ending of the last name of a path, with its dot. A name that only starts or ends with a dot has none. -/
def ending (path : Text) : Text :=
  match Text.cutLast? '.' ((steps path).getLast?.getD []) with
  | some (before, after) => if before.isEmpty ∨ after.isEmpty then [] else '.' :: after
  | none => []

end FileTree

end TypedRoutes
