import TypedRoutes.Settings.Tree

/-!
# Path patterns

A path may be a pattern for several: `*` stands for any row of characters, `?` for any character, and a class in
brackets for any character in it, or out of it when it starts with `!`. Each name of a path is matched on its own,
and a name that starts with a dot has to be matched by a dot.

`FileTree.glob` lists the paths that match, in the order of their characters.
-/

namespace TypedRoutes

set_option autoImplicit false

/-- A part of a pattern for names. -/
inductive NamePart where
  | char (c : Char)
  | one
  | several
  | oneOf (negated : Bool) (ranges : List (Char × Char))
  deriving DecidableEq, Repr

namespace NamePart

/-- The ranges of a class: two characters with a dash between them, or a character by itself. -/
def classRanges : Text → List (Char × Char)
  | [] => []
  | [a] => [(a, a)]
  | [a, b] => [(a, a), (b, b)]
  | a :: b :: c :: rest =>
    if b = '-' then (a, c) :: classRanges rest else (a, a) :: classRanges (b :: c :: rest)

/-- A class after its opening bracket. A closing bracket at its start belongs to it. -/
def readClass? (t : Text) : Option (NamePart × Text) :=
  let negated := t.head? == some '!'
  let t := if negated then t.drop 1 else t
  let first := if t.head? = some ']' then [']'] else []
  (Text.cut? ']' (t.drop first.length)).map fun (body, rest) =>
    (oneOf negated (classRanges (first ++ body)), rest)

/-- The parts of a pattern. The number bounds how many there are. -/
def readFrom : Nat → Text → List NamePart
  | 0, _ => []
  | _ + 1, [] => []
  | bound + 1, c :: rest =>
    if c = '*' then several :: readFrom bound rest
    else if c = '?' then one :: readFrom bound rest
    else if c = '[' then
      match readClass? rest with
      | some (part, rest) => part :: readFrom bound rest
      | none => char c :: readFrom bound rest
    else char c :: readFrom bound rest

/-- The parts of a pattern; a bracket that nothing closes stands for itself. -/
def ofText (t : Text) : List NamePart := readFrom t.length t

/-- Whether a test holds for some end of a text. -/
def anyEnd (test : Text → Bool) : Text → Bool
  | [] => test []
  | c :: rest => test (c :: rest) || anyEnd test rest

/-- Whether a character is of a class. -/
def inClass (negated : Bool) (ranges : List (Char × Char)) (c : Char) : Bool :=
  negated != ranges.any fun (first, last) => decide (first ≤ c) && decide (c ≤ last)

/-- Whether a name matches the parts of a pattern. -/
def allMatch : List NamePart → Text → Bool
  | [], t => t.isEmpty
  | several :: parts, t => anyEnd (allMatch parts) t
  | _ :: _, [] => false
  | char d :: parts, c :: rest => c == d && allMatch parts rest
  | one :: parts, _ :: rest => allMatch parts rest
  | oneOf negated ranges :: parts, c :: rest => inClass negated ranges c && allMatch parts rest

end NamePart

namespace FileTree

/-- Whether a text is a pattern. -/
def isPattern (t : Text) : Bool := t.any "*?[".toList.contains

/-- Whether a name is hidden. -/
def isHidden (name : Text) : Bool := name.head? == some '.'

/-- A path without the slashes at its end, unless it has nothing else. -/
def dropSlashes (path : Text) : Text :=
  if path.all (· == '/') then path else (path.reverse.dropWhile (· == '/')).reverse

/-- The directory and the last name of a path. -/
def splitLast (path : Text) : Text × Text :=
  let name := (path.reverse.takeWhile (· != '/')).reverse
  (dropSlashes (path.take (path.length - name.length)), name)

/-- The path of a name in a directory. -/
def joined (directory name : Text) : Text :=
  if directory.isEmpty ∨ directory.getLast? = some '/' then directory ++ name else directory ++ '/' :: name

/-- The names in a directory that match a pattern. -/
def matchingNames (tree : FileTree) (directoriesOnly : Bool) (directory pattern : Text) : List Text :=
  match if directory.isEmpty then some [] else tree.find? directory with
  | none => []
  | some way =>
    (tree.names way).filter fun name =>
      (isHidden pattern || !isHidden name) && (!directoriesOnly || tree.isDirectory (way ++ [name]))
        && NamePart.allMatch (NamePart.ofText pattern) name

/-- The path of a name in a directory, when it is there; without a name, that of the directory. -/
def namedPath (tree : FileTree) (directory name : Text) : List Text :=
  let path := joined directory name
  if if name.isEmpty then tree.hasDirectory directory else tree.hasPath path then [path] else []

/-- The paths that match a pattern. The number bounds how many names it has. -/
def matchingPaths (tree : FileTree) : Nat → Bool → Text → List Text
  | 0, _, _ => []
  | bound + 1, directoriesOnly, pattern =>
    let (directory, name) := splitLast pattern
    if !isPattern pattern then
      if if name.isEmpty then tree.hasDirectory directory else tree.hasPath pattern then [pattern] else []
    else
      let directories := if isPattern directory then tree.matchingPaths bound true directory else [directory]
      directories.flatMap fun directory =>
        if isPattern name then
          (tree.matchingNames directoriesOnly directory name).map (joined directory)
        else tree.namedPath directory name

/-- The paths that match a pattern, in order. -/
def glob (tree : FileTree) (pattern : Text) : List Text :=
  (tree.matchingPaths (pattern.length + 1) false pattern).mergeSort fun a b => !List.lex b a (fun c d => decide (c < d))

end FileTree

end TypedRoutes
