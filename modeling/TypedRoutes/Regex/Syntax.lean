import TypedRoutes.Text.Case
import TypedRoutes.Text.Class

/-!
# Regular expressions

The syntax tree of a regular expression. What flags mean is settled when the tree is built: a set of characters
knows whether it heeds case, a dot is the set of what it matches, and the two kinds of line anchors are told
apart. `Regex.width` bounds the length of what an expression matches.
-/

namespace TypedRoutes

set_option autoImplicit false

namespace Regex

/-- The classes of characters that have a name of their own. -/
inductive Category where
  | digit
  | space
  | word
  deriving DecidableEq, Repr

/-- Membership in a class, of ASCII characters only or of all. -/
def Category.has (asciiOnly : Bool) (category : Category) (c : Char) : Bool :=
  (!asciiOnly || decide (c.toNat < 128 ∧ ¬ (28 ≤ c.toNat ∧ c.toNat ≤ 31))) &&
    match category with
    | digit => Text.isDigit c
    | space => Text.isBlank c
    | word => Text.isWord c

/-- How a set of characters treats case. -/
inductive Folding where
  | exact
  | ascii
  | unicode
  deriving DecidableEq, Repr

/-- A code point with its case set aside. -/
def Folding.fold : Folding → Nat → Nat
  | exact, n => n
  | ascii, n => if 65 ≤ n ∧ n ≤ 90 then n + 32 else n
  | unicode, n => Text.lowerCode n

/-- What a set of characters is made of. -/
inductive SetItem where
  | code (n : Nat)
  | range (first last : Nat)
  | category (kind : Category) (negated asciiOnly : Bool)
  deriving DecidableEq, Repr

/-- The code points that differ from one in case only, the code point included. -/
def Folding.variants : Folding → Nat → List Nat
  | exact, n => [n]
  | ascii, n =>
    let n := ascii.fold n
    if 97 ≤ n ∧ n ≤ 122 then [n, n - 32] else [n]
  | unicode, n => (Text.caseFamily (Text.lowerCode n)).flatMap fun n => n :: Text.capitals n

/-- The set item has a character once the case of both is set aside. -/
def SetItem.hasFolded (folding : Folding) (c : Char) (item : SetItem) : Bool :=
  match folding, item with
  | .unicode, code n => (Text.caseFamily (Text.lowerCode c.toNat)).contains n
  | folding, code n => folding.fold c.toNat == n
  | folding, range first last =>
    (folding.variants c.toNat).any fun n => decide (first ≤ n) && decide (n ≤ last)
  | _, category kind negated asciiOnly => kind.has asciiOnly c != negated

/-- A set of characters, given by what is in it or by what is not. -/
structure CharSet where
  negated : Bool := false
  items : List SetItem
  folding : Folding := .exact
  deriving DecidableEq, Repr

/-- Membership in a set of characters. -/
def CharSet.has (set : CharSet) (c : Char) : Bool :=
  set.items.any (SetItem.hasFolded set.folding c) != set.negated

/-- A condition on a place in the subject that consumes nothing. -/
inductive Anchor where
  | subjectStart
  | lineStart
  | subjectEnd
  | lineEnd
  | lastLineEnd
  | wordEdge (asciiOnly : Bool)
  | noWordEdge (asciiOnly : Bool)
  deriving DecidableEq, Repr

/-- How a repetition chooses its number of rounds: as many as possible, as few as possible, or as many as possible
without ever giving one back. -/
inductive Greed where
  | greedy
  | lazy
  | possessive
  deriving DecidableEq, Repr

end Regex

/-- A regular expression. Groups are numbered from one. A `look` is ahead when it has no width, and otherwise
behind by that many characters. -/
inductive Regex where
  | empty
  | set (chars : Regex.CharSet)
  | anchor (a : Regex.Anchor)
  | cat (r s : Regex)
  | alt (r s : Regex)
  | group (index : Nat) (r : Regex)
  | repeated (greed : Regex.Greed) (min : Nat) (max : Option Nat) (r : Regex)
  | backreference (index : Nat) (folding : Regex.Folding)
  | look (behind : Option Nat) (negated : Bool) (r : Regex)
  | atomic (r : Regex)
  | conditional (index : Nat) (yes no : Regex)
  deriving DecidableEq, Repr, Inhabited

namespace Regex

/-- The expression that matches one character, case heeded. -/
def single (c : Char) : Regex := .set { items := [.code c.toNat] }

/-- Expressions in a row. -/
def sequence : List Regex → Regex
  | [] => empty
  | [r] => r
  | r :: rest => cat r (sequence rest)

/-- Expressions to choose from, earlier ones first. -/
def choice : List Regex → Regex
  | [] => empty
  | [r] => r
  | r :: rest => alt r (choice rest)

/-- The width that stands for every larger one. -/
def widthLimit : Nat := 4294967295

/-- A range of widths, cut at the limit. -/
def capWidth (w : Nat × Nat) : Nat × Nat := (min w.1 (widthLimit - 1), min w.2 widthLimit)

/-- The least and the greatest length of what an expression matches, given those of the groups. -/
def width (groups : Nat → Nat × Nat) : Regex → Nat × Nat
  | empty | anchor _ | look _ _ _ => (0, 0)
  | set _ => (1, 1)
  | cat r s => capWidth ((width groups r).1 + (width groups s).1, (width groups r).2 + (width groups s).2)
  | alt r s => (min (width groups r).1 (width groups s).1, max (width groups r).2 (width groups s).2)
  | group _ r | atomic r => width groups r
  | repeated _ least most r =>
    capWidth ((width groups r).1 * least, (width groups r).2 * most.getD widthLimit)
  | backreference i _ => groups i
  | conditional _ yes no =>
    (min (width groups yes).1 (width groups no).1, max (width groups yes).2 (width groups no).2)

/-- The number of groups of an expression. -/
def groupCount : Regex → Nat
  | empty | set _ | anchor _ | backreference _ _ => 0
  | cat r s | alt r s | conditional _ r s => groupCount r + groupCount s
  | group _ r => groupCount r + 1
  | repeated _ _ _ r | look _ _ r | atomic r => groupCount r

end Regex

end TypedRoutes
