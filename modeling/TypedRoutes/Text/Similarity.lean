import TypedRoutes.Text.Ranges

/-!
# Similar words

The likeness of two words is the share of their characters that lie in matching blocks. The longest common block
is matched first, of several the leftmost, and the rests on either side of it are matched in the same way.
`closest` picks the candidates most like a word.
-/

namespace TypedRoutes.Text

set_option autoImplicit false

/-- A common block of two texts: where it starts in each, and its length. -/
structure Block where
  left : Nat
  right : Nat
  size : Nat
  deriving DecidableEq, Repr

/-- A character so frequent in a long word that no block grows from it. -/
def isFiller (word : Text) (c : Char) : Bool :=
  decide (200 ≤ word.length) && decide (word.length / 100 + 1 < word.count c)

/-- The lengths of the common runs that end at character `a` of the left text and at each place of the right one,
from the lengths for the character before. -/
def runs (filler : Char → Bool) (a : Char) (b : Text) (before : List Nat) : List Nat :=
  List.zipWith (fun c run => if c == a && !filler c then run + 1 else 0) b (0 :: before)

/-- The better of a block and the runs that end at one place of the left text. -/
def improve (place : Nat) (best : Block) (lengths : List Nat) : Block :=
  (lengths.zipIdx).foldl
    (fun best (run, j) => if best.size < run then ⟨place + 1 - run, j + 1 - run, run⟩ else best) best

/-- The first of the longest common blocks without fillers. -/
def seed (filler : Char → Bool) (a b : Text) : Block :=
  ((a.zipIdx).foldl
    (fun (lengths, best) (c, i) =>
      let lengths := runs filler c b lengths
      (lengths, improve i best lengths))
    (List.replicate b.length 0, ⟨0, 0, 0⟩)).2

/-- The number of characters at which two texts agree from their start on. -/
def agreement : Text → Text → Nat
  | c :: a, d :: b => if c = d then agreement a b + 1 else 0
  | _, _ => 0

/-- The longest common block, stretched over fillers on both sides. -/
def longestBlock (filler : Char → Bool) (a b : Text) : Block :=
  let core := seed filler a b
  let left := agreement (a.take core.left).reverse (b.take core.right).reverse
  let right := agreement (a.drop (core.left + core.size)) (b.drop (core.right + core.size))
  ⟨core.left - left, core.right - left, left + core.size + right⟩

/-- The number of characters in matching blocks; every block shortens the left text, so that its length is fuel
enough. -/
def matchedFrom (filler : Char → Bool) : Nat → Text → Text → Nat
  | 0, _, _ => 0
  | fuel + 1, a, b =>
    let block := longestBlock filler a b
    if block.size = 0 then 0
    else block.size + matchedFrom filler fuel (a.take block.left) (b.take block.right)
      + matchedFrom filler fuel (a.drop (block.left + block.size)) (b.drop (block.right + block.size))

/-- The number of characters of a candidate that a word matches. -/
def matched (word candidate : Text) : Nat := matchedFrom (isFiller word) candidate.length candidate word

/-- A candidate with its likeness to a word, the quotient `matched / total`. -/
structure Scored where
  candidate : Text
  matched : Nat
  total : Nat

/-- The likeness of a candidate to a word; two empty words are alike. -/
def score (word candidate : Text) : Scored :=
  let total := candidate.length + word.length
  if total = 0 then ⟨candidate, 1, 2⟩ else ⟨candidate, matched word candidate, total⟩

/-- Alike enough to be worth a suggestion: at least six tenths of the characters match. -/
def Scored.isClose (s : Scored) : Bool := decide (3 * s.total ≤ 10 * s.matched)

/-- Whether the first candidate goes before the second: the more alike first, then the larger text. -/
def Scored.before (s t : Scored) : Bool :=
  decide (t.matched * s.total < s.matched * t.total) ||
    (s.matched * t.total == t.matched * s.total && !decide (s.candidate < t.candidate))

/-- At most three candidates close to a word, best first. -/
def closest (word : Text) (candidates : List Text) : List Text :=
  let close := (candidates.map (score word)).filter Scored.isClose
  ((close.mergeSort Scored.before).take 3).map Scored.candidate

end TypedRoutes.Text
