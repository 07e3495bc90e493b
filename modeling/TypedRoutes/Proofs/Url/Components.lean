import TypedRoutes.Matching
import TypedRoutes.Proofs.Text.Percent
import TypedRoutes.Proofs.Url.Parsing

/-!
# Paths, queries and fragments in URLs

The texts that may stand for the path, the query and the fragment of a URL (`PathAbsolute`, `Composed`) are read back
from it: the query and the fragment as they are, and the path decoded, up to the first `;` of its last segment
(`parse_pathAbsolute`). What stands behind that is lost, so the path that matching sees is the whole one exactly when
the last segment has no `;`.
-/

namespace TypedRoutes.Url

set_option autoImplicit false

/-! ## Grammar -/

def isUnreserved (c : Char) : Bool := c.isAlphanum || ['-', '.', '_', '~'].contains c

def isSubDelim (c : Char) : Bool := ['!', '$', '&', '\'', '(', ')', '*', '+', ',', ';', '='].contains c

/-- A character that may stand in a segment of a path. -/
def isSegmentChar (c : Char) : Bool := isUnreserved c || isSubDelim c || c == ':' || c == '@'

def isPathChar (c : Char) : Bool := isSegmentChar c || c == '/'

/-- A character that may stand in a query and in a fragment. -/
def isQueryChar (c : Char) : Bool := isPathChar c || c == '?'

/-- A text of allowed characters and of escapes. -/
inductive Composed (allowed : Char → Bool) : Text → Prop where
  | nil : Composed allowed []
  | char {c : Char} {t : Text} (may : allowed c = true) (rest : Composed allowed t) : Composed allowed (c :: t)
  | escape {a b : Char} {n : Nat} {t : Text} (octet : Text.hexOctet? a b = some n) (rest : Composed allowed t) :
      Composed allowed ('%' :: a :: b :: t)

/-- An absolute path without an authority before it. -/
structure PathAbsolute (path : Text) : Prop where
  head : path.head? = some '/'
  single : path.tail.head? ≠ some '/'
  composed : Composed isPathChar path

variable {t path query fragment : Text}

/-- A composed text has no character that is not allowed, unless it belongs to an escape. -/
theorem Composed.notMem {allowed : Char → Bool} {c : Char} (h : Composed allowed t) (dropped : allowed c = false)
    (percent : c ≠ '%') (digit : Text.hexValue? c = none) : c ∉ t := by
  induction h with
  | nil => exact List.not_mem_nil
  | @char d _ may _ ih =>
    have other : c ≠ d := by
      rintro rfl
      simp [dropped] at may
    exact fun hc => (List.mem_cons.1 hc).elim other ih
  | @escape a b n _ octet _ ih =>
    have high : c ≠ a := by
      rintro rfl
      simp [Text.hexOctet?_eq_none (.inl digit)] at octet
    have low : c ≠ b := by
      rintro rfl
      simp [Text.hexOctet?_eq_none (.inr digit)] at octet
    simp only [List.mem_cons, not_or]
    exact ⟨percent, high, low, ih⟩

theorem Composed.mono {allowed allowed' : Char → Bool} (h : Composed allowed t)
    (weaker : ∀ c, allowed c = true → allowed' c = true) : Composed allowed' t := by
  induction h with
  | nil => exact .nil
  | char may _ ih => exact .char (weaker _ may) ih
  | escape octet _ ih => exact .escape octet ih

theorem Composed.append {allowed : Char → Bool} {u : Text} (h : Composed allowed t) (h' : Composed allowed u) :
    Composed allowed (t ++ u) := by
  induction h with
  | nil => exact h'
  | char may _ ih => exact .char may ih
  | escape octet _ ih => exact .escape octet ih

theorem composed_of_all {allowed : Char → Bool} (h : t.all allowed = true) : Composed allowed t := by
  induction t with
  | nil => exact .nil
  | cons c t ih =>
    rw [List.all_cons, Bool.and_eq_true] at h
    exact .char h.1 (ih h.2)

/-! ## Reading -/

section Reading

variable (absolute : PathAbsolute path) (hq : Composed isQueryChar query) (hf : Composed isQueryChar fragment)
include absolute hq hf

theorem rooted_of_pathAbsolute : Rooted (path ++ '?' :: query ++ '#' :: fragment) := by
  have whole : Composed (fun c => isQueryChar c || c == '#') (path ++ '?' :: query ++ '#' :: fragment) := by
    have wide : ∀ c, isQueryChar c = true → (isQueryChar c || c == '#') = true := fun c hc => by simp [hc]
    have inPath := absolute.composed.mono fun c hc => wide c (show isQueryChar c = true by simp [isQueryChar, hc])
    exact (inPath.append (.char rfl (hq.mono wide))).append (.char rfl (hf.mono wide))
  obtain ⟨rest, rfl⟩ := List.head?_eq_some_iff.1 absolute.head
  refine ⟨rfl, ?_, ?_⟩
  · cases rest with
    | nil => simp
    | cons c rest => simpa using absolute.single
  · intro c hc
    refine ⟨?_, ?_, ?_⟩ <;> rintro rfl <;> exact whole.notMem (by decide) (by decide) (by decide) hc

/-- The path, the query and the fragment are told apart, and only the last segment of the path loses its parameters. -/
theorem parse_append {before last : Text} (cut : path = before ++ '/' :: last) (plain : '/' ∉ last) :
    parse (path ++ '?' :: query ++ '#' :: fragment) =
      .ok { path := Text.percentDecode (before ++ '/' :: Text.upTo ';' last), query, fragment } := by
  have mark : '?' ∉ path := absolute.composed.notMem (by decide) (by decide) (by decide)
  have hash : '#' ∉ path ++ '?' :: query := by
    have inPath : '#' ∉ path := absolute.composed.notMem (by decide) (by decide) (by decide)
    have inQuery : '#' ∉ query := hq.notMem (by decide) (by decide) (by decide)
    simp [inPath, inQuery]
  have kept : dropParams path = before ++ '/' :: Text.upTo ';' last := by rw [cut, dropParams_append_cons plain]
  have filled : (Text.percentDecode (before ++ '/' :: Text.upTo ';' last)).isEmpty = false := by
    rw [Text.percentDecode_append_cons (by decide) (by decide)]
    simp
  rw [parse_rooted (rooted_of_pathAbsolute absolute hq hf), splitAt_append_cons hash, splitAt_append_cons mark, kept,
    filled]
  rfl

end Reading

/-- What is lost behind a semicolon is decoded on its own, since the sign is no part of an escape. -/
theorem percentDecode_params {before kept : Text} (lost : Text) :
    Text.percentDecode (before ++ '/' :: (kept ++ ';' :: lost)) =
      Text.percentDecode (before ++ '/' :: kept) ++ ';' :: Text.percentDecode lost := by
  rw [← List.cons_append, ← List.append_assoc, Text.percentDecode_append_cons (by decide) (by decide)]

/-- A path that is longer by a semicolon is told apart, also without a slash at its end. -/
theorem withoutFinalSlash_ne_append_cons (path lost : Text) :
    Text.withoutFinalSlash path ≠ Text.withoutFinalSlash (path ++ ';' :: lost) := by
  intro same
  obtain ⟨dropped, whole⟩ := Text.isPrefix_withoutFinalSlash path
  rw [same] at whole
  -- the longer path loses a slash at most, and would have to lose the semicolon
  have sign : ';' ∉ ['/'] := by decide
  rcases Text.withoutFinalSlash_eq_or (path ++ ';' :: lost) with all | all
  · rw [all] at whole
    have length := congrArg List.length whole
    simp only [List.length_append, List.length_cons] at length
    omega
  · generalize Text.withoutFinalSlash (path ++ ';' :: lost) = short at all whole
    rw [← whole, List.append_assoc] at all
    have tail : ['/'] = dropped ++ ';' :: lost := List.append_cancel_left all
    exact sign (tail ▸ by simp)

/-- **Reading a path, a query and a fragment.** The query and the fragment are read as they stand. The path is read
decoded and without what the first `;` of its last segment begins. Therefore the path that is read, and the one that
matching sees, are the whole path exactly when its last segment has no `;`. -/
theorem parse_pathAbsolute (absolute : PathAbsolute path) (hq : Composed isQueryChar query)
    (hf : Composed isQueryChar fragment) :
    ∃ before last url, path = before ++ '/' :: last ∧ '/' ∉ last ∧
      parse (path ++ '?' :: query ++ '#' :: fragment) = .ok url ∧ url.query = query ∧ url.fragment = fragment ∧
      (∀ kept lost, last = kept ++ ';' :: lost → ';' ∉ kept →
        Text.percentDecode path = url.path ++ ';' :: Text.percentDecode lost) ∧
      (url.path = Text.percentDecode path ↔ ';' ∉ last) ∧
      ((Subject.ofUrl url).path = Text.withoutFinalSlash (Text.percentDecode path) ↔ ';' ∉ last) := by
  have slash : '/' ∈ path := by
    obtain ⟨rest, rfl⟩ := List.head?_eq_some_iff.1 absolute.head
    exact List.mem_cons_self ..
  obtain ⟨before, last, cut, plain⟩ := Text.exists_eq_append_last slash
  have loses : ∀ kept lost, last = kept ++ ';' :: lost → ';' ∉ kept →
      Text.percentDecode path =
        Text.percentDecode (before ++ '/' :: Text.upTo ';' last) ++ ';' :: Text.percentDecode lost := by
    rintro kept lost rfl whole
    rw [cut, percentDecode_params, Text.upTo_append_cons whole]
  refine ⟨before, last, _, cut, plain, parse_append absolute hq hf cut plain, rfl, rfl, loses, ?_⟩
  by_cases params : ';' ∈ last
  · obtain ⟨kept, lost, split, whole⟩ := List.eq_append_cons_of_mem params
    rw [loses kept lost split whole]
    constructor
    · exact iff_of_false (by simp) (not_not_intro params)
    · exact iff_of_false (withoutFinalSlash_ne_append_cons _ _) (not_not_intro params)
  · have all : Text.percentDecode (before ++ '/' :: Text.upTo ';' last) = Text.percentDecode path := by
      rw [cut, Text.upTo_of_notMem params]
    constructor
    · exact iff_of_true all params
    · exact iff_of_true (congrArg Text.withoutFinalSlash all) params

/-- Semicolons before the last segment, and escaped ones in it, are kept. -/
theorem parse_pathAbsolute_feed :
    let path := "/a;b/c%3b:@".toList
    let query := "q=1/?%26;".toList
    let fragment := "top;?".toList
    PathAbsolute path ∧ Composed isQueryChar query ∧ Composed isQueryChar fragment ∧
      ∃ url, parse (path ++ '?' :: query ++ '#' :: fragment) = .ok url ∧ url.path = "/a;b/c;:@".toList ∧
        url.query = query ∧ url.fragment = fragment := by
  intro path query fragment
  have absolute : PathAbsolute path := by
    refine ⟨rfl, by decide, ?_⟩
    have front : Composed isPathChar "/a;b/c".toList := composed_of_all (by decide)
    have back : Composed isPathChar ":@".toList := composed_of_all (by decide)
    exact front.append (.escape rfl back)
  have hq : Composed isQueryChar query := by
    have front : Composed isQueryChar "q=1/?".toList := composed_of_all (by decide)
    exact front.append (.escape rfl (.char rfl .nil))
  have hf : Composed isQueryChar fragment := composed_of_all (by decide)
  obtain ⟨before, last, url, cut, plain, read, sameQuery, sameFragment, -, whole, -⟩ :=
    parse_pathAbsolute absolute hq hf
  have found : Text.cutLast? '/' path = some (before, last) := cut ▸ Text.cutLast?_append_cons plain before
  have parts : Text.cutLast? '/' path = some ("/a;b".toList, "c%3b:@".toList) := by decide
  rw [parts] at found
  cases found
  have decoded : Text.percentDecode path = "/a;b/c;:@".toList := by decide
  exact ⟨absolute, hq, hf, url, read, decoded ▸ whole.2 (by decide), sameQuery, sameFragment⟩

/-- The path `/a;b` is read as `/a`. -/
theorem parse_pathAbsolute_params :
    let path := "/a;b".toList
    let query := "q".toList
    let fragment := "f".toList
    PathAbsolute path ∧ Composed isQueryChar query ∧ Composed isQueryChar fragment ∧
      parse (path ++ '?' :: query ++ '#' :: fragment) = .ok { path := "/a".toList, query, fragment } ∧
      Text.percentDecode path = path := by
  intro path query fragment
  have absolute : PathAbsolute path := ⟨rfl, by decide, composed_of_all (by decide)⟩
  have hq : Composed isQueryChar query := composed_of_all (by decide)
  have hf : Composed isQueryChar fragment := composed_of_all (by decide)
  exact ⟨absolute, hq, hf, by decide, by decide⟩

end TypedRoutes.Url
