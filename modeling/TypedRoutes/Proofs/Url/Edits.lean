import Mathlib.Logic.Relation
import TypedRoutes.Proofs.RouteTable.Globals
import TypedRoutes.Proofs.Url.Items

/-!
# What a match does not look at

A pattern reads the path of a URL up to a final slash, and of the query the last value for each of its names. Editing the
items of a query so that the values for these names stay as they are, and in their order, therefore leaves the outcome of a
match as it is (`matchPattern_of_edits`): items that the pattern does not read may come and go (`Unread`), and items for
different keys may change places as long as none of those between them is for one of the two keys (`Edit`).
-/

namespace TypedRoutes

set_option autoImplicit false

namespace Query

/-! ## The values for a key -/

/-- The values that a row of items has for a key, in order. -/
def values (key : Text) (items : List Text) : List Text :=
  ((items.filterMap item?).filter (·.1 = key)).map Prod.snd

/-- The value for a key is the last one that the items carry for it. -/
theorem get?_parse_eq_getLast? (key query : Text) :
    Assoc.get? key (parse query) = (values key (Text.splitOn '&' query)).getLast? := by
  rw [get?_parse, lastValue?, pairs, values, List.getLast?_map]

theorem values_append (key : Text) (items more : List Text) :
    values key (items ++ more) = values key items ++ values key more := by
  rw [values, List.filterMap_append, List.filter_append, List.map_append, ← values, ← values]

theorem values_cons (key item : Text) (items : List Text) :
    values key (item :: items) = values key [item] ++ values key items :=
  values_append key [item] items

/-- Items that carry no value for a key leave it without one. -/
theorem values_eq_nil_iff {key : Text} {items : List Text} :
    values key items = [] ↔ ∀ item ∈ items, ∀ v, ¬ Carries item key v := by
  rw [values, List.map_eq_nil_iff, List.filter_eq_nil_iff]
  simp only [List.mem_filterMap, decide_eq_true_eq]
  constructor
  · intro other item member v carries
    exact other (key, v) ⟨item, member, item?_eq_some_iff.2 carries⟩ rfl
  · rintro absent ⟨k, v⟩ ⟨item, member, read⟩ rfl
    exact absent item member v (item?_eq_some_iff.1 read)

/-! ## Edits -/

/-- Two items carry values for different keys, if they carry any. -/
def Apart (item other : Text) : Prop := ∀ key v w, Carries item key v → ¬ Carries other key w

/-- An item that is not read for the names: it has no equals sign, or its key is another one. -/
inductive Unread (names : List Text) (item : Text) : Prop where
  | bare (keyless : '=' ∉ item)
  | foreign {key value : Text} (carries : Carries item key value) (other : key ∉ names)

/-- An edit of a row of items. An exchange carries each of the two items past all that stands between them. -/
inductive Edit (names : List Text) : List Text → List Text → Prop where
  | exchange (before middle after : List Text) {first second : Text} (apart : Apart first second)
      (clear : ∀ item ∈ middle, Apart first item ∧ Apart item second) :
      Edit names (before ++ first :: (middle ++ second :: after)) (before ++ second :: (middle ++ first :: after))
  | add (before after : List Text) {item : Text} (unread : Unread names item) :
      Edit names (before ++ after) (before ++ item :: after)
  | remove (before after : List Text) {item : Text} (unread : Unread names item) :
      Edit names (before ++ item :: after) (before ++ after)

variable {names : List Text}

theorem Carries.unique {item key value other w : Text} (h : Carries item key value) (h' : Carries item other w) :
    key = other ∧ value = w := by
  have same := (item?_eq_some_iff.2 h).symm.trans (item?_eq_some_iff.2 h')
  cases same
  exact ⟨rfl, rfl⟩

/-- An item that is not read carries no value for the names. -/
theorem Unread.values_eq {item : Text} (unread : Unread names item) {key : Text} (member : key ∈ names) :
    values key [item] = [] := by
  rw [values_eq_nil_iff]
  simp only [List.mem_singleton, forall_eq]
  cases unread with
  | bare keyless =>
    rintro v ⟨before, after, rfl, -⟩
    exact keyless (by simp)
  | foreign carries other =>
    intro v own
    exact other ((carries.unique own).1 ▸ member)

/-- Of two items that are apart, one at most has values for a key. -/
theorem Apart.values_eq {item other : Text} (apart : Apart item other) (key : Text) :
    values key [item] = [] ∨ values key [other] = [] := by
  simp only [values_eq_nil_iff, List.mem_singleton, forall_eq]
  by_cases carries : ∃ v, Carries item key v
  · obtain ⟨v, carries⟩ := carries
    exact .inr fun w => apart key v w carries
  · exact .inl (not_exists.1 carries)

/-- A row of items that are all apart from an item has no values for a key for which the item has one. -/
theorem values_eq_nil_or {item : Text} {items : List Text} (apart : ∀ other ∈ items, Apart item other) (key : Text) :
    values key [item] = [] ∨ values key items = [] := by
  induction items with
  | nil => exact .inr rfl
  | cons other rest ih =>
    rw [values_cons key other rest]
    rcases (apart other (List.mem_cons_self ..)).values_eq key with own | absent
    · exact .inl own
    · rw [absent]
      exact ih fun later hl => apart later (List.mem_cons_of_mem _ hl)

theorem apart_of_item? {item other : Text} {e f : Text × Text} (left : item? item = some e)
    (right : item? other = some f) (distinct : e.1 ≠ f.1) : Apart item other := by
  intro key v w carries own
  rw [item?_eq_some_iff.2 carries] at left
  rw [item?_eq_some_iff.2 own] at right
  cases left
  cases right
  exact distinct rfl

theorem Apart.symm {item other : Text} (apart : Apart item other) : Apart other item :=
  fun key v w carries own => apart key w v own carries

/-- One edit leaves the values for each of the names as they are. -/
theorem Edit.values_eq {items others : List Text} (edit : Edit names items others) {key : Text} (member : key ∈ names) :
    values key items = values key others := by
  cases edit with
  | add before after unread => rw [values_append, values_append, values_cons key _ after, unread.values_eq member,
      List.nil_append]
  | remove before after unread => rw [values_append, values_append, values_cons key _ after, unread.values_eq member,
      List.nil_append]
  | @exchange before middle after first second apart clear =>
    have row (a b : Text) : values key (before ++ a :: (middle ++ b :: after)) =
        values key before ++ (values key [a] ++ (values key middle ++ (values key [b] ++ values key after))) := by
      rw [values_append, values_cons key a (middle ++ b :: after), values_append, values_cons key b after]
    rw [row, row]
    have passed := values_eq_nil_or (fun item member => (clear item member).1) key
    have passed' := values_eq_nil_or (fun item member => (clear item member).2.symm) key
    -- at most one of the two items, and the row between them only when neither does, has values for the key
    rcases apart.values_eq key with none | none
    · rcases passed' with none' | none' <;> simp [none, none']
    · rcases passed with none' | none' <;> simp [none, none']

/-- A row of edits does, too. -/
theorem values_eq_of_edits {items others : List Text} (edits : Relation.ReflTransGen (Edit names) items others)
    {key : Text} (member : key ∈ names) : values key items = values key others := by
  induction edits with
  | refl => rfl
  | tail _ edit ih => exact ih.trans (edit.values_eq member)

/-- Queries that come from each other by edits of their items. -/
def Edits (names : List Text) (query other : Text) : Prop :=
  Relation.ReflTransGen (Edit names) (Text.splitOn '&' query) (Text.splitOn '&' other)

/-- Edits leave the values for the names as they are. -/
theorem Edits.get?_parse_eq {query other : Text} (edits : Edits names query other) {key : Text} (member : key ∈ names) :
    Assoc.get? key (parse query) = Assoc.get? key (parse other) := by
  rw [get?_parse_eq_getLast?, get?_parse_eq_getLast?, values_eq_of_edits edits member]

end Query

/-- Paths that are equal but for a slash at the end of one of them. -/
inductive Text.SlashAlike : Text → Text → Prop where
  | same (path : Text) : SlashAlike path path
  | added {path : Text} (filled : path ≠ []) (open_ : path.getLast? ≠ some '/') : SlashAlike path (path ++ ['/'])
  | dropped {path : Text} (filled : path ≠ []) (open_ : path.getLast? ≠ some '/') : SlashAlike (path ++ ['/']) path

/-- Paths that differ in a final slash are equal without it. -/
theorem Text.SlashAlike.withoutFinalSlash_eq {path other : Text} (alike : SlashAlike path other) :
    withoutFinalSlash path = withoutFinalSlash other := by
  cases alike with
  | same => rfl
  | added filled open_ => rw [withoutFinalSlash_append filled, withoutFinalSlash_of_getLast? open_]
  | dropped filled open_ => rw [withoutFinalSlash_append filled, withoutFinalSlash_of_getLast? open_]

namespace Subject

/-- **Only the path and the query values of a pattern's names matter.** For any pattern, the matches of two URLs have the
same outcome, be it a match, none or a failure, when the paths are equal but for a final slash and the queries come from each
other by edits: items that the pattern does not read are added or removed, and items for different keys change places,
with no item for one of these keys between them. Scheme, host and fragment may be any. -/
theorem matchPattern_of_edits {κ : Type} [Conversions κ] {pattern : Pattern κ} {url other : Url}
    (path : Text.SlashAlike url.path other.path)
    (query : Query.Edits (pattern.queryParams.map Param.name) url.query other.query) :
    (ofUrl url).matchPattern pattern = (ofUrl other).matchPattern pattern := by
  apply matchPattern_congr
  · exact path.withoutFinalSlash_eq
  · intro param member
    exact query.get?_parse_eq (List.mem_map_of_mem member)

attribute [local instance] CharacterNames.empty in
/-- An item passes another one, an item without a key is added, and so are a final slash, a host and a fragment. One of the
two items for `q` has its key spelled with an escape, and neither passes the other. -/
theorem matchPattern_of_edits_feed :
    letI : Conversions Empty := ⟨fun function _ => nomatch function⟩
    let url : Url := { path := "/feed/7".toList, query := "q=a&n=1&%71=b".toList }
    let other : Url := { path := "/feed/7/".toList, query := "n=1&flag&q=a&%71=b".toList, host := "h".toList,
                         fragment := "top".toList }
    ∃ pattern : Pattern Empty, Vocabulary.compile {} "/feed/:id{int}?:q&:n{int?}".toList = .ok pattern ∧
      Text.SlashAlike url.path other.path ∧
      Query.Edits (pattern.queryParams.map Param.name) url.query other.query ∧
      (ofUrl url).matchPattern pattern = (ofUrl other).matchPattern pattern ∧
      (ofUrl other).matchPattern pattern =
        .ok (some [("id".toList, .int 7), ("q".toList, .text "b".toList), ("n".toList, .int 1)]) := by
  intro url other
  let _ : Conversions Empty := ⟨fun function _ => nomatch function⟩
  obtain ⟨pattern, compiled⟩ : ∃ pattern : Pattern Empty,
    Vocabulary.compile {} "/feed/:id{int}?:q&:n{int?}".toList = .ok pattern := ⟨_, rfl⟩
  have path : Text.SlashAlike url.path other.path := .added nofun (by decide)
  have query : Query.Edits (pattern.queryParams.map Param.name) url.query other.query := by
    have apart : Query.Apart "q=a".toList "n=1".toList := Query.apart_of_item? rfl rfl (by decide)
    have exchanged : Query.Edit (pattern.queryParams.map Param.name) ["q=a".toList, "n=1".toList, "%71=b".toList]
        ["n=1".toList, "q=a".toList, "%71=b".toList] := .exchange [] [] ["%71=b".toList] apart (by simp)
    have flagged : Query.Edit (pattern.queryParams.map Param.name) ["n=1".toList, "q=a".toList, "%71=b".toList]
        ["n=1".toList, "flag".toList, "q=a".toList, "%71=b".toList] :=
      .add ["n=1".toList] ["q=a".toList, "%71=b".toList] (.bare (by decide))
    exact (Relation.ReflTransGen.single exchanged).tail flagged
  have same := matchPattern_of_edits path query
  have matched : (Vocabulary.compile ({} : Vocabulary Empty) "/feed/:id{int}?:q&:n{int?}".toList).map (ofUrl url).matchPattern =
    .ok (.ok (some [("id".toList, .int 7), ("q".toList, .text "b".toList), ("n".toList, .int 1)])) := by rfl
  rw [compiled] at matched
  exact ⟨pattern, compiled, path, query, same, same ▸ Except.ok.inj matched⟩

attribute [local instance] CharacterNames.empty in
/-- Items for different keys may not change places across an item for one of the keys: of the two values for `x` the other
one comes to be the last. -/
theorem matchPattern_of_exchange_across :
    letI : Conversions Empty := ⟨fun function _ => nomatch function⟩
    let url : Url := { path := "/a".toList, query := "x=1&x=2&y=3".toList }
    let other : Url := { path := "/a".toList, query := "y=3&x=2&x=1".toList }
    Text.splitOn '&' url.query = ["x=1".toList, "x=2".toList, "y=3".toList] ∧
      Text.splitOn '&' other.query = ["y=3".toList, "x=2".toList, "x=1".toList] ∧
      Query.Carries "x=1".toList "x".toList "1".toList ∧ Query.Carries "y=3".toList "y".toList "3".toList ∧
      ∃ pattern : Pattern Empty, Vocabulary.compile {} "/a?:x".toList = .ok pattern ∧
        (ofUrl url).matchPattern pattern = .ok (some [("x".toList, .text "2".toList)]) ∧
        (ofUrl other).matchPattern pattern = .ok (some [("x".toList, .text "1".toList)]) ∧
        (ofUrl url).matchPattern pattern ≠ (ofUrl other).matchPattern pattern := by
  intro url other
  let _ : Conversions Empty := ⟨fun function _ => nomatch function⟩
  obtain ⟨pattern, compiled⟩ : ∃ pattern : Pattern Empty, Vocabulary.compile {} "/a?:x".toList = .ok pattern := ⟨_, rfl⟩
  have first : (Vocabulary.compile ({} : Vocabulary Empty) "/a?:x".toList).map (ofUrl url).matchPattern =
    .ok (.ok (some [("x".toList, .text "2".toList)])) := by rfl
  have second : (Vocabulary.compile ({} : Vocabulary Empty) "/a?:x".toList).map (ofUrl other).matchPattern =
    .ok (.ok (some [("x".toList, .text "1".toList)])) := by rfl
  rw [compiled] at first second
  have left := Except.ok.inj first
  have right := Except.ok.inj second
  refine ⟨rfl, rfl, Query.item?_eq_some_iff.1 rfl, Query.item?_eq_some_iff.1 rfl, pattern, compiled, left, right, ?_⟩
  rw [left, right]
  simp

end Subject

end TypedRoutes
