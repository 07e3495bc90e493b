import TypedRoutes.Proofs.Assoc
import TypedRoutes.Proofs.Text.Percent
import TypedRoutes.Proofs.Text.Pieces
import TypedRoutes.Url.Query

/-!
# Items of a query

The text between two `&` signs is an item, and an item carries a value for a key if it has an equals sign (`Carries`).
The last item for a key counts, and the keys stand in the order of their first items, whatever the text is: empty
items, items without equals signs and broken escapes are covered (`parse_spec`).

In the other direction, a row of pairs is written as a row of items (`Writes`), with every character that may stand for
itself written either way. Reading undoes each way of writing (`parse_of_writes`).
-/

namespace TypedRoutes.Query

set_option autoImplicit false

/-! ## What an item carries -/

/-- The item has an equals sign; what stands before the first one denotes the key, and what stands behind it the
value. -/
def Carries (item key value : Text) : Prop :=
  ∃ before after, item = before ++ '=' :: after ∧ '=' ∉ before ∧
    Text.percentDecode before = key ∧ Text.percentDecode after = value

/-- The key that an item has a value for. -/
def key? (item : Text) : Option Text := (Text.cut? '=' item).map fun (before, _) => Text.percentDecode before

variable {item key value : Text}

/-- An item is read as an entry exactly when it carries it. -/
theorem item?_eq_some_iff : item? item = some (key, value) ↔ Carries item key value := by
  constructor
  · intro read
    obtain ⟨⟨before, after⟩, cut, pair⟩ := Option.map_eq_some_iff.1 read
    obtain ⟨split, plain⟩ := Text.cut?_eq_some_iff.1 cut
    cases pair
    exact ⟨before, after, split, plain, rfl, rfl⟩
  · rintro ⟨before, after, split, plain, rfl, rfl⟩
    rw [item?, Text.cut?_eq_some_iff.2 ⟨split, plain⟩, Option.map_some]

theorem key?_eq_map (item : Text) : key? item = (item? item).map Prod.fst := by
  rw [key?, item?, Option.map_map]
  rfl

theorem key?_eq_some_iff : key? item = some key ↔ ∃ value, Carries item key value := by
  simp [key?_eq_map, item?_eq_some_iff]

theorem keys_filterMap (items : List Text) : Assoc.keys (items.filterMap item?) = items.filterMap key? := by
  rw [Assoc.keys, List.map_filterMap]
  simp only [key?_eq_map]

theorem mem_keys_filterMap {items : List Text} :
    key ∈ Assoc.keys (items.filterMap item?) ↔ ∃ item ∈ items, ∃ value, Carries item key value := by
  simp [keys_filterMap, List.mem_filterMap, key?_eq_some_iff]

/-! ## Reading any text -/

/-- The last item that carries a value for the key counts. -/
theorem get?_parse_eq_some_iff {query : Text} :
    Assoc.get? key (parse query) = some value ↔
      ∃ before item after, Text.splitOn '&' query = before ++ item :: after ∧ Carries item key value ∧
        ∀ later ∈ after, ∀ v, ¬ Carries later key v := by
  rw [parse, Assoc.get?_ofPairs_eq_some_iff]
  constructor
  · rintro ⟨front, back, pairs, absent⟩
    obtain ⟨before, rest, cut, -, tail⟩ := List.filterMap_eq_append_iff.1 pairs
    obtain ⟨skipped, item, after, rfl, -, read, rfl⟩ := List.filterMap_eq_cons_iff.1 tail
    refine ⟨before ++ skipped, item, after, by rw [cut, List.append_assoc], item?_eq_some_iff.1 read, ?_⟩
    intro later member v carries
    exact absent (mem_keys_filterMap.2 ⟨later, member, v, carries⟩)
  · rintro ⟨before, item, after, cut, carries, last⟩
    refine ⟨before.filterMap item?, after.filterMap item?, ?_, ?_⟩
    · rw [cut, List.filterMap_append, List.filterMap_cons_some (item?_eq_some_iff.2 carries)]
    · intro member
      obtain ⟨later, inside, v, again⟩ := mem_keys_filterMap.1 member
      exact last later inside v again

/-- A query has nothing for a key exactly when no item carries a value for it. -/
theorem get?_parse_eq_none_iff {query : Text} :
    Assoc.get? key (parse query) = none ↔ ∀ item ∈ Text.splitOn '&' query, ∀ value, ¬ Carries item key value := by
  rw [parse, Assoc.get?_ofPairs_eq_none_iff, mem_keys_filterMap]
  simp only [not_exists, not_and]

/-- The keys of a query are those of its items, each once, in the order of their first items. -/
theorem keys_parse (query : Text) :
    Assoc.keys (parse query) = ((Text.splitOn '&' query).filterMap key?).eraseDups := by
  rw [parse, Assoc.keys_ofPairs, keys_filterMap]

/-- A query of two parts is the first one, updated with the second. -/
theorem parse_append (query more : Text) :
    parse (query ++ '&' :: more) = Assoc.update (parse query) (parse more) := by
  rw [parse, Text.splitOn_append_separator, List.filterMap_append, Assoc.ofPairs_append]
  rfl

/-- Neighbours that carry values for different keys may be exchanged. -/
theorem parse_exchange {query other : Text} {before after : List Text} {first second : Text}
    (cut : Text.splitOn '&' query = before ++ first :: second :: after)
    (exchanged : Text.splitOn '&' other = before ++ second :: first :: after)
    (apart : ∀ key v w, Carries first key v → ¬ Carries second key w) :
    (parse query).Perm (parse other) ∧ ∀ key, Assoc.get? key (parse query) = Assoc.get? key (parse other) := by
  rw [parse, parse, cut, exchanged, List.filterMap_append, List.filterMap_append]
  -- an item without a key leaves no pair, so that there is nothing to exchange
  cases left : item? first with
  | none => simp [List.filterMap_cons, left]
  | some e =>
    cases right : item? second with
    | none => simp [List.filterMap_cons, right]
    | some f =>
      have distinct : e.1 ≠ f.1 := by
        intro same
        exact apart e.1 e.2 f.2 (item?_eq_some_iff.1 left) (item?_eq_some_iff.1 (same ▸ right))
      simp only [List.filterMap_cons, left, right]
      exact ⟨Assoc.ofPairs_exchange distinct _ _, Assoc.get?_ofPairs_exchange distinct _ _⟩

/-- **Reading a query.** Whatever the text is, the value of a key is that of the last item that carries one for it,
and a key has no value when no item carries one. The keys stand in the order of their first items. Therefore a query
that is put behind another updates it, and neighbours for different keys may be exchanged, up to the order. -/
theorem parse_spec (query : Text) :
    (∀ key value, Assoc.get? key (parse query) = some value ↔
      ∃ before item after, Text.splitOn '&' query = before ++ item :: after ∧ Carries item key value ∧
        ∀ later ∈ after, ∀ v, ¬ Carries later key v) ∧
    (∀ key, Assoc.get? key (parse query) = none ↔
      ∀ item ∈ Text.splitOn '&' query, ∀ value, ¬ Carries item key value) ∧
    Assoc.keys (parse query) = ((Text.splitOn '&' query).filterMap key?).eraseDups ∧
    (∀ item key, key? item = some key ↔ ∃ value, Carries item key value) ∧
    (∀ more, parse (query ++ '&' :: more) = Assoc.update (parse query) (parse more)) ∧
    (∀ other before first second after,
      Text.splitOn '&' query = before ++ first :: second :: after →
      Text.splitOn '&' other = before ++ second :: first :: after →
      (∀ key v w, Carries first key v → ¬ Carries second key w) →
      (parse query).Perm (parse other) ∧ ∀ key, Assoc.get? key (parse query) = Assoc.get? key (parse other)) := by
  refine ⟨?_, ?_, keys_parse query, ?_, parse_append query, ?_⟩
  · exact fun key value => get?_parse_eq_some_iff
  · exact fun key => get?_parse_eq_none_iff
  · exact fun item key => key?_eq_some_iff
  · exact fun other before first second after cut exchanged apart => parse_exchange cut exchanged apart

/-- Two items for the key `a`, one of them spelled with an escape, an item without a key, one without a value, and one
with a broken escape: the items for `a` and for the key without characters change places. -/
theorem parse_spec_lookup :
    let query := "a=1&flag&%61=2=3&=x%zz&b=".toList
    let other := "a=1&flag&=x%zz&%61=2=3&b=".toList
    parse query = [("a".toList, "2=3".toList), ([], "x%zz".toList), ("b".toList, [])] ∧
      (parse query).Perm (parse other) ∧ ∀ key, Assoc.get? key (parse query) = Assoc.get? key (parse other) := by
  intro query other
  refine ⟨by decide, ?_⟩
  obtain ⟨-, -, -, -, -, exchange⟩ := parse_spec query
  apply exchange other ["a=1".toList, "flag".toList] "%61=2=3".toList "=x%zz".toList ["b=".toList] rfl rfl
  intro key v w left right
  have first : item? "%61=2=3".toList = some (key, v) := item?_eq_some_iff.2 left
  have second : item? "=x%zz".toList = some (key, w) := item?_eq_some_iff.2 right
  have a : key = "a".toList := by
    cases first
    rfl
  have none : key = [] := by
    cases second
    rfl
  rw [a] at none
  cases none

/-! ## Reading what has been written -/

/-- The characters that may stand for themselves in a key. -/
def plainInKey (c : Char) : Bool := c != '%' && c != '&' && c != '='

/-- The characters that may stand for themselves in a value. -/
def plainInValue (c : Char) : Bool := c != '%' && c != '&'

/-- The items write the pairs: each pair as an item, and any items without equals signs between them. -/
inductive Writes : List (Text × Text) → List Text → Prop where
  | nil : Writes [] []
  | pair {key value k v : Text} {pairs : List (Text × Text)} {items : List Text}
      (key_encoded : Text.Encodes plainInKey key k) (value_encoded : Text.Encodes plainInValue value v)
      (rest : Writes pairs items) :
      Writes ((key, value) :: pairs) ((k ++ '=' :: v) :: items)
  | bare {item : Text} {pairs : List (Text × Text)} {items : List Text} (keyless : '=' ∉ item) (whole : '&' ∉ item)
      (rest : Writes pairs items) : Writes pairs (item :: items)

/-- A key and a value that are encoded on both sides of an equals sign are read back. -/
theorem item?_of_encodes {k v : Text} (key_encoded : Text.Encodes plainInKey key k)
    (value_encoded : Text.Encodes plainInValue value v) : item? (k ++ '=' :: v) = some (key, value) := by
  have keyless : '=' ∉ k := key_encoded.notMem (by decide) (by decide) (by decide)
  exact item?_eq_some_iff.2
    ⟨k, v, rfl, keyless, key_encoded.percentDecode_eq (by decide), value_encoded.percentDecode_eq (by decide)⟩

variable {pairs : List (Text × Text)} {items : List Text}

/-- What items write is what is read from them. -/
theorem Writes.filterMap_eq (h : Writes pairs items) : items.filterMap item? = pairs := by
  induction h with
  | nil => rfl
  | pair key_encoded value_encoded _ ih =>
    rw [List.filterMap_cons_some (item?_of_encodes key_encoded value_encoded), ih]
  | @bare item _ _ keyless _ _ ih =>
    have unread : item? item = none := by rw [item?, Text.cut?_of_notMem keyless, Option.map_none]
    rw [List.filterMap_cons_none unread, ih]

theorem Writes.whole (h : Writes pairs items) : ∀ item ∈ items, '&' ∉ item := by
  induction h with
  | nil => simp
  | @pair _ _ k v _ _ key_encoded value_encoded _ ih =>
    have name : '&' ∉ k := key_encoded.notMem (by decide) (by decide) (by decide)
    have text : '&' ∉ v := value_encoded.notMem (by decide) (by decide) (by decide)
    exact List.forall_mem_cons.2 ⟨by simp [name, text], ih⟩
  | bare _ whole _ ih => exact List.forall_mem_cons.2 ⟨whole, ih⟩

theorem Writes.parse_eq (h : Writes pairs items) : parse (Text.join ['&'] items) = Assoc.ofPairs pairs := by
  cases items with
  | nil =>
    cases h
    rfl
  | cons first rest => rw [parse, Text.splitOn_join (by simp) h.whole, h.filterMap_eq]

/-- **Reading undoes writing.** Pairs that are written as the items of a query are read as the map that they build:
each key has its last value, and the keys stand in the order in which they first occur. -/
theorem parse_of_writes (h : Writes pairs items) :
    parse (Text.join ['&'] items) = Assoc.ofPairs pairs ∧
      (∀ key value, Assoc.get? key (parse (Text.join ['&'] items)) = some value ↔
        ∃ before after, pairs = before ++ (key, value) :: after ∧ key ∉ Assoc.keys after) ∧
      Assoc.keys (parse (Text.join ['&'] items)) = (Assoc.keys pairs).eraseDups := by
  rw [h.parse_eq]
  exact ⟨rfl, fun key value => Assoc.get?_ofPairs_eq_some_iff, Assoc.keys_ofPairs pairs⟩

/-- A key that repeats and is encoded in two ways, escapes with capitals and with small letters, and signs that mean
nothing where they stand. -/
theorem parse_of_writes_signs :
    let pairs := [("a&".toList, "1+2=3".toList), ("é".toList, "x".toList), ("a&".toList, ",+".toList)]
    let items := ["a%26=1+2=3".toList, "flag".toList, "%c3%A9=x".toList, "%61%26=%2c%2B".toList]
    Writes pairs items ∧ parse (Text.join ['&'] items) = Assoc.ofPairs pairs ∧
      Assoc.ofPairs pairs = [("a&".toList, ",+".toList), ("é".toList, "x".toList)] := by
  intro pairs items
  have octet : ∀ {c a b : Char} {keep : Char → Bool} {t s : Text}, Text.Escapes (Text.octets c) ['%', a, b] →
      Text.Encodes keep t s → Text.Encodes keep (c :: t) ('%' :: a :: b :: s) := by
    intro c a b keep t s escapes rest
    exact .escaped escapes rest
  have writes : Writes pairs items := by
    refine .pair (k := "a%26".toList) (v := "1+2=3".toList) ?_ ?_ (.bare (by decide) (by decide)
      (.pair (k := "%c3%A9".toList) (v := "x".toList) ?_ ?_
        (.pair (k := "%61%26".toList) (v := "%2c%2B".toList) ?_ ?_ .nil)))
    · exact .kept rfl (octet (.cons (by decide) (by decide) (by decide) .nil) .nil)
    · exact Text.encodes_self (by decide)
    · have accent : Text.Escapes (Text.octets 'é') "%c3%A9".toList :=
        .cons (by decide) (by decide) (by decide) (.cons (by decide) (by decide) (by decide) .nil)
      exact .escaped accent .nil
    · exact Text.encodes_self (by decide)
    · exact octet (.cons (by decide) (by decide) (by decide) .nil)
        (octet (.cons (by decide) (by decide) (by decide) .nil) .nil)
    · exact octet (.cons (by decide) (by decide) (by decide) .nil)
        (octet (.cons (by decide) (by decide) (by decide) .nil) .nil)
  exact ⟨writes, (parse_of_writes writes).1, by decide⟩

/-! ## Writing with capitals -/

/-- An item of a query, percent-encoded. -/
def itemText (keep : Char → Bool) (item : Text × Text) : Text :=
  Text.percentEncode keep item.1 ++ '=' :: Text.percentEncode keep item.2

/-- The text of a query with the given items. -/
def text (keep : Char → Bool) (items : List (Text × Text)) : Text := Text.join ['&'] (items.map (itemText keep))

/-- The signs that mean something in a query, and the line breaks and tabs that a URL loses, are not kept. -/
def Safe (keep : Char → Bool) : Prop := ∀ c ∈ ['%', '&', '=', '#', '\t', '\n', '\r'], keep c = false

variable {keep : Char → Bool}

theorem notMem_itemText {c : Char} (dropped : keep c = false) (percent : c ≠ '%') (equals : c ≠ '=')
    (digit : Text.hexValue? c = none) (item : Text × Text) : c ∉ itemText keep item := by
  simp [itemText, Text.notMem_percentEncode dropped percent digit, equals]

theorem notMem_text {c : Char} (dropped : keep c = false) (percent : c ≠ '%') (equals : c ≠ '=') (ampersand : c ≠ '&')
    (digit : Text.hexValue? c = none) (items : List (Text × Text)) : c ∉ text keep items := by
  refine Text.notMem_join ampersand ?_
  rintro piece hp
  obtain ⟨item, -, rfl⟩ := List.mem_map.1 hp
  exact notMem_itemText dropped percent equals digit item

/-- Items that are written with escapes write their entries. -/
theorem writes_map_itemText (safe : Safe keep) (items : List (Text × Text)) :
    Writes items (items.map (itemText keep)) := by
  have inKey : ∀ c, keep c = true → plainInKey c = true := by
    intro c may
    simp only [plainInKey, Bool.and_eq_true, bne_iff_ne]
    refine ⟨⟨?_, ?_⟩, ?_⟩ <;> rintro rfl <;> simp [safe _] at may
  have inValue : ∀ c, keep c = true → plainInValue c = true := fun c may => (Bool.and_eq_true_iff.1 (inKey c may)).1
  induction items with
  | nil => exact .nil
  | cons item items ih =>
    have key := Text.encodes_percentEncode keep item.1
    have value := Text.encodes_percentEncode keep item.2
    exact .pair (key.mono inKey) (value.mono inValue) ih

theorem parse_text (safe : Safe keep) (items : List (Text × Text)) : parse (text keep items) = Assoc.ofPairs items :=
  (writes_map_itemText safe items).parse_eq

end TypedRoutes.Query
