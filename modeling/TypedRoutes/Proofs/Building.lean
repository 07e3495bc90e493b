import Mathlib.Data.List.Nodup
import TypedRoutes.Proofs.Path.Componentwise
import TypedRoutes.Proofs.Url.Items
import TypedRoutes.Proofs.Url.Parsing

/-!
# Building a URL and matching it

A URL is built for an expression by choosing a text for each of its tokens: the path has the texts in place of the
tokens, and the query has an item for each chosen text, among others, in any order. Matching the URL gives the chosen
texts back, converted (`matchPattern_of_builds`). The two halves meet at the lookups of the query (`Answers`): reading
the URL makes them what was chosen, and they settle what the parameters bind.
-/

namespace TypedRoutes.Building

set_option autoImplicit false

open TypedRoutes.Path Pattern

variable {κ : Type}

/-! ## Choices -/

/-- Texts chosen for the tokens of a query: one for each required token, the stated one for a literal, and one or
none for an optional token. -/
inductive Chosen : List Token → List (Token × Text) → Prop where
  | nil : Chosen [] []
  | required {name : Text} {ref : Option TypeRef} {tokens : List Token} {chosen : List (Token × Text)} (t : Text)
      (rest : Chosen tokens chosen) : Chosen (.required name ref :: tokens) ((.required name ref, t) :: chosen)
  | present {name : Text} {ref : TypeRef} {tokens : List Token} {chosen : List (Token × Text)} (t : Text)
      (rest : Chosen tokens chosen) : Chosen (.optional name ref :: tokens) ((.optional name ref, t) :: chosen)
  | absent {name : Text} {ref : TypeRef} {tokens : List Token} {chosen : List (Token × Text)}
      (rest : Chosen tokens chosen) : Chosen (.optional name ref :: tokens) chosen
  | literal {name value : Text} {tokens : List Token} {chosen : List (Token × Text)}
      (rest : Chosen tokens chosen) : Chosen (.literal name value :: tokens) ((.literal name value, value) :: chosen)

/-- The tokens of a path with the components at their places. -/
def pathChoices : List Segment → List Text → List (Token × Text)
  | .fixed _ :: segments, _ :: pieces => pathChoices segments pieces
  | .token name ref :: segments, piece :: pieces =>
    (.required name (ref.map fun name => { name }), piece) :: pathChoices segments pieces
  | _, _ => []

/-- The name of a token. -/
def tokenName : Token → Text
  | .required name _ | .optional name _ | .literal name _ => name

/-- The type of a token; a literal has none. -/
def tokenType? (types : TypeTable κ) : Token → Option (ValueType κ)
  | .required _ none => some types.inferred
  | .required _ (some ref) | .optional _ ref => Vocabulary.resolve? types ref
  | .literal _ _ => none

/-- The entry that a chosen text gives: the name of the token, and the text converted to the token's type, or as it
is for a literal. -/
def Gives [Conversions κ] (types : TypeTable κ) (choice : Token × Text) (entry : Text × Value) : Prop :=
  entry.1 = tokenName choice.1 ∧
    match choice.1 with
    | .literal _ _ => entry.2 = .text choice.2
    | token => ∃ type, tokenType? types token = some type ∧ type.convert choice.2 = .ok (some entry.2)

/-- The URLs with the given components and query items: a slash may be added to a path that does not end with one,
and the question mark may be missing when there are no items. -/
def Builds (keep : Char → Bool) (pieces : List Text) (items : List (Text × Text)) (text : Text) : Prop :=
  ∃ slash query, (slash = [] ∨ pieces ≠ [[]] ∧ slash = ['/']) ∧
    (query = '?' :: Query.text keep items ∨ items = [] ∧ query = []) ∧ text = slashed pieces ++ slash ++ query

/-- The text of an expression with a path and the tokens of a query. -/
def expressionText (path : Text) (tokens : List Token) : Text :=
  if tokens = [] then path else path ++ '?' :: rowText tokens

/-! ## Reading the URL -/

section Reading

variable {segments : List Segment} {pieces : List Text} {keep : Char → Bool} {items : List (Text × Text)} {text : Text}

/-- An expression that is put together from a path and a row of tokens comes apart into them. -/
theorem splitExpression_expressionText {path : Text} {tokens : List Token} (h : '?' ∉ path)
    (proper : ∀ token ∈ tokens, token.WellFormed) :
    (splitExpression (expressionText path tokens)).1 = path ∧
      (splitExpression (expressionText path tokens)).2.getD [] = tokens := by
  unfold expressionText
  split
  · rename_i empty
    rw [splitExpression_of_notMem h, empty]
    exact ⟨rfl, rfl⟩
  · rename_i filled
    rw [splitExpression_append path filled proper]
    exact ⟨rfl, rfl⟩

/-- The path of a URL that is built, with or without a slash at its end. -/
theorem withoutFinalSlash_built (plain : Plain segments) (fits : List.Forall₂ Segment.Fits segments pieces)
    {slash : Text} (hslash : slash = [] ∨ pieces ≠ [[]] ∧ slash = ['/']) :
    Text.withoutFinalSlash (slashed pieces ++ slash) = slashed pieces := by
  have filled : slashed pieces ≠ [] := by
    cases fits with
    | nil => rcases plain with h | h <;> simp at h
    | cons _ _ => simp
  rcases hslash with rfl | ⟨-, rfl⟩
  · rw [List.append_nil]
    by_cases hroot : segments = [.fixed []]
    · subst hroot
      obtain - | ⟨rfl, ⟨⟩⟩ := fits
      rfl
    · exact Text.withoutFinalSlash_of_getLast? (plain.getLast?_slashed hroot fits)
  · exact Text.withoutFinalSlash_append filled

/-- What a character outside of components is not in. -/
theorem notMem_built (plain : Plain segments) (fits : List.Forall₂ Segment.Fits segments pieces) {slash : Text}
    (hslash : slash = [] ∨ pieces ≠ [[]] ∧ slash = ['/']) {c : Char} (hc : isComponentChar c = false) (hs : c ≠ '/') :
    c ∉ slashed pieces ++ slash := by
  have chars := componentChars_of_fits plain.readable fits
  have path : c ∉ slashed pieces :=
    Text.notMem_flatMap hs fun piece hp => notMem_of_isComponentChar (chars piece hp) hc
  rcases hslash with rfl | ⟨-, rfl⟩ <;> simp [path, hs]

/-- A URL that is built starts with its path, has no fragment, and loses nothing when it is read. -/
theorem local_of_builds (plain : Plain segments) (fits : List.Forall₂ Segment.Fits segments pieces)
    (safe : Query.Safe keep) (builds : Builds keep pieces items text) : Url.Local text := by
  obtain ⟨slash, query, hslash, hquery, rfl⟩ := builds
  have signs : ∀ c ∈ ['#', '\t', '\n', '\r'], isComponentChar c = false ∧ c ≠ '/' ∧ Text.hexValue? c = none ∧
      c ≠ '?' ∧ c ≠ '%' ∧ c ≠ '=' ∧ c ≠ '&' := by
    simp only [List.forall_mem_cons]
    exact ⟨by decide, by decide, by decide, by decide, fun _ h => nomatch h⟩
  have queryFree : ∀ c ∈ ['#', '\t', '\n', '\r'], c ∉ query := by
    intro c hc
    have safe : keep c = false := safe c (List.mem_append_right ['%', '&', '='] hc)
    obtain ⟨-, -, digit, mark, percent, equals, ampersand⟩ := signs c hc
    rcases hquery with rfl | ⟨-, rfl⟩
    · simp [mark, Query.notMem_text safe percent equals ampersand digit]
    · simp
  have free : ∀ c ∈ ['#', '\t', '\n', '\r'], c ∉ slashed pieces ++ slash ++ query := by
    intro c hc hm
    obtain ⟨outside, hs, -⟩ := signs c hc
    rcases List.mem_append.1 hm with hm | hm
    · exact notMem_built plain fits hslash outside hs hm
    · exact queryFree c hc hm
  obtain ⟨piece, rest, rfl⟩ : ∃ piece rest, pieces = piece :: rest := by
    cases fits with
    | nil => rcases plain with h | h <;> simp at h
    | cons _ _ => exact ⟨_, _, rfl⟩
  refine ⟨by simp, ?_, free _ (by simp), fun c hc => ⟨?_, ?_, ?_⟩⟩
  · by_cases hroot : segments = [.fixed []]
    · subst hroot
      obtain - | ⟨rfl, ⟨⟩⟩ := fits
      have bare : slash = [] := hslash.resolve_right fun h => h.1 rfl
      rcases hquery with rfl | ⟨-, rfl⟩ <;> simp [bare]
    · obtain ⟨-, proper⟩ := plain.resolve_left hroot
      have filled := filled_of_fits proper fits piece (List.mem_cons_self ..)
      have chars := componentChars_of_fits plain.readable fits piece (List.mem_cons_self ..)
      obtain ⟨c, t, rfl⟩ := List.exists_cons_of_ne_nil filled
      have first := chars c (List.mem_cons_self ..)
      rw [slashed_cons]
      rintro h
      obtain rfl : c = '/' := by simpa using h
      revert first
      decide
  · rintro rfl
    exact free _ (by simp) hc
  · rintro rfl
    exact free _ (by simp) hc
  · rintro rfl
    exact free _ (by simp) hc

/-- **Reading** a URL that is built gives its path and the map that its items build. -/
theorem parse_of_builds (plain : Plain segments) (fits : List.Forall₂ Segment.Fits segments pieces)
    (safe : Query.Safe keep) (builds : Builds keep pieces items text) :
    ∃ url, Url.parse text = .ok url ∧ (Subject.ofUrl url).path = slashed pieces ∧
      (Subject.ofUrl url).query = Assoc.ofPairs items := by
  have read := Url.parse_local (local_of_builds plain fits safe builds)
  obtain ⟨slash, query, hslash, hquery, rfl⟩ := builds
  have path : ∀ c, isComponentChar c = false → c ≠ '/' → c ∉ slashed pieces ++ slash :=
    fun c hc hs => notMem_built plain fits hslash hc hs
  have split : ∃ q, Url.splitAt '?' (slashed pieces ++ slash ++ query) = (slashed pieces ++ slash, q) ∧
      Query.parse q = Assoc.ofPairs items := by
    rcases hquery with rfl | ⟨rfl, rfl⟩
    · refine ⟨_, ?_, Query.parse_text safe items⟩
      rw [Url.splitAt_append_cons (path _ (by decide) (by decide))]
    · refine ⟨[], ?_, rfl⟩
      rw [List.append_nil, Url.splitAt_of_notMem (path _ (by decide) (by decide))]
  obtain ⟨q, split, parsed⟩ := split
  have kept : Text.percentDecode (Url.dropParams (slashed pieces ++ slash)) = slashed pieces ++ slash := by
    rw [Url.dropParams_of_notMem (path _ (by decide) (by decide)),
      Text.percentDecode_of_notMem (path _ (by decide) (by decide))]
  have filled : (slashed pieces ++ slash).isEmpty = false := by
    cases fits with
    | nil => rcases plain with h | h <;> simp at h
    | cons _ _ => simp
  simp only [split, kept, filled, Bool.false_eq_true, if_false] at read
  exact ⟨_, read, withoutFinalSlash_built plain fits hslash, parsed⟩

end Reading

/-! ## What the query answers -/

section Answering

variable {tokens : List Token} {chosen : List (Token × Text)}

/-- The tokens that have a text are some of those of the query, in their order. -/
theorem Chosen.sublist (h : Chosen tokens chosen) : (chosen.map Prod.fst).Sublist tokens := by
  induction h with
  | nil => exact .slnil
  | required t _ ih => exact ih.cons_cons _
  | present t _ ih => exact ih.cons_cons _
  | absent _ ih => exact ih.cons _
  | literal _ ih => exact ih.cons_cons _

theorem Chosen.mem (h : Chosen tokens chosen) {token : Token} {t : Text} (hm : (token, t) ∈ chosen) : token ∈ tokens :=
  h.sublist.subset (List.mem_map_of_mem hm)

/-- Only an optional token can do without a text. -/
theorem Chosen.exists_mem (h : Chosen tokens chosen) {token : Token} (hm : token ∈ tokens)
    (needed : ∀ name ref, token ≠ .optional name ref) : ∃ t, (token, t) ∈ chosen := by
  induction h with
  | nil => cases hm
  | required t _ ih =>
    rcases List.mem_cons.1 hm with rfl | hm
    · exact ⟨t, List.mem_cons_self ..⟩
    · obtain ⟨u, hu⟩ := ih hm
      exact ⟨u, List.mem_cons_of_mem _ hu⟩
  | present t _ ih =>
    rcases List.mem_cons.1 hm with rfl | hm
    · exact absurd rfl (needed _ _)
    · obtain ⟨u, hu⟩ := ih hm
      exact ⟨u, List.mem_cons_of_mem _ hu⟩
  | absent _ ih =>
    rcases List.mem_cons.1 hm with rfl | hm
    · exact absurd rfl (needed _ _)
    · exact ih hm
  | literal _ ih =>
    rcases List.mem_cons.1 hm with rfl | hm
    · exact ⟨_, List.mem_cons_self ..⟩
    · obtain ⟨u, hu⟩ := ih hm
      exact ⟨u, List.mem_cons_of_mem _ hu⟩

/-- A literal has the stated text. -/
theorem Chosen.eq_of_literal (h : Chosen tokens chosen) {name value t : Text}
    (hm : (Token.literal name value, t) ∈ chosen) : t = value := by
  induction h with
  | nil => cases hm
  | absent _ ih => exact ih hm
  | required _ _ ih | present _ _ ih =>
    rcases List.mem_cons.1 hm with hm | hm
    · cases hm
    · exact ih hm
  | literal _ ih =>
    rcases List.mem_cons.1 hm with hm | hm
    · cases hm
      rfl
    · exact ih hm

/-- A query has, under the names of tokens, the texts that are chosen for them. -/
def Answers (query : Query) (tokens : List Token) (chosen : List (Token × Text)) : Prop :=
  ∀ token ∈ tokens, ∀ t, Assoc.get? (tokenName token) query = some t ↔ (token, t) ∈ chosen

/-- **Items in any order**, with others among them, answer for the tokens. -/
theorem answers_of_perm (distinct : (tokens.map tokenName).Nodup) (hchosen : Chosen tokens chosen)
    {items extra : List (Text × Text)}
    (shuffled : items.Perm (chosen.map (fun choice => (tokenName choice.1, choice.2)) ++ extra))
    (foreign : ∀ item ∈ extra, item.1 ∉ tokens.map tokenName) : Answers (Assoc.ofPairs items) tokens chosen := by
  have own : (Assoc.keys (chosen.map fun choice => (tokenName choice.1, choice.2))).Nodup := by
    have names : Assoc.keys (chosen.map fun choice => (tokenName choice.1, choice.2)) =
        (chosen.map Prod.fst).map tokenName := by
      rw [Assoc.keys, List.map_map, List.map_map]
      rfl
    rw [names]
    exact distinct.sublist (hchosen.sublist.map _)
  intro token hm t
  have member : ∀ u, (tokenName token, u) ∈ items ↔ (token, u) ∈ chosen := by
    intro u
    rw [shuffled.mem_iff, List.mem_append]
    constructor
    · rintro (h | h)
      · obtain ⟨⟨other, u'⟩, hc, he⟩ := List.mem_map.1 h
        obtain ⟨hn, rfl⟩ := Prod.mk.inj he
        obtain rfl := List.inj_on_of_nodup_map distinct (hchosen.mem hc) hm hn
        exact hc
      · exact absurd (List.mem_map_of_mem hm) (foreign _ h)
    · intro h
      exact .inl (List.mem_map.2 ⟨(token, u), h, rfl⟩)
  rw [Assoc.get?_ofPairs]
  constructor
  · intro h
    exact (member t).1 (List.mem_reverse.1 (Assoc.mem_of_get?_eq_some h))
  · intro h
    refine Assoc.get?_eq_some_of_unique (List.mem_reverse.2 ((member t).2 h)) fun u hu => ?_
    have entry : ∀ w, (token, w) ∈ chosen →
        Assoc.get? (tokenName token) (chosen.map fun choice => (tokenName choice.1, choice.2)) = some w :=
      fun w hw => (Assoc.get?_eq_some_iff own).2 (List.mem_map.2 ⟨(token, w), hw, rfl⟩)
    have same := (entry u ((member u).1 (List.mem_reverse.1 hu))).symm.trans (entry t h)
    exact Option.some.inj same

end Answering

/-! ## What the tokens bind -/

section Binding

variable {types : TypeTable κ} {tokens : List Token} {chosen : List (Token × Text)}

/-- A parameter made of a token has the name of the token and, by the kind of the token, the value or the type that it
is for. -/
theorem tokenParam?_eq_some {token : Token} {param : Param κ} (h : Vocabulary.tokenParam? types token = some param) :
    param.name = tokenName token ∧
      match token with
      | .literal name value => param = .literal name value
      | .required name _ => ∃ type, tokenType? types token = some type ∧ param = .required name type
      | .optional name _ => ∃ type, tokenType? types token = some type ∧ param = .optional name type := by
  cases token with
  | literal name value =>
    cases h
    exact ⟨rfl, rfl⟩
  | required name ref =>
    cases ref with
    | none =>
      cases h
      exact ⟨rfl, _, rfl, rfl⟩
    | some ref =>
      obtain ⟨type, ht, rfl⟩ := Option.map_eq_some_iff.1 h
      exact ⟨rfl, type, ht, rfl⟩
  | optional name ref =>
    obtain ⟨type, ht, rfl⟩ := Option.map_eq_some_iff.1 h
    exact ⟨rfl, type, ht, rfl⟩

variable [Conversions κ]

/-- For a token that is no literal, an entry is given exactly when the text of the token converts to its value. -/
theorem gives_iff_of_type {token : Token} {type : ValueType κ} {t : Text} {v : Value}
    (typed : ∀ name value, token ≠ .literal name value) (found : tokenType? types token = some type) :
    Gives types (token, t) (tokenName token, v) ↔ type.convert t = .ok (some v) := by
  cases token with
  | literal name value => exact absurd rfl (typed name value)
  | required name ref => simp [Gives, found]
  | optional name ref => simp [Gives, found]

/-- A token's entry is settled by its text. -/
theorem Gives.unique {choice : Token × Text} {entry other : Text × Value} (h : Gives types choice entry)
    (h' : Gives types choice other) : entry = other := by
  obtain ⟨token, t⟩ := choice
  obtain ⟨name, v⟩ := entry
  obtain ⟨name', v'⟩ := other
  obtain ⟨rfl, h⟩ := h
  obtain ⟨rfl, h'⟩ := h'
  cases token with
  | literal _ _ => exact congrArg _ (Eq.trans h h'.symm)
  | required _ _ | optional _ _ =>
    obtain ⟨type, ht, hv⟩ := h
    obtain ⟨type', ht', hv'⟩ := h'
    rw [ht] at ht'
    cases ht'
    rw [hv] at hv'
    cases hv'
    rfl

variable {subject : Subject}

/-- The query gives a parameter the value of the text that is chosen for its token. -/
theorem queryGives_iff (answers : Answers subject.query tokens chosen) (hchosen : Chosen tokens chosen) {token : Token}
    (hm : token ∈ tokens) {param : Param κ} (hp : Vocabulary.tokenParam? types token = some param) (v : Value) :
    subject.QueryGives param v ↔ ∃ t, (token, t) ∈ chosen ∧ Gives types (token, t) (tokenName token, v) := by
  have lookup := answers token hm
  obtain ⟨-, shape⟩ := tokenParam?_eq_some hp
  cases token with
  | literal name value =>
    have literal : param = .literal name value := shape
    subst literal
    simp only [Subject.QueryGives, Gives, true_and]
    constructor
    · rintro ⟨found, rfl⟩
      exact ⟨value, (lookup value).1 found, rfl⟩
    · rintro ⟨t, hc, rfl⟩
      obtain rfl := hchosen.eq_of_literal hc
      exact ⟨(lookup t).2 hc, rfl⟩
  | required name ref | optional name ref =>
    obtain ⟨type, found, rfl⟩ := shape
    simp only [Subject.QueryGives, gives_iff_of_type (by simp) found, ← lookup]
    exact Iff.rfl

/-- The query admits a parameter when the text that is chosen for its token, if one is, gives an entry. -/
theorem admits_iff (answers : Answers subject.query tokens chosen) (hchosen : Chosen tokens chosen) {token : Token}
    (hm : token ∈ tokens) {param : Param κ} (hp : Vocabulary.tokenParam? types token = some param) :
    subject.Admits param ↔ ∀ t, (token, t) ∈ chosen → ∃ v, Gives types (token, t) (tokenName token, v) := by
  have lookup := answers token hm
  obtain ⟨-, shape⟩ := tokenParam?_eq_some hp
  cases token with
  | literal name value =>
    have literal : param = .literal name value := shape
    subst literal
    obtain ⟨t, hc⟩ := hchosen.exists_mem hm (by simp)
    obtain rfl := hchosen.eq_of_literal hc
    have admitted : subject.Admits (.literal name t : Param κ) := (lookup t).2 hc
    exact iff_of_true admitted fun u _ => ⟨.text u, rfl, rfl⟩
  | required name ref =>
    obtain ⟨type, found, rfl⟩ := shape
    obtain ⟨t, hc⟩ := hchosen.exists_mem hm (by simp)
    simp only [Subject.Admits, gives_iff_of_type (by simp) found]
    constructor
    · rintro ⟨t, v, ht, hv⟩ u hu
      have same : some t = some u := ht.symm.trans ((lookup u).2 hu)
      cases same
      exact ⟨v, hv⟩
    · intro h
      obtain ⟨v, hv⟩ := h t hc
      exact ⟨t, v, (lookup t).2 hc, hv⟩
  | optional name ref =>
    obtain ⟨type, found, rfl⟩ := shape
    simp only [Subject.Admits, gives_iff_of_type (by simp) found, ← lookup]
    exact Iff.rfl

/-- Components that align with segments give the entries of their tokens. -/
theorem aligned_iff_gives {segments : List Segment} {pieces : List Text}
    (fits : List.Forall₂ Segment.Fits segments pieces) (m : Params) :
    Aligned types segments pieces m ↔ List.Forall₂ (Gives types) (pathChoices segments pieces) m := by
  induction fits generalizing m with
  | nil =>
    constructor
    · rintro ⟨⟩
      exact .nil
    · rintro ⟨⟩
      exact .nil
  | cons fit _ ih =>
    rename_i segment piece segments pieces _
    cases segment with
    | fixed t =>
      cases fit
      rw [pathChoices, ← ih]
      constructor
      · rintro ⟨⟩
        assumption
      · exact .fixed
    | token name ref =>
      have typed : tokenType? types (.required name (ref.map fun name => { name })) = Segment.type? types ref := by
        cases ref with
        | none => rfl
        | some word => simp [tokenType?, Vocabulary.resolve?, Segment.type?]
      rw [pathChoices]
      constructor
      · rintro ⟨⟩
        rename_i type v m found hv _ rest
        exact .cons ⟨rfl, type, typed.trans found, hv⟩ ((ih _).1 rest)
      · rintro (_ | ⟨⟨hn, type, found, hv⟩, rest⟩)
        rename_i entry m
        obtain ⟨_, v⟩ := entry
        obtain rfl := hn
        exact .token fit (typed.symm.trans found) hv ((ih _).2 rest)

/-- The entries are those that the choices give. -/
theorem mem_iff_gives {choices : List (Token × Text)} {m : Params} (h : List.Forall₂ (Gives types) choices m)
    (entry : Text × Value) : entry ∈ m ↔ ∃ choice ∈ choices, Gives types choice entry := by
  induction h with
  | nil => simp
  | cons first _ ih =>
    rename_i choice entry' choices m _
    rw [List.mem_cons, ih]
    constructor
    · rintro (rfl | ⟨choice, hc, h⟩)
      · exact ⟨_, List.mem_cons_self .., first⟩
      · exact ⟨choice, List.mem_cons_of_mem _ hc, h⟩
    · rintro ⟨choice, hc, h⟩
      rcases List.mem_cons.1 hc with rfl | hc
      · exact .inl (h.unique first)
      · exact .inr ⟨choice, hc, h⟩

theorem exists_of_gives {choices : List (Token × Text)} {m : Params} (h : List.Forall₂ (Gives types) choices m) :
    ∀ choice ∈ choices, ∃ entry, Gives types choice entry := by
  induction h with
  | nil => simp
  | cons first _ ih => exact List.forall_mem_cons.2 ⟨⟨_, first⟩, ih⟩

/-- The keys of the entries are the names of the chosen tokens, in order. -/
theorem keys_of_gives {choices : List (Token × Text)} {m : Params} (h : List.Forall₂ (Gives types) choices m) :
    Assoc.keys m = (choices.map Prod.fst).map tokenName := by
  induction h with
  | nil => rfl
  | cons first _ ih => rw [Assoc.keys_cons, ih, first.1, List.map_cons, List.map_cons]

omit [Conversions κ] in
/-- When every token makes a parameter, the names of the parameters are those of the tokens. -/
theorem map_name_filterMap (h : ∀ token ∈ tokens, ∃ param, Vocabulary.tokenParam? types token = some param) :
    (tokens.filterMap (Vocabulary.tokenParam? types)).map Param.name = tokens.map tokenName := by
  induction tokens with
  | nil => rfl
  | cons token tokens ih =>
    obtain ⟨⟨param, hp⟩, rest⟩ := List.forall_mem_cons.1 h
    rw [List.filterMap_cons_some hp, List.map_cons, List.map_cons, (tokenParam?_eq_some hp).1, ih rest]

section Rows

variable {params : List (Param κ)} (answers : Answers subject.query tokens chosen) (hchosen : Chosen tokens chosen)
  (taken : ∀ token ∈ tokens, ∃ param, Vocabulary.tokenParam? types token = some param)
  (perm : params.Perm (tokens.filterMap (Vocabulary.tokenParam? types)))

include answers hchosen taken perm

/-- The query admits the parameters of a row of tokens exactly when each chosen text gives an entry. -/
theorem admits_all_iff :
    (∀ param ∈ params, subject.Admits param) ↔ ∀ choice ∈ chosen, ∃ entry, Gives types choice entry := by
  simp only [perm.mem_iff, List.mem_filterMap]
  constructor
  · rintro admits ⟨token, t⟩ hc
    have hm := hchosen.mem hc
    obtain ⟨param, ht⟩ := taken token hm
    obtain ⟨v, gives⟩ := (admits_iff answers hchosen hm ht).1 (admits param ⟨token, hm, ht⟩) t hc
    exact ⟨_, gives⟩
  · rintro gives param ⟨token, hm, ht⟩
    refine (admits_iff answers hchosen hm ht).2 fun t hc => ?_
    obtain ⟨⟨name, v⟩, given⟩ := gives _ hc
    obtain rfl := given.1
    exact ⟨v, given⟩

/-- The query gives the parameters of a row of tokens the entries of the chosen texts. -/
theorem exists_queryGives_iff (name : Text) (v : Value) :
    (∃ param ∈ params, param.name = name ∧ subject.QueryGives param v) ↔
      ∃ choice ∈ chosen, Gives types choice (name, v) := by
  simp only [perm.mem_iff, List.mem_filterMap]
  constructor
  · rintro ⟨param, ⟨token, hm, ht⟩, rfl, gives⟩
    obtain ⟨t, hc, given⟩ := (queryGives_iff answers hchosen hm ht v).1 gives
    exact ⟨_, hc, by rwa [(tokenParam?_eq_some ht).1]⟩
  · rintro ⟨⟨token, t⟩, hc, given⟩
    have hm := hchosen.mem hc
    obtain ⟨param, ht⟩ := taken token hm
    obtain rfl := given.1
    exact ⟨param, ⟨token, hm, ht⟩, (tokenParam?_eq_some ht).1,
      (queryGives_iff answers hchosen hm ht v).2 ⟨t, hc, given⟩⟩

end Rows

/-- **Binding a query** that answers for the tokens: it gives the entries of the chosen texts, and fails when one of
them gives none. -/
theorem bindQuery_of_answers {vocabulary : Vocabulary κ} (total : vocabulary.types.Total) {expression : Text}
    {params : List (Param κ)} (hparams : vocabulary.queryParams expression tokens = .ok params)
    (distinct : (tokens.map tokenName).Nodup) (hchosen : Chosen tokens chosen)
    (answers : Answers subject.query tokens chosen) :
    ∃ result, subject.bindQuery params = .ok result ∧
      (∀ m, result = some m → (Assoc.keys m).Sublist (params.map Param.name)) ∧
      (∀ more, List.Forall₂ (Gives vocabulary.types) chosen more → ∃ m, result = some m ∧ m.Perm more) ∧
      ((∃ choice ∈ chosen, ∀ entry, ¬ Gives vocabulary.types choice entry) → result = none) := by
  obtain ⟨perm, taken⟩ := Vocabulary.queryParams_perm hparams
  have names : (params.map Param.name).Nodup := by
    rw [(perm.map _).nodup_iff, map_name_filterMap taken]
    exact distinct
  obtain ⟨result, hresult, hsome, hentries⟩ :=
    Subject.bindQuery_spec total subject (Vocabulary.offers_queryParams hparams)
  rw [admits_all_iff answers hchosen taken perm] at hsome
  have keys : ∀ m, result = some m → (Assoc.keys m).Sublist (params.map Param.name) := by
    intro m h
    rw [(hentries m h).1]
    exact List.filter_sublist.map _
  refine ⟨result, hresult, keys, fun more gives => ?_, ?_⟩
  · obtain ⟨m, rfl⟩ := Option.isSome_iff_exists.1 (hsome.2 (exists_of_gives gives))
    refine ⟨m, rfl, (List.perm_ext_iff_of_nodup ?_ ?_).2 fun ⟨name, v⟩ => ?_⟩
    · exact List.Nodup.of_map _ (names.sublist (keys m rfl))
    · refine List.Nodup.of_map Prod.fst ?_
      have own := keys_of_gives gives
      rw [Assoc.keys] at own
      rw [own]
      exact distinct.sublist (hchosen.sublist.map _)
    · rw [(hentries m rfl).2, mem_iff_gives gives, exists_queryGives_iff answers hchosen taken perm]
  · rintro ⟨choice, hc, nothing⟩
    cases result with
    | none => rfl
    | some m =>
      obtain ⟨entry, given⟩ := hsome.1 rfl choice hc
      exact absurd given (nothing entry)

/-- **Binding a path** that is built: it gives the entries of the components at the places of the tokens, and fails
when one of them gives none. -/
theorem bindPath_of_fits [CharacterNames] {vocabulary : Vocabulary κ} (total : vocabulary.types.Total)
    {segments : List Segment} (plain : Plain segments) {ending : Ending} (exact_path : ending ≠ .wildcard)
    {path expression : Text} (spells : ending.Spells segments path) (hpath : (splitExpression expression).1 = path)
    {pattern : Pattern κ} (compiled : vocabulary.compile expression = .ok pattern) {pieces : List Text}
    (fits : List.Forall₂ Segment.Fits segments pieces) (own : subject.path = slashed pieces) :
    ∃ result, subject.bindPath pattern = .ok result ∧
      (∀ m, result = some m → Assoc.keys m = pattern.pathParams.map Param.name) ∧
      ∀ m, result = some m ↔ List.Forall₂ (Gives vocabulary.types) (pathChoices segments pieces) m := by
  obtain ⟨hregex, hparams⟩ := compiled_of_spells plain spells hpath compiled
  have whole : ending.base segments = segments ∧ ending.close = .plain := by
    cases ending <;> simp_all [Ending.base, Ending.close]
  rw [whole.1, whole.2] at hregex
  rw [whole.1] at hparams
  have line : '\n' ∉ subject.path := by
    rw [own]
    simpa using notMem_built (c := '\n') plain fits (.inl rfl) (by decide) (by decide)
  have fitting : Fitting segments .plain subject.path pieces := ⟨fits, [], by rw [own, List.append_nil], rfl⟩
  have bound := bindPath_of_tried plain.readable line hregex hparams (.inl rfl) fitting
  have totalPath : ∀ param ∈ pattern.pathParams, ∀ t, ∃ v, Param.convert param t = .ok v := by
    intro param hp t
    obtain ⟨name, type, rfl, offers⟩ := Vocabulary.required_of_pathParams hparams param hp
    exact offers.total total t
  obtain ⟨result, hresult, -, hentries⟩ := subject.bindPath_spec totalPath
  refine ⟨result, hresult, fun m h => (hentries m h).1, fun m => ?_⟩
  rw [← aligned_iff_gives fits, ← bind_tokenTexts hparams fits m, ← bound, hresult, Except.ok.injEq]

end Binding

/-- **Matching a URL that is built.** Take an expression with a plain path and any tokens in its query that compiles
against the built-in types, and build a URL from a text for each token, an optional one left out or not, with other
items in the query at will. When every text converts, the match is the map from the names of the chosen tokens to the
converted texts; otherwise there is none. -/
theorem matchPattern_of_builds [CharacterNames] [Conversions κ] {vocabulary : Vocabulary κ}
    (builtin : vocabulary.types = .default) {segments : List Segment} (plain : Plain segments) {ending : Ending}
    (exact_path : ending ≠ .wildcard) {path : Text} (spells : ending.Spells segments path) {tokens : List Token}
    (proper : ∀ token ∈ tokens, token.WellFormed) {pattern : Pattern κ}
    (compiled : vocabulary.compile (expressionText path tokens) = .ok pattern) {pieces : List Text}
    (fits : List.Forall₂ Segment.Fits segments pieces) {chosen : List (Token × Text)} (hchosen : Chosen tokens chosen)
    {items extra : List (Text × Text)}
    (shuffled : items.Perm (chosen.map (fun choice => (tokenName choice.1, choice.2)) ++ extra))
    (foreign : ∀ item ∈ extra, item.1 ∉ tokens.map tokenName) {keep : Char → Bool} (safe : Query.Safe keep)
    {text : Text} (builds : Builds keep pieces items text) :
    ∃ url, Url.parse text = .ok url ∧
      (∀ found more, List.Forall₂ (Gives vocabulary.types) (pathChoices segments pieces) found →
        List.Forall₂ (Gives vocabulary.types) chosen more →
          ∃ m, (Subject.ofUrl url).matchPattern pattern = .ok (some m) ∧ (Assoc.keys m).Nodup ∧
            m.Perm (found ++ more)) ∧
      ((∃ choice ∈ pathChoices segments pieces ++ chosen, ∀ entry, ¬ Gives vocabulary.types choice entry) →
        (Subject.ofUrl url).matchPattern pattern = .ok none) := by
  obtain ⟨url, parsed, hpath, hquery⟩ := parse_of_builds plain fits safe builds
  have total : vocabulary.types.Total := TypeTable.total_of_custom (by rw [builtin]; simp [TypeTable.default])
  have stages := Vocabulary.compile_eq_ok_iff.1 compiled
  have split := splitExpression_expressionText (notMem_of_spells plain spells) proper
  have hparams := stages.queryParams
  rw [split.2] at hparams
  have distinct : (tokens.map tokenName).Nodup := by
    obtain ⟨perm, taken⟩ := Vocabulary.queryParams_perm hparams
    rw [← map_name_filterMap taken, ← (perm.map _).nodup_iff]
    refine stages.distinct.sublist ?_
    rw [Pattern.names, Pattern.params, List.map_append]
    exact List.sublist_append_right _ _
  have answers : Answers (Subject.ofUrl url).query tokens chosen :=
    hquery ▸ answers_of_perm distinct hchosen shuffled foreign
  obtain ⟨found, hfound, hkf, hfound_iff⟩ := bindPath_of_fits total plain exact_path spells split.1 compiled fits hpath
  obtain ⟨more, hmore, hkm, hmore_some, hmore_none⟩ := bindQuery_of_answers total hparams distinct hchosen answers
  refine ⟨url, parsed, fun found' more' gives gives' => ?_, ?_⟩
  · obtain rfl := (hfound_iff found').2 gives
    obtain ⟨m, rfl, perm⟩ := hmore_some more' gives'
    obtain ⟨merged, names⟩ :=
      Subject.matchPattern_eq_append stages.distinct hfound hmore (hkf _ rfl) (hkm _ rfl)
    exact ⟨_, merged, names, perm.append_left _⟩
  · rintro ⟨choice, hc, nothing⟩
    cases found with
    | none => simp only [Subject.matchPattern, hfound]
    | some m =>
      rcases List.mem_append.1 hc with hc | hc
      · obtain ⟨entry, h⟩ := exists_of_gives ((hfound_iff m).1 rfl) choice hc
        exact absurd h (nothing entry)
      · have none := hmore_none ⟨choice, hc, nothing⟩
        subst none
        simp only [Subject.matchPattern, hfound, hmore]

attribute [local instance] CharacterNames.empty in
/-- Items that are escaped and out of order, with one of no token among them, an optional token left out, and a slash
at the end of the path. -/
theorem matchPattern_of_builds_feed :
    letI : Conversions Unit := ⟨fun _ t => .ok (.text t)⟩
    let vocabulary : Vocabulary Unit := {}
    ∃ pattern url, vocabulary.compile "/feed/:id{int}?:q&:n{[int]?}&:lang\x7b'en'\x7d".toList = .ok pattern ∧
      Url.parse "/feed/07/?lang=en&utm=1&q=%26%20%C3%A9".toList = .ok url ∧
      ∃ m, (Subject.ofUrl url).matchPattern pattern = .ok (some m) ∧ (Assoc.keys m).Nodup ∧
        m.Perm [("id".toList, .int 7), ("q".toList, .text "& é".toList), ("lang".toList, .text "en".toList)] := by
  intro vocabulary
  let _ : Conversions Unit := ⟨fun _ t => .ok (.text t)⟩
  let segments : List Segment := [.fixed "feed".toList, .token "id".toList (some "int".toList)]
  let tokens : List Token := [.required "q".toList none, .optional "n".toList ⟨"int".toList, true⟩,
    .literal "lang".toList "en".toList]
  have plain : Plain segments := by
    refine .inr ⟨by decide, fun segment hm => ?_⟩
    simp only [segments, List.mem_cons, List.not_mem_nil, or_false] at hm
    rcases hm with rfl | rfl
    · exact ⟨by decide, List.all_eq_true.1 rfl⟩
    · exact ⟨by decide, by decide⟩
  have proper : ∀ token ∈ tokens, token.WellFormed := by
    intro token hm
    simp only [tokens, List.mem_cons, List.not_mem_nil, or_false] at hm
    rcases hm with rfl | rfl | rfl
    · exact (by decide : isName "q".toList = true)
    · exact ⟨by decide, by decide⟩
    · exact ⟨by decide, by decide⟩
  have fits : List.Forall₂ Segment.Fits segments ["feed".toList, "07".toList] :=
    .cons rfl (.cons ⟨by decide, List.all_eq_true.1 rfl⟩ .nil)
  have chosen : Chosen tokens [(.required "q".toList none, "& é".toList),
      (.literal "lang".toList "en".toList, "en".toList)] := .required _ (.absent (.literal .nil))
  have builds : Builds isComponentChar ["feed".toList, "07".toList]
      [("lang".toList, "en".toList), ("utm".toList, "1".toList), ("q".toList, "& é".toList)]
      "/feed/07/?lang=en&utm=1&q=%26%20%C3%A9".toList :=
    ⟨['/'], _, .inr ⟨by decide, rfl⟩, .inl rfl, by decide⟩
  have spells : Ending.bare.Spells segments (pathText segments) := rfl
  have safe : Query.Safe isComponentChar := by
    have dropped : ['%', '&', '=', '#', '\t', '\n', '\r'].all (fun c => !isComponentChar c) = true := rfl
    intro c hc
    simpa using List.all_eq_true.1 dropped c hc
  have shuffled : List.Perm [("lang".toList, "en".toList), ("utm".toList, "1".toList), ("q".toList, "& é".toList)]
      ([("q".toList, "& é".toList), ("lang".toList, "en".toList)] ++ [("utm".toList, "1".toList)]) :=
    List.perm_append_singleton ("q".toList, "& é".toList) [("lang".toList, "en".toList), ("utm".toList, "1".toList)]
  have foreign : ∀ item ∈ [("utm".toList, "1".toList)], item.1 ∉ tokens.map tokenName := by decide
  have whole : "/feed/:id{int}?:q&:n{[int]?}&:lang\x7b'en'\x7d".toList = expressionText (pathText segments) tokens := by
    decide
  obtain ⟨pattern, compiled⟩ : ∃ pattern,
    vocabulary.compile "/feed/:id{int}?:q&:n{[int]?}&:lang\x7b'en'\x7d".toList = .ok pattern := ⟨_, rfl⟩
  rw [whole] at compiled
  obtain ⟨url, parsed, matched, -⟩ := matchPattern_of_builds rfl plain (by decide) spells proper compiled fits chosen
    shuffled foreign safe builds
  refine ⟨pattern, url, whole ▸ compiled, parsed, matched [_] [_, _] ?_ ?_⟩
  · exact .cons ⟨rfl, .int, rfl, rfl⟩ .nil
  · exact .cons ⟨rfl, .string, rfl, rfl⟩ (.cons ⟨rfl, rfl⟩ .nil)

end TypedRoutes.Building
