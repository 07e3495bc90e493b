import TypedRoutes.Proofs.RouteTable.Resolution
import TypedRoutes.Proofs.ValueType

/-!
# Functions that refuse

An application adds types by functions from texts to values. When the function of a parameter answers none or refuses its
text, the pattern does not match, and the routes behind it are tried. Whatever else a function reports goes through the
match and ends the resolution, and nothing else does (`matchPattern_of_functions`). Global parameters are texts, so that
no function has a part in them.
-/

namespace TypedRoutes

set_option autoImplicit false

variable {κ : Type}

/-- The types that a table of functions offers are built in or call these functions. -/
theorem Vocabulary.Offers.fromFunctions {functions : List (Text × κ)} {types : TypeTable κ} {vocabulary : Vocabulary κ}
    (made : TypeTable.ofTypes (TypeTable.guardedTypes functions) = .ok types) (own : vocabulary.types = types)
    {type : ValueType κ} (offers : vocabulary.Offers type) : type.FromFunctions functions := by
  have known (type : ValueType κ) (member : type ∈ vocabulary.types.all) : type.FromFunctions functions := by
    rw [own, TypeTable.all, Vocabulary.custom_of_ofTypes made] at member
    rcases List.mem_append.1 member with member | member
    · simp only [TypeTable.builtins, List.mem_cons, List.not_mem_nil, or_false] at member
      rcases member with rfl | rfl | rfl
      · exact .int
      · exact .string
      · exact .bool
    · obtain ⟨⟨name, function⟩, entry, rfl⟩ := List.mem_map.1 member
      exact .guarded entry
  rcases offers with member | ⟨of, member, rfl⟩
  · exact known type member
  · exact .array (known of member)

variable [Conversions κ]

namespace Subject

variable {subject : Subject} {pattern : Pattern κ} {fault : Fault}

/-- A text that the URL presents for a parameter with a type: the text captured at the place of a path parameter, when
there is one for each of them, or the value of a query item. -/
inductive Presents (subject : Subject) (pattern : Pattern κ) : ValueType κ → Text → Prop where
  | path {r : Regex} {texts : List Text} {param : Param κ} {type : ValueType κ} {t : Text}
      (regex : pattern.regex = some r) (captured : subject.Captured r texts)
      (aligned : pattern.pathParams.length = texts.length) (entry : (param, t) ∈ pattern.pathParams.zip texts)
      (typed : param.type = .ok type) : Presents subject pattern type t
  | query {param : Param κ} {type : ValueType κ} {t : Text} (member : param ∈ pattern.queryParams)
      (typed : param.type = .ok type) (present : Assoc.get? param.name subject.query = some t) :
      Presents subject pattern type t

/-- One of some functions is called with a text that the URL presents or with a piece of it, and reports something that
is no refusal. -/
def Raises (subject : Subject) (functions : List (Text × κ)) (pattern : Pattern κ) (fault : Fault) : Prop :=
  ∃ type t name function s, subject.Presents pattern type t ∧ (name, function) ∈ functions ∧
    type.Calls t function s ∧ Conversions.apply function s = .error fault ∧ ¬ fault.IsRefusal

/-! ## Matches that fail -/

/-- When binding fails, the text of one of the parameters does not convert. -/
theorem exists_of_bind_eq_error {params : List (Param κ)} {texts : List Text}
    (h : bind params texts = .error fault) : ∃ entry ∈ params.zip texts, entry.1.convert entry.2 = .error fault := by
  induction params generalizing texts with
  | nil => cases h
  | cons param rest ih =>
    cases texts with
    | nil => cases h
    | cons t ts =>
      unfold bind at h
      split at h
      · rename_i failed
        cases h
        exact ⟨(param, t), List.mem_cons_self .., failed⟩
      · cases h
      · split at h
        · cases h
        · obtain ⟨entry, member, failed⟩ := ih h
          exact ⟨entry, List.mem_cons_of_mem _ member, failed⟩

/-- A path that fails has captured a text for each parameter, and one of them does not convert. -/
theorem exists_of_bindPath_eq_error (h : subject.bindPath pattern = .error fault) :
    ∃ r texts, pattern.regex = some r ∧ subject.Captured r texts ∧ pattern.pathParams.length = texts.length ∧
      ∃ entry ∈ pattern.pathParams.zip texts, entry.1.convert entry.2 = .error fault := by
  unfold bindPath at h
  split at h
  · cases h
  rename_i r regex
  simp only at h
  split at h
  · cases h
  rename_i aligned
  rw [ne_eq, not_not] at aligned
  split at h
  · cases h
  exact ⟨r, _, regex, subject.captured_captures r, aligned.symm, exists_of_bind_eq_error h⟩

/-- A query that fails has a parameter that fails. -/
theorem exists_of_bindQuery_eq_error {params : List (Param κ)} (h : subject.bindQuery params = .error fault) :
    ∃ param ∈ params, subject.queryValue param = .error fault := by
  induction params with
  | nil => cases h
  | cons param rest ih =>
    unfold bindQuery at h
    split at h
    · rename_i failed
      cases h
      exact ⟨param, List.mem_cons_self .., failed⟩
    · cases h
    · split at h
      · cases h
      · obtain ⟨other, member, failed⟩ := ih h
        exact ⟨other, List.mem_cons_of_mem _ member, failed⟩

/-- The value of a query parameter fails as the conversion of its text does. -/
theorem exists_of_queryValue_eq_error {vocabulary : Vocabulary κ} {param : Param κ}
    (offers : vocabulary.OffersParam param) (h : subject.queryValue param = .error fault) :
    ∃ type t, param.type = .ok type ∧ vocabulary.Offers type ∧ Assoc.get? param.name subject.query = some t ∧
      type.convert t = .error fault := by
  have failed {x : Except Fault (Option Value)} (h : (x.map fun v => v.map some) = .error fault) : x = .error fault := by
    cases x with
    | error other =>
      cases h
      rfl
    | ok v => cases h
  cases param with
  | foreign name owner => exact offers.elim
  | literal name value => cases h
  | required name type | optional name type =>
    cases raw : Assoc.get? name subject.query with
    | none => simp [queryValue, Param.name, raw] at h
    | some t =>
      simp only [queryValue, Param.name, raw] at h
      exact ⟨type, t, rfl, offers, raw, failed h⟩

/-- A match fails with its path or with its query. -/
theorem bindPath_or_bindQuery_eq_error (h : subject.matchPattern pattern = .error fault) :
    subject.bindPath pattern = .error fault ∨ subject.bindQuery pattern.queryParams = .error fault := by
  unfold matchPattern at h
  split at h
  · split at h
    · cases h
    · exact .inr h
  · exact .inl h

variable {vocabulary : Vocabulary κ} {expression : Text}

/-- A match fails only as the conversion of a text does that the URL presents. -/
theorem exists_presents_of_matchPattern_eq_error [CharacterNames]
    (compiled : vocabulary.compile expression = .ok pattern) (h : subject.matchPattern pattern = .error fault) :
    ∃ type t, subject.Presents pattern type t ∧ vocabulary.Offers type ∧ type.convert t = .error fault := by
  have stages := Vocabulary.compile_eq_ok_iff.1 compiled
  rcases bindPath_or_bindQuery_eq_error h with h | h
  · obtain ⟨r, texts, regex, captured, aligned, ⟨param, t⟩, entry, failed⟩ := exists_of_bindPath_eq_error h
    obtain ⟨name, type, rfl, offers⟩ :=
      Vocabulary.required_of_pathParams stages.pathParams param (List.of_mem_zip entry).1
    exact ⟨type, t, .path regex captured aligned entry rfl, offers, failed⟩
  · obtain ⟨param, member, failed⟩ := exists_of_bindQuery_eq_error h
    obtain ⟨type, t, typed, offers, present, failed⟩ :=
      exists_of_queryValue_eq_error (Vocabulary.offers_queryParams stages.queryParams param member) failed
    exact ⟨type, t, .query member typed present, offers, failed⟩

/-- In a match every text that the URL presents has been converted. -/
theorem exists_convert_of_presents [CharacterNames] (compiled : vocabulary.compile expression = .ok pattern)
    {m : Params} (matched : subject.matchPattern pattern = .ok (some m)) {type : ValueType κ} {t : Text}
    (presents : subject.Presents pattern type t) : ∃ v, type.convert t = .ok (some v) := by
  obtain ⟨⟨r, texts, regex, captured, -, path⟩, query, -⟩ := entries_of_matchPattern compiled matched
  cases presents with
  | path regex' captured' _ entry typed =>
    cases regex.symm.trans regex'
    rw [captured'.eq, ← captured.eq] at entry
    obtain ⟨v, converted, -⟩ := path _ entry
    rw [Param.convert, typed] at converted
    exact ⟨v, converted⟩
  | @query param _ _ member typed present =>
    obtain ⟨v, own, -⟩ := query param member
    obtain ⟨gives, lacks⟩ := queryValue_eq_some own
    cases v with
    | none => cases present.symm.trans (lacks rfl).2
    | some v =>
      obtain ⟨other, present', converted⟩ := (gives v rfl).exists_convert typed
      cases present.symm.trans present'
      exact ⟨v, converted⟩

end Subject

namespace RouteTable

/-- A fault in the match of a route ends the resolution, when the routes before it are ruled out. -/
theorem outcome_resolve_of_fault {table : RouteTable κ} {url : Url} {before after : List (Route κ)} {route : Route κ}
    {fault : Fault} (split : table.routes = before ++ route :: after)
    (out : ∀ earlier ∈ before, RuledOut table.globals (.ofUrl url) earlier)
    (failed : (Subject.ofUrl url).matchPattern route.pattern = .error fault) :
    (table.resolve url).outcome = .error (.fault fault) := by
  have verdict : verdict? table.globals (.ofUrl url) route = some (.error (.fault fault)) := by
    simp only [verdict?, attempt, failed]
    rfl
  have passed : ∀ earlier ∈ before, verdict? table.globals (.ofUrl url) earlier = none :=
    fun earlier he => (out earlier he).verdict?
  rw [outcome_resolve, split, List.findSome?_append, List.findSome?_eq_none_iff.2 passed, List.findSome?_cons, verdict]
  rfl

end RouteTable

namespace Subject

/-- **Functions that refuse.** Take the table of any functions, a pattern over it, and any URL. The global parameters
always have values. A match fails only with what a function reports for a text that the URL presents and what is no
refusal, so that it never fails when the functions report nothing else; such a failure ends the resolution by any table
that comes to the pattern. A function that has no value for a text that the URL presents, be it the whole text or a
piece of an array, keeps the pattern from matching; when there is no failure, each table resolves the URL as if the
route were not there. -/
theorem matchPattern_of_functions [CharacterNames] {functions : List (Text × κ)} {types : TypeTable κ}
    (made : TypeTable.ofTypes (TypeTable.guardedTypes functions) = .ok types) {names : List Value}
    {vocabulary : Vocabulary κ} (named : Vocabulary.ofNames types names = .ok vocabulary) {expression : Text}
    {pattern : Pattern κ} (compiled : vocabulary.compile expression = .ok pattern) (url : Url) :
    let subject := ofUrl url
    (∃ found, subject.globals pattern.globalParams = .ok found) ∧
      (∀ fault, subject.matchPattern pattern = .error fault → subject.Raises functions pattern fault ∧
        ∀ (table : RouteTable κ) before route after, table.routes = before ++ route :: after →
          route.pattern = pattern → (∀ earlier ∈ before, RouteTable.RuledOut table.globals subject earlier) →
          (table.resolve url).outcome = .error (.fault fault)) ∧
      ((∀ entry ∈ functions, ∀ s fault, Conversions.apply entry.2 s = .error fault → fault.IsRefusal) →
        ∃ result, subject.matchPattern pattern = .ok result) ∧
      ∀ type t function s, subject.Presents pattern type t → type.Calls t function s →
        Conversions.Fails function s →
        (∀ m, subject.matchPattern pattern ≠ .ok (some m)) ∧
          ((∀ fault, ¬ subject.Raises functions pattern fault) → subject.matchPattern pattern = .ok none ∧
            ∀ (table : RouteTable κ) before route after, table.routes = before ++ route :: after →
              route.pattern = pattern →
              (RouteTable.resolve { table with routes := before ++ after } url).outcome =
                (table.resolve url).outcome) := by
  intro subject
  have own := Vocabulary.types_of_ofNames named
  have raises (fault : Fault) (failed : subject.matchPattern pattern = .error fault) :
      subject.Raises functions pattern fault := by
    obtain ⟨type, t, presents, offers, failed⟩ := exists_presents_of_matchPattern_eq_error compiled failed
    obtain ⟨name, function, s, known, calls, raised⟩ :=
      ValueType.exists_calls_of_convert_eq_error (offers.fromFunctions made own) failed
    exact ⟨type, t, name, function, s, presents, known, calls, raised⟩
  refine ⟨?globals, fun fault failed => ⟨raises fault failed, ?stops⟩, fun refusals => ?answers,
    fun type t function s presents calls fails => ?fails⟩
  case globals =>
    obtain ⟨globals, -, texts, -⟩ := Vocabulary.ofNames_spec named
    rw [(Vocabulary.names_of_compile compiled).1, texts, Subject.globals, globalValues_texts]
    exact ⟨_, rfl⟩
  case stops =>
    rintro table before route after split rfl out
    exact RouteTable.outcome_resolve_of_fault split out failed
  case answers =>
    cases settled : subject.matchPattern pattern with
    | ok result => exact ⟨result, rfl⟩
    | error fault =>
      obtain ⟨type, t, name, function, s, -, known, -, raised, other⟩ := raises fault settled
      exact absurd (refusals _ known s fault raised) other
  case fails =>
    have unmatched (m : Params) : subject.matchPattern pattern ≠ .ok (some m) := by
      intro matched
      obtain ⟨v, converted⟩ := exists_convert_of_presents compiled matched presents
      exact ValueType.convert_ne_some_of_fails calls fails v converted
    refine ⟨unmatched, fun calm => ?_⟩
    have none : subject.matchPattern pattern = .ok none := by
      cases settled : subject.matchPattern pattern with
      | error fault => exact absurd (raises fault settled) (calm fault)
      | ok result =>
        cases result with
        | none => rfl
        | some m => exact absurd settled (unmatched m)
    refine ⟨none, ?_⟩
    rintro table before route after split rfl
    exact RouteTable.outcome_resolve_of_ruledOut split (.unmatched none)

attribute [local instance] CharacterNames.empty in
/-- A function that refuses one word, as the second piece of an array. -/
theorem matchPattern_of_functions_piece :
    letI : Conversions Unit :=
      ⟨fun _ t => if t = "bad".toList then .error (.invalidValue t) else .ok (.text t)⟩
    let functions := [("word".toList, ())]
    ∃ (types : TypeTable Unit) (vocabulary : Vocabulary Unit) (pattern : Pattern Unit),
      TypeTable.ofTypes (TypeTable.guardedTypes functions) = .ok types ∧
        Vocabulary.ofNames types [.text "g".toList] = .ok vocabulary ∧
        vocabulary.compile "/a/:x{word}?:ys{[word]?}".toList = .ok pattern ∧
        Conversions.Fails () "bad".toList ∧
        (ofUrl { path := "/a/1".toList, query := "ys=good,bad".toList }).matchPattern pattern = .ok none := by
  let _ : Conversions Unit :=
    ⟨fun _ t => if t = "bad".toList then .error (.invalidValue t) else .ok (.text t)⟩
  let functions := [("word".toList, ())]
  let url : Url := { path := "/a/1".toList, query := "ys=good,bad".toList }
  let types : TypeTable Unit := { custom := TypeTable.guardedTypes functions, valid := rfl }
  let vocabulary : Vocabulary Unit := { types, globals := [.optional "g".toList .string] }
  let word : ValueType Unit := .guarded (.text "word".toList) ()
  have made : TypeTable.ofTypes (TypeTable.guardedTypes functions) = .ok types := rfl
  have named : Vocabulary.ofNames types [.text "g".toList] = .ok vocabulary := rfl
  obtain ⟨pattern, compiled⟩ : ∃ pattern,
    vocabulary.compile "/a/:x{word}?:ys{[word]?}".toList = .ok pattern := ⟨_, rfl⟩
  have query : pattern.queryParams = [.optional "ys".toList (.array word)] := eq_of_map_eq_ok compiled rfl
  have own : (.optional "ys".toList (.array word) : Param Unit) ∈ pattern.queryParams := query ▸ .head _
  have presents : (ofUrl url).Presents pattern (.array word) "good,bad".toList := .query own rfl rfl
  have calls : (ValueType.array word).Calls "good,bad".toList () "bad".toList :=
    .piece (by decide) (by decide) (.whole _ _ _)
  have fails : Conversions.Fails () "bad".toList := .inr ⟨.invalidValue "bad".toList, rfl, trivial⟩
  have calm (fault : Fault) : ¬ (ofUrl url).Raises functions pattern fault := by
    rintro ⟨type, t, name, function, s, -, -, -, raised, other⟩
    change (if s = "bad".toList then .error (.invalidValue s) else .ok (.text s) : Except Fault Value) = _ at raised
    split at raised
    · cases raised
      exact other trivial
    · cases raised
  exact ⟨types, vocabulary, pattern, made, named, compiled, fails,
    ((matchPattern_of_functions made named compiled url).2.2.2 _ _ _ _ presents calls fails).2 calm |>.1⟩

attribute [local instance] CharacterNames.empty in
/-- A function that reports a missing key: the match fails, and the resolution ends with that although the route behind
it qualifies. -/
theorem fault_before_qualifying :
    letI : Conversions Unit := ⟨fun _ t => .error (.missingKey t)⟩
    let functions := [("key".toList, ())]
    let url : Url := { path := "/a/v".toList }
    ∃ (types : TypeTable Unit) (table : RouteTable Unit) (first second : Route Unit) (d : Destination),
      TypeTable.ofTypes (TypeTable.guardedTypes functions) = .ok types ∧
        Vocabulary.ofNames types [] = .ok table.vocabulary ∧
        table.vocabulary.compile "/a/:x{key}".toList = .ok first.pattern ∧ table.routes = [first, second] ∧
        (ofUrl url).matchPattern first.pattern = .error (.missingKey "v".toList) ∧
        (table.resolve url).outcome = .error (.fault (.missingKey "v".toList)) ∧
        (RouteTable.resolve { table with routes := [second] } url).outcome = .ok (some d) := by
  let _ : Conversions Unit := ⟨fun _ t => .error (.missingKey t)⟩
  let functions := [("key".toList, ())]
  let types : TypeTable Unit := { custom := TypeTable.guardedTypes functions, valid := rfl }
  let keep : Decoder := fun params => .value (.map params)
  let table := (RouteTable.performAll { vocabulary := { types } }
    [.register "/a/:x{key}".toList keep, .register "/a/:x".toList keep]).2
  obtain ⟨first, second, routes⟩ : ∃ first second, table.routes = [first, second] := ⟨_, _, rfl⟩
  refine ⟨types, table, first, second, ⟨.map [("x".toList, .text "v".toList)], none⟩, rfl, rfl, ?_, routes, ?_⟩
  · cases routes
    rfl
  · cases routes
    exact ⟨rfl, rfl, rfl⟩

end Subject

end TypedRoutes
