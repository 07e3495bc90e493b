import TypedRoutes.Proofs.RouteTable.Resolution

/-!
# Global parameters

Global parameters are texts, so that they never fail to convert, and no parameter of a pattern has the name of one. What
a resolution makes of them is therefore a function of the configured names, their decoder and the query alone
(`Configured.globals_of_outcome`), and the items of the query that have such names do not matter to the match of any
pattern (`Configured.matchPattern_eq`).
-/

namespace TypedRoutes

set_option autoImplicit false

/-! ## The items of a query -/

namespace Query

/-- The decoded keys and values of a query, in order, repeated keys included. -/
def pairs (query : Text) : List (Text × Text) := (Text.splitOn '&' query).filterMap item?

/-- The last value that a query gives a key. -/
def lastValue? (key query : Text) : Option Text := ((pairs query).filter (·.1 = key)).getLast?.map Prod.snd

/-- A query has for a key the value of the last item with it. -/
theorem get?_parse (key query : Text) : Assoc.get? key (parse query) = lastValue? key query := by
  have first : ∀ entries : List (Text × Text),
      Assoc.get? key entries = (entries.filter (·.1 = key)).head?.map Prod.snd := by
    intro entries
    induction entries with
    | nil => rfl
    | cons entry rest ih =>
      obtain ⟨k, v⟩ := entry
      by_cases hk : k = key
      · simp [Assoc.get?, hk]
      · simp [Assoc.get?, hk, ih]
  rw [parse, Assoc.get?_ofPairs, first, lastValue?, pairs, List.filter_reverse, List.head?_reverse]

/-- Items with other keys do not matter to the value of a key. -/
theorem lastValue?_congr {p : Text → Bool} {query other : Text}
    (same : (pairs other).filter (fun pair => p pair.1) = (pairs query).filter fun pair => p pair.1) {key : Text}
    (kept : p key = true) : lastValue? key other = lastValue? key query := by
  have own : ∀ entries : List (Text × Text),
      entries.filter (·.1 = key) = (entries.filter fun pair => p pair.1).filter (·.1 = key) := by
    intro entries
    rw [List.filter_filter]
    apply List.filter_congr
    intro pair hp
    by_cases hk : pair.1 = key <;> simp [hk, kept]
  rw [lastValue?, own, same, ← own]
  rfl

end Query

variable {κ : Type} [Conversions κ]

/-! ## What matching reads -/

namespace Subject

theorem queryValue_congr {subject other : Subject} {param : Param κ}
    (same : Assoc.get? param.name other.query = Assoc.get? param.name subject.query) :
    other.queryValue param = subject.queryValue param := by
  unfold queryValue
  rw [same]

/-- The parameters of a query depend on the values for their names only. -/
theorem bindQuery_congr {subject other : Subject} {params : List (Param κ)}
    (same : ∀ param ∈ params, Assoc.get? param.name other.query = Assoc.get? param.name subject.query) :
    other.bindQuery params = subject.bindQuery params := by
  induction params with
  | nil => rfl
  | cons param rest ih =>
    rw [bindQuery, bindQuery, queryValue_congr (same param (List.mem_cons_self ..)),
      ih fun later hl => same later (List.mem_cons_of_mem _ hl)]

/-- A match is a matter of the path and of what the query gives the names of the query parameters. -/
theorem matchPattern_congr {subject other : Subject} {pattern : Pattern κ} (path : other.path = subject.path)
    (query : ∀ param ∈ pattern.queryParams,
      Assoc.get? param.name other.query = Assoc.get? param.name subject.query) :
    other.matchPattern pattern = subject.matchPattern pattern := by
  have bound : other.bindPath pattern = subject.bindPath pattern := by
    obtain ⟨_, items⟩ := subject
    obtain ⟨_, others⟩ := other
    cases path
    rfl
  rw [matchPattern, matchPattern, bound, bindQuery_congr query]

/-- Of distinct names, those that have a value make a map. -/
theorem ofPairs_filterMap {names : List Text} (distinct : names.Nodup) (value? : Text → Option Value) :
    Assoc.ofPairs (names.filterMap fun name => (value? name).map fun v => (name, v)) =
      names.filterMap fun name => (value? name).map fun v => (name, v) := by
  have own (name : Text) (entry : Text × Value) (made : ((value? name).map fun v => (name, v)) = some entry) :
      entry.1 = name := by
    obtain ⟨v, -, rfl⟩ := Option.map_eq_some_iff.1 made
    rfl
  apply Assoc.ofPairs_of_nodup
  have sublist := Assoc.keys_filterMap_sublist own names
  rw [List.map_id'] at sublist
  exact distinct.sublist sublist

/-- The global parameters of a URL: those that its query mentions, with the last values that it gives them. -/
theorem globals_texts {names : List Text} (distinct : names.Nodup) (url : Url) :
    (ofUrl url).globals (names.map fun name => (.optional name .string : Param κ)) =
      .ok (names.filterMap fun name => (Query.lastValue? name url.query).map fun t => (name, .text t)) := by
  have values (name : Text) : (Query.lastValue? name url.query).map (fun t => (name, Value.text t)) =
      ((Query.lastValue? name url.query).map Value.text).map fun v => (name, v) := by
    rw [Option.map_map]
    rfl
  rw [globals, globalValues_texts]
  simp only [Except.map, Option.getD_some, ofUrl, Url.items, Query.get?_parse, values, ofPairs_filterMap distinct]

end Subject

/-- The calls that an attempt makes. -/
def Attempt.calls : Attempt → List Call
  | settled calls _ | passed calls => calls

namespace RouteTable

/-! ## Tables with global parameters -/

/-- The tables with global parameters of the given names, which a decoder looks at. Values that are kept are decoded to
their map. -/
inductive Configured [CharacterNames] (names : List Text) (decoder : Decoder) : RouteTable κ → Prop where
  | ofTypes {types : TypeTable κ} {table : RouteTable κ}
      (made : RouteTable.ofTypes types (some (names.map .text, decoder)) = .ok table) : Configured names decoder table
  | ofNames {types : TypeTable κ} {table : RouteTable κ} (filled : names ≠ [])
      (made : RouteTable.ofNames types (names.map .text) (some decoder) = .ok table) : Configured names decoder table
  | kept {types : TypeTable κ} {table : RouteTable κ} (filled : names ≠ [])
      (keeps : decoder = fun params => .value (.map params))
      (made : RouteTable.ofNames types (names.map .text) none = .ok table) : Configured names decoder table
  | register {table next : RouteTable κ} {expression : Text} {own : Decoder} {pattern : Pattern κ}
      (configured : Configured names decoder table)
      (registered : table.register expression own = .ok (pattern, next)) : Configured names decoder next

section

variable {names : List Text} {decoder : Decoder} {table : RouteTable κ}

omit [Conversions κ] in
/-- A table with configured names has been reached by calls. -/
theorem Configured.reached [CharacterNames] (configured : Configured names decoder table) : table.Reached := by
  induction configured with
  | ofTypes made => exact .ofTypes made
  | ofNames filled made => exact .ofNames made
  | kept filled keeps made => exact .ofNames made
  | register configured registered ih => exact .register ih registered

omit [Conversions κ] in
/-- The global parameters of a table are those that it was made with. -/
theorem Configured.sound [CharacterNames] (configured : Configured names decoder table) :
    table.vocabulary.globals = names.map (.optional · .string) ∧ names.Nodup ∧
      table.globals.decoder? = some decoder := by
  have named {types : TypeTable κ} {vocabulary : Vocabulary κ}
      (h : Vocabulary.ofNames types (names.map .text) = .ok vocabulary) :
      vocabulary.globals = names.map (.optional · .string) ∧ names.Nodup := by
    obtain ⟨names', same, globals, distinct⟩ := Vocabulary.ofNames_spec h
    have equal : names = names' := List.map_injective_iff.2 (fun s t h => Value.text.inj h) same
    rw [equal]
    exact ⟨globals, distinct⟩
  induction configured with
  | ofTypes made =>
    obtain ⟨vocabulary, h, made⟩ := bind_eq_ok_iff.1 made
    cases made
    exact ⟨(named h).1, (named h).2, rfl⟩
  | ofNames filled made =>
    obtain ⟨vocabulary, h, made⟩ := bind_eq_ok_iff.1 made
    cases made
    exact ⟨(named h).1, (named h).2, by simp [filled, GlobalDecoding.decoder?]⟩
  | kept filled keeps made =>
    obtain ⟨vocabulary, h, made⟩ := bind_eq_ok_iff.1 made
    cases made
    exact ⟨(named h).1, (named h).2, by simp [filled, GlobalDecoding.decoder?, keeps]⟩
  | register configured registered ih =>
    obtain ⟨-, rfl⟩ := register_eq_ok_iff.1 registered
    exact ih

theorem Configured.performAll [CharacterNames] (configured : Configured names decoder table) (requests : List Request) :
    Configured names decoder (table.performAll requests).2 :=
  performAll_induct (fun configured registered => .register configured registered) configured requests

/-- The configured names that the query mentions, with the last values that it gives them. -/
def found (names : List Text) (url : Url) : Params :=
  names.filterMap fun name => (Query.lastValue? name url.query).map fun t => (name, .text t)

/-- The global parameters are the same for every route. -/
theorem Configured.globals_eq [CharacterNames] (configured : Configured names decoder table) {route : Route κ}
    (hr : route ∈ table.routes) (url : Url) :
    (Subject.ofUrl url).globals route.pattern.globalParams = .ok (found names url) := by
  obtain ⟨globals, distinct, -⟩ := configured.sound
  obtain ⟨expression, compiled⟩ := configured.reached.sound.2 route hr
  rw [(Vocabulary.names_of_compile compiled).1, globals]
  exact Subject.globals_texts distinct url

/-- Items of a query with the names of global parameters do not matter to a match. -/
theorem Configured.matchPattern_eq [CharacterNames] (configured : Configured names decoder table) {route : Route κ}
    (hr : route ∈ table.routes) {url other : Url} (path : other.path = url.path)
    (query : (Query.pairs other.query).filter (fun pair => pair.1 ∉ names) =
      (Query.pairs url.query).filter fun pair => pair.1 ∉ names) :
    (Subject.ofUrl other).matchPattern route.pattern = (Subject.ofUrl url).matchPattern route.pattern := by
  obtain ⟨globals, -, -⟩ := configured.sound
  obtain ⟨expression, compiled⟩ := configured.reached.sound.2 route hr
  obtain ⟨-, -, apart⟩ := Vocabulary.names_of_compile compiled
  apply Subject.matchPattern_congr
  · rw [Subject.ofUrl, Subject.ofUrl, path]
  · intro param hp
    have foreign : param.name ∉ names := by
      intro hm
      apply apart param (List.mem_append_right _ hp) (.optional param.name .string) _ rfl
      rw [globals]
      exact List.mem_map_of_mem hm
    show Assoc.get? param.name other.items = Assoc.get? param.name url.items
    rw [Url.items, Url.items, Query.get?_parse, Query.get?_parse]
    exact Query.lastValue?_congr (p := fun key => key ∉ names) query (by simpa using foreign)

end

/-! ## What decoders are called with -/

theorem calls_finish {globals : GlobalDecoding} {calls : List Call} {v : Value} {values params : Params} {k : Nat}
    (h : ⟨.route k, params⟩ ∈ (finish globals calls v values).calls) : ⟨.route k, params⟩ ∈ calls := by
  cases globals with
  | unconfigured => exact h
  | kept => exact h
  | decoded decode =>
    have either : (⟨.route k, params⟩ : Call) ∈ calls ++ [⟨.globals, values⟩] := by
      unfold finish at h
      cases hd : decode values <;> simpa only [hd, Attempt.calls] using h
    simpa using either

/-- The decoder of a route is called with the values of its match. -/
theorem calls_attempt {globals : GlobalDecoding} {subject : Subject} {index k : Nat} {route : Route κ} {params : Params}
    (h : ⟨.route k, params⟩ ∈ (attempt globals subject index route).calls) :
    k = index ∧ subject.matchPattern route.pattern = .ok (some params) := by
  unfold attempt at h
  cases matched : subject.matchPattern route.pattern with
  | error f => simp [matched, Attempt.calls] at h
  | ok result =>
    cases result with
    | none => simp [matched, Attempt.calls] at h
    | some values =>
      have own : (⟨.route k, params⟩ : Call) ∈ [(⟨.route index, values⟩ : Call)] := by
        simp only [matched] at h
        cases decoded : route.decoder values with
        | rejected => simpa only [decoded, Attempt.calls] using h
        | interrupted cause => simpa only [decoded, Attempt.calls] using h
        | value v =>
          simp only [decoded] at h
          cases globalsFound : subject.globals route.pattern.globalParams with
          | error f => simpa only [globalsFound, Attempt.calls] using h
          | ok more =>
            simp only [globalsFound] at h
            exact calls_finish h
      obtain ⟨⟨rfl⟩, rfl⟩ := Call.mk.inj (List.mem_singleton.1 own)
      exact ⟨rfl, rfl⟩

/-- A decoder of a route is called with the parameters that its pattern has found. -/
theorem calls_resolveFrom {globals : GlobalDecoding} {subject : Subject} {index k : Nat} {routes : List (Route κ)}
    {params : Params} (h : ⟨.route k, params⟩ ∈ (resolveFrom globals subject index routes).calls) :
    ∃ n route, k = index + n ∧ routes[n]? = some route ∧
      subject.matchPattern route.pattern = .ok (some params) := by
  induction routes generalizing index with
  | nil => cases h
  | cons route rest ih =>
    have own := @calls_attempt κ _ globals subject index k route params
    rw [resolveFrom] at h
    cases tried : attempt globals subject index route with
    | settled calls outcome =>
      rw [tried] at h own
      obtain ⟨rfl, matched⟩ := own h
      exact ⟨0, route, rfl, rfl, matched⟩
    | passed calls =>
      rw [tried] at h own
      rcases List.mem_append.1 h with h | h
      · obtain ⟨rfl, matched⟩ := own h
        exact ⟨0, route, rfl, rfl, matched⟩
      · obtain ⟨n, later, rfl, hn, matched⟩ := ih h
        exact ⟨n + 1, later, by omega, hn, matched⟩

/-! ## The global parameters of a resolution -/

section

variable {names : List Text} {decoder : Decoder} {table : RouteTable κ}

/-- A resolution that succeeds has what the decoder makes of the names that the query mentions. -/
theorem Configured.globals_of_outcome [CharacterNames] (configured : Configured names decoder table)
    (total : table.vocabulary.types.Total) {url : Url} {d : Destination}
    (h : (table.resolve url).outcome = .ok (some d)) :
    ∃ g, decoder (found names url) = .value g ∧ d.globals = some g := by
  have standing : ∀ route ∈ table.routes, Stands table.globals (.ofUrl url) route :=
    fun route hr => configured.reached.standing total _ hr
  obtain ⟨before, route, after, split, -, own, verdict⟩ := first_of_outcome standing h (by simp)
  obtain ⟨params, values, -, -, globalsFound, decoded⟩ := qualifies_of_verdict? own verdict
  rw [configured.globals_eq (by simp [split]) url] at globalsFound
  cases globalsFound
  rw [configured.sound.2.2] at decoded
  obtain ⟨g, hg, own⟩ := Option.map_eq_some_iff.1 decoded.symm
  exact ⟨g, own.symm, hg⟩

/-- When the decoder rejects the names that the query mentions, every route is ruled out whose own decoder is not
interrupted. -/
theorem Configured.ruledOut_of_rejected [CharacterNames] (configured : Configured names decoder table)
    (total : table.vocabulary.types.Total) {url : Url} (rejected : decoder (found names url) = .rejected)
    {route : Route κ} (hr : route ∈ table.routes)
    (calm : ∀ params cause, (Subject.ofUrl url).matchPattern route.pattern = .ok (some params) →
      route.decoder params ≠ .interrupted cause) : RuledOut table.globals (.ofUrl url) route := by
  have decoded : ∀ values, (Subject.ofUrl url).globals route.pattern.globalParams = .ok values →
      table.globals.decoder?.map (fun decode => decode values) = some .rejected := by
    intro values h
    rw [configured.globals_eq hr url] at h
    cases h
    rw [configured.sound.2.2, Option.map_some, rejected]
  have own := configured.reached.standing total (.ofUrl url) hr
  unfold Stands at own
  generalize verdict? table.globals (.ofUrl url) route = o at own
  cases own with
  | ruledOut out => exact out
  | qualifies qualifies =>
    obtain ⟨params, values, -, -, globalsFound, accepted⟩ := qualifies
    rw [decoded values globalsFound] at accepted
    obtain ⟨g, -, accepted⟩ := Option.map_eq_some_iff.1 accepted.symm
    cases accepted
  | interrupts interrupts =>
    cases interrupts with
    | route matched interrupted => exact absurd interrupted (calm _ _ matched)
    | globals matched accepted globalsFound interrupted =>
      rw [decoded _ globalsFound] at interrupted
      cases interrupted

/-- Where the decoder of a route is called for two URLs that differ in global parameters only, it is called with the
same values. -/
theorem Configured.calls_eq [CharacterNames] (configured : Configured names decoder table) {url other : Url}
    (path : other.path = url.path)
    (query : (Query.pairs other.query).filter (fun pair => pair.1 ∉ names) =
      (Query.pairs url.query).filter fun pair => pair.1 ∉ names) {k : Nat} {params params' : Params}
    (h : ⟨.route k, params⟩ ∈ (table.resolve url).calls) (h' : ⟨.route k, params'⟩ ∈ (table.resolve other).calls) :
    params' = params := by
  obtain ⟨n, route, rfl, hn, matched⟩ := calls_resolveFrom h
  obtain ⟨n', route', same, hn', matched'⟩ := calls_resolveFrom h'
  have place : n' = n := by omega
  rw [place, hn] at hn'
  cases hn'
  rw [configured.matchPattern_eq (List.mem_of_getElem? hn) path query, matched] at matched'
  cases matched'
  rfl

/-- **Global parameters are the same for every route.** Whatever the types and the routes of a table with global
parameters: a resolution that succeeds has what their decoder makes of the configured names that the query mentions, each
with its last value. When the decoder rejects those, no resolution succeeds, and there is none unless the decoder of a
route is interrupted. The items of the query with the names of global parameters do not matter to any match, nor to
what the decoder of a route is called with. -/
theorem resolve_of_configured [CharacterNames] (configured : Configured names decoder table)
    (total : table.vocabulary.types.Total) (url : Url) :
    let outcome := (table.resolve url).outcome
    (∀ d, outcome = .ok (some d) → ∃ g, decoder (found names url) = .value g ∧ d.globals = some g) ∧
      (decoder (found names url) = .rejected → (∀ d, outcome ≠ .ok (some d)) ∧
        ((∀ route ∈ table.routes, ∀ params cause,
          (Subject.ofUrl url).matchPattern route.pattern = .ok (some params) →
            route.decoder params ≠ .interrupted cause) → outcome = .ok none)) ∧
      ∀ other : Url, other.path = url.path →
        (Query.pairs other.query).filter (fun pair => pair.1 ∉ names) =
          (Query.pairs url.query).filter (fun pair => pair.1 ∉ names) →
        (∀ route ∈ table.routes,
          (Subject.ofUrl other).matchPattern route.pattern = (Subject.ofUrl url).matchPattern route.pattern) ∧
        ∀ k params params', ⟨.route k, params⟩ ∈ (table.resolve url).calls →
          ⟨.route k, params'⟩ ∈ (table.resolve other).calls → params' = params := by
  intro outcome
  refine ⟨fun d => configured.globals_of_outcome total, fun rejected => ⟨fun d h => ?_, fun calm => ?_⟩,
    fun other path query => ⟨?_, ?_⟩⟩
  · obtain ⟨g, accepted, -⟩ := configured.globals_of_outcome total h
    rw [rejected] at accepted
    cases accepted
  · apply outcome_resolve_of_all_ruledOut
    intro route hr
    exact configured.ruledOut_of_rejected total rejected hr (calm route hr)
  · intro route hr
    exact configured.matchPattern_eq hr path query
  · intro k params params' h h'
    exact configured.calls_eq path query h h'

end

attribute [local instance] CharacterNames.empty in
/-- Of the configured names those in the query are kept, a repeated one with its last value. -/
theorem resolve_of_configured_kept :
    letI : Conversions Unit := ⟨fun _ t => .ok (.int t.length)⟩
    let types : TypeTable Unit := { custom := [.guarded (.text "size".toList) ()] }
    let names : List Text := ["lang".toList, "tz".toList]
    let keep : Decoder := fun params => .value (.map params)
    let empty : RouteTable Unit := { vocabulary := { types, globals := names.map (.optional · .string) }, globals := .kept }
    let table := (empty.performAll [.register "/feed/:id{int}?:n{size?}".toList keep]).2
    let url : Url := { path := "/feed/1".toList, query := "lang=en&n=7&lang=d%65".toList }
    let d : Destination := {
      route := .map [("id".toList, .int 1), ("n".toList, .int 1)]
      globals := some (.map [("lang".toList, .text "de".toList)]) }
    Configured names keep table ∧ table.vocabulary.types.Total ∧ (table.resolve url).outcome = .ok (some d) ∧
      ∃ g, keep (found names url) = .value g ∧ d.globals = some g := by
  let _ : Conversions Unit := ⟨fun _ t => .ok (.int t.length)⟩
  intro types names keep empty table url d
  have made : ofNames types (names.map .text) none = .ok empty := rfl
  have configured : Configured names keep table := Configured.performAll (.kept (by decide) rfl made) _
  have total : types.Total := by
    apply TypeTable.total_of_custom
    rintro type ⟨⟩ t
    · exact ⟨_, rfl⟩
    · contradiction
  have resolved : (table.resolve url).outcome = .ok (some d) := rfl
  exact ⟨configured, total, resolved, (resolve_of_configured configured total url).1 d resolved⟩

attribute [local instance] CharacterNames.empty in
/-- What interrupts the decoder of the global parameters goes through. -/
theorem interrupted_globals :
    letI : Conversions Empty := ⟨fun function _ => nomatch function⟩
    ∃ (names : List Text) (decoder : Decoder) (table : RouteTable Empty) (url : Url) (cause : Text),
      Configured names decoder table ∧ table.vocabulary.types.Total ∧ decoder (found names url) = .interrupted cause ∧
        (table.resolve url).outcome ≠ .ok none := by
  let _ : Conversions Empty := ⟨fun function _ => nomatch function⟩
  let decoder : Decoder := fun _ => .interrupted "KeyboardInterrupt".toList
  let empty : RouteTable Empty := { vocabulary := { globals := [.optional ['g'] .string] }, globals := .decoded decoder }
  have made : ofTypes .default (some ([['g']].map .text, decoder)) = .ok empty := rfl
  let table := (empty.performAll [.register "/a".toList fun _ => .value (.text "ok".toList)]).2
  let url : Url := { path := "/a".toList, query := "g=1".toList }
  have configured : Configured [['g']] decoder table := Configured.performAll (.ofTypes made) _
  have total : table.vocabulary.types.Total := by
    apply TypeTable.total_of_custom
    rintro type ⟨⟩
  have ended : (table.resolve url).outcome = .error (.interrupted "KeyboardInterrupt".toList) := rfl
  exact ⟨[['g']], decoder, table, url, _, configured, total, rfl, by simp [ended]⟩

end RouteTable

end TypedRoutes
