import TypedRoutes.Proofs.Matching
import TypedRoutes.Proofs.RouteTable.Session

/-!
# Resolutions

A route is ruled out when its pattern does not match, when its decoder rejects the parameters, or when the decoder of
the global parameters rejects theirs; then the next route is tried. A route that qualifies ends the resolution, and so
does one whose decoders are interrupted. In a table that an application can make every route is one of the three
(`Reached.standing`), so that the first route that is not ruled out settles the resolution, whatever stands behind it
(`resolve_of_reached`).
-/

namespace TypedRoutes

set_option autoImplicit false

/-- The decoder of the global parameters, when they are looked at. Values that are kept are decoded to their map. -/
def GlobalDecoding.decoder? : GlobalDecoding → Option Decoder
  | unconfigured => none
  | kept => some fun params => .value (.map params)
  | decoded decoder => some decoder

/-- How an attempt ends the resolution, if it does. -/
def Attempt.verdict? : Attempt → Option (Except ResolveError (Option Destination))
  | settled _ outcome => some outcome
  | passed _ => none

namespace RouteTable

variable {κ : Type}

/-! ## Tables that can be reached -/

/-- The tables that an application can make: one without routes, and then one registration after the other. -/
inductive Reached [CharacterNames] : RouteTable κ → Prop where
  | ofTypes {types : TypeTable κ} {globals : Option (List Value × Decoder)} {table : RouteTable κ}
      (made : RouteTable.ofTypes types globals = .ok table) : Reached table
  | ofNames {types : TypeTable κ} {names : List Value} {decoder : Option Decoder} {table : RouteTable κ}
      (made : RouteTable.ofNames types names decoder = .ok table) : Reached table
  | register {table next : RouteTable κ} {expression : Text} {decoder : Decoder} {pattern : Pattern κ}
      (reached : Reached table) (registered : table.register expression decoder = .ok (pattern, next)) : Reached next

/-- A registration succeeds exactly when its expression compiles, and puts the route behind the others. -/
theorem register_eq_ok_iff [CharacterNames] {table next : RouteTable κ} {expression : Text} {decoder : Decoder}
    {pattern : Pattern κ} :
    table.register expression decoder = .ok (pattern, next) ↔
      table.vocabulary.compile expression = .ok pattern ∧
        next = { table with routes := table.routes ++ [{ pattern, decoder }] } := by
  rw [register, bind_eq_ok_iff]
  constructor
  · rintro ⟨found, compiled, h⟩
    cases h
    exact ⟨compiled, rfl⟩
  · rintro ⟨compiled, rfl⟩
    exact ⟨pattern, compiled, rfl⟩

/-- Every route of a table has been compiled with the vocabulary of the table, whose global parameters are texts. -/
theorem Reached.sound [CharacterNames] {table : RouteTable κ} (reached : table.Reached) :
    (∃ names : List Text, table.vocabulary.globals = names.map (.optional · .string)) ∧
      ∀ route ∈ table.routes, ∃ expression, table.vocabulary.compile expression = .ok route.pattern := by
  induction reached with
  | ofTypes made =>
    obtain ⟨vocabulary, named, h⟩ := bind_eq_ok_iff.1 made
    cases h
    obtain ⟨names, -, globals, -⟩ := Vocabulary.ofNames_spec named
    exact ⟨⟨names, globals⟩, by simp⟩
  | ofNames made =>
    obtain ⟨vocabulary, named, h⟩ := bind_eq_ok_iff.1 made
    cases h
    obtain ⟨names, -, globals, -⟩ := Vocabulary.ofNames_spec named
    exact ⟨⟨names, globals⟩, by simp⟩
  | register reached registered ih =>
    obtain ⟨compiled, rfl⟩ := register_eq_ok_iff.1 registered
    refine ⟨ih.1, fun route hr => ?_⟩
    rcases List.mem_append.1 hr with hr | hr
    · exact ih.2 route hr
    · rw [List.mem_singleton.1 hr]
      exact ⟨_, compiled⟩

variable [Conversions κ]

/-- A table that calls have reached is reached by further ones. -/
theorem Reached.performAll [CharacterNames] {table : RouteTable κ} (reached : table.Reached) (requests : List Request) :
    (table.performAll requests).2.Reached :=
  performAll_induct (fun reached registered => .register reached registered) reached requests

/-! ## What can become of a route -/

/-- The pattern matches, the decoder makes a value of the parameters, be it whatever value, and the global parameters
decode, when they are looked at. -/
def Qualifies (globals : GlobalDecoding) (subject : Subject) (route : Route κ) (d : Destination) : Prop :=
  ∃ params found, subject.matchPattern route.pattern = .ok (some params) ∧ route.decoder params = .value d.route ∧
    subject.globals route.pattern.globalParams = .ok found ∧
    globals.decoder?.map (fun decode => decode found) = d.globals.map .value

/-- The pattern does not match, or one of the decoders rejects what it is given. -/
inductive RuledOut (globals : GlobalDecoding) (subject : Subject) (route : Route κ) : Prop where
  | unmatched (unmatched : subject.matchPattern route.pattern = .ok none)
  | rejected {params : Params} (matched : subject.matchPattern route.pattern = .ok (some params))
      (rejected : route.decoder params = .rejected)
  | globalsRejected {params found : Params} {v : Value}
      (matched : subject.matchPattern route.pattern = .ok (some params)) (accepted : route.decoder params = .value v)
      (globalsFound : subject.globals route.pattern.globalParams = .ok found)
      (rejected : globals.decoder?.map (fun decode => decode found) = some .rejected)

/-- One of the decoders is interrupted. -/
inductive Interrupts (globals : GlobalDecoding) (subject : Subject) (route : Route κ) (cause : Text) : Prop where
  | route {params : Params} (matched : subject.matchPattern route.pattern = .ok (some params))
      (interrupted : route.decoder params = .interrupted cause)
  | globals {params found : Params} {v : Value}
      (matched : subject.matchPattern route.pattern = .ok (some params)) (accepted : route.decoder params = .value v)
      (globalsFound : subject.globals route.pattern.globalParams = .ok found)
      (interrupted : globals.decoder?.map (fun decode => decode found) = some (.interrupted cause))

/-- The first of the routes that is not ruled out has a property. -/
def First (globals : GlobalDecoding) (subject : Subject) (routes : List (Route κ)) (p : Route κ → Prop) : Prop :=
  ∃ before route after, routes = before ++ route :: after ∧ (∀ earlier ∈ before, RuledOut globals subject earlier) ∧
    p route

/-! ## One attempt -/

/-- What the attempt at a route comes to, wherever the route stands. -/
def verdict? (globals : GlobalDecoding) (subject : Subject) (route : Route κ) :
    Option (Except ResolveError (Option Destination)) :=
  (attempt globals subject 0 route).verdict?

theorem verdict?_finish (globals : GlobalDecoding) (calls : List Call) (v : Value) (found : Params) :
    (finish globals calls v found).verdict? =
      match globals.decoder?.map fun decode => decode found with
      | none => some (.ok (some { route := v, globals := none }))
      | some (.value g) => some (.ok (some { route := v, globals := some g }))
      | some .rejected => none
      | some (.interrupted cause) => some (.error (.interrupted cause)) := by
  cases globals with
  | unconfigured => rfl
  | kept => rfl
  | decoded decode =>
    simp only [finish, GlobalDecoding.decoder?, Option.map_some]
    cases decode found <;> rfl

/-- What an attempt settles is the verdict on its route, whatever has been called before. -/
theorem verdict?_attempt (globals : GlobalDecoding) (subject : Subject) (index : Nat) (route : Route κ) :
    (attempt globals subject index route).verdict? = verdict? globals subject route := by
  unfold verdict? attempt
  cases subject.matchPattern route.pattern with
  | error f => rfl
  | ok params =>
    cases params with
    | none => rfl
    | some params =>
      simp only
      cases route.decoder params with
      | rejected => rfl
      | interrupted cause => rfl
      | value v =>
        cases subject.globals route.pattern.globalParams with
        | error f => rfl
        | ok found => simp only [verdict?_finish]

section

variable {globals : GlobalDecoding} {subject : Subject} {route : Route κ}

/-- A route that qualifies settles the resolution with its destination. -/
theorem Qualifies.verdict? {d : Destination} (h : Qualifies globals subject route d) :
    verdict? globals subject route = some (.ok (some d)) := by
  obtain ⟨params, found, matched, accepted, globalsFound, decoded⟩ := h
  simp only [RouteTable.verdict?, attempt, matched, accepted, globalsFound, verdict?_finish, decoded]
  obtain ⟨v, g⟩ := d
  cases g <;> rfl

/-- A route that is ruled out settles nothing. -/
theorem RuledOut.verdict? (h : RuledOut globals subject route) : verdict? globals subject route = none := by
  cases h with
  | unmatched unmatched => simp only [RouteTable.verdict?, attempt, unmatched]; rfl
  | rejected matched rejected => simp only [RouteTable.verdict?, attempt, matched, rejected]; rfl
  | globalsRejected matched accepted globalsFound rejected =>
    simp only [RouteTable.verdict?, attempt, matched, accepted, globalsFound, verdict?_finish, rejected]

/-- A route whose decoder is interrupted settles the resolution with that error. -/
theorem Interrupts.verdict? {cause : Text} (h : Interrupts globals subject route cause) :
    verdict? globals subject route = some (.error (.interrupted cause)) := by
  cases h with
  | route matched interrupted => simp only [RouteTable.verdict?, attempt, matched, interrupted]; rfl
  | globals matched accepted globalsFound interrupted =>
    simp only [RouteTable.verdict?, attempt, matched, accepted, globalsFound, verdict?_finish, interrupted]

/-- The three things that can become of a route, with what the attempt at it then comes to. -/
inductive Standing (globals : GlobalDecoding) (subject : Subject) (route : Route κ) :
    Option (Except ResolveError (Option Destination)) → Prop where
  | qualifies {d : Destination} (h : Qualifies globals subject route d) :
      Standing globals subject route (some (.ok (some d)))
  | ruledOut (h : RuledOut globals subject route) : Standing globals subject route none
  | interrupts {cause : Text} (h : Interrupts globals subject route cause) :
      Standing globals subject route (some (.error (.interrupted cause)))

/-- The attempt at a route comes to one of the three. -/
abbrev Stands (globals : GlobalDecoding) (subject : Subject) (route : Route κ) : Prop :=
  Standing globals subject route (verdict? globals subject route)

end

/-- Every route of a table that can be reached qualifies, is ruled out, or is interrupted. -/
theorem Reached.standing [CharacterNames] {table : RouteTable κ} (reached : table.Reached)
    (total : table.vocabulary.types.Total) (subject : Subject) {route : Route κ} (hr : route ∈ table.routes) :
    Stands table.globals subject route := by
  obtain ⟨⟨names, texts⟩, compiled⟩ := reached.sound
  obtain ⟨expression, compiled⟩ := compiled route hr
  have own : route.pattern.globalParams = names.map (.optional · .string) := by
    rw [(Vocabulary.names_of_compile compiled).1, texts]
  obtain ⟨found, globalsFound⟩ : ∃ found, subject.globals route.pattern.globalParams = .ok found := by
    rw [own, Subject.globals, Subject.globalValues_texts]
    exact ⟨_, rfl⟩
  obtain ⟨params, matched⟩ := Subject.exists_matchPattern total compiled subject
  have qualifies {d : Destination} (h : Qualifies table.globals subject route d) := h.verdict? ▸ Standing.qualifies h
  have ruledOut (h : RuledOut table.globals subject route) := h.verdict? ▸ Standing.ruledOut h
  have interrupts {cause : Text} (h : Interrupts table.globals subject route cause) :=
    h.verdict? ▸ Standing.interrupts h
  cases params with
  | none => exact ruledOut (.unmatched matched)
  | some params =>
    cases decoded : route.decoder params with
    | rejected => exact ruledOut (.rejected matched decoded)
    | interrupted cause => exact interrupts (.route matched decoded)
    | value v =>
      cases global : table.globals.decoder?.map (fun decode => decode found) with
      | none => exact qualifies (d := ⟨v, none⟩) ⟨params, found, matched, decoded, globalsFound, global⟩
      | some outcome =>
        cases outcome with
        | value g => exact qualifies (d := ⟨v, some g⟩) ⟨params, found, matched, decoded, globalsFound, global⟩
        | rejected => exact ruledOut (.globalsRejected matched decoded globalsFound global)
        | interrupted cause => exact interrupts (.globals matched decoded globalsFound global)

/-! ## Routes in a row -/

/-- The first verdict counts. -/
theorem outcome_resolveFrom (globals : GlobalDecoding) (subject : Subject) (index : Nat) (routes : List (Route κ)) :
    (resolveFrom globals subject index routes).outcome =
      (routes.findSome? (verdict? globals subject)).getD (.ok none) := by
  induction routes generalizing index with
  | nil => rfl
  | cons route rest ih =>
    rw [resolveFrom, List.findSome?_cons, ← verdict?_attempt globals subject index route]
    cases attempt globals subject index route with
    | settled calls outcome => rfl
    | passed calls => exact ih (index + 1)

/-- A resolution ends with the first verdict, or without a destination. -/
theorem outcome_resolve (table : RouteTable κ) (url : Url) :
    (table.resolve url).outcome =
      (table.routes.findSome? (verdict? table.globals (.ofUrl url))).getD (.ok none) :=
  outcome_resolveFrom ..

section

variable {globals : GlobalDecoding} {subject : Subject} {route : Route κ} {routes : List (Route κ)}

/-- A route that settles nothing is ruled out. -/
theorem ruledOut_of_verdict? (standing : Stands globals subject route)
    (h : verdict? globals subject route = none) : RuledOut globals subject route := by
  rw [Stands, h] at standing
  cases standing with
  | ruledOut out => exact out

/-- A route that settles a destination qualifies for it. -/
theorem qualifies_of_verdict? {d : Destination} (standing : Stands globals subject route)
    (h : verdict? globals subject route = some (.ok (some d))) : Qualifies globals subject route d := by
  rw [Stands, h] at standing
  cases standing with
  | qualifies qualifies => exact qualifies

/-- A route that settles an error has been interrupted. -/
theorem interrupts_of_verdict? {e : ResolveError} (standing : Stands globals subject route)
    (h : verdict? globals subject route = some (.error e)) :
    ∃ cause, e = .interrupted cause ∧ Interrupts globals subject route cause := by
  rw [Stands, h] at standing
  cases standing with
  | interrupts interrupts => exact ⟨_, rfl, interrupts⟩

/-- A route that is not interrupted is ruled out exactly when it does not qualify. -/
theorem ruledOut_iff_of_calm (standing : Stands globals subject route)
    (calm : ∀ cause, ¬ Interrupts globals subject route cause) :
    RuledOut globals subject route ↔ ∀ d, ¬ Qualifies globals subject route d := by
  constructor
  · intro out d qualifies
    have verdict := out.verdict?
    rw [qualifies.verdict?] at verdict
    cases verdict
  · intro unqualified
    unfold Stands at standing
    generalize verdict? globals subject route = o at standing
    cases standing with
    | qualifies qualifies => exact absurd qualifies (unqualified _)
    | ruledOut out => exact out
    | interrupts interrupts => exact absurd interrupts (calm _)

/-- The routes before the first verdict are ruled out. -/
theorem first_of_findSome? {o : Except ResolveError (Option Destination)}
    (standing : ∀ route ∈ routes, Stands globals subject route)
    (h : routes.findSome? (verdict? globals subject) = some o) :
    First globals subject routes fun route =>
      Stands globals subject route ∧ verdict? globals subject route = some o := by
  obtain ⟨before, route, after, rfl, verdict, passed⟩ := List.findSome?_eq_some_iff.1 h
  refine ⟨before, route, after, rfl, fun earlier he => ?_, standing route (by simp), verdict⟩
  exact ruledOut_of_verdict? (standing earlier (by simp [he])) (passed earlier he)

theorem findSome?_of_first {p : Route κ → Prop} {o : Except ResolveError (Option Destination)}
    (first : First globals subject routes p) (hp : ∀ route, p route → verdict? globals subject route = some o) :
    routes.findSome? (verdict? globals subject) = some o := by
  obtain ⟨before, route, after, rfl, out, h⟩ := first
  have passed : ∀ earlier ∈ before, verdict? globals subject earlier = none := fun earlier he => (out earlier he).verdict?
  exact List.findSome?_eq_some_iff.2 ⟨before, route, after, rfl, hp route h, passed⟩

/-- No verdict is that there is no destination. -/
theorem findSome?_ne (standing : ∀ route ∈ routes, Stands globals subject route) :
    routes.findSome? (verdict? globals subject) ≠ some (.ok none) := by
  intro h
  obtain ⟨-, route, -, -, -, own, verdict⟩ := first_of_findSome? standing h
  rw [Stands, verdict] at own
  cases own

theorem First.imp {p q : Route κ → Prop} (first : First globals subject routes p) (h : ∀ route, p route → q route) :
    First globals subject routes q := by
  obtain ⟨before, route, after, split, out, hp⟩ := first
  exact ⟨before, route, after, split, out, h route hp⟩

end

section

variable {table : RouteTable κ} {url : Url}

theorem outcome_resolve_of_all_ruledOut (out : ∀ route ∈ table.routes, RuledOut table.globals (.ofUrl url) route) :
    (table.resolve url).outcome = .ok none := by
  rw [outcome_resolve, List.findSome?_eq_none_iff.2 fun route hr => (out route hr).verdict?]
  rfl

/-- Without a destination and without an error all routes are ruled out. -/
theorem ruledOut_of_outcome
    (standing : ∀ route ∈ table.routes, Stands table.globals (.ofUrl url) route)
    (h : (table.resolve url).outcome = .ok none) :
    ∀ route ∈ table.routes, RuledOut table.globals (.ofUrl url) route := by
  intro route hr
  rw [outcome_resolve] at h
  cases found : table.routes.findSome? (verdict? table.globals (.ofUrl url)) with
  | none => exact ruledOut_of_verdict? (standing route hr) (List.findSome?_eq_none_iff.1 found route hr)
  | some o =>
    rw [found] at h
    exact absurd (found.trans (congrArg some h)) (findSome?_ne standing)

/-- Any other outcome is the verdict of the first route that is not ruled out. -/
theorem first_of_outcome {o : Except ResolveError (Option Destination)}
    (standing : ∀ route ∈ table.routes, Stands table.globals (.ofUrl url) route)
    (h : (table.resolve url).outcome = o) (settled : o ≠ .ok none) :
    First table.globals (.ofUrl url) table.routes fun route =>
      Stands table.globals (.ofUrl url) route ∧
        verdict? table.globals (.ofUrl url) route = some o := by
  apply first_of_findSome? standing
  rw [outcome_resolve] at h
  cases found : table.routes.findSome? (verdict? table.globals (.ofUrl url)) with
  | none =>
    rw [found] at h
    exact absurd h.symm settled
  | some o' =>
    rw [found] at h
    exact congrArg some h

/-- Routes behind others are tried where those leave the URL unresolved. -/
theorem outcome_resolve_append {routes more : List (Route κ)} (split : table.routes = routes ++ more)
    (standing : ∀ route ∈ table.routes, Stands table.globals (.ofUrl url) route) :
    (table.resolve url).outcome =
      match (RouteTable.resolve { table with routes } url).outcome with
      | .ok none => (RouteTable.resolve { table with routes := more } url).outcome
      | settled => settled := by
  have first : routes.findSome? (verdict? table.globals (.ofUrl url)) ≠ some (.ok none) := by
    apply findSome?_ne
    intro route hr
    exact standing route (by simp [split, hr])
  rw [outcome_resolve, outcome_resolve, outcome_resolve, split, List.findSome?_append]
  cases found : routes.findSome? (verdict? table.globals (.ofUrl url)) with
  | none => rfl
  | some o =>
    rw [found] at first
    cases o with
    | error e => rfl
    | ok d =>
      cases d with
      | none => exact absurd rfl first
      | some d => rfl

/-- A route that is ruled out could as well not be there. -/
theorem outcome_resolve_of_ruledOut {before after : List (Route κ)} {route : Route κ}
    (split : table.routes = before ++ route :: after) (out : RuledOut table.globals (.ofUrl url) route) :
    (RouteTable.resolve { table with routes := before ++ after } url).outcome = (table.resolve url).outcome := by
  rw [outcome_resolve, outcome_resolve, split, List.findSome?_append, List.findSome?_append, List.findSome?_cons,
    out.verdict?]

end

/-- **The first route decides.** When no conversion of the vocabulary fails, the resolution of a URL by a table that an
application can make has the destination of a route exactly when that route qualifies and all routes before it are
ruled out; it has none exactly when all of them are ruled out; and otherwise it ends where the first route that is not
ruled out is interrupted. When no route is interrupted, there is none exactly when no route qualifies. A text is
resolved as the URL that it is read as.

Routes behind others count only as far as those leave the URL unresolved, and routes that are ruled out could as well
not be there. -/
theorem resolve_of_reached [CharacterNames] {table : RouteTable κ} (reached : table.Reached)
    (total : table.vocabulary.types.Total) (url : Url) :
    let subject := Subject.ofUrl url
    let outcome := (table.resolve url).outcome
    (∀ d, outcome = .ok (some d) ↔
      First table.globals subject table.routes fun route => Qualifies table.globals subject route d) ∧
      (outcome = .ok none ↔ ∀ route ∈ table.routes, RuledOut table.globals subject route) ∧
      (∀ e, outcome = .error e ↔ ∃ cause, e = .interrupted cause ∧
        First table.globals subject table.routes fun route => Interrupts table.globals subject route cause) ∧
      ((∀ route ∈ table.routes, ∀ cause, ¬ Interrupts table.globals subject route cause) →
        (outcome = .ok none ↔ ∀ route ∈ table.routes, ∀ d, ¬ Qualifies table.globals subject route d)) ∧
      (∀ routes more, table.routes = routes ++ more →
        outcome = match (RouteTable.resolve { table with routes } url).outcome with
          | .ok none => (RouteTable.resolve { table with routes := more } url).outcome
          | settled => settled) ∧
      (∀ before route after, table.routes = before ++ route :: after → RuledOut table.globals subject route →
        (RouteTable.resolve { table with routes := before ++ after } url).outcome = outcome) ∧
      ∀ t, Url.parse t = .ok url → table.resolveText t = table.resolve url := by
  intro subject outcome
  have standing : ∀ route ∈ table.routes, Stands table.globals subject route :=
    fun route hr => reached.standing total subject hr
  have settled : outcome = (table.routes.findSome? (verdict? table.globals subject)).getD (.ok none) :=
    outcome_resolve table url
  have silent : outcome = .ok none ↔ ∀ route ∈ table.routes, RuledOut table.globals subject route :=
    ⟨ruledOut_of_outcome standing, outcome_resolve_of_all_ruledOut⟩
  refine ⟨fun d => ⟨fun h => ?_, fun first => ?_⟩, silent, fun e => ⟨fun h => ?_, ?_⟩, fun calm => ?_, ?_, ?_, ?_⟩
  · exact (first_of_outcome standing h (by simp)).imp fun route own => qualifies_of_verdict? own.1 own.2
  · rw [settled, findSome?_of_first first fun route => Qualifies.verdict?]
    rfl
  · obtain ⟨before, route, after, split, out, own, verdict⟩ := first_of_outcome standing h (by simp)
    obtain ⟨cause, rfl, interrupts⟩ := interrupts_of_verdict? own verdict
    exact ⟨cause, rfl, before, route, after, split, out, interrupts⟩
  · rintro ⟨cause, rfl, first⟩
    rw [settled, findSome?_of_first first fun route => Interrupts.verdict?]
    rfl
  · rw [silent]
    apply forall₂_congr
    intro route hr
    exact ruledOut_iff_of_calm (standing route hr) (calm route hr)
  · exact fun routes more split => outcome_resolve_append split standing
  · exact fun before route after => outcome_resolve_of_ruledOut
  · intro t parsed
    rw [resolveText, parsed]

attribute [local instance] CharacterNames.empty in
/-- A route whose decoder rejects the parameters leaves the URL to the next one. -/
theorem resolve_of_reached_second :
    letI : Conversions Empty := ⟨fun function _ => nomatch function⟩
    let table : RouteTable Empty := (RouteTable.performAll {} [
      .register "/a/:id".toList fun _ => .rejected,
      .register "/:x/:y{int}".toList fun _ => .value (.text "second".toList)]).2
    let d : Destination := { route := .text "second".toList, globals := none }
    table.Reached ∧ table.vocabulary.types.Total ∧
      First table.globals (.ofUrl { path := "/a/1".toList }) table.routes fun route =>
        Qualifies table.globals (.ofUrl { path := "/a/1".toList }) route d := by
  intro table d
  let _ : Conversions Empty := ⟨fun function _ => nomatch function⟩
  have made : ofTypes .default none = .ok ({} : RouteTable Empty) := rfl
  have reached : table.Reached := Reached.performAll (.ofTypes made) _
  have total : table.vocabulary.types.Total := by
    apply TypeTable.total_of_custom
    rintro type ⟨⟩
  exact ⟨reached, total, ((resolve_of_reached reached total { path := "/a/1".toList }).1 d).1 rfl⟩

attribute [local instance] CharacterNames.empty in
/-- What interrupts a decoder ends the resolution: a route behind it that qualifies is not tried. -/
theorem interrupted_before_qualifying :
    letI : Conversions Empty := ⟨fun function _ => nomatch function⟩
    ∃ (table : RouteTable Empty) (url : Url) (before : List (Route Empty)) (route : Route Empty) (d : Destination),
      table.Reached ∧ table.vocabulary.types.Total ∧ table.routes = before ++ [route] ∧
      (∀ earlier ∈ before, ∀ other, ¬ Qualifies table.globals (.ofUrl url) earlier other) ∧
      Qualifies table.globals (.ofUrl url) route d ∧ (table.resolve url).outcome ≠ .ok (some d) ∧
      (RouteTable.resolve { table with routes := [route] } url).outcome = .ok (some d) := by
  let _ : Conversions Empty := ⟨fun function _ => nomatch function⟩
  let table : RouteTable Empty := (RouteTable.performAll {} [
    .register "/a".toList fun _ => .interrupted "KeyboardInterrupt".toList,
    .register "/a".toList fun _ => .value (.text "ok".toList)]).2
  let url : Url := { path := "/a".toList }
  have made : ofTypes .default none = .ok ({} : RouteTable Empty) := rfl
  have reached : table.Reached := Reached.performAll (.ofTypes made) _
  have total : table.vocabulary.types.Total := by
    apply TypeTable.total_of_custom
    rintro type ⟨⟩
  obtain ⟨first, second, split⟩ : ∃ first second, table.routes = [first] ++ [second] := ⟨_, _, rfl⟩
  have interrupted : Interrupts table.globals (.ofUrl url) first "KeyboardInterrupt".toList := by
    cases split
    exact Interrupts.route (show Subject.matchPattern _ _ = .ok (some []) from rfl) rfl
  have qualifies : Qualifies table.globals (.ofUrl url) second ⟨.text "ok".toList, none⟩ := by
    cases split
    exact ⟨[], [], rfl, rfl, rfl, rfl⟩
  have ended : (table.resolve url).outcome = .error (.interrupted "KeyboardInterrupt".toList) := rfl
  refine ⟨table, url, [first], second, _, reached, total, split, ?_, qualifies, by simp [ended], ?_⟩
  · intro earlier he other qualified
    have verdict := interrupted.verdict?
    rw [← List.mem_singleton.1 he, qualified.verdict?] at verdict
    cases verdict
  · cases split
    rfl

end RouteTable

end TypedRoutes
