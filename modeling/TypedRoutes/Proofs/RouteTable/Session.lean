import TypedRoutes.Proofs.Vocabulary
import TypedRoutes.RouteTable

/-!
# Sessions

A session is a row of calls of a table: registrations, in either form, and resolutions. One call appends the route that
it registers, if any, and changes nothing else (`perform_spec`), so that after a session that starts without routes the
table holds the successful registrations in the order of the calls, and a call that fails could as well not have been
made (`performAll_of_empty`).

What compilation checks of one pattern then holds of every pattern of the table: it has the global parameters of the
vocabulary, and its names are distinct.
-/

namespace TypedRoutes

set_option autoImplicit false

/-- A call of a table. -/
inductive Request where
  | register (expression : Text) (decoder : Decoder)
  | decorate (expression : Text) (decoder : Decoder)
  | resolve (url : Url)
  | resolveText (t : Text)

/-- What a call comes to. -/
inductive Reply (κ : Type) where
  | registered (pattern : Pattern κ)
  | handedBack (decoder : Decoder)
  | refused (reason : CompileError)
  | resolved (resolution : Resolution)

variable {κ : Type}

/-- The call has failed: its expression has been refused, or the resolution has ended with an error. -/
def Reply.Failed : Reply κ → Prop
  | refused _ => True
  | resolved resolution => ∃ e, resolution.outcome = .error e
  | registered _ | handedBack _ => False

/-- The call has registered a route. -/
def Reply.registers : Reply κ → Bool
  | registered _ | handedBack _ => true
  | refused _ | resolved _ => false

variable [CharacterNames]

/-- The route that a call registers, when its expression is one. -/
def Request.route? (vocabulary : Vocabulary κ) : Request → Option (Route κ)
  | register expression decoder | decorate expression decoder =>
    (vocabulary.compile expression).toOption.map fun pattern => { pattern, decoder }
  | resolve _ | resolveText _ => none

/-- What a call may be answered: a registration succeeds exactly when its expression compiles, with the pattern or with
the decoder itself. -/
inductive Answers (vocabulary : Vocabulary κ) : Request → Reply κ → Prop where
  | registered {expression : Text} {pattern : Pattern κ} (decoder : Decoder)
      (compiled : vocabulary.compile expression = .ok pattern) :
      Answers vocabulary (.register expression decoder) (.registered pattern)
  | handedBack {expression : Text} {pattern : Pattern κ} (decoder : Decoder)
      (compiled : vocabulary.compile expression = .ok pattern) :
      Answers vocabulary (.decorate expression decoder) (.handedBack decoder)
  | registerRefused {expression : Text} {reason : CompileError} (decoder : Decoder)
      (refused : vocabulary.compile expression = .error reason) :
      Answers vocabulary (.register expression decoder) (.refused reason)
  | decorateRefused {expression : Text} {reason : CompileError} (decoder : Decoder)
      (refused : vocabulary.compile expression = .error reason) :
      Answers vocabulary (.decorate expression decoder) (.refused reason)
  | resolved (url : Url) (resolution : Resolution) : Answers vocabulary (.resolve url) (.resolved resolution)
  | resolvedText (t : Text) (resolution : Resolution) : Answers vocabulary (.resolveText t) (.resolved resolution)

/-- A route that a call registers has a compiled pattern. -/
theorem Request.exists_compile_of_route? {vocabulary : Vocabulary κ} {request : Request} {route : Route κ}
    (h : request.route? vocabulary = some route) :
    ∃ expression, vocabulary.compile expression = .ok route.pattern := by
  have known : ∀ (expression : Text) (decoder : Decoder),
      ((vocabulary.compile expression).toOption.map fun pattern => (⟨pattern, decoder⟩ : Route κ)) = some route →
        ∃ expression, vocabulary.compile expression = .ok route.pattern := by
    intro expression decoder h
    obtain ⟨pattern, hp, rfl⟩ := Option.map_eq_some_iff.1 h
    refine ⟨expression, ?_⟩
    cases compiled : vocabulary.compile expression with
    | ok found =>
      rw [compiled] at hp
      cases hp
      rfl
    | error reason =>
      rw [compiled] at hp
      cases hp
  cases request with
  | register expression decoder => exact known expression decoder h
  | decorate expression decoder => exact known expression decoder h
  | resolve url => cases h
  | resolveText t => cases h

namespace RouteTable

/-! ## Registering -/

theorem register_of_ok {table : RouteTable κ} {expression : Text} {pattern : Pattern κ}
    (compiled : table.vocabulary.compile expression = .ok pattern) (decoder : Decoder) :
    table.register expression decoder =
      .ok (pattern, { table with routes := table.routes ++ [{ pattern, decoder }] }) :=
  bind_of_eq_ok compiled _

theorem register_of_error {table : RouteTable κ} {expression : Text} {reason : CompileError}
    (refused : table.vocabulary.compile expression = .error reason) (decoder : Decoder) :
    table.register expression decoder = .error reason := by
  rw [register, refused]
  rfl

theorem decorate_of_ok {table : RouteTable κ} {expression : Text} {pattern : Pattern κ}
    (compiled : table.vocabulary.compile expression = .ok pattern) (decoder : Decoder) :
    table.decorate expression decoder =
      .ok (decoder, { table with routes := table.routes ++ [{ pattern, decoder }] }) :=
  bind_of_eq_ok (register_of_ok compiled decoder) _

theorem decorate_of_error {table : RouteTable κ} {expression : Text} {reason : CompileError}
    (refused : table.vocabulary.compile expression = .error reason) (decoder : Decoder) :
    table.decorate expression decoder = .error reason := by
  rw [decorate, register_of_error refused]
  rfl

/-! ## One call -/

variable [Conversions κ]

/-- A call: its reply, and the table after it. -/
def perform (table : RouteTable κ) : Request → Reply κ × RouteTable κ
  | .register expression decoder =>
    match table.register expression decoder with
    | .ok (pattern, table) => (.registered pattern, table)
    | .error reason => (.refused reason, table)
  | .decorate expression decoder =>
    match table.decorate expression decoder with
    | .ok (decoder, table) => (.handedBack decoder, table)
    | .error reason => (.refused reason, table)
  | .resolve url => (.resolved (table.resolve url), table)
  | .resolveText t => (.resolved (table.resolveText t), table)

/-- Calls one after the other: their replies, and the table after all of them. -/
def performAll (table : RouteTable κ) : List Request → List (Reply κ) × RouteTable κ
  | [] => ([], table)
  | request :: rest =>
    let (reply, next) := table.perform request
    let (replies, last) := next.performAll rest
    (reply :: replies, last)

/-- One call answers as it may, and appends the route that it registers. -/
theorem perform_spec (table : RouteTable κ) (request : Request) :
    Answers table.vocabulary request (table.perform request).1 ∧
      (table.perform request).2 =
        { table with routes := table.routes ++ (request.route? table.vocabulary).toList } ∧
      (table.perform request).1.registers = (request.route? table.vocabulary).isSome := by
  have unchanged : table = { table with routes := table.routes ++ [] } := by rw [List.append_nil]
  cases request with
  | register expression decoder =>
    cases compiled : table.vocabulary.compile expression with
    | ok pattern =>
      rw [perform, register_of_ok compiled]
      refine ⟨.registered decoder compiled, ?_, ?_⟩
      · simp [Request.route?, compiled, Except.toOption]
      · simp [Request.route?, compiled, Except.toOption, Reply.registers]
    | error reason =>
      rw [perform, register_of_error compiled]
      refine ⟨.registerRefused decoder compiled, ?_, ?_⟩
      · simp [Request.route?, compiled, Except.toOption]
      · simp [Request.route?, compiled, Except.toOption, Reply.registers]
  | decorate expression decoder =>
    cases compiled : table.vocabulary.compile expression with
    | ok pattern =>
      rw [perform, decorate_of_ok compiled]
      refine ⟨.handedBack decoder compiled, ?_, ?_⟩
      · simp [Request.route?, compiled, Except.toOption]
      · simp [Request.route?, compiled, Except.toOption, Reply.registers]
    | error reason =>
      rw [perform, decorate_of_error compiled]
      refine ⟨.decorateRefused decoder compiled, ?_, ?_⟩
      · simp [Request.route?, compiled, Except.toOption]
      · simp [Request.route?, compiled, Except.toOption, Reply.registers]
  | resolve url => exact ⟨.resolved url _, unchanged, rfl⟩
  | resolveText t => exact ⟨.resolvedText t _, unchanged, rfl⟩

/-- A call that fails leaves the table as it was. -/
theorem perform_of_failed {table : RouteTable κ} {request : Request} (failed : (table.perform request).1.Failed) :
    (table.perform request).2 = table := by
  obtain ⟨answers, after, -⟩ := table.perform_spec request
  rw [after]
  generalize (table.perform request).1 = reply at answers failed
  cases answers with
  | registered decoder compiled => exact absurd failed not_false
  | handedBack decoder compiled => exact absurd failed not_false
  | registerRefused decoder refused => simp [Request.route?, refused, Except.toOption]
  | decorateRefused decoder refused => simp [Request.route?, refused, Except.toOption]
  | resolved url resolution => simp [Request.route?]
  | resolvedText t resolution => simp [Request.route?]

/-! ## Calls in a row -/

theorem performAll_cons (table : RouteTable κ) (request : Request) (rest : List Request) :
    table.performAll (request :: rest) =
      ((table.perform request).1 :: ((table.perform request).2.performAll rest).1,
        ((table.perform request).2.performAll rest).2) := rfl

/-- Calls in two rows are answered like those in one. -/
theorem performAll_append (table : RouteTable κ) (requests more : List Request) :
    table.performAll (requests ++ more) =
      ((table.performAll requests).1 ++ ((table.performAll requests).2.performAll more).1,
        ((table.performAll requests).2.performAll more).2) := by
  induction requests generalizing table with
  | nil => rfl
  | cons request rest ih =>
    rw [List.cons_append, performAll_cons, performAll_cons, ih]
    rfl

theorem length_performAll (table : RouteTable κ) (requests : List Request) :
    (table.performAll requests).1.length = requests.length := by
  induction requests generalizing table with
  | nil => rfl
  | cons request rest ih => simp [performAll_cons, ih]

/-- Each of the calls answers as it may, and the routes that they register are appended in order. -/
theorem performAll_spec (table : RouteTable κ) (requests : List Request) :
    List.Forall₂ (Answers table.vocabulary) requests (table.performAll requests).1 ∧
      (table.performAll requests).2 =
        { table with routes := table.routes ++ requests.filterMap (Request.route? table.vocabulary) } ∧
      (requests.filterMap (Request.route? table.vocabulary)).length =
        (table.performAll requests).1.countP Reply.registers := by
  induction requests generalizing table with
  | nil => exact ⟨.nil, by simp [performAll], rfl⟩
  | cons request rest ih =>
    obtain ⟨answers, after, registers⟩ := table.perform_spec request
    have vocabulary : (table.perform request).2.vocabulary = table.vocabulary := by rw [after]
    obtain ⟨later, last, count⟩ := ih (table.perform request).2
    rw [vocabulary] at later last count
    refine ⟨.cons answers later, ?_, ?_⟩
    · rw [performAll_cons, last, after]
      cases hr : request.route? table.vocabulary <;> simp [hr]
    · rw [performAll_cons, List.countP_cons, ← count, registers]
      cases hr : request.route? table.vocabulary <;> simp [hr]

/-- A call that fails could as well not have been made: the other replies and the table at the end are the same. -/
theorem performAll_of_failed {table : RouteTable κ} {before after : List Request} {request : Request} {reply : Reply κ}
    (replied : (table.performAll (before ++ request :: after)).1[before.length]? = some reply) (failed : reply.Failed) :
    table.performAll (before ++ after) =
      ((table.performAll (before ++ request :: after)).1.eraseIdx before.length,
        (table.performAll (before ++ request :: after)).2) := by
  have length := table.length_performAll before
  rw [performAll_append, performAll_append]
  rw [performAll_append] at replied
  generalize (table.performAll before).2 = middle at replied ⊢
  rw [performAll_cons] at replied ⊢
  simp only at replied ⊢
  have own : (middle.perform request).1 = reply := by
    rw [← length, List.getElem?_append_right (Nat.le_refl _)] at replied
    simpa using replied
  have unchanged : (middle.perform request).2 = middle := perform_of_failed (own ▸ failed)
  rw [unchanged, ← length, List.eraseIdx_append_of_length_le (Nat.le_refl _)]
  simp

/-- What registrations keep is kept by every session. -/
theorem performAll_induct {p : RouteTable κ → Prop}
    (step : ∀ {table next : RouteTable κ} {expression : Text} {decoder : Decoder} {pattern : Pattern κ}, p table →
      table.register expression decoder = .ok (pattern, next) → p next)
    {table : RouteTable κ} (start : p table) (requests : List Request) : p (table.performAll requests).2 := by
  induction requests generalizing table with
  | nil => exact start
  | cons request rest ih =>
    rw [performAll_cons]
    apply ih
    cases request with
    | register expression decoder =>
      cases compiled : table.vocabulary.compile expression with
      | ok pattern =>
        rw [perform, register_of_ok compiled]
        exact step start (register_of_ok compiled decoder)
      | error reason =>
        rw [perform, register_of_error compiled]
        exact start
    | decorate expression decoder =>
      cases compiled : table.vocabulary.compile expression with
      | ok pattern =>
        rw [perform, decorate_of_ok compiled]
        exact step start (register_of_ok compiled decoder)
      | error reason =>
        rw [perform, decorate_of_error compiled]
        exact start
    | resolve url => exact start
    | resolveText t => exact start

/-! ## Routes of a session -/

/-- **Sessions.** Whatever is called on a table that has no routes yet, its routes are those of the successful
registrations in the order of the calls, one for each, and nothing else about the table changes. A call that fails could
as well not have been made. Every registered pattern has the global parameters of the vocabulary, and no name twice, so
that no parameter of its path or its query shares a name with a global one. -/
theorem performAll_of_empty (vocabulary : Vocabulary κ) (globals : GlobalDecoding) (requests : List Request) :
    let table : RouteTable κ := { vocabulary, globals }
    let replies := (table.performAll requests).1
    let last := (table.performAll requests).2
    List.Forall₂ (Answers vocabulary) requests replies ∧
      last = { table with routes := requests.filterMap (Request.route? vocabulary) } ∧
      last.routes.length = replies.countP Reply.registers ∧
      (∀ before request after reply, requests = before ++ request :: after → replies[before.length]? = some reply →
        reply.Failed → table.performAll (before ++ after) = (replies.eraseIdx before.length, last)) ∧
      ∀ route ∈ last.routes, route.pattern.globalParams = vocabulary.globals ∧ route.pattern.names.Nodup ∧
        ∀ param ∈ route.pattern.pathParams ++ route.pattern.queryParams, ∀ other ∈ vocabulary.globals,
          param.name ≠ other.name := by
  intro table replies last
  obtain ⟨answers, after, count⟩ := table.performAll_spec requests
  have routes : last = { table with routes := requests.filterMap (Request.route? vocabulary) } := after
  refine ⟨answers, routes, ?_, ?_, ?_⟩
  · rw [routes]
    exact count
  · intro before request after reply split replied failed
    have whole : table.performAll requests = table.performAll (before ++ request :: after) := by rw [split]
    show _ = ((table.performAll requests).1.eraseIdx _, (table.performAll requests).2)
    rw [whole]
    exact performAll_of_failed (whole ▸ replied) failed
  · intro route hroute
    rw [routes] at hroute
    obtain ⟨request, -, registered⟩ := List.mem_filterMap.1 hroute
    obtain ⟨expression, compiled⟩ := Request.exists_compile_of_route? registered
    exact Vocabulary.names_of_compile compiled

end RouteTable

end TypedRoutes
