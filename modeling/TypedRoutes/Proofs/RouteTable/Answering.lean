import TypedRoutes.Proofs.RouteTable.Resolution
import TypedRoutes.Proofs.Url.Authority

/-!
# Texts that are answered

When no conversion of the vocabulary fails and no decoder is interrupted, resolving a URL has an answer, be it that
there is no destination (`exists_resolve_of_calm`). The same holds for texts that are URLs. For other texts there is none:
a resolution of a text, like the match of a text with one pattern, fails exactly when the authority of the text is
refused (`resolveText_eq_error_iff`).
-/

namespace TypedRoutes

set_option autoImplicit false

/-- Whatever the decoder is given, it accepts or rejects it. -/
def Decoder.Calm (decoder : Decoder) : Prop := ∀ params cause, decoder params ≠ .interrupted cause

namespace RouteTable

variable {κ : Type}

/-- No decoder of the table is ever interrupted. -/
structure Calm (table : RouteTable κ) : Prop where
  routes : ∀ route ∈ table.routes, Decoder.Calm route.decoder
  globals : ∀ decoder, table.globals.decoder? = some decoder → Decoder.Calm decoder

variable [Conversions κ] {table : RouteTable κ}

/-- In a calm table no route is interrupted. -/
theorem Calm.not_interrupts (calm : table.Calm) {route : Route κ} (hr : route ∈ table.routes) {subject : Subject}
    {cause : Text} : ¬ Interrupts table.globals subject route cause := by
  intro interrupts
  cases interrupts with
  | route _ interrupted => exact calm.routes route hr _ _ interrupted
  | globals _ _ _ interrupted =>
    obtain ⟨decoder, configured, interrupted⟩ := Option.map_eq_some_iff.1 interrupted
    exact calm.globals decoder configured _ _ interrupted

/-- Every URL is answered. -/
theorem exists_resolve_of_calm [CharacterNames] (reached : table.Reached) (total : table.vocabulary.types.Total)
    (calm : table.Calm) (url : Url) : ∃ d, (table.resolve url).outcome = .ok d := by
  have standing : ∀ route ∈ table.routes, Stands table.globals (.ofUrl url) route :=
    fun route hr => reached.standing total _ hr
  cases settled : (table.resolve url).outcome with
  | ok d => exact ⟨d, rfl⟩
  | error e =>
    obtain ⟨before, route, after, split, -, own, verdict⟩ := first_of_outcome standing settled (by simp)
    obtain ⟨cause, -, interrupts⟩ := interrupts_of_verdict? own verdict
    have hr : route ∈ table.routes := by simp [split]
    exact absurd interrupts (calm.not_interrupts hr)

/-- **Only malformed texts are not answered.** When no conversion fails and no decoder is interrupted, resolving a text
fails exactly when the authority of the text is refused, and it fails with the reason of that. Matching a text with a
compiled pattern fails in no other case either. A text without brackets and without characters that could be taken for
delimiters is always answered. -/
theorem resolveText_eq_error_iff [CharacterNames] (reached : table.Reached) (total : table.vocabulary.types.Total)
    (calm : table.Calm) (t : Text) :
    let refused (reason : Url.Malformed) := Url.Authority.check (Url.authority t) = .error reason
    (∀ e, (table.resolveText t).outcome = .error e ↔ ∃ reason, e = .malformed reason ∧ refused reason) ∧
      (∀ vocabulary : Vocabulary κ, vocabulary.types.Total → ∀ expression pattern,
        vocabulary.compile expression = .ok pattern →
          (∃ reason, Url.parse t = .error reason ∧ refused reason) ∨
            ∃ url result, Url.parse t = .ok url ∧ (Subject.ofUrl url).matchPattern pattern = .ok result) ∧
      (Url.Harmless t → ∃ d, (table.resolveText t).outcome = .ok d) := by
  intro refused
  have answered {url : Url} (parsed : Url.parse t = .ok url) : ∃ d, (table.resolveText t).outcome = .ok d := by
    rw [resolveText, parsed]
    exact exists_resolve_of_calm reached total calm url
  refine ⟨fun e => ⟨fun failed => ?_, ?_⟩, fun vocabulary total expression pattern compiled => ?_, fun harmless => ?_⟩
  · cases parsed : Url.parse t with
    | ok url =>
      obtain ⟨d, settled⟩ := answered parsed
      cases settled.symm.trans failed
    | error reason =>
      rw [resolveText, parsed] at failed
      cases failed
      exact ⟨reason, rfl, Url.parse_eq_error_iff.1 parsed⟩
  · rintro ⟨reason, rfl, refused⟩
    rw [resolveText, Url.parse_eq_error_iff.2 refused]
  · cases parsed : Url.parse t with
    | ok url =>
      obtain ⟨result, matched⟩ := Subject.exists_matchPattern total compiled (Subject.ofUrl url)
      exact .inr ⟨url, result, rfl, matched⟩
    | error reason => exact .inl ⟨reason, rfl, Url.parse_eq_error_iff.1 parsed⟩
  · obtain ⟨url, parsed⟩ := Url.exists_parse_of_harmless harmless
    exact answered parsed

attribute [local instance] CharacterNames.empty in
/-- A table with a decoder that rejects everything, a path that makes no regular expression, and global parameters, which
resolves a text with malformed escapes. -/
theorem resolveText_eq_error_iff_escapes :
    letI : Conversions Empty := ⟨fun function _ => nomatch function⟩
    ∃ table : RouteTable Empty, table.Reached ∧ table.vocabulary.types.Total ∧ table.Calm ∧
      (table.routes.map fun route => route.pattern.regex.isSome) = [true, false, true] ∧
      ∃ d, (table.resolveText "//h%zz/a/12%?g=%e2%8&x".toList).outcome = .ok d := by
  let _ : Conversions Empty := ⟨fun function _ => nomatch function⟩
  let reject : Decoder := fun _ => .rejected
  let keep : Decoder := fun params => .value (.map params)
  let empty : RouteTable Empty :=
    { vocabulary := { globals := [.optional "g".toList .string] }, globals := .decoded keep }
  have made : ofTypes .default (some ([.text "g".toList], keep)) = .ok empty := rfl
  let table := (empty.performAll [.register "/a/:id".toList reject, .register "/(".toList keep,
    .register "/a/.*".toList keep]).2
  have reached : table.Reached := Reached.performAll (.ofTypes made) _
  have total : table.vocabulary.types.Total := TypeTable.default_total
  obtain ⟨first, second, third, routes⟩ : ∃ first second third,
    table.routes = [⟨first, reject⟩, ⟨second, keep⟩, ⟨third, keep⟩] := ⟨_, _, _, rfl⟩
  have rejects : Decoder.Calm reject := nofun
  have keeps : Decoder.Calm keep := nofun
  have calm : table.Calm := by
    constructor
    · rw [routes]
      simp [rejects, keeps]
    · rintro decoder ⟨⟩
      exact keeps
  have harmless : Url.Harmless "//h%zz/a/12%?g=%e2%8&x".toList := by decide
  exact ⟨table, reached, total, calm, rfl,
    (resolveText_eq_error_iff reached total calm _).2.2 harmless⟩

attribute [local instance] CharacterNames.empty in
/-- Half a pair of brackets in the authority: a table whose only decoder accepts everything fails on the text, and so
does the match with its pattern. -/
theorem resolveText_of_open_bracket :
    letI : Conversions Empty := ⟨fun function _ => nomatch function⟩
    ∃ (table : RouteTable Empty) (pattern : Pattern Empty),
      table.Reached ∧ table.vocabulary.types.custom = [] ∧ table.Calm ∧
        table.routes.map Route.pattern = [pattern] ∧ table.vocabulary.compile "/a".toList = .ok pattern ∧
        Url.parse "http://[x/b".toList = .error .brackets ∧
        (table.resolveText "http://[x/b".toList).outcome = .error (.malformed .brackets) := by
  let _ : Conversions Empty := ⟨fun function _ => nomatch function⟩
  let keep : Decoder := fun params => .value (.map params)
  let empty : RouteTable Empty := {}
  have made : ofTypes .default none = .ok empty := rfl
  obtain ⟨pattern, compiled⟩ : ∃ pattern, empty.vocabulary.compile "/a".toList = .ok pattern := ⟨_, rfl⟩
  let table : RouteTable Empty := { empty with routes := [{ pattern, decoder := keep }] }
  have calm : table.Calm := by
    constructor
    · simp [table, Decoder.Calm, keep]
    · nofun
  have parsed : Url.parse "http://[x/b".toList = .error .brackets := by rfl
  exact ⟨table, pattern, .register (.ofTypes made) (register_of_ok compiled keep), rfl, calm, rfl, compiled, parsed, by
    rw [resolveText, parsed]⟩

end RouteTable

end TypedRoutes
