import TypedRoutes.Proofs.Pattern.Grammar
import TypedRoutes.Proofs.Regex.Scanning
import TypedRoutes.Proofs.Vocabulary

/-!
# Three scans of a query

A token in a row is the only one that starts where it does (`text_append_inj`), so that the scan for a kind of tokens
finds the tokens of that kind and nothing else, in the order in which they stand (`matchedTexts_rowText`). A text that has
been found comes apart into the name and the type or value of its token, because the forms for taking it apart, tried in a
fixed order, are the forms by which it has been found (`requiredParam_text`, `optionalParam_text`, `literalParam_text`).

So the scans make the parameters that `queryParams` makes of the tokens (`queryItems_eq`).
-/

namespace TypedRoutes

set_option autoImplicit false

/-- The type that a token mentions. -/
def Pattern.Token.mention? : Pattern.Token → Option Pattern.TypeRef
  | .required _ ref => ref
  | .optional _ ref => some ref
  | .literal _ _ => none

namespace Pattern.Grammar

open Regex

/-! ## Where a token ends -/

/-- What no character of a name and no brace starts. -/
def StopsName (w : Text) : Prop := ∀ c, w.head? = some c → Text.isWord c = false ∧ c ≠ '\x7b'

/-- Where a text ends before a foreign sign, no character of a name and no brace comes next. -/
theorem stopsName_of_endsAt {sign : Char} (foreign : Text.isWord sign = false) (brace : sign ≠ '\x7b') {w : Text}
    (h : EndsAt sign w) : StopsName w := by
  intro c hc
  rcases h with rfl | rfl | h
  · cases hc
  · cases hc
    decide
  · cases h.symm.trans hc
    exact ⟨foreign, brace⟩

theorem stopsName_of_endsName {w : Text} (h : EndsName w) : StopsName w := by
  have foreign : Text.isWord '&' = false := by decide
  exact stopsName_of_endsAt foreign (by decide) h

/-- A row of characters of a kind ends where one of another kind follows. -/
theorem append_inj_of_all {p : Char → Bool} {t t' rest rest' : Text} (all : ∀ c ∈ t, p c = true)
    (all' : ∀ c ∈ t', p c = true) (stop : ∀ c, rest.head? = some c → p c = false)
    (stop' : ∀ c, rest'.head? = some c → p c = false) (h : t ++ rest = t' ++ rest') : t = t' ∧ rest = rest' := by
  have taken : ∀ {t rest : Text}, (∀ c ∈ t, p c = true) → (∀ c, rest.head? = some c → p c = false) →
      (t ++ rest).takeWhile p = t := by
    intro t rest all stop
    rw [List.takeWhile_append_of_pos all]
    cases rest with
    | nil => simp
    | cons c rest => simp [stop c rfl]
  have same : t = t' := by rw [← taken all stop, h, taken all' stop']
  subst same
  exact ⟨rfl, List.append_cancel_left h⟩

/-- The text of a token: a name, and unless it is bare something between braces. -/
theorem exists_text_eq_name {token : Token} (proper : token.WellFormed) :
    ∃ name body, isName name = true ∧ token.text = ':' :: name ++ body ∧
      (token.isBare = true ∧ body = [] ∨ ∃ inner, body = Token.braced inner ∧ '\x7d' ∉ inner) := by
  have brace : ∀ {ref : TypeRef}, isTypeWord ref.name = true → '\x7d' ∉ ref.text := fun h =>
    TypeRef.notMem_text h (by decide) (by decide) (by decide)
  cases token with
  | required name ref =>
    cases ref with
    | none => exact ⟨name, [], proper, by simp [Token.text], .inl ⟨rfl, rfl⟩⟩
    | some ref => exact ⟨name, _, proper.1, rfl, .inr ⟨_, rfl, brace proper.2⟩⟩
  | optional name ref => exact ⟨name, _, proper.1, rfl, .inr ⟨_, rfl, by simp [brace proper.2]⟩⟩
  | literal name value =>
    have plain : '\x7d' ∉ value := notMem_of_isName proper.2 (by decide)
    exact ⟨name, _, proper.1, rfl, .inr ⟨_, rfl, by simp [plain]⟩⟩

/-- **No choice of tokens**: what starts with a token starts with no other one. -/
theorem text_append_inj {token other : Token} (proper : token.WellFormed) (proper' : other.WellFormed) {w w' : Text}
    (ends : token.isBare = true → StopsName w) (ends' : other.isBare = true → StopsName w')
    (h : token.text ++ w = other.text ++ w') : token = other := by
  obtain ⟨name, body, word, written, form⟩ := exists_text_eq_name proper
  obtain ⟨name', body', word', written', form'⟩ := exists_text_eq_name proper'
  have stop : ∀ c, (body ++ w).head? = some c → Text.isWord c = false := by
    rcases form with ⟨bare, rfl⟩ | ⟨inner, rfl, -⟩
    · exact fun c hc => (ends bare c hc).1
    · rintro c ⟨⟩
      decide
  have stop' : ∀ c, (body' ++ w').head? = some c → Text.isWord c = false := by
    rcases form' with ⟨bare, rfl⟩ | ⟨inner, rfl, -⟩
    · exact fun c hc => (ends' bare c hc).1
    · rintro c ⟨⟩
      decide
  have row : name ++ (body ++ w) = name' ++ (body' ++ w') := by
    rw [written, written'] at h
    simpa using h
  obtain ⟨rfl, rest⟩ := append_inj_of_all (isName_iff.1 word).2 (isName_iff.1 word').2 stop stop' row
  -- A brace does not end a name.
  have apart : ∀ {inner v u : Text}, StopsName v → v ≠ Token.braced inner ++ u := by
    rintro inner v u stops rfl
    exact (stops '\x7b' rfl).2 rfl
  have same : body = body' := by
    rcases form with ⟨bare, rfl⟩ | ⟨inner, rfl, plain⟩ <;> rcases form' with ⟨bare', rfl⟩ | ⟨inner', rfl, plain'⟩
    · rfl
    · exact absurd rest (apart (ends bare))
    · exact absurd rest.symm (apart (ends' bare'))
    · have cut : inner ++ '\x7d' :: w = inner' ++ '\x7d' :: w' := by simpa [Token.braced] using rest
      have unlike : ∀ {t : Text}, '\x7d' ∉ t → ∀ c ∈ t, (c != '\x7d') = true := fun absent c hc =>
        bne_iff_ne.2 fun brace => absent (brace ▸ hc)
      rw [(append_inj_of_all (unlike plain) (unlike plain') (by simp) (by simp) cut).1]
  have texts : token.text = other.text := by rw [written, written', same]
  have read := Token.ofText?_text proper
  rw [texts, Token.ofText?_text proper'] at read
  exact (Option.some.inj read).symm

/-! ## What a scan finds -/

variable {kind : Token → Bool}

theorem tokensOf_moves (kind : Token → Bool) : (tokensOf kind).Moves := by
  rintro v w ⟨token, -, -, rfl, -⟩
  obtain ⟨rest, text⟩ := token.exists_text_eq
  simp [text]

/-- A token starts with a colon. -/
theorem lists_skip {t rest : Text} {texts : List Text} (plain : ':' ∉ t) (later : (tokensOf kind).Lists rest texts) :
    (tokensOf kind).Lists (t ++ rest) texts := by
  induction t with
  | nil => exact later
  | cons c t ih =>
    rw [List.mem_cons, not_or] at plain
    refine .skip ?_ (ih plain.2)
    rintro v w split ⟨token, -, -, rfl, -⟩
    obtain ⟨more, text⟩ := token.exists_text_eq
    rw [text] at split
    exact plain.1 (List.cons_eq_cons.1 split).1.symm

/-- At a token the scan takes it when it is of the kind, and nothing otherwise. -/
theorem lists_token {token : Token} (proper : token.WellFormed) {rest : Text} (ends : EndsName rest)
    {texts : List Text} (later : (tokensOf kind).Lists rest texts) :
    (tokensOf kind).Lists (token.text ++ rest) ((if kind token then [token.text] else []) ++ texts) := by
  have only : ∀ v w, token.text ++ rest = v ++ w → tokensOf kind v w → kind token = true ∧ v = token.text := by
    rintro v w split ⟨other, own, proper', rfl, ends'⟩
    obtain rfl := text_append_inj proper proper' (fun _ => stopsName_of_endsName ends)
      (fun bare => stopsName_of_endsName (ends' bare)) split
    exact ⟨own, rfl⟩
  split
  · rename_i own
    exact .take ⟨token, own, proper, rfl, fun _ => ends⟩ (fun v w split passed => (only v w split passed).2) later
  · rename_i foreign
    obtain ⟨tail, text⟩ := token.exists_text_eq
    have plain : ':' ∉ tail := by
      have inside := Token.colon_notMem_tail proper
      rwa [text] at inside
    rw [text] at only ⊢
    exact .skip (fun v w split passed => foreign (only v w split passed).1) (lists_skip plain later)

theorem map_text_filter_cons (token : Token) (tokens : List Token) :
    ((token :: tokens).filter kind).map Token.text =
      (if kind token then [token.text] else []) ++ (tokens.filter kind).map Token.text := by
  rw [List.filter_cons]
  split <;> rfl

/-- In further tokens, a scan for a kind lists the texts of the tokens of that kind. -/
theorem lists_furtherText {tokens : List Token} (all : ∀ token ∈ tokens, token.WellFormed) :
    (tokensOf kind).Lists (furtherText tokens) ((tokens.filter kind).map Token.text) := by
  induction tokens with
  | nil => exact .done
  | cons token tokens ih =>
    obtain ⟨proper, all⟩ := List.forall_mem_cons.1 all
    have sign : ':' ∉ ['&'] := by decide
    have text : furtherText (token :: tokens) = ['&'] ++ (token.text ++ furtherText tokens) := rfl
    rw [text, map_text_filter_cons]
    exact lists_skip sign (lists_token proper (endsName_furtherText tokens) (ih all))

/-- **What a scan finds** in a query: the tokens of its kind, in the order in which they stand. -/
theorem matchedTexts_rowText {r : Regex} (passes : Passes r (tokensOf kind)) {tokens : List Token} (filled : tokens ≠ [])
    (all : ∀ token ∈ tokens, token.WellFormed) :
    r.matchedTexts ('?' :: rowText tokens) = (tokens.filter kind).map Token.text := by
  refine passes.matchedTexts_eq (tokensOf_moves kind) ?_
  obtain ⟨token, tokens, rfl⟩ := List.exists_cons_of_ne_nil filled
  obtain ⟨proper, all⟩ := List.forall_mem_cons.1 all
  have sign : ':' ∉ ['?'] := by decide
  rw [rowText_cons, map_text_filter_cons]
  exact lists_skip sign (lists_token proper (endsName_furtherText tokens) (lists_furtherText all))

section Scans

variable {tokens : List Token}

theorem matchedTexts_required (filled : tokens ≠ []) (all : ∀ token ∈ tokens, token.WellFormed) :
    requiredToken.regex.matchedTexts ('?' :: rowText tokens) = (tokens.filter Token.isRequired).map Token.text :=
  matchedTexts_rowText ((passes_requiredForms 2).group 1) filled all

theorem matchedTexts_optional (filled : tokens ≠ []) (all : ∀ token ∈ tokens, token.WellFormed) :
    optionalToken.regex.matchedTexts ('?' :: rowText tokens) = (tokens.filter Token.isOptional).map Token.text :=
  matchedTexts_rowText (passes_optionalForms.group 1) filled all

theorem matchedTexts_literal (filled : tokens ≠ []) (all : ∀ token ∈ tokens, token.WellFormed) :
    literalToken.regex.matchedTexts ('?' :: rowText tokens) = (tokens.filter Token.isLiteral).map Token.text :=
  matchedTexts_rowText (passes_literalForms.group 1) filled all

end Scans

/-! ## Taking tokens apart -/

section Captures

variable {chars : CharSet} {opening closing name t : Text}

theorem groupCount_pairCapture : (pairCapture opening chars closing).groupCount = 2 := by
  rw [pairCapture, groupCount_sequence]
  simp [groupTotal, groupTotal_append, groupTotal_singles, single, oneOrMore, groupCount]

/-- **A token of the form** comes apart into its name and what stands between the two texts. -/
theorem captures_pairCapture (word : isName name = true) (filled : t ≠ []) (all : ∀ c ∈ t, chars.has c = true)
    (opens : opening ≠ []) (stop : ∀ c, opening.head? = some c → Text.isWord c = false)
    (stop' : ∀ c, closing.head? = some c → chars.has c = false) :
    (pairCapture opening chars closing).captures (':' :: name ++ (opening ++ t ++ closing)) = [name, t] := by
  let subject := ':' :: name ++ (opening ++ t ++ closing)
  let s0 : State := ⟨.start subject, List.replicate 3 (none, none)⟩
  let s1 := (s0.over [':']).captured 1 name
  let s2 := (s1.over opening).captured 2 t
  have after0 : s0.cursor.after = [':'] ++ (name ++ (opening ++ (t ++ closing))) := by
    simp [s0, Cursor.start, subject]
  have after1 : s1.cursor.after = opening ++ (t ++ closing) := State.over_after (State.over_after after0)
  have after2 : s2.cursor.after = closing := State.over_after (State.over_after after1)
  have after3 : (s2.over closing).cursor.after = [] := State.over_after (by rw [after2, List.append_nil])
  have ends : ∀ c, (opening ++ (t ++ closing)).head? = some c → wordSet.has c = false := by
    intro c hc
    rw [List.head?_append_of_ne_nil _ opens] at hc
    rw [has_wordSet, stop c hc]
  have found : matchAt (pairCapture opening chars closing) 2 false (.start subject) = some (s2.over closing) := by
    rw [matchAt, pairCapture, run_subjectStart]
    refine (run_singles_eq_some_iff (t := [':'])).2 ⟨_, after0, ?_⟩
    rw [run_sequence_cons]
    refine run_group_eq_some (isName_iff.1 word).1 (State.over_after after0)
      (fun c hc => (has_wordSet c).trans ((isName_iff.1 word).2 c hc)) ends ?_
    refine run_singles_eq_some_iff.2 ⟨_, after1, ?_⟩
    rw [run_sequence_cons]
    refine run_group_eq_some filled (State.over_after after1) all stop' ?_
    refine run_singles_eq_some_iff.2 ⟨[], by rw [after2, List.append_nil], ?_⟩
    rw [run_lastLineEnd after3]
    rfl
  have within0 : s0.cursor.Within subject 0 := within_start subject
  have within1 : s1.cursor.Within subject 0 := State.within_over (State.within_over within0 after0) (State.over_after after0)
  have first : ((s2.over closing).marks.span? 1).map (slice subject) = some name := by
    rw [State.over_marks, span?_captured_of_ne (by decide), State.over_marks]
    exact slice_captured (State.within_over within0 after0) (State.over_after after0) (by simp [s0])
  have second : ((s2.over closing).marks.span? 2).map (slice subject) = some t :=
    slice_captured (State.within_over within1 after1) (State.over_after after1)
      (by simp [s0, s1, State.captured, Marks.update])
  have counted : (pairCapture opening chars closing).groupCount = 2 := groupCount_pairCapture
  have anchored : Anchored (pairCapture opening chars closing) := anchored_sequence _
  have moved : (s2.over closing).cursor.before ≠ [] := by simp [s0, s1, s2, State.over, State.captured, Cursor.start]
  have texts := anchored.captures_eq (counted.symm ▸ found) moved
  have groups : List.range 2 = [0, 1] := rfl
  rw [counted, groups] at texts
  rw [texts, List.map_cons, List.map_cons, List.filterMap_cons_some first, List.filterMap_cons_some second]
  rfl

/-- A text without one of the signs does not come apart. -/
theorem captures_pairCapture_eq_nil {subject : Text} {sign : Char} (mem : sign ∈ opening) (absent : sign ∉ subject) :
    (pairCapture opening chars closing).captures subject = [] := by
  have anchored : Anchored (pairCapture opening chars closing) := anchored_sequence _
  apply captures_eq_nil
  intro found
  rw [anchored.hasMatch_eq] at found
  obtain ⟨x, found⟩ := Option.isSome_iff_exists.1 found
  rw [matchAt, pairCapture, run_subjectStart] at found
  obtain ⟨rest, colon, found⟩ := (run_singles_eq_some_iff (t := [':'])).1 found
  rw [run_sequence_cons] at found
  obtain ⟨name, rest', -, word, -, found⟩ := captured_of_run_group found
  obtain ⟨rest'', opened, -⟩ := run_singles_eq_some_iff.1 found
  rw [State.over_after colon] at word
  rw [State.captured_cursor, State.over_after (by rw [State.over_after colon, word])] at opened
  have whole : subject = [':'] ++ (name ++ (opening ++ rest'')) := by rw [← opened, ← word, ← colon]; rfl
  exact absent (whole ▸ by simp [mem])

/-- From a colon and a name, the name is captured. -/
theorem captures_nameCapture (word : isName name = true) : nameCapture.captures (':' :: name) = [name] := by
  let s0 : State := ⟨.start (':' :: name), List.replicate 2 (none, none)⟩
  let s1 := (s0.over [':']).captured 1 name
  have after0 : s0.cursor.after = [':'] ++ (name ++ []) := by simp [s0, Cursor.start]
  have after1 : s1.cursor.after = [] := State.over_after (State.over_after after0)
  have found : matchAt nameCapture 1 false (.start (':' :: name)) = some s1 := by
    rw [matchAt, nameCapture, run_subjectStart]
    refine (run_singles_eq_some_iff (t := [':'])).2 ⟨_, after0, ?_⟩
    rw [run_sequence_cons]
    refine run_group_eq_some (isName_iff.1 word).1 (State.over_after after0)
      (fun c hc => (has_wordSet c).trans ((isName_iff.1 word).2 c hc)) (by simp) ?_
    rw [run_lastLineEnd after1]
    rfl
  have within0 : s0.cursor.Within (':' :: name) 0 := within_start _
  have first : (s1.marks.span? 1).map (slice (':' :: name)) = some name :=
    slice_captured (State.within_over within0 after0) (State.over_after after0) (by simp [s0])
  have moved : s1.cursor.before ≠ [] := by simp [s0, s1, State.over, Cursor.start]
  have anchored : Anchored nameCapture := anchored_sequence _
  have groups : List.range nameCapture.groupCount = [0] := rfl
  rw [anchored.captures_eq found moved, groups, List.map_cons, List.filterMap_cons_some first]
  rfl

end Captures

end Pattern.Grammar

namespace Vocabulary

open Pattern (Token TypeRef rowText isName isTypeWord)
open Pattern.Grammar

variable {κ : Type} (vocabulary : Vocabulary κ) (expression : Text)

/-- A text with a name and a type comes apart by the form for it. -/
theorem captures_typed {name type opening closing : Text} (word : isName name = true) (known : isTypeWord type = true)
    (opens : opening ≠ []) (stop : ∀ c, opening.head? = some c → Text.isWord c = false)
    (stop' : ∀ c, closing.head? = some c → Pattern.isTypeChar c = false) :
    (pairCapture opening typeSet closing).captures (':' :: name ++ (opening ++ type ++ closing)) = [name, type] :=
  captures_pairCapture word (Pattern.isTypeWord_iff.1 known).1
    (fun c hc => (has_typeSet c).trans ((Pattern.isTypeWord_iff.1 known).2 c hc)) opens stop
    fun c hc => (has_typeSet c).trans (stop' c hc)

/-- A text with a name and a single type does not come apart by a form for an array. -/
theorem captures_array_eq_nil {name type closing closing' : Text} (word : isName name = true)
    (known : isTypeWord type = true) (plain : '[' ∉ closing') :
    (pairCapture ['\x7b', '['] typeSet closing).captures (':' :: name ++ (['\x7b'] ++ type ++ closing')) = [] := by
  have bracket : '[' ∈ ['\x7b', '['] := by decide
  have absent : '[' ∉ name ∧ '[' ∉ type :=
    ⟨Pattern.notMem_of_isName word (by decide), Pattern.notMem_of_isTypeWord known (by decide)⟩
  exact captures_pairCapture_eq_nil bracket (by simp [absent, plain])

/-- A token with a type comes apart by the form for arrays exactly when its type is one, and otherwise by the form for
single types. Before the closing brace stands what marks the kind of token. -/
theorem captures_ref (mark : Text) {name : Text} {ref : TypeRef} (word : isName name = true)
    (known : isTypeWord ref.name = true) (plain : '[' ∉ mark)
    (stop : ∀ c, (mark ++ ['\x7d']).head? = some c → Pattern.isTypeChar c = false) :
    (pairCapture ['\x7b', '['] typeSet (']' :: mark ++ ['\x7d'])).captures
        (':' :: name ++ Token.braced (ref.text ++ mark)) = (if ref.isArray then [name, ref.name] else []) ∧
      (ref.isArray = false → (pairCapture ['\x7b'] typeSet (mark ++ ['\x7d'])).captures
        (':' :: name ++ Token.braced (ref.text ++ mark)) = [name, ref.name]) := by
  obtain ⟨type, isArray⟩ := ref
  cases isArray with
  | true =>
    have text : ':' :: name ++ Token.braced (TypeRef.text ⟨type, true⟩ ++ mark) =
        ':' :: name ++ (['\x7b', '['] ++ type ++ (']' :: mark ++ ['\x7d'])) := by simp [TypeRef.text, Token.braced]
    rw [text]
    exact ⟨captures_typed word known (by simp) (by simp; decide) (by simp; decide), by rintro ⟨⟩⟩
  | false =>
    have text : ':' :: name ++ Token.braced (TypeRef.text ⟨type, false⟩ ++ mark) =
        ':' :: name ++ (['\x7b'] ++ type ++ (mark ++ ['\x7d'])) := by simp [TypeRef.text, Token.braced]
    rw [text]
    exact ⟨captures_array_eq_nil word known (by simp [plain]),
      fun _ => captures_typed word known (by simp) (by simp; decide) stop⟩

/-- A name and a type that were captured make a parameter of the type that they resolve to. -/
theorem typedParam_pair (variant : Text → ValueType κ → Param κ) (isArray : Bool) (name type : Text) :
    vocabulary.typedParam expression variant isArray [name, type] =
      ((vocabulary.resolve expression ⟨type, isArray⟩).map (variant name)).mapError .diagnostic := by
  have pair : unpackTwo [name, type] = .ok (name, type) := rfl
  rw [typedParam, bind_of_eq_ok pair]
  show ((vocabulary.resolve expression ⟨type, isArray⟩).mapError ScanError.diagnostic >>= fun type =>
    pure (variant name type)) = _
  cases vocabulary.resolve expression ⟨type, isArray⟩ <;> rfl

/-- The text of a required token is taken apart into its name and its type, whichever form it has. -/
theorem requiredParam_text {name : Text} {ref : Option TypeRef} (proper : (Token.required name ref).WellFormed) :
    vocabulary.requiredParam expression (Token.required name ref).text =
      ((vocabulary.resolveOrInfer expression ref).map (.required name)).mapError .diagnostic := by
  cases ref with
  | none =>
    have brace : '\x7b' ∉ name := Pattern.notMem_of_isName proper (by decide)
    have plain : '\x7b' ∉ ':' :: name := by simp [brace]
    have array : requiredArray.regex.captures (':' :: name) = [] := captures_pairCapture_eq_nil (by simp) plain
    have typed : requiredTyped.regex.captures (':' :: name) = [] := captures_pairCapture_eq_nil (by simp) plain
    have bare : requiredInferred.regex.captures (':' :: name) = [name] := captures_nameCapture proper
    rw [Token.text, requiredParam, array, typed, bare]
    rfl
  | some ref =>
    obtain ⟨array, typed⟩ := captures_ref [] proper.1 proper.2 (by simp) (by simp; decide)
    rw [List.append_nil] at array typed
    have array : requiredArray.regex.captures (Token.required name (some ref)).text = _ := array
    rw [requiredParam, array, resolveOrInfer]
    obtain ⟨type, isArray⟩ := ref
    cases isArray with
    | true => exact vocabulary.typedParam_pair expression .required true name type
    | false =>
      have typed : requiredTyped.regex.captures (Token.required name (some ⟨type, false⟩)).text = _ := typed rfl
      rw [typed]
      exact vocabulary.typedParam_pair expression .required false name type

theorem optionalParam_text {name : Text} {ref : TypeRef} (proper : (Token.optional name ref).WellFormed) :
    vocabulary.optionalParam expression (Token.optional name ref).text =
      ((vocabulary.resolve expression ref).map (.optional name)).mapError .diagnostic := by
  obtain ⟨array, typed⟩ := captures_ref ['?'] proper.1 proper.2 (by decide) (by simp; decide)
  have array : optionalArray.regex.captures (Token.optional name ref).text = _ := array
  rw [optionalParam, array]
  obtain ⟨type, isArray⟩ := ref
  cases isArray with
  | true => exact vocabulary.typedParam_pair expression .optional true name type
  | false =>
    have typed : optionalTyped.regex.captures (Token.optional name ⟨type, false⟩).text = _ := typed rfl
    rw [typed]
    exact vocabulary.typedParam_pair expression .optional false name type

theorem literalParam_text {name value : Text} (proper : (Token.literal name value).WellFormed) :
    (literalParam (Token.literal name value).text : Except ScanError (Param κ)) = .ok (.literal name value) := by
  have text : (Token.literal name value).text = ':' :: name ++ (['\x7b', '\''] ++ value ++ ['\'', '\x7d']) := by
    simp [Token.text, Token.braced]
  have word := Pattern.isName_iff.1 proper.2
  have pair : literalValue.regex.captures (Token.literal name value).text = [name, value] :=
    text ▸ captures_pairCapture proper.1 word.1 (fun c hc => (has_wordSet c).trans (word.2 c hc)) (by simp)
      (by simp; decide) (by simp [has_wordSet]; decide)
  rw [literalParam, pair]
  rfl

/-! ## The parameters of a query -/

/-- A scan makes the parameters that come from the tokens one by one, when it makes that of each token of its kind and
the others have none. -/
theorem mapM_texts {kind : Token → Bool} {f : Text → Except ScanError (Param κ)}
    (params : List Token → Except Diagnostic (List (Param κ))) (none : params [] = .ok [])
    (pass : ∀ token rest, kind token = false → params (token :: rest) = params rest)
    (take : ∀ token rest, kind token = true → token.WellFormed → ∃ param : Except Diagnostic (Param κ),
      f token.text = param.mapError .diagnostic ∧ params (token :: rest) = do return (← param) :: (← params rest))
    {tokens : List Token} (all : ∀ token ∈ tokens, token.WellFormed) :
    ((tokens.filter kind).map Token.text).mapM f = (params tokens).mapError .diagnostic := by
  induction tokens with
  | nil =>
    rw [none]
    rfl
  | cons token rest ih =>
    obtain ⟨proper, others⟩ := List.forall_mem_cons.1 all
    cases own : kind token with
    | false =>
      have foreign : ¬kind token = true := by simp [own]
      rw [List.filter_cons_of_neg foreign, ih others, pass token rest own]
    | true =>
      obtain ⟨param, made, row⟩ := take token rest own proper
      rw [List.filter_cons_of_pos own, List.map_cons, List.mapM_cons, made, ih others, row]
      cases param with
      | error d => rfl
      | ok param => cases params rest <;> rfl

/-- The texts of the required tokens make the parameters that the tokens themselves make. -/
theorem mapM_requiredParam {tokens : List Token} (all : ∀ token ∈ tokens, token.WellFormed) :
    ((tokens.filter Token.isRequired).map Token.text).mapM (vocabulary.requiredParam expression) =
      (vocabulary.requiredParams expression tokens).mapError .diagnostic := by
  refine mapM_texts (vocabulary.requiredParams expression) rfl ?_ ?_ all
  · intro token rest foreign
    cases token with
    | required name ref => cases foreign
    | optional name ref => rfl
    | literal name value => rfl
  · intro token rest own proper
    cases token with
    | required name ref =>
      refine ⟨_, requiredParam_text vocabulary expression proper, ?_⟩
      rw [requiredParams]
      cases vocabulary.resolveOrInfer expression ref <;> rfl
    | optional name ref => cases own
    | literal name value => cases own

theorem mapM_optionalParam {tokens : List Token} (all : ∀ token ∈ tokens, token.WellFormed) :
    ((tokens.filter Token.isOptional).map Token.text).mapM (vocabulary.optionalParam expression) =
      (vocabulary.optionalParams expression tokens).mapError .diagnostic := by
  refine mapM_texts (vocabulary.optionalParams expression) rfl ?_ ?_ all
  · intro token rest foreign
    cases token with
    | required name ref => rfl
    | optional name ref => cases foreign
    | literal name value => rfl
  · intro token rest own proper
    cases token with
    | required name ref => cases own
    | optional name ref =>
      refine ⟨_, optionalParam_text vocabulary expression proper, ?_⟩
      rw [optionalParams]
      cases vocabulary.resolve expression ref <;> rfl
    | literal name value => cases own

theorem mapM_literalParam {tokens : List Token} (all : ∀ token ∈ tokens, token.WellFormed) :
    ((tokens.filter Token.isLiteral).map Token.text).mapM literalParam =
      (Except.ok (literalParams tokens) : Except Diagnostic (List (Param κ))).mapError .diagnostic := by
  refine mapM_texts (fun tokens => .ok (literalParams tokens)) rfl ?_ ?_ all
  · intro token rest foreign
    cases token with
    | required name ref => rfl
    | optional name ref => rfl
    | literal name value => cases foreign
  · intro token rest own proper
    cases token with
    | required name ref => cases own
    | optional name ref => cases own
    | literal name value => exact ⟨.ok (.literal name value), literalParam_text proper, rfl⟩

/-- **The scans** make the parameters that come from the tokens one by one. -/
theorem queryItems_eq {tokens : List Token} (filled : tokens ≠ []) (all : ∀ token ∈ tokens, token.WellFormed) :
    vocabulary.queryItems expression (some ('?' :: rowText tokens)) =
      (vocabulary.queryParams expression tokens).mapError .diagnostic := by
  rw [queryItems, matchedTexts_required filled all, matchedTexts_optional filled all, matchedTexts_literal filled all,
    mapM_requiredParam vocabulary expression all, mapM_optionalParam vocabulary expression all, mapM_literalParam all,
    queryParams]
  cases vocabulary.requiredParams expression tokens with
  | error d => rfl
  | ok params => cases vocabulary.optionalParams expression tokens <;> rfl

/-- The types that a token mentions are known. -/
def Knows (token : Token) : Prop :=
  ∀ ref, token.mention? = some ref → (vocabulary.types.get? ref.name).isSome = true

theorem exists_resolve {ref : TypeRef} (known : (vocabulary.types.get? ref.name).isSome = true) :
    ∃ type, vocabulary.resolve expression ref = .ok type := by
  obtain ⟨type, found⟩ := Option.isSome_iff_exists.1 known
  refine ⟨if ref.isArray then .array type else type, resolve_eq_ok_iff.2 ?_⟩
  rw [resolve?, found, Option.map_some]

/-- The parameters are those of the tokens, one for each: of its name and kind, and of its type or value. -/
def ParamsOf (tokens : List Token) (params : List (Param κ)) : Prop :=
  List.Forall₂ (fun token param => tokenParam? vocabulary.types token = some param) tokens params

/-- A scan that makes the parameter of each token makes them in the order of the tokens. -/
theorem exists_mapM_of_tokenParam? {f : Text → Except ScanError (Param κ)} {tokens : List Token}
    (own : ∀ token ∈ tokens, ∃ param, f token.text = .ok param ∧ tokenParam? vocabulary.types token = some param) :
    ∃ params, (tokens.map Token.text).mapM f = .ok params ∧ vocabulary.ParamsOf tokens params := by
  induction tokens with
  | nil => exact ⟨[], rfl, .nil⟩
  | cons token tokens ih =>
    obtain ⟨⟨param, made, named⟩, own⟩ := List.forall_mem_cons.1 own
    obtain ⟨params, scanned, row⟩ := ih own
    refine ⟨param :: params, ?_, .cons named row⟩
    rw [List.map_cons, List.mapM_cons, made, scanned]
    rfl

/-- A required token of a known type makes a parameter, the one that is its own. -/
theorem exists_requiredParam {token : Token} (kind : token.isRequired = true) (proper : token.WellFormed)
    (known : vocabulary.Knows token) : ∃ param, vocabulary.requiredParam expression token.text = .ok param ∧
      tokenParam? vocabulary.types token = some param := by
  cases token with
  | optional name ref => cases kind
  | literal name value => cases kind
  | required name ref =>
    have typed : ∃ type, vocabulary.resolveOrInfer expression ref = .ok type := by
      cases ref with
      | none => exact ⟨_, rfl⟩
      | some ref => exact vocabulary.exists_resolve expression (known ref rfl)
    obtain ⟨type, resolved⟩ := typed
    refine ⟨.required name type, ?_, tokenParam?_required resolved⟩
    rw [requiredParam_text vocabulary expression proper, resolved]
    rfl

theorem exists_optionalParam {token : Token} (kind : token.isOptional = true) (proper : token.WellFormed)
    (known : vocabulary.Knows token) : ∃ param, vocabulary.optionalParam expression token.text = .ok param ∧
      tokenParam? vocabulary.types token = some param := by
  cases token with
  | required name ref => cases kind
  | literal name value => cases kind
  | optional name ref =>
    obtain ⟨type, resolved⟩ := vocabulary.exists_resolve expression (known ref rfl)
    refine ⟨.optional name type, ?_, tokenParam?_optional resolved⟩
    rw [optionalParam_text vocabulary expression proper, resolved]
    rfl

theorem exists_literalParam {token : Token} (kind : token.isLiteral = true) (proper : token.WellFormed) :
    ∃ param, literalParam token.text = .ok param ∧ tokenParam? vocabulary.types token = some param := by
  cases token with
  | required name ref => cases kind
  | optional name ref => cases kind
  | literal name value => exact ⟨.literal name value, literalParam_text proper, rfl⟩

/-- A token is of one kind. -/
theorem length_kinds (tokens : List Token) :
    (tokens.filter Token.isRequired).length + (tokens.filter Token.isOptional).length +
      (tokens.filter Token.isLiteral).length = tokens.length := by
  induction tokens with
  | nil => rfl
  | cons token tokens ih =>
    cases token <;> simp only [List.filter_cons, Token.isRequired, Token.isOptional, Token.isLiteral, List.length_cons,
      if_true, Bool.false_eq_true, if_false] <;> omega

/-- When the types are known, the scans make one parameter for each token, in the order of the kinds. -/
theorem exists_queryItems {tokens : List Token} (filled : tokens ≠ []) (all : ∀ token ∈ tokens, token.WellFormed)
    (known : ∀ token ∈ tokens, vocabulary.Knows token) : ∃ required optional literals,
      vocabulary.queryItems expression (some ('?' :: rowText tokens)) = .ok (required ++ optional ++ literals) ∧
      (required ++ optional ++ literals).length = tokens.length ∧
      vocabulary.ParamsOf (tokens.filter Token.isRequired) required ∧
      vocabulary.ParamsOf (tokens.filter Token.isOptional) optional ∧
      vocabulary.ParamsOf (tokens.filter Token.isLiteral) literals := by
  have of : ∀ {kind : Token → Bool}, ∀ token ∈ tokens.filter kind,
      kind token = true ∧ token.WellFormed ∧ vocabulary.Knows token := by
    intro kind token member
    obtain ⟨member, own⟩ := List.mem_filter.1 member
    exact ⟨own, all token member, known token member⟩
  obtain ⟨required, hr, fits⟩ := vocabulary.exists_mapM_of_tokenParam? fun token member =>
    vocabulary.exists_requiredParam expression (of token member).1 (of token member).2.1 (of token member).2.2
  obtain ⟨optional, ho, fits'⟩ := vocabulary.exists_mapM_of_tokenParam? fun token member =>
    vocabulary.exists_optionalParam expression (of token member).1 (of token member).2.1 (of token member).2.2
  obtain ⟨literals, hl, fits''⟩ := vocabulary.exists_mapM_of_tokenParam? fun token member =>
    vocabulary.exists_literalParam (of token member).1 (of token member).2.1
  refine ⟨required, optional, literals, ?_, ?_, fits, fits', fits''⟩
  · rw [queryItems, matchedTexts_required filled all, matchedTexts_optional filled all, matchedTexts_literal filled all,
      hr, ho, hl]
    rfl
  · rw [List.length_append, List.length_append, ← fits.length_eq, ← fits'.length_eq, ← fits''.length_eq, length_kinds]

/-- Taking the text of a token apart fails for its type only. -/
theorem ne_unpacking_of_mapError {α : Type} {x : Except ScanError α} {y : Except Diagnostic α}
    (h : x = y.mapError .diagnostic) (wanted found : Nat) : x ≠ .error (.unpacking wanted found) := by
  rw [h]
  cases y <;> simp [Except.mapError]

/-- The texts that a scan finds come apart, whatever the types. -/
theorem unpacks_of_mem {tokens : List Token} (all : ∀ token ∈ tokens, token.WellFormed) (wanted found : Nat) :
    (∀ t ∈ (tokens.filter Token.isRequired).map Token.text,
      vocabulary.requiredParam expression t ≠ .error (.unpacking wanted found)) ∧
    (∀ t ∈ (tokens.filter Token.isOptional).map Token.text,
      vocabulary.optionalParam expression t ≠ .error (.unpacking wanted found)) ∧
    ∀ t ∈ (tokens.filter Token.isLiteral).map Token.text,
      (literalParam t : Except ScanError (Param κ)) ≠ .error (.unpacking wanted found) := by
  simp only [List.mem_map, List.mem_filter]
  refine ⟨?_, ?_, ?_⟩
  · rintro _ ⟨token, ⟨member, kind⟩, rfl⟩
    cases token with
    | required name ref => exact ne_unpacking_of_mapError (requiredParam_text _ _ (all _ member)) _ _
    | optional name ref => cases kind
    | literal name value => cases kind
  · rintro _ ⟨token, ⟨member, kind⟩, rfl⟩
    cases token with
    | required name ref => cases kind
    | optional name ref => exact ne_unpacking_of_mapError (optionalParam_text _ _ (all _ member)) _ _
    | literal name value => cases kind
  · rintro _ ⟨token, ⟨member, kind⟩, rfl⟩
    cases token with
    | required name ref => cases kind
    | optional name ref => cases kind
    | literal name value =>
      rw [literalParam_text (all _ member)]
      simp

/-- **No token is lost or taken twice.** The query part of an expression is a question mark and a row of tokens. The scan
for each kind finds the tokens of that kind in the order of the text, and what it finds always comes apart into as many
texts as wanted. When the types are known, the scans make one parameter for each token, with its name, its kind, and its
type or value: those of the required tokens, of the optional ones and of the literal ones, each in the order of the
text. -/
theorem queryItems_spec {path query : Text} (split : extract expression = .ok (path, some query)) :
    ∃ tokens : List Token, tokens ≠ [] ∧ (∀ token ∈ tokens, token.WellFormed) ∧ query = '?' :: rowText tokens ∧
      requiredToken.regex.matchedTexts query = (tokens.filter Token.isRequired).map Token.text ∧
      optionalToken.regex.matchedTexts query = (tokens.filter Token.isOptional).map Token.text ∧
      literalToken.regex.matchedTexts query = (tokens.filter Token.isLiteral).map Token.text ∧
      (∀ wanted found,
        (∀ t ∈ requiredToken.regex.matchedTexts query,
          vocabulary.requiredParam expression t ≠ .error (.unpacking wanted found)) ∧
        (∀ t ∈ optionalToken.regex.matchedTexts query,
          vocabulary.optionalParam expression t ≠ .error (.unpacking wanted found)) ∧
        ∀ t ∈ literalToken.regex.matchedTexts query,
          (literalParam t : Except ScanError (Param κ)) ≠ .error (.unpacking wanted found)) ∧
      Pattern.splitExpression expression = (path, some tokens) ∧
      vocabulary.queryItems expression (some query) = (vocabulary.queryParams expression tokens).mapError .diagnostic ∧
      ((∀ token ∈ tokens, vocabulary.Knows token) → ∃ required optional literals,
        vocabulary.queryItems expression (some query) = .ok (required ++ optional ++ literals) ∧
        (required ++ optional ++ literals).length = tokens.length ∧
        vocabulary.ParamsOf (tokens.filter Token.isRequired) required ∧
        vocabulary.ParamsOf (tokens.filter Token.isOptional) optional ∧
        vocabulary.ParamsOf (tokens.filter Token.isLiteral) literals) := by
  obtain ⟨tokens, read, rfl⟩ := exists_tokens_of_extract split
  obtain ⟨filled, all, -⟩ := Pattern.Grammar.splitExpression_eq_some read
  refine ⟨tokens, filled, all, rfl, matchedTexts_required filled all, matchedTexts_optional filled all,
    matchedTexts_literal filled all, fun wanted found => ?_, read, vocabulary.queryItems_eq expression filled all,
    vocabulary.exists_queryItems expression filled all⟩
  rw [matchedTexts_required filled all, matchedTexts_optional filled all, matchedTexts_literal filled all]
  exact vocabulary.unpacks_of_mem expression all wanted found

/-- The required parameters come first, then the optional one, and then the literal one. -/
theorem queryItems_feed :
    let query := "?:page\x7bint?\x7d&:kind\x7b'new'\x7d&:ids\x7b[int]\x7d&:q".toList
    extract ("/feed".toList ++ query) = .ok ("/feed".toList, some query) ∧
      ({} : Vocabulary Empty).queryItems ("/feed".toList ++ query) (some query) =
        .ok [.required "ids".toList (.array .int), .required "q".toList .string, .optional "page".toList .int,
          .literal "kind".toList "new".toList] := by
  intro query
  have here : QueryAt ("/feed".toList ++ query) 5 :=
    ⟨[.optional "page".toList { name := "int".toList }, .literal "kind".toList "new".toList,
      .required "ids".toList (some { name := "int".toList, isArray := true }), .required "q".toList none],
      by simp, by decide, rfl⟩
  have split : extract ("/feed".toList ++ query) = .ok ("/feed".toList, some query) :=
    extract_eq_ok_iff.2 ⟨rfl, (cut_eq_iff (by decide) _ _).2 (.inl ⟨5, here, rfl, rfl⟩)⟩
  obtain ⟨tokens, -, -, -, -, -, -, -, read, -, made⟩ := queryItems_spec ({} : Vocabulary Empty) _ split
  have written : Pattern.splitExpression ("/feed".toList ++ query) = ("/feed".toList, some
    [.optional "page".toList { name := "int".toList }, .literal "kind".toList "new".toList,
      .required "ids".toList (some { name := "int".toList, isArray := true }), .required "q".toList none]) := rfl
  cases read.symm.trans written
  obtain ⟨required, optional, literals, scanned, -, fits, fits', fits''⟩ := made (by
    simp only [List.forall_mem_cons]
    exact ⟨by rintro _ ⟨⟩; rfl, nofun, by rintro _ ⟨⟩; rfl, nofun, nofun⟩)
  rcases fits with _ | ⟨⟨⟩, _ | ⟨⟨⟩, _ | _⟩⟩
  rcases fits' with _ | ⟨⟨⟩, _ | _⟩
  rcases fits'' with _ | ⟨⟨⟩, _ | _⟩
  exact ⟨split, scanned⟩

end Vocabulary

end TypedRoutes
