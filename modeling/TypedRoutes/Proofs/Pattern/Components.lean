import TypedRoutes.Proofs.Pattern.Scanning

/-!
# The scan of a path

A token of a path stands behind a slash and reaches to the next one or to the end, so that it is a whole component
(`scans_component`). What the scan for tokens passes over and what it finds can be read off the components one by one
(`scans_path`): the parameters that it makes are those of the components (`pathItems_eq`), and putting a group in place of
each text that it finds gives the components joined again (`capturedPath_eq`).
-/

namespace TypedRoutes

set_option autoImplicit false

namespace Pattern.Grammar

open Regex

/-! ## Tokens of paths -/

/-- The token with a name and the name of a type, where there is one. -/
def namedToken (name : Text) (type : Option Text) : Token := .required name (type.map fun name => { name })

/-- The token that a text is, when a path knows tokens of its form. -/
def pathToken? (t : Text) : Option Token := (Component.token? t).map fun (name, type) => namedToken name type

/-- A component is read as a token exactly when it is the text of a token with a name and, if there is one, a type. -/
theorem token?_eq_some_iff {t name : Text} {type : Option Text} :
    Component.token? t = some (name, type) ↔ (namedToken name type).WellFormed ∧ t = (namedToken name type).text := by
  constructor
  · intro h
    unfold Component.token? at h
    split at h
    · rename_i read
      cases h
      exact Token.ofText?_eq_some read
    · rename_i ref read
      split at h
      · cases h
      · rename_i single
        cases h
        obtain ⟨word, isArray⟩ := ref
        obtain rfl : isArray = false := by simpa using single
        exact Token.ofText?_eq_some read
    · cases h
  · rintro ⟨proper, rfl⟩
    rw [Component.token?, Token.ofText?_text proper]
    cases type <;> rfl

/-- The tokens of a path: a colon and a name, and the name of a type between braces or nothing behind it. -/
theorem pathToken?_eq_some_iff {t : Text} {token : Token} :
    pathToken? t = some token ↔
      (∃ name, isName name = true ∧ t = ':' :: name ∧ token = .required name none) ∨
        ∃ name type, isName name = true ∧ isTypeWord type = true ∧ t = ':' :: name ++ Token.braced type ∧
          token = .required name (some { name := type }) := by
  rw [pathToken?, Option.map_eq_some_iff]
  constructor
  · rintro ⟨⟨name, type⟩, read, rfl⟩
    obtain ⟨proper, rfl⟩ := token?_eq_some_iff.1 read
    cases type with
    | none => exact .inl ⟨name, proper, rfl, rfl⟩
    | some type => exact .inr ⟨name, type, proper.1, proper.2, rfl, rfl⟩
  · rintro (⟨name, word, rfl, rfl⟩ | ⟨name, type, word, known, rfl, rfl⟩)
    · exact ⟨(name, none), token?_eq_some_iff.2 ⟨word, rfl⟩, rfl⟩
    · exact ⟨(name, some type), token?_eq_some_iff.2 ⟨⟨word, known⟩, rfl⟩, rfl⟩

theorem wellFormed_of_pathToken? {t : Text} {token : Token} (h : pathToken? t = some token) :
    token.WellFormed ∧ token.isRequired = true := by
  rcases pathToken?_eq_some_iff.1 h with ⟨name, word, -, rfl⟩ | ⟨name, type, word, known, -, rfl⟩
  · exact ⟨word, rfl⟩
  · exact ⟨⟨word, known⟩, rfl⟩

/-- The texts of the tokens of a path, each where a component ends. -/
def pathText : Language := fun v w => (∃ name type, Component.token? v = some (name, type)) ∧ EndsAt '/' w

/-- The same texts behind a slash. -/
def pathTextAt (u : Text) : Language := fun v w => u.getLast? = some '/' ∧ pathText v w

/-- A token of a path has characters, so that a scan moves on behind it. -/
theorem pathTextAt_moves (u : Text) : (pathTextAt u).Moves := by
  rintro v w ⟨-, ⟨name, type, read⟩, -⟩
  obtain ⟨rest, text⟩ := (namedToken name type).exists_text_eq
  simp [(token?_eq_some_iff.1 read).2, text]

/-- Neither a slash nor a newline stands in a token. -/
theorem notMem_of_token? {t name : Text} {type : Option Text} (read : Component.token? t = some (name, type)) :
    '/' ∉ t ∧ '\n' ∉ t := by
  obtain ⟨proper, rfl⟩ := token?_eq_some_iff.1 read
  exact ⟨Token.notMem_text proper (by decide) (by decide) (by decide),
    Token.notMem_text proper (by decide) (by decide) (by decide)⟩

/-- The forms for a component pass exactly the texts that are read as tokens. -/
theorem passes_pathForms (index : Nat) :
    Passes (choice (pathForms index)) fun v _ => ∃ name type, Component.token? v = some (name, type) := by
  have typed := passes_named ((passes_body passes_typeWord [] []).group index).one
  have bare := passes_named passes_sequence_nil
  refine (typed.alt bare).congr fun v w => ?_
  simp only [token?_eq_some_iff]
  constructor
  · rintro (⟨name, _, word, rfl, t, ht, rfl⟩ | ⟨name, _, word, rfl, rfl⟩)
    · exact ⟨name, some t, ⟨word, ht⟩, by simp [namedToken, Token.text, TypeRef.text]⟩
    · exact ⟨name, none, word, by simp [namedToken, Token.text]⟩
  · rintro ⟨name, type, proper, rfl⟩
    cases type with
    | none => exact .inr ⟨name, [], proper, by simp [namedToken, Token.text], rfl⟩
    | some type => exact .inl ⟨name, _, proper.1, rfl, type, proper.2, by simp [TypeRef.text]⟩

/-- The tokens that the expression for them finds stand behind a slash. -/
theorem finds_pathToken : Finds pathToken.regex pathTextAt := by
  have ends := (((passes_single '/').alt passes_lastLineEnd).group 4).ahead
  refine Passes.behind ((((passes_pathForms 3).group 2).cons ends.one).congr fun v w => ?_) '/' 1
  constructor
  · rintro ⟨a, b, rfl, token, rfl, ends⟩
    rw [List.append_nil]
    exact ⟨token, (exists_sign_or_end_iff '/' w).1 ends⟩
  · rintro ⟨token, ends⟩
    exact ⟨v, [], (List.append_nil v).symm, token, rfl, (exists_sign_or_end_iff '/' w).2 ends⟩

/-! ## Components -/

/-- What the scan of a path makes of a component. -/
def componentItems : Component → List (Char ⊕ Text)
  | .token name type tail => .inr (namedToken name type).text :: tail.map .inl
  | .verbatim t => t.map .inl

/-- The rest of a path is read as a component and what follows it: a token that ends its component and no more than a
newline, or a text that no token starts. -/
inductive Reads (after : Text) : Text → Component → Prop where
  | token {name : Text} {type : Option Text} {tail : Text} (proper : (namedToken name type).WellFormed)
      (plain : '/' ∉ tail) (ends : EndsAt '/' (tail ++ after)) :
      Reads after ((namedToken name type).text ++ tail) (.token name type tail)
  | verbatim {t : Text} (plain : '/' ∉ t) (none : ∀ v w, t ++ after = v ++ w → ¬ pathText v w) :
      Reads after t (.verbatim t)

/-- No token starts inside a component: a text without slashes is passed over where no slash stands before it. -/
theorem scans_inside {u t after : Text} {items : List (Char ⊕ Text)} (behind : u.getLast? ≠ some '/') (plain : '/' ∉ t)
    (later : Scans pathTextAt (u ++ t) after items) :
    Scans pathTextAt u (t ++ after) (t.map .inl ++ items) := by
  induction t generalizing u with
  | nil => rwa [List.append_nil] at later
  | cons c t ih =>
    rw [List.mem_cons, not_or] at plain
    refine .skip (fun v w _ passed => behind passed.1) (ih ?_ plain.2 ?_)
    · rw [List.getLast?_concat, ne_eq, Option.some.injEq]
      exact Ne.symm plain.1
    · rwa [List.append_assoc]

/-- **One component**: behind a slash the scan takes it when it is a token, and passes over all of it otherwise. -/
theorem scans_component {u t after : Text} {component : Component} (reads : Reads after t component)
    (slash : u.getLast? = some '/') {items : List (Char ⊕ Text)}
    (later : Scans pathTextAt (u ++ t) after items) :
    Scans pathTextAt u (t ++ after) (componentItems component ++ items) := by
  cases reads with
  | @token name type tail proper plain ends =>
    have here : pathText (namedToken name type).text (tail ++ after) :=
      ⟨⟨name, type, token?_eq_some_iff.2 ⟨proper, rfl⟩⟩, ends⟩
    have stops : ∀ {w}, EndsAt '/' w → StopsName w := fun h => by
      have foreign : Text.isWord '/' = false := by decide
      exact stopsName_of_endsAt foreign (by decide) h
    rw [List.append_assoc]
    refine .take ⟨slash, here⟩ ?_ (scans_inside ?_ plain (by rwa [List.append_assoc]))
    · rintro v w split ⟨-, ⟨name', type', read⟩, ends'⟩
      obtain ⟨proper', rfl⟩ := token?_eq_some_iff.1 read
      rw [text_append_inj proper proper' (fun _ => stops ends) (fun _ => stops ends') split]
    · obtain ⟨rest, text⟩ := (namedToken name type).exists_text_eq
      have inside := (notMem_of_token? (token?_eq_some_iff.2 ⟨proper, rfl⟩)).1
      rw [List.getLast?_append_of_ne_nil _ (by simp [text])]
      exact getLast?_ne_of_notMem inside
  | verbatim plain none =>
    cases t with
    | nil => rwa [List.append_nil] at later
    | cons c t =>
      rw [List.mem_cons, not_or] at plain
      refine .skip (fun v w split passed => none v w split passed.2) (scans_inside ?_ plain.2 (by rwa [List.append_assoc]))
      rw [List.getLast?_concat, ne_eq, Option.some.injEq]
      exact Ne.symm plain.1

/-- A component with another one behind it. -/
theorem reads_ofText {t : Text} (plain : '/' ∉ t) (rest : Text) : Reads ('/' :: rest) t (.ofText t) := by
  unfold Component.ofText
  split
  · rename_i name type read
    obtain ⟨proper, rfl⟩ := token?_eq_some_iff.1 read
    have reads : Reads ('/' :: rest) ((namedToken name type).text ++ []) (.token name type []) :=
      .token proper (by simp) (.inr (.inr rfl))
    rwa [List.append_nil] at reads
  · rename_i none
    refine .verbatim plain ?_
    rintro v w split ⟨⟨name, type, read⟩, ends⟩
    have inside := (notMem_of_token? read).1
    have slash : '/' ∈ v ++ w := split ▸ by simp
    rcases ends with rfl | rfl | follows
    · exact inside (by simpa using slash)
    · exact inside (by simpa using slash)
    · obtain ⟨more, rfl⟩ := List.head?_eq_some_iff.1 follows
      have unlike : ∀ {t : Text}, '/' ∉ t → ∀ c ∈ t, (c != '/') = true := fun absent c hc =>
        bne_iff_ne.2 fun same => absent (same ▸ hc)
      rw [(append_inj_of_all (unlike plain) (unlike inside) (by simp) (by simp) split).1, read] at none
      cases none

/-- The last component. -/
theorem reads_ofLastText {t : Text} (plain : '/' ∉ t) : Reads [] t (.ofLastText t) := by
  unfold Component.ofLastText
  split
  · rename_i name type read
    obtain ⟨proper, text⟩ := token?_eq_some_iff.1 read
    obtain ⟨tail, whole, rest, last⟩ := dropFinalNewline_append t
    have ends : EndsAt '/' (tail ++ []) := by
      rw [List.append_nil]
      exact last.elim .inl fun h => .inr (.inl h)
    have absent : '/' ∉ tail := fun slash => plain (whole ▸ List.mem_append_right _ slash)
    have reads := Reads.token proper absent ends
    rw [rest]
    rwa [← text, ← whole] at reads
  · rename_i none
    refine .verbatim plain ?_
    rintro v w split ⟨⟨name, type, read⟩, ends⟩
    rw [List.append_nil] at split
    have line : dropFinalNewline t = v := by
      rcases ends with rfl | rfl | follows
      · rw [List.append_nil] at split
        rw [split, dropFinalNewline_of_notMem (notMem_of_token? read).2]
      · simp [split, dropFinalNewline]
      · exact absurd (split ▸ List.mem_append_right v (List.mem_of_mem_head? follows)) plain
    rw [line, read] at none
    cases none

/-! ## Paths -/

/-- No token starts with a slash. -/
theorem scans_slash {u rest : Text} {items : List (Char ⊕ Text)} (later : Scans pathTextAt (u ++ ['/']) rest items) :
    Scans pathTextAt u ('/' :: rest) (.inl '/' :: items) := by
  refine .skip ?_ later
  rintro v w split ⟨-, ⟨name, type, read⟩, -⟩
  obtain ⟨more, text⟩ := (namedToken name type).exists_text_eq
  rw [(token?_eq_some_iff.1 read).2, text] at split
  cases split

/-- The components of a path with a slash before each of them. -/
theorem scans_ofTexts {pieces : List Text} (plain : ∀ t ∈ pieces, '/' ∉ t) (u : Text) :
    Scans pathTextAt u (pieces.flatMap ('/' :: ·))
      ((Component.ofTexts pieces).flatMap fun component => .inl '/' :: componentItems component) := by
  induction pieces using Component.ofTexts.induct generalizing u with
  | case1 => exact .done u
  | case2 t =>
    have scans := scans_component (reads_ofLastText (plain t (by simp))) (List.getLast?_concat (l := u)) (.done _)
    simpa [Component.ofTexts] using scans_slash scans
  | case3 t rest filled ih =>
    obtain ⟨next, others, rfl⟩ := List.exists_cons_of_ne_nil filled
    obtain ⟨absent, plain⟩ := List.forall_mem_cons.1 plain
    have scans := scans_component (reads_ofText absent (next ++ others.flatMap ('/' :: ·)))
      (List.getLast?_concat (l := u)) (ih plain _)
    simpa [Component.ofTexts] using scans_slash scans

/-- What the scan of a path makes of its components. -/
def scanItems : List Component → List (Char ⊕ Text)
  | [] => []
  | component :: rest => componentItems component ++ rest.flatMap fun component => .inl '/' :: componentItems component

/-- **The scan of a path** goes through its components, from the first slash on. -/
theorem scans_path (path : Text) : Scans pathTextAt [] path (scanItems (components path)) := by
  obtain ⟨first, rest, pieces⟩ := List.exists_cons_of_ne_nil (Text.splitOn_ne_nil '/' path)
  have plain : ∀ t ∈ first :: rest, '/' ∉ t := fun t ht => Text.notMem_of_mem_splitOn (pieces ▸ ht)
  obtain ⟨absent, plain⟩ := List.forall_mem_cons.1 plain
  have joined := Text.join_splitOn '/' path
  rw [pieces, Text.join_cons] at joined
  rw [components, pieces, ← joined]
  exact scans_inside (by simp) absent (scans_ofTexts plain _)

/-- The token of a component. -/
def componentToken? : Component → Option Token
  | .token name type _ => some (namedToken name type)
  | .verbatim _ => none

@[simp] theorem foundTexts_componentItems (component : Component) :
    foundTexts (componentItems component) = ((componentToken? component).map Token.text).toList := by
  cases component <;> simp [componentItems, componentToken?]

@[simp] theorem withReplaced_componentItems (component : Component) :
    withReplaced Vocabulary.componentGroup (componentItems component) = Vocabulary.componentText component := by
  cases component <;> simp [componentItems, Vocabulary.componentText]

/-- A scan of the components finds the texts of their tokens. -/
theorem foundTexts_scanItems (components : List Component) :
    foundTexts (scanItems components) = (components.filterMap componentToken?).map Token.text := by
  have slashes : ∀ rest : List Component, foundTexts (rest.flatMap fun component => .inl '/' :: componentItems component) =
      rest.flatMap fun component => ((componentToken? component).map Token.text).toList := by
    intro rest
    induction rest with
    | nil => rfl
    | cons component rest ih =>
      simp only [List.flatMap_cons, foundTexts_append, foundTexts_passed, foundTexts_componentItems, ih]
  rw [List.map_filterMap, List.filterMap_eq_flatMap_toList]
  cases components with
  | nil => rfl
  | cons component rest => rw [scanItems, foundTexts_append, slashes, foundTexts_componentItems, List.flatMap_cons]

/-- A scan of the components that puts a group in place of each token leaves the text for the components. -/
theorem withReplaced_scanItems (components : List Component) :
    withReplaced Vocabulary.componentGroup (scanItems components) =
      Text.join ['/'] (components.map Vocabulary.componentText) := by
  have slashes : ∀ rest : List Component, withReplaced Vocabulary.componentGroup
      (rest.flatMap fun component => .inl '/' :: componentItems component) =
        (rest.map Vocabulary.componentText).flatMap ('/' :: ·) := by
    intro rest
    induction rest with
    | nil => rfl
    | cons component rest ih =>
      simp only [List.map_cons, List.flatMap_cons, withReplaced_append, withReplaced_passed,
        withReplaced_componentItems, ih]
  cases components with
  | nil => rfl
  | cons component rest =>
    rw [scanItems, withReplaced_append, slashes, withReplaced_componentItems, List.map_cons, Text.join_cons]

/-- The texts that are found in a path are those of the tokens among its components. -/
theorem matchedTexts_pathToken (path : Text) :
    pathToken.regex.matchedTexts path = ((components path).filterMap componentToken?).map Token.text := by
  rw [finds_pathToken.matchedTexts_eq pathTextAt_moves (scans_path path), foundTexts_scanItems]

/-- Replacing the tokens in a path by groups gives the text for its components. -/
theorem replaceAll_pathToken (path : Text) :
    pathToken.regex.replaceAll Vocabulary.componentGroup path =
      Text.join ['/'] ((components path).map Vocabulary.componentText) := by
  rw [finds_pathToken.replaceAll_eq pathTextAt_moves _ (scans_path path), withReplaced_scanItems]

theorem componentToken?_ofText (t : Text) : componentToken? (.ofText t) = pathToken? t := by
  unfold Component.ofText pathToken?
  cases Component.token? t <;> rfl

theorem componentToken?_ofLastText (t : Text) : componentToken? (.ofLastText t) = pathToken? (dropFinalNewline t) := by
  unfold Component.ofLastText pathToken?
  cases Component.token? (dropFinalNewline t) <;> rfl

/-- A component is a piece as it is, or a token with no more than a newline behind it. -/
theorem mem_ofTexts {pieces : List Text} {component : Component} (member : component ∈ Component.ofTexts pieces) :
    (∃ t ∈ pieces, component = .verbatim t) ∨
      ∃ name type tail, component = .token name type tail ∧ (tail = [] ∨ tail = ['\n']) := by
  induction pieces using Component.ofTexts.induct with
  | case1 => cases member
  | case2 t =>
    rw [List.mem_singleton.1 member, Component.ofLastText]
    split
    · obtain ⟨tail, -, rest, last⟩ := dropFinalNewline_append t
      exact .inr ⟨_, _, _, rfl, rest ▸ last⟩
    · exact .inl ⟨t, by simp, rfl⟩
  | case3 t rest filled ih =>
    rw [Component.ofTexts] at member
    · rcases List.mem_cons.1 member with rfl | member
      · unfold Component.ofText
        split
        · exact .inr ⟨_, _, _, rfl, .inl rfl⟩
        · exact .inl ⟨t, by simp, rfl⟩
      · rcases ih member with ⟨t', member, same⟩ | token
        · exact .inl ⟨t', List.mem_cons_of_mem _ member, same⟩
        · exact .inr token
    · exact filled

theorem exists_pathToken?_of_mem_ofTexts {pieces : List Text} {component : Component}
    (member : component ∈ Component.ofTexts pieces) {token : Token} (own : componentToken? component = some token) :
    ∃ t, pathToken? t = some token := by
  induction pieces using Component.ofTexts.induct with
  | case1 => cases member
  | case2 t =>
    rw [List.mem_singleton.1 member, componentToken?_ofLastText] at own
    exact ⟨_, own⟩
  | case3 t rest filled ih =>
    rw [Component.ofTexts] at member
    · rcases List.mem_cons.1 member with rfl | member
      · exact ⟨t, componentToken?_ofText t ▸ own⟩
      · exact ih member
    · exact filled

/-- The tokens of a path are well formed and required. -/
theorem wellFormed_of_mem_components {path : Text} {token : Token}
    (h : token ∈ (components path).filterMap componentToken?) : token.WellFormed ∧ token.isRequired = true := by
  obtain ⟨component, member, own⟩ := List.mem_filterMap.1 h
  obtain ⟨first, rest, pieces⟩ := List.exists_cons_of_ne_nil (Text.splitOn_ne_nil '/' path)
  rw [components, pieces] at member
  rcases List.mem_cons.1 member with rfl | member
  · cases own
  · obtain ⟨t, read⟩ := exists_pathToken?_of_mem_ofTexts member own
    exact wellFormed_of_pathToken? read

end Pattern.Grammar

namespace Vocabulary

open Pattern (Component Token isName isTypeWord)
open Pattern.Grammar

variable {κ : Type} (vocabulary : Vocabulary κ) (expression : Text)

/-- The parameters of a path are those of its tokens, all of which are required. -/
theorem pathParams_eq_requiredParams (components : List Component) :
    vocabulary.pathParams expression components =
      vocabulary.requiredParams expression (components.filterMap componentToken?) := by
  induction components with
  | nil => rfl
  | cons component rest ih =>
    cases component with
    | verbatim t => rwa [pathParams, List.filterMap_cons_none rfl]
    | token name type tail =>
      have first : (Component.token name type tail :: rest).filterMap componentToken? =
          namedToken name type :: rest.filterMap componentToken? := rfl
      rw [pathParams, first, namedToken, requiredParams, ih]

/-- **The scan of a path** makes the parameters of its components. -/
theorem pathItems_eq (path : Text) :
    vocabulary.pathItems expression path =
      (vocabulary.pathParams expression (Pattern.components path)).mapError .diagnostic := by
  have own := fun token (h : token ∈ (Pattern.components path).filterMap componentToken?) =>
    wellFormed_of_mem_components h
  have scanned := vocabulary.mapM_requiredParam expression fun token h => (own token h).1
  rw [List.filter_eq_self.2 fun token h => (own token h).2] at scanned
  rw [pathItems, matchedTexts_pathToken, scanned, pathParams_eq_requiredParams]

/-- **The rewritten path** is the text of the regular expression that the components give. -/
theorem capturedPath_eq (path : Text) : capturedPath path = pathRegex (Pattern.components path) := by
  rw [capturedPath, replaceAll_pathToken, pathRegex]

theorem componentText_ofText (t : Text) :
    componentText (.ofText t) = if (pathToken? t).isSome = true then componentGroup else t := by
  unfold Component.ofText pathToken?
  cases Component.token? t <;> simp [componentText]

/-- The components of a path that does not end with a newline are its pieces, the first of them as it is. -/
theorem components_eq_map {path : Text} (line : path.getLast? ≠ some '\n') {first : Text} {pieces : List Text}
    (cut : Text.splitOn '/' path = first :: pieces) :
    Pattern.components path = .verbatim first :: pieces.map .ofText := by
  have joined := Text.join_splitOn '/' path
  rw [cut] at joined
  rw [Pattern.components, cut]
  refine congrArg _ (Component.ofTexts_eq_map fun last found final => line ?_)
  rw [← joined]
  refine Text.getLast?_join ?_ final
  rw [List.getLast?_cons, found]
  rfl

/-- In a path of one line the tokens are those among the pieces between the slashes. -/
theorem filterMap_components {path : Text} (line : path.getLast? ≠ some '\n') :
    (Pattern.components path).filterMap componentToken? = (Text.splitOn '/' path).tail.filterMap pathToken? := by
  obtain ⟨first, pieces, cut⟩ := List.exists_cons_of_ne_nil (Text.splitOn_ne_nil '/' path)
  have same : componentToken? ∘ Component.ofText = pathToken? := funext componentToken?_ofText
  rw [components_eq_map line cut, cut, List.tail_cons, List.filterMap_cons_none rfl, List.filterMap_map, same]

/-- **Path tokens are whole components.** Let a path that starts with a slash and does not end with a newline be cut at its
slashes. A piece is a token when all of it is a colon and a name, or that and the name of a type between braces. When the
types are known, the scan makes one parameter for each piece behind the first slash that is a token, in the order of the
pieces, with its name and its type. The rewritten path is the pieces joined again, with a group in place of each token
and without a slash at its end, between the anchors. Both are what compiling makes of the components. -/
theorem pathItems_spec {path : Text} (start : path.head? = some '/') (line : path.getLast? ≠ some '\n')
    {first : Text} {pieces : List Text} (cut : Text.splitOn '/' path = first :: pieces)
    (known : ∀ token ∈ pieces.filterMap pathToken?, vocabulary.Knows token) :
    first = [] ∧
    (∀ t token, pathToken? t = some token ↔
      (∃ name, isName name = true ∧ t = ':' :: name ∧ token = .required name none) ∨
        ∃ name type, isName name = true ∧ isTypeWord type = true ∧ t = ':' :: name ++ Token.braced type ∧
          token = .required name (some { name := type })) ∧
    (∃ params, vocabulary.pathItems expression path = .ok params ∧
      vocabulary.pathParams expression (Pattern.components path) = .ok params ∧
      vocabulary.ParamsOf (pieces.filterMap pathToken?) params ∧
      params.length = pieces.countP fun t => (pathToken? t).isSome) ∧
    capturedPath path = pathRegex (Pattern.components path) ∧
    capturedPath path = '^' :: Text.withoutFinalSlash (Text.join ['/']
      (first :: pieces.map fun t => if (pathToken? t).isSome = true then componentGroup else t)) ++ ['$'] := by
  have whole := components_eq_map line cut
  have tokens := filterMap_components line
  rw [cut, List.tail_cons] at tokens
  have own : ∀ token ∈ pieces.filterMap pathToken?, ∃ param,
      vocabulary.requiredParam expression token.text = .ok param ∧ tokenParam? vocabulary.types token = some param := by
    intro token member
    obtain ⟨t, -, read⟩ := List.mem_filterMap.1 member
    obtain ⟨proper, kind⟩ := wellFormed_of_pathToken? read
    exact vocabulary.exists_requiredParam expression kind proper (known token member)
  obtain ⟨params, scanned, row⟩ := vocabulary.exists_mapM_of_tokenParam? own
  rw [← tokens, ← matchedTexts_pathToken] at scanned
  refine ⟨?_, fun t token => pathToken?_eq_some_iff, ⟨params, scanned, ?_, row, ?_⟩, capturedPath_eq path, ?_⟩
  · obtain ⟨rest, rfl⟩ := List.head?_eq_some_iff.1 start
    rw [Text.splitOn, if_pos rfl] at cut
    exact (List.cons.inj cut).1.symm
  · have made := vocabulary.pathItems_eq expression path
    rw [pathItems, scanned] at made
    exact (mapError_eq_ok_iff.1 made.symm)
  · rw [← row.length_eq, List.length_filterMap_eq_countP]
  · have texts : componentText ∘ Component.ofText = fun t => if (pathToken? t).isSome = true then componentGroup else t :=
      funext componentText_ofText
    rw [capturedPath_eq, pathRegex, whole, List.map_cons, List.map_map, texts]
    rfl

/-- A token next to other text, one with a type in brackets and an empty component are kept, and the slash at the end is
dropped. -/
theorem pathItems_orders :
    let path := "/:user/a:b//:id\x7bint\x7d/:ids\x7b[int]\x7d/".toList
    path.head? = some '/' ∧ path.getLast? ≠ some '\n' ∧
      ({} : Vocabulary Empty).pathItems path path = .ok [.required "user".toList .string, .required "id".toList .int] ∧
      capturedPath path =
        "^/([A-Za-z0-9_.\\-~]+)/a:b//([A-Za-z0-9_.\\-~]+)/:ids\x7b[int]\x7d$".toList := by
  intro path
  have start : path.head? = some '/' := rfl
  have line : path.getLast? ≠ some '\n' := by decide
  let pieces := [":user".toList, "a:b".toList, [], ":id\x7bint\x7d".toList, ":ids\x7b[int]\x7d".toList, []]
  have cut : Text.splitOn '/' path = [] :: pieces := rfl
  have tokens : pieces.filterMap pathToken? =
      [.required "user".toList none, .required "id".toList (some { name := "int".toList })] := rfl
  have known : ∀ token ∈ pieces.filterMap pathToken?, ({} : Vocabulary Empty).Knows token := by
    rw [tokens]
    simp only [List.forall_mem_cons]
    exact ⟨nofun, by rintro _ ⟨⟩; rfl, nofun⟩
  obtain ⟨-, -, ⟨params, scanned, -, row, -⟩, -, rewritten⟩ :=
    ({} : Vocabulary Empty).pathItems_spec path start line cut known
  rw [tokens] at row
  rcases row with _ | ⟨⟨⟩, _ | ⟨⟨⟩, _ | _⟩⟩
  exact ⟨start, line, scanned, rewritten⟩

end Vocabulary

end TypedRoutes
