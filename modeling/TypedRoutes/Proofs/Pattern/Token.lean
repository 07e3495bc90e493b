import Mathlib.Data.List.Basic
import TypedRoutes.Pattern.Token
import TypedRoutes.Proofs.Text.Pieces

/-!
# Written tokens

A token is well formed when its name is one, its type is a word of lower-case letters, and a literal value is a word.
Reading undoes writing (`ofText?_text`), for one token and for a row of them, and nothing else than written tokens is
read (`ofText?_eq_some`). No question mark in front of the query part has a row of tokens behind it, because a colon only
starts a token, so that an expression comes apart where its query part starts (`splitExpression_append`).
-/

namespace TypedRoutes.Pattern

set_option autoImplicit false

/-- The parts of a token are spelled as expressions can spell them. -/
def Token.WellFormed : Token → Prop
  | .required name none => isName name = true
  | .required name (some ref) | .optional name ref => isName name = true ∧ isTypeWord ref.name = true
  | .literal name value => isName name = true ∧ isName value = true

instance (token : Token) : Decidable token.WellFormed :=
  match token with
  | .required name none => inferInstanceAs (Decidable (isName name = true))
  | .required name (some ref) | .optional name ref =>
    inferInstanceAs (Decidable (isName name = true ∧ isTypeWord ref.name = true))
  | .literal name value => inferInstanceAs (Decidable (isName name = true ∧ isName value = true))

theorem isName_iff {t : Text} : isName t = true ↔ t ≠ [] ∧ ∀ c ∈ t, Text.isWord c = true := by
  simp [isName]

theorem isTypeWord_iff {t : Text} : isTypeWord t = true ↔ t ≠ [] ∧ ∀ c ∈ t, isTypeChar c = true := by
  simp [isTypeWord]

/-- A character that no name and no type has in it. -/
theorem notMem_of_isName {t : Text} (h : isName t = true) {c : Char} (hc : Text.isWord c = false) : c ∉ t :=
  fun hm => by simp [(isName_iff.1 h).2 c hm] at hc

theorem notMem_of_isTypeWord {t : Text} (h : isTypeWord t = true) {c : Char} (hc : isTypeChar c = false) : c ∉ t :=
  fun hm => by simp [(isTypeWord_iff.1 h).2 c hm] at hc

theorem between?_append (first last : Char) (t : Text) : between? first last (first :: t ++ [last]) = some t := by
  simp [between?]

theorem between?_eq_none {first last : Char} {t : Text} (h : t.head? ≠ some first) : between? first last t = none := by
  cases t with
  | nil => rfl
  | cons c rest => rw [between?, if_neg fun both => h (by simp [both.1])]

/-- What stands between two signs is the text without them. -/
theorem eq_of_between? {first last : Char} {t inner : Text} (h : between? first last t = some inner) :
    t = first :: inner ++ [last] := by
  cases t with
  | nil => cases h
  | cons c rest =>
    rw [between?] at h
    split at h
    · rename_i both
      cases h
      rw [both.1, List.cons_append, List.dropLast_append_getLast? _ both.2]
    · cases h

theorem head?_ne_of_notMem {t : Text} {c : Char} (h : c ∉ t) : t.head? ≠ some c :=
  fun he => h (List.mem_of_mem_head? he)

theorem getLast?_ne_of_notMem {t : Text} {c : Char} (h : c ∉ t) : t.getLast? ≠ some c :=
  fun he => h (List.mem_of_mem_getLast? he)

/-- The text of a reference is read as the reference. -/
theorem TypeRef.ofText?_text {ref : TypeRef} (h : isTypeWord ref.name = true) : ofText? ref.text = some ref := by
  obtain ⟨name, isArray⟩ := ref
  cases isArray with
  | false => simp only [text, ofText?]; simp [h]
  | true =>
    have bracketed : isTypeWord ('[' :: name ++ [']']) = false := by
      simp [isTypeWord, isTypeChar]
    simp only [text, ofText?, if_true, bracketed, between?_append, h]
    rfl

/-- A text that is read as a reference is its text, and the name is that of a type. -/
theorem TypeRef.ofText?_eq_some {t : Text} {ref : TypeRef} (h : ofText? t = some ref) :
    isTypeWord ref.name = true ∧ t = ref.text := by
  unfold ofText? at h
  split at h
  · rename_i word
    cases h
    exact ⟨word, rfl⟩
  · split at h
    · rename_i name bracketed
      split at h
      · rename_i word
        cases h
        exact ⟨word, eq_of_between? bracketed⟩
      · cases h
    · cases h

/-- The signs of a type: letters, or letters between brackets. -/
theorem TypeRef.notMem_text {ref : TypeRef} (h : isTypeWord ref.name = true) {c : Char} (hc : isTypeChar c = false)
    (ho : c ≠ '[') (hb : c ≠ ']') : c ∉ ref.text := by
  have hn := notMem_of_isTypeWord h hc
  unfold text
  split <;> simp [hn, ho, hb]

namespace Token

/-- A colon and a name come apart into the name, without a body. -/
theorem split?_bare {name : Text} (h : isName name = true) : split? (':' :: name) = some (name, none) := by
  obtain ⟨hne, hall⟩ := isName_iff.1 h
  have taken : name.takeWhile Text.isWord = name := List.takeWhile_eq_self_iff.2 hall
  simp [split?, taken, hne]

/-- A colon, a name and a text between braces come apart into the name and that text. -/
theorem split?_braced {name : Text} (h : isName name = true) (body : Text) :
    split? (':' :: name ++ braced body) = some (name, some body) := by
  obtain ⟨hne, hall⟩ := isName_iff.1 h
  have stop : ¬ Text.isWord '\x7b' = true := by decide
  have taken : (name ++ braced body).takeWhile Text.isWord = name := by
    rw [List.takeWhile_append_of_pos hall, braced, List.cons_append, List.takeWhile_cons_of_neg stop, List.append_nil]
  have rest : braced body ≠ [] := by simp [braced]
  simp only [split?, List.cons_append, taken]
  simp only [List.drop_left]
  rw [braced, between?_append]
  simp [hne]

theorem ofBody?_type {name : Text} {ref : TypeRef} (h : isTypeWord ref.name = true) :
    ofBody? name ref.text = some (.required name (some ref)) := by
  have quote : ref.text.head? ≠ some '\'' :=
    head?_ne_of_notMem (TypeRef.notMem_text h (by decide) (by decide) (by decide))
  have mark : ref.text.getLast? ≠ some '?' :=
    getLast?_ne_of_notMem (TypeRef.notMem_text h (by decide) (by decide) (by decide))
  rw [ofBody?, between?_eq_none quote]
  simp only [mark, if_false, TypeRef.ofText?_text h]
  rfl

theorem ofBody?_optional {name : Text} {ref : TypeRef} (h : isTypeWord ref.name = true) :
    ofBody? name (ref.text ++ ['?']) = some (.optional name ref) := by
  have quote : (ref.text ++ ['?']).head? ≠ some '\'' :=
    head?_ne_of_notMem (by simpa using TypeRef.notMem_text h (by decide) (by decide) (by decide))
  rw [ofBody?, between?_eq_none quote]
  simp [TypeRef.ofText?_text h]

/-- Reading undoes writing. -/
theorem ofText?_text {token : Token} (h : token.WellFormed) : ofText? token.text = some token := by
  cases token with
  | required name ref =>
    cases ref with
    | none => rw [text, ofText?, split?_bare h]
    | some ref => rw [text, ofText?, split?_braced h.1]; exact ofBody?_type h.2
  | optional name ref => rw [text, ofText?, split?_braced h.1]; exact ofBody?_optional h.2
  | literal name value =>
    rw [text, ofText?, split?_braced h.1]
    simp only [ofBody?, between?_append, h.2, if_true]

/-- What comes apart into a name and a body is a colon, the name and the body between braces. -/
theorem split?_eq_some {t name : Text} {body : Option Text} (h : split? t = some (name, body)) :
    isName name = true ∧ t = ':' :: name ++ (body.map braced).getD [] := by
  cases t with
  | nil => cases h
  | cons c rest =>
    simp only [split?] at h
    split at h
    · cases h
    rename_i start
    simp only [ne_eq, not_or, not_not, Bool.not_eq_true] at start
    obtain ⟨rfl, filled⟩ := start
    have whole : rest = rest.takeWhile Text.isWord ++ rest.drop (rest.takeWhile Text.isWord).length :=
      (List.prefix_iff_eq_append.1 (List.takeWhile_prefix _)).symm
    have word : isName (rest.takeWhile Text.isWord) = true := by
      rw [isName, filled, List.all_takeWhile]
      rfl
    split at h
    · rename_i bare
      cases h
      rw [List.isEmpty_iff.1 bare, List.append_nil] at whole
      refine ⟨word, ?_⟩
      rw [← whole]
      simp
    · obtain ⟨inner, bracketed, pair⟩ := Option.map_eq_some_iff.1 h
      cases pair
      rw [eq_of_between? bracketed] at whole
      exact ⟨word, congrArg (':' :: ·) whole⟩

/-- The body between the braces makes a well-formed token, and its text is what was read. -/
theorem ofBody?_eq_some {name body : Text} {token : Token} (named : isName name = true)
    (h : ofBody? name body = some token) : token.WellFormed ∧ ':' :: name ++ braced body = token.text := by
  unfold ofBody? at h
  split at h
  · rename_i value quoted
    split at h
    · rename_i word
      cases h
      exact ⟨⟨named, word⟩, by rw [eq_of_between? quoted]; rfl⟩
    · cases h
  · split at h
    · rename_i mark
      obtain ⟨ref, read, rfl⟩ := Option.map_eq_some_iff.1 h
      obtain ⟨word, written⟩ := TypeRef.ofText?_eq_some read
      refine ⟨⟨named, word⟩, ?_⟩
      rw [text, ← written, List.dropLast_append_getLast? _ mark]
    · obtain ⟨ref, read, rfl⟩ := Option.map_eq_some_iff.1 h
      obtain ⟨word, written⟩ := TypeRef.ofText?_eq_some read
      exact ⟨⟨named, word⟩, by rw [text, ← written]⟩

/-- Only the text of a token is read as one. -/
theorem ofText?_eq_some {t : Text} {token : Token} (h : ofText? t = some token) :
    token.WellFormed ∧ t = token.text := by
  unfold ofText? at h
  split at h
  · cases h
  · rename_i name split
    cases h
    obtain ⟨named, rfl⟩ := split?_eq_some split
    exact ⟨named, by simp [text]⟩
  · rename_i name body split
    obtain ⟨named, rfl⟩ := split?_eq_some split
    exact ofBody?_eq_some named h

/-- The signs that may stand in a token beside the characters of words. -/
def signs : Text := [':', '\x7b', '\x7d', '[', ']', '?', '\'']

/-- No other character stands in a token. -/
theorem notMem_text {token : Token} (h : token.WellFormed) {c : Char} (hw : Text.isWord c = false)
    (ht : isTypeChar c = false) (hs : c ∉ signs) : c ∉ token.text := by
  simp only [signs, List.mem_cons, List.not_mem_nil, or_false, not_or] at hs
  obtain ⟨h1, h2, h3, h4, h5, h6, h7⟩ := hs
  cases token with
  | required name ref =>
    cases ref with
    | none => simp [text, h1, notMem_of_isName h hw]
    | some ref => simp [text, braced, h1, h2, h3, notMem_of_isName h.1 hw, TypeRef.notMem_text h.2 ht h4 h5]
  | optional name ref => simp [text, braced, h1, h2, h3, h6, notMem_of_isName h.1 hw, TypeRef.notMem_text h.2 ht h4 h5]
  | literal name value =>
    simp [text, braced, h1, h2, h3, h7, notMem_of_isName h.1 hw, notMem_of_isName h.2 hw]

/-- A colon only starts a token. -/
theorem colon_notMem_tail {token : Token} (h : token.WellFormed) : ':' ∉ token.text.tail := by
  have colon : Text.isWord ':' = false := by decide
  cases token with
  | required name ref =>
    cases ref with
    | none => exact notMem_of_isName h colon
    | some ref =>
      simp [text, braced, notMem_of_isName h.1 colon, TypeRef.notMem_text h.2 (c := ':') (by decide) (by decide)]
  | optional name ref =>
    simp [text, braced, notMem_of_isName h.1 colon, TypeRef.notMem_text h.2 (c := ':') (by decide) (by decide)]
  | literal name value => simp [text, braced, notMem_of_isName h.1 colon, notMem_of_isName h.2 colon]

theorem exists_text_eq {token : Token} : ∃ rest, token.text = ':' :: rest := by
  cases token with
  | required name ref => cases ref <;> exact ⟨_, rfl⟩
  | optional name ref => exact ⟨_, rfl⟩
  | literal name value => exact ⟨_, rfl⟩

end Token

theorem dropFinalNewline_of_getLast? {t : Text} (h : t.getLast? ≠ some '\n') : dropFinalNewline t = t := by
  rw [dropFinalNewline, if_neg h]

theorem dropFinalNewline_of_notMem {t : Text} (h : '\n' ∉ t) : dropFinalNewline t = t :=
  dropFinalNewline_of_getLast? (getLast?_ne_of_notMem h)

/-- What is dropped is nothing or a newline. -/
theorem dropFinalNewline_append (t : Text) :
    ∃ tail, t = dropFinalNewline t ++ tail ∧ t.drop (dropFinalNewline t).length = tail ∧ (tail = [] ∨ tail = ['\n']) := by
  by_cases last : t.getLast? = some '\n'
  · have whole : t.dropLast ++ ['\n'] = t := List.dropLast_append_getLast? _ last
    rw [dropFinalNewline, if_pos last]
    refine ⟨['\n'], whole.symm, ?_, .inr rfl⟩
    nth_rewrite 2 [← whole]
    exact List.drop_left
  · rw [dropFinalNewline_of_getLast? last]
    exact ⟨[], (List.append_nil t).symm, List.drop_length, .inl rfl⟩

namespace Component

theorem ofLastText_of_getLast? {t : Text} (h : t.getLast? ≠ some '\n') : ofLastText t = ofText t := by
  rw [ofLastText, dropFinalNewline_of_getLast? h, ofText]
  cases token? t with
  | none => rfl
  | some found => simp

/-- The components of pieces of which the last one does not end with a newline. -/
theorem ofTexts_eq_map {pieces : List Text} (h : ∀ last, pieces.getLast? = some last → last.getLast? ≠ some '\n') :
    ofTexts pieces = pieces.map ofText := by
  induction pieces using ofTexts.induct with
  | case1 => rfl
  | case2 t => rw [ofTexts, ofLastText_of_getLast? (h t rfl), List.map_singleton]
  | case3 t rest filled ih =>
    obtain ⟨next, others, rfl⟩ := List.exists_cons_of_ne_nil filled
    have later := ih fun last hl => h last (by rw [List.getLast?_cons_cons, hl])
    rw [ofTexts, later]
    · rfl
    · exact filled

end Component

/-- The text of a row of tokens. -/
def rowText (tokens : List Token) : Text := Text.join ['&'] (tokens.map Token.text)

/-- The texts of well-formed tokens are read as the tokens, one by one. -/
theorem mapM_ofText?_text {tokens : List Token} (h : ∀ token ∈ tokens, token.WellFormed) :
    (tokens.map Token.text).mapM Token.ofText? = some tokens := by
  induction tokens with
  | nil => rfl
  | cons token rest ih =>
    rw [List.map_cons, List.mapM_cons, Token.ofText?_text (h token (List.mem_cons_self ..)),
      ih fun t ht => h t (List.mem_cons_of_mem _ ht)]
    rfl

/-- The text of a row of well-formed tokens is read as the row. -/
theorem tokenRow?_rowText {tokens : List Token} (hne : tokens ≠ []) (h : ∀ token ∈ tokens, token.WellFormed) :
    tokenRow? (rowText tokens) = some tokens := by
  have plain : ∀ piece ∈ tokens.map Token.text, '&' ∉ piece := by
    rintro piece hp
    obtain ⟨token, ht, rfl⟩ := List.mem_map.1 hp
    exact Token.notMem_text (h token ht) (by decide) (by decide) (by decide)
  rw [tokenRow?, rowText, Text.splitOn_join (by simpa using hne) plain]
  exact mapM_ofText?_text h

/-- The text of a row has no characters but those of names and types, signs and ampersands. -/
theorem notMem_rowText {tokens : List Token} (h : ∀ token ∈ tokens, token.WellFormed) {c : Char}
    (hw : Text.isWord c = false) (ht : isTypeChar c = false) (hs : c ∉ Token.signs) (ha : c ≠ '&') :
    c ∉ rowText tokens := by
  refine Text.notMem_join ha ?_
  rintro piece hp
  obtain ⟨token, hm, rfl⟩ := List.mem_map.1 hp
  exact Token.notMem_text (h token hm) hw ht hs

/-- Without a question mark there is no query part. -/
theorem splitExpression_of_notMem {path : Text} (h : '?' ∉ path) : splitExpression path = (path, none) := by
  induction path with
  | nil => rfl
  | cons c rest ih =>
    simp only [List.mem_cons, not_or] at h
    simp only [splitExpression, Ne.symm h.1, if_false, ih h.2]

/-- The pieces of a row of tokens are read as tokens. -/
theorem exists_ofText?_of_mapM {pieces : List Text} {tokens : List Token} (h : pieces.mapM Token.ofText? = some tokens) :
    ∀ piece ∈ pieces, ∃ token, Token.ofText? piece = some token := by
  induction pieces generalizing tokens with
  | nil => simp
  | cons piece rest ih =>
    rw [List.mapM_cons] at h
    obtain ⟨token, first, h⟩ := Option.bind_eq_some_iff.1 h
    obtain ⟨others, later, -⟩ := Option.bind_eq_some_iff.1 h
    exact List.forall_mem_cons.2 ⟨⟨token, first⟩, ih later⟩

/-- A question mark and a colon in a row do not stand in a row of tokens. -/
theorem tokenRow?_eq_none (before after : Text) : tokenRow? (before ++ '?' :: ':' :: after) = none := by
  cases row : tokenRow? (before ++ '?' :: ':' :: after) with
  | none => rfl
  | some tokens =>
    obtain ⟨piece, member, tail⟩ : ∃ piece ∈ Text.splitOn '&' (before ++ '?' :: ':' :: after), ':' ∈ piece.tail :=
      Text.exists_mem_tail_of_splitOn (by decide) (by decide) before after
    obtain ⟨token, read⟩ := exists_ofText?_of_mapM row piece member
    obtain ⟨wellFormed, rfl⟩ := Token.ofText?_eq_some read
    exact absurd tail (Token.colon_notMem_tail wellFormed)

/-- The query part starts at the first question mark that a row of tokens follows. -/
theorem splitExpression_append (path : Text) {tokens : List Token} (hne : tokens ≠ [])
    (hw : ∀ token ∈ tokens, token.WellFormed) :
    splitExpression (path ++ '?' :: rowText tokens) = (path, some tokens) := by
  have plain : '\n' ∉ rowText tokens := notMem_rowText hw (by decide) (by decide) (by decide) (by decide)
  induction path with
  | nil =>
    have row : tokenRow? (dropFinalNewline (rowText tokens)) = some tokens := by
      rw [dropFinalNewline_of_notMem plain, tokenRow?_rowText hne hw]
    simp only [List.nil_append, splitExpression, if_true, row]
  | cons c rest ih =>
    have row : tokenRow? (dropFinalNewline (rest ++ '?' :: rowText tokens)) = none := by
      obtain ⟨first, others, rfl⟩ := List.exists_cons_of_ne_nil hne
      obtain ⟨after, start⟩ : ∃ after, rowText (first :: others) = ':' :: after := by
        obtain ⟨more, text⟩ := first.exists_text_eq
        rw [rowText, List.map_cons, Text.join_cons, text]
        exact ⟨_, rfl⟩
      have last : (rest ++ '?' :: rowText (first :: others)).getLast? ≠ some '\n' := by
        rw [List.getLast?_append_of_ne_nil _ (by simp)]
        exact getLast?_ne_of_notMem (by simp [plain])
      rw [dropFinalNewline, if_neg last, start, tokenRow?_eq_none]
    simp only [List.cons_append, splitExpression, row, ite_self, ih]

end TypedRoutes.Pattern
