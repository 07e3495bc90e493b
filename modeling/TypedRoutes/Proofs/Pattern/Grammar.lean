import TypedRoutes.Pattern.Grammar
import TypedRoutes.Proofs.Pattern.Token
import TypedRoutes.Proofs.Regex.Scanning

/-!
# What the grammar finds

The regular expression for a kind of tokens passes exactly the texts of the well-formed tokens of that kind, a bare name
only where it ends (`passes_requiredForms`, `passes_optionalForms`, `passes_literalForms`), and the one for the query part
passes a question mark and a row of tokens up to the end (`passes_queryPart`). So cutting an expression with it and
`splitExpression`, which reads the tokens one by one, agree (`cut_eq`).

No second query part is possible in an expression that does not end with a newline, because a colon only starts a token
(`QueryAt.unique`). So the cut of such an expression is the only one (`cut_eq_iff`).
-/

namespace TypedRoutes.Pattern

set_option autoImplicit false

namespace Token

def isRequired : Token → Bool
  | required _ _ => true
  | _ => false

def isOptional : Token → Bool
  | optional _ _ => true
  | _ => false

def isLiteral : Token → Bool
  | literal _ _ => true
  | _ => false

/-- A token that is a name and nothing else. -/
def isBare : Token → Bool
  | required _ none => true
  | _ => false

end Token

namespace Grammar

open Regex

/-- What stands behind a name that ends there. -/
def EndsName (w : Text) : Prop := w = [] ∨ w = ['\n'] ∨ w.head? = some '&'

/-- The texts of the well-formed tokens of a kind. Only where a name ends is it a token of its own. -/
def tokensOf (kind : Token → Bool) : Language := fun v w =>
  ∃ token : Token, kind token = true ∧ token.WellFormed ∧ v = token.text ∧ (token.isBare = true → EndsName w)

/-! ## Names and types -/

theorem has_wordSet (c : Char) : wordSet.has c = Text.isWord c := by
  simp [wordSet, CharSet.has, SetItem.hasFolded, Category.has]

theorem has_typeSet (c : Char) : typeSet.has c = isTypeChar c := by
  have one : typeSet.has c = (decide ('a'.toNat ≤ c.toNat) && decide (c.toNat ≤ 'z'.toNat)) := by
    simp [typeSet, CharSet.has, SetItem.hasFolded, Folding.variants]
  rw [one]
  rfl

theorem passes_name : Passes (oneOrMore wordSet) fun v _ => isName v = true :=
  (passes_plus_set wordSet).congr fun v w => by simp [isName_iff, has_wordSet]

theorem passes_typeWord : Passes (oneOrMore typeSet) fun v _ => isTypeWord v = true :=
  (passes_plus_set typeSet).congr fun v w => by simp [isTypeWord_iff, has_typeSet]

section Forms

variable {chars : CharSet} {inner : Text → Bool}

/-- Characters of one set between two signs are passed as a text of them between the signs. -/
theorem passes_enclosed (h : Passes (oneOrMore chars) fun v _ => inner v = true) (opening closing : Text) :
    Passes (sequence (enclosed opening chars closing)) fun v _ => ∃ t, inner t = true ∧ v = opening ++ t ++ closing := by
  have closed : Passes (sequence (closing.map single)) fun v _ => v = closing := by
    have row := passes_sequence_nil.singles closing
    rw [List.append_nil] at row
    exact row.congr fun v w => by simp
  refine ((h.cons closed).singles opening).congr fun v w => ?_
  constructor
  · rintro ⟨b, rfl, t, c, rfl, ht, rfl⟩
    exact ⟨t, ht, by rw [List.append_assoc]⟩
  · rintro ⟨t, ht, rfl⟩
    exact ⟨t ++ closing, by rw [List.append_assoc], t, closing, rfl, ht, rfl⟩

/-- What comes behind a colon and a name is passed as the body of a token. -/
theorem passes_named {behind : List Regex} {q : Language} (h : Passes (sequence behind) q) :
    Passes (named behind) fun v w => ∃ name body, isName name = true ∧ v = ':' :: name ++ body ∧ q body w := by
  refine ((passes_single ':').cons (passes_name.cons h)).congr fun v w => ?_
  constructor
  · rintro ⟨a, b, rfl, rfl, name, body, rfl, word, passed⟩
    exact ⟨name, body, word, rfl, passed⟩
  · rintro ⟨name, body, word, rfl, passed⟩
    exact ⟨[':'], name ++ body, rfl, rfl, name, body, rfl, word, passed⟩

/-- What is between braces behind a name. -/
theorem passes_body (h : Passes (oneOrMore chars) fun v _ => inner v = true) (opening closing : Text) :
    Passes (sequence (enclosed ('\x7b' :: opening) chars (closing ++ ['\x7d']))) fun v _ =>
      ∃ t, inner t = true ∧ v = Token.braced (opening ++ t ++ closing) :=
  (passes_enclosed h _ _).congr fun v w => by simp [Token.braced]

end Forms

/-! ## Tokens -/

/-- The kinds of tokens whose texts have a type or a value between braces. -/
theorem passes_optionalForms : Passes (choice optionalForms) (tokensOf Token.isOptional) := by
  have scalar := passes_named (passes_body passes_typeWord [] ['?'])
  have array := passes_named (passes_body passes_typeWord ['['] [']', '?'])
  refine (scalar.alt array).congr fun v w => ?_
  constructor
  · rintro (⟨name, _, word, rfl, t, ht, rfl⟩ | ⟨name, _, word, rfl, t, ht, rfl⟩)
    · exact ⟨.optional name { name := t }, rfl, ⟨word, ht⟩, rfl, by simp [Token.isBare]⟩
    · exact ⟨.optional name { name := t, isArray := true }, rfl, ⟨word, ht⟩, by simp [Token.text, TypeRef.text], by
        simp [Token.isBare]⟩
  · rintro ⟨token, kind, proper, rfl, -⟩
    cases token with
    | required name ref => cases kind
    | literal name value => cases kind
    | optional name ref =>
      obtain ⟨type, isArray⟩ := ref
      cases isArray with
      | false => exact .inl ⟨name, _, proper.1, rfl, type, proper.2, rfl⟩
      | true => exact .inr ⟨name, _, proper.1, rfl, type, proper.2, by simp [TypeRef.text]⟩

/-- The forms for literal tokens pass the literal tokens. -/
theorem passes_literalForms : Passes (choice literalForms) (tokensOf Token.isLiteral) := by
  refine (passes_named (passes_body passes_name ['\''] ['\''])).congr fun v w => ?_
  constructor
  · rintro ⟨name, _, word, rfl, t, ht, rfl⟩
    exact ⟨.literal name t, rfl, ⟨word, ht⟩, rfl, by simp [Token.isBare]⟩
  · rintro ⟨token, kind, proper, rfl, -⟩
    cases token with
    | required name ref => cases kind
    | optional name ref => cases kind
    | literal name value => exact ⟨name, _, proper.1, rfl, value, proper.2, rfl⟩

/-- What stands behind a text that ends before a sign, at the end, or before a newline there. -/
def EndsAt (sign : Char) (w : Text) : Prop := w = [] ∨ w = ['\n'] ∨ w.head? = some sign

/-- A sign or the end of the last line is next exactly when the rest ends there. -/
theorem exists_sign_or_end_iff (sign : Char) (w : Text) :
    (∃ a b, w = a ++ b ∧ (a = [sign] ∨ a = [] ∧ (b = [] ∨ b = ['\n']))) ↔ EndsAt sign w := by
  constructor
  · rintro ⟨a, b, rfl, rfl | ⟨rfl, rfl | rfl⟩⟩
    · exact .inr (.inr rfl)
    · exact .inl rfl
    · exact .inr (.inl rfl)
  · rintro (rfl | rfl | follows)
    · exact ⟨[], [], rfl, .inr ⟨rfl, .inl rfl⟩⟩
    · exact ⟨[], ['\n'], rfl, .inr ⟨rfl, .inr rfl⟩⟩
    · obtain ⟨b, rfl⟩ := List.head?_eq_some_iff.1 follows
      exact ⟨[sign], b, rfl, .inl rfl⟩

/-- Looking ahead for an ampersand or the end passes nothing, and holds where a name ends. -/
theorem passes_endsName :
    Passes (.look none false (.alt (single '&') (.anchor .lastLineEnd))) fun v w => v = [] ∧ EndsName w :=
  ((passes_single '&').alt passes_lastLineEnd).ahead.congr fun _ w =>
    and_congr_right fun _ => exists_sign_or_end_iff '&' w

/-- The forms for required tokens pass the required tokens. -/
theorem passes_requiredForms (index : Nat) : Passes (choice (requiredForms index)) (tokensOf Token.isRequired) := by
  have scalar := passes_named ((passes_body passes_typeWord [] []).group index).one
  have bare := (passes_named passes_endsName.one).group (index + 1)
  have array := passes_named ((passes_body passes_typeWord ['['] [']']).group (index + 2)).one
  refine (scalar.alt (bare.alt array)).congr fun v w => ?_
  constructor
  · rintro (⟨name, _, word, rfl, t, ht, rfl⟩ | ⟨name, _, word, rfl, rfl, ends⟩ | ⟨name, _, word, rfl, t, ht, rfl⟩)
    · exact ⟨.required name (some { name := t }), rfl, ⟨word, ht⟩, by simp [Token.text, TypeRef.text], by
        simp [Token.isBare]⟩
    · exact ⟨.required name none, rfl, word, by simp [Token.text], fun _ => ends⟩
    · exact ⟨.required name (some { name := t, isArray := true }), rfl, ⟨word, ht⟩, by
        simp [Token.text, TypeRef.text], by simp [Token.isBare]⟩
  · rintro ⟨token, kind, proper, rfl, ends⟩
    cases token with
    | optional name ref => cases kind
    | literal name value => cases kind
    | required name ref =>
      cases ref with
      | none => exact .inr (.inl ⟨name, [], proper, by simp [Token.text], rfl, ends rfl⟩)
      | some ref =>
        obtain ⟨type, isArray⟩ := ref
        cases isArray with
        | false => exact .inl ⟨name, _, proper.1, rfl, type, proper.2, by simp [TypeRef.text]⟩
        | true => exact .inr (.inr ⟨name, _, proper.1, rfl, type, proper.2, by simp [TypeRef.text]⟩)

/-- The forms together pass every token. -/
theorem passes_anyToken (index : Nat) : Passes (anyToken index) (tokensOf fun _ => true) := by
  have all := (((passes_requiredForms (index + 1)).choice_append passes_literalForms (by simp [requiredForms])
    (by simp [literalForms])).choice_append passes_optionalForms (by simp [requiredForms])
    (by simp [optionalForms])).group index
  refine all.congr fun v w => ?_
  constructor
  · rintro ((⟨token, -, parts⟩ | ⟨token, -, parts⟩) | ⟨token, -, parts⟩) <;> exact ⟨token, rfl, parts⟩
  · rintro ⟨token, -, parts⟩
    cases token with
    | required name ref => exact .inl (.inl ⟨_, rfl, parts⟩)
    | literal name value => exact .inl (.inr ⟨_, rfl, parts⟩)
    | optional name ref => exact .inr ⟨_, rfl, parts⟩

/-! ## Rows of tokens -/

/-- Tokens with `&` before each of them. -/
def furtherText (tokens : List Token) : Text := (tokens.map Token.text).flatMap ('&' :: ·)

theorem rowText_cons (token : Token) (tokens : List Token) :
    rowText (token :: tokens) = token.text ++ furtherText tokens :=
  Text.join_cons _ _

/-- A name ends before the next token. -/
theorem endsName_furtherText (tokens : List Token) : EndsName (furtherText tokens) := by
  cases tokens with
  | nil => exact .inl rfl
  | cons token tokens => exact .inr (.inr rfl)

/-- A name ends before the next token, and where nothing but a newline follows. -/
theorem endsName_furtherText_append (tokens : List Token) {w : Text} (last : w = [] ∨ w = ['\n']) :
    EndsName (furtherText tokens ++ w) := by
  cases tokens with
  | nil => exact last.elim .inl fun h => .inr (.inl h)
  | cons token tokens => exact .inr (.inr rfl)

/-- A further token of the row. -/
def furtherToken : Language := Language.followedBy (fun v _ => v = ['&']) (tokensOf fun _ => true)

theorem furtherToken_moves : furtherToken.Moves := by
  rintro v w ⟨a, b, rfl, rfl, -⟩
  simp

/-- A row of repetitions is one of further tokens, each behind an ampersand. -/
theorem row_furtherToken_iff {v w : Text} (last : w = [] ∨ w = ['\n']) :
    furtherToken.Row v w ↔ ∃ tokens : List Token, (∀ token ∈ tokens, token.WellFormed) ∧ v = furtherText tokens := by
  constructor
  · intro row
    induction row with
    | nil => exact ⟨[], by simp, rfl⟩
    | cons first rest ih =>
      obtain ⟨a, b, rfl, rfl, token, -, proper, rfl, -⟩ := first
      obtain ⟨tokens, all, rfl⟩ := ih last
      exact ⟨token :: tokens, List.forall_mem_cons.2 ⟨proper, all⟩, rfl⟩
  · rintro ⟨tokens, all, rfl⟩
    induction tokens with
    | nil => exact .nil w
    | cons token tokens ih =>
      obtain ⟨proper, all⟩ := List.forall_mem_cons.1 all
      have first : furtherToken ('&' :: token.text) (furtherText tokens ++ w) :=
        ⟨['&'], token.text, rfl, rfl, token, rfl, proper, rfl, fun _ => endsName_furtherText_append tokens last⟩
      exact .cons first (ih all)

/-- The texts of the query part: a question mark and a row of tokens, at the end or before a newline there. -/
def queryText : Language := fun v w =>
  (∃ tokens : List Token, tokens ≠ [] ∧ (∀ token ∈ tokens, token.WellFormed) ∧ v = '?' :: rowText tokens) ∧
    (w = [] ∨ w = ['\n'])

/-- The expression for the query part passes a question mark and a row of tokens, up to the end. -/
theorem passes_queryPart : Passes queryPart.regex queryText := by
  have further := (((passes_single '&').cons (passes_anyToken 7).one).group 6).star furtherToken_moves
  have tokens := ((passes_anyToken 2).cons further.one).group 1
  refine ((passes_single '?').cons (tokens.cons passes_lastLineEnd.one)).congr fun v w => ?_
  constructor
  · rintro ⟨_, _, rfl, rfl, _, _, rfl, ⟨_, rest, rfl, ⟨token, -, proper, rfl, -⟩, row⟩, rfl, last⟩
    rw [List.nil_append] at row
    obtain ⟨tokens, all, rfl⟩ := (row_furtherToken_iff last).1 row
    refine ⟨⟨token :: tokens, by simp, List.forall_mem_cons.2 ⟨proper, all⟩, ?_⟩, last⟩
    rw [rowText_cons, List.append_nil]
    rfl
  · rintro ⟨⟨tokens, filled, all, rfl⟩, last⟩
    obtain ⟨token, tokens, rfl⟩ := List.exists_cons_of_ne_nil filled
    obtain ⟨proper, all⟩ := List.forall_mem_cons.1 all
    refine ⟨['?'], rowText (token :: tokens), rfl, rfl, rowText (token :: tokens), [], ?_, ?_, rfl, last⟩
    · rw [List.append_nil]
    refine ⟨token.text, furtherText tokens, rowText_cons token tokens, ⟨token, rfl, proper, rfl, fun _ => ?_⟩, ?_⟩
    · exact endsName_furtherText_append tokens last
    · exact (row_furtherToken_iff last).2 ⟨tokens, all, rfl⟩

/-! ## Cutting expressions -/

/-- Pieces that are all read as tokens are the texts of these. -/
theorem eq_map_text_of_mapM {pieces : List Text} {tokens : List Token} (h : pieces.mapM Token.ofText? = some tokens) :
    (∀ token ∈ tokens, token.WellFormed) ∧ pieces = tokens.map Token.text := by
  induction pieces generalizing tokens with
  | nil =>
    cases h
    exact ⟨by simp, rfl⟩
  | cons piece pieces ih =>
    rw [List.mapM_cons] at h
    obtain ⟨token, first, h⟩ := Option.bind_eq_some_iff.1 h
    obtain ⟨others, later, h⟩ := Option.bind_eq_some_iff.1 h
    cases h
    obtain ⟨proper, rfl⟩ := Token.ofText?_eq_some first
    obtain ⟨all, rfl⟩ := ih later
    exact ⟨List.forall_mem_cons.2 ⟨proper, all⟩, rfl⟩

/-- A text is a row of tokens exactly when it is made of some, joined by ampersands. -/
theorem tokenRow?_eq_some_iff {t : Text} {tokens : List Token} :
    tokenRow? t = some tokens ↔ tokens ≠ [] ∧ (∀ token ∈ tokens, token.WellFormed) ∧ t = rowText tokens := by
  constructor
  · intro h
    obtain ⟨all, pieces⟩ := eq_map_text_of_mapM h
    refine ⟨?_, all, by rw [rowText, ← pieces, Text.join_splitOn]⟩
    rintro rfl
    exact Text.splitOn_ne_nil '&' t pieces
  · rintro ⟨filled, all, rfl⟩
    exact tokenRow?_rowText filled all

theorem newline_notMem_rowText {tokens : List Token} (h : ∀ token ∈ tokens, token.WellFormed) : '\n' ∉ rowText tokens :=
  notMem_rowText h (by decide) (by decide) (by decide) (by decide)

/-- The row of tokens behind a question mark, at the end or before a newline there. -/
theorem tokenRow?_dropFinalNewline_iff {t : Text} {tokens : List Token} :
    tokenRow? (dropFinalNewline t) = some tokens ↔ tokens ≠ [] ∧ (∀ token ∈ tokens, token.WellFormed) ∧
      ∃ w, t = rowText tokens ++ w ∧ (w = [] ∨ w = ['\n']) := by
  rw [tokenRow?_eq_some_iff]
  refine and_congr_right fun _ => and_congr_right fun all => ?_
  constructor
  · intro h
    unfold dropFinalNewline at h
    split at h
    · rename_i last
      exact ⟨['\n'], by rw [← h, List.dropLast_append_getLast? _ last], .inr rfl⟩
    · exact ⟨[], by rw [h, List.append_nil], .inl rfl⟩
  · rintro ⟨w, rfl, rfl | rfl⟩
    · rw [List.append_nil, dropFinalNewline_of_notMem (newline_notMem_rowText all)]
    · simp [dropFinalNewline]

/-- What reading does at a character: the query part starts there, or the character is one of the path. -/
theorem splitExpression_cons (c : Char) (rest : Text) :
    (∃ tokens, c = '?' ∧ tokenRow? (dropFinalNewline rest) = some tokens ∧
      splitExpression (c :: rest) = ([], some tokens)) ∨
    (∀ tokens, c = '?' → tokenRow? (dropFinalNewline rest) ≠ some tokens) ∧
      splitExpression (c :: rest) = (c :: (splitExpression rest).1, (splitExpression rest).2) := by
  by_cases mark : c = '?'
  · cases row : tokenRow? (dropFinalNewline rest) with
    | some tokens => exact .inl ⟨tokens, mark, rfl, by simp only [splitExpression, mark, if_true, row]⟩
    | none => exact .inr ⟨by simp, by simp only [splitExpression, mark, if_true, row]⟩
  · exact .inr ⟨fun _ h => absurd h mark, by simp only [splitExpression, mark, if_false]⟩

/-- The query part starts with a question mark, and all that is behind it up to the end is a row of tokens. -/
theorem queryText_iff {c : Char} {rest v w : Text} (split : c :: rest = v ++ w) :
    queryText v w ↔ c = '?' ∧ ∃ tokens, tokenRow? (dropFinalNewline rest) = some tokens ∧ v = '?' :: rowText tokens := by
  constructor
  · rintro ⟨⟨tokens, filled, all, rfl⟩, last⟩
    obtain ⟨rfl, rfl⟩ := List.cons_eq_cons.1 split
    exact ⟨rfl, tokens, tokenRow?_dropFinalNewline_iff.2 ⟨filled, all, w, rfl, last⟩, rfl⟩
  · rintro ⟨rfl, tokens, row, rfl⟩
    obtain ⟨filled, all, w', rfl, last⟩ := tokenRow?_dropFinalNewline_iff.1 row
    obtain rfl : w' = w := by simpa using split
    exact ⟨⟨tokens, filled, all, rfl⟩, last⟩

/-- The search for a query part and reading an expression token by token stop at the same place. -/
theorem searchFrom_queryPart (u rest : Text) :
    (searchFrom queryPart.regex queryPart.regex.groupCount false u.reverse rest u.length).map
        (fun found => (found.1, found.2.cursor.pos)) =
      (splitExpression rest).2.map fun tokens =>
        (u.length + (splitExpression rest).1.length,
          u.length + (splitExpression rest).1.length + ('?' :: rowText tokens).length) := by
  induction rest generalizing u with
  | nil =>
    have none : matchAt queryPart.regex queryPart.regex.groupCount false (.between u []) = .none := by
      refine passes_queryPart.finds.matchAt_eq_none fun v w after passed => ?_
      obtain ⟨⟨tokens, -, -, rfl⟩, -⟩ := passed
      cases after
    rw [Cursor.between] at none
    simp [searchFrom, none, splitExpression]
  | cons c rest ih =>
    rcases splitExpression_cons c rest with ⟨tokens, rfl, row, here⟩ | ⟨apart, later⟩
    · obtain ⟨-, -, w, split, -⟩ := tokenRow?_dropFinalNewline_iff.1 row
      have whole : '?' :: rest = '?' :: rowText tokens ++ w := by rw [split]; rfl
      have only : ∀ v' w', '?' :: rowText tokens ++ w = v' ++ w' → queryText v' w' → v' = '?' :: rowText tokens := by
        intro v' w' split' passed
        obtain ⟨-, tokens', row', rfl⟩ := (queryText_iff (whole.trans split')).1 passed
        rw [row] at row'
        cases row'
        rfl
      have here' := (queryText_iff whole).2 ⟨rfl, tokens, row, rfl⟩
      obtain ⟨s, found, place⟩ := passes_queryPart.finds.matchAt_eq_some (u := u) here' only
      rw [← whole] at found
      rw [searchFrom_of_matchAt found, here]
      simp [place, Cursor.between]
    · have none : matchAt queryPart.regex queryPart.regex.groupCount false (.between u (c :: rest)) = .none := by
        refine passes_queryPart.finds.matchAt_eq_none fun v w after passed => ?_
        obtain ⟨mark, tokens, row, -⟩ := (queryText_iff after).1 passed
        exact apart tokens mark row
      have next := ih (u ++ [c])
      rw [searchFrom_of_none none, next, later, List.length_append, List.length_singleton]
      cases (splitExpression rest).2 with
      | none => rfl
      | some tokens => simp only [Option.map_some, Option.some.injEq, Prod.mk.injEq, List.length_cons]; omega

/-- An expression that has been taken apart: its path, and the query part with what is behind it. -/
theorem splitExpression_eq_some {expression path : Text} {tokens : List Token}
    (h : splitExpression expression = (path, some tokens)) :
    tokens ≠ [] ∧ (∀ token ∈ tokens, token.WellFormed) ∧
      ∃ w, expression = path ++ ('?' :: rowText tokens ++ w) ∧ (w = [] ∨ w = ['\n']) := by
  induction expression generalizing path with
  | nil => cases h
  | cons c rest ih =>
    rcases splitExpression_cons c rest with ⟨tokens', rfl, row, here⟩ | ⟨-, later⟩
    · cases here.symm.trans h
      obtain ⟨filled, all, w, rfl, last⟩ := tokenRow?_dropFinalNewline_iff.1 row
      exact ⟨filled, all, w, rfl, last⟩
    · obtain ⟨rfl, query⟩ := Prod.mk.inj (later.symm.trans h)
      obtain ⟨filled, all, w, split, last⟩ := ih (Prod.ext rfl query)
      exact ⟨filled, all, w, by rw [List.cons_append, ← split], last⟩

/-- An expression without a query part is its path. -/
theorem splitExpression_eq_none {expression path : Text} (h : splitExpression expression = (path, none)) :
    path = expression := by
  induction expression generalizing path with
  | nil =>
    cases h
    rfl
  | cons c rest ih =>
    rcases splitExpression_cons c rest with ⟨tokens', rfl, row, here⟩ | ⟨-, later⟩
    · cases here.symm.trans h
    · obtain ⟨rfl, query⟩ := Prod.mk.inj (later.symm.trans h)
      exact congrArg (c :: ·) (ih (Prod.ext rfl query))

/-- The first match for the query part is where the expression is split, and reaches to the end of the tokens. -/
theorem firstSpan?_queryPart (expression : Text) :
    queryPart.regex.firstSpan? expression = (splitExpression expression).2.map fun tokens =>
      ((splitExpression expression).1.length, (splitExpression expression).1.length + ('?' :: rowText tokens).length) := by
  have search := searchFrom_queryPart [] expression
  simp only [List.length_nil, Nat.zero_add] at search
  rw [firstSpan?, firstMatch?, Option.map_map]
  exact search

/-- **Cutting** with the expression for the query part and reading the tokens one by one agree. -/
theorem cut_eq (expression : Text) :
    cut expression = ((splitExpression expression).1, (splitExpression expression).2.map fun tokens =>
      '?' :: rowText tokens) := by
  rw [cut, firstSpan?_queryPart]
  cases split : splitExpression expression with
  | mk path query =>
    cases query with
    | none => rw [splitExpression_eq_none split]; rfl
    | some tokens =>
      obtain ⟨-, -, w, rfl, -⟩ := splitExpression_eq_some split
      simp [slice]

/-! ## The only query part -/

/-- A question mark with a row of well-formed tokens behind it, up to the end, stands at a position. -/
def QueryAt (expression : Text) (i : Nat) : Prop :=
  ∃ tokens : List Token, tokens ≠ [] ∧ (∀ token ∈ tokens, token.WellFormed) ∧
    expression.drop i = '?' :: rowText tokens

/-- Where a query part stands, reading comes to it. -/
theorem QueryAt.splitExpression_eq {expression : Text} {i : Nat} (h : QueryAt expression i) :
    i < expression.length ∧ ∃ tokens, splitExpression expression = (expression.take i, some tokens) ∧
      expression.drop i = '?' :: rowText tokens := by
  obtain ⟨tokens, filled, all, rest⟩ := h
  have inside : i < expression.length := by
    by_contra beyond
    rw [List.drop_eq_nil_of_le (by omega)] at rest
    cases rest
  refine ⟨inside, tokens, ?_, rest⟩
  have split := splitExpression_append (expression.take i) filled all
  rwa [← rest, List.take_append_drop] at split

/-- Where reading comes to a query part, one stands, unless there is a newline behind it. -/
theorem queryAt_of_splitExpression {expression path : Text} {tokens : List Token}
    (line : expression.getLast? ≠ some '\n') (h : splitExpression expression = (path, some tokens)) :
    QueryAt expression path.length ∧ path = expression.take path.length ∧
      '?' :: rowText tokens = expression.drop path.length := by
  obtain ⟨filled, all, w, rfl, rfl | rfl⟩ := splitExpression_eq_some h
  · rw [List.append_nil]
    exact ⟨⟨tokens, filled, all, List.drop_left⟩, List.take_left.symm, List.drop_left.symm⟩
  · exact absurd (by rw [← List.append_assoc, List.getLast?_concat]) line

/-- An expression has one query part at most. -/
theorem QueryAt.unique {expression : Text} {i j : Nat} (hi : QueryAt expression i) (hj : QueryAt expression j) :
    i = j := by
  obtain ⟨inside, tokens, split, -⟩ := hi.splitExpression_eq
  obtain ⟨inside', tokens', split', -⟩ := hj.splitExpression_eq
  have paths : expression.take i = expression.take j := congrArg Prod.fst (split.symm.trans split')
  have lengths := congrArg List.length paths
  rw [List.length_take, List.length_take] at lengths
  omega

/-- The cut of an expression that does not end with a newline. -/
theorem cut_eq_iff {expression : Text} (line : expression.getLast? ≠ some '\n') (path : Text) (query : Option Text) :
    cut expression = (path, query) ↔
      (∃ i, QueryAt expression i ∧ path = expression.take i ∧ query = some (expression.drop i)) ∨
        (¬ ∃ i, QueryAt expression i) ∧ path = expression ∧ query = none := by
  cases split : splitExpression expression with
  | mk path' found =>
    rw [cut_eq, split]
    cases found with
    | none =>
      have absent : ¬ ∃ i, QueryAt expression i := by
        rintro ⟨i, here⟩
        obtain ⟨-, tokens, split', -⟩ := here.splitExpression_eq
        cases split.symm.trans split'
      rw [splitExpression_eq_none split]
      constructor
      · intro h
        cases h
        exact .inr ⟨absent, rfl, rfl⟩
      · rintro (⟨i, here, -⟩ | ⟨-, rfl, rfl⟩)
        · exact absurd ⟨i, here⟩ absent
        · rfl
    | some tokens =>
      obtain ⟨here, before, after⟩ := queryAt_of_splitExpression line split
      constructor
      · intro h
        cases h
        exact .inl ⟨_, here, before, congrArg some after⟩
      · rintro (⟨i, here', rfl, rfl⟩ | ⟨absent, -⟩)
        · rw [here'.unique here, ← before, ← after]
          rfl
        · exact absurd ⟨_, here⟩ absent

/-- The path starts as the expression does. -/
theorem head?_cut (expression : Text) : (cut expression).1.head? = some '/' ↔ expression.head? = some '/' := by
  rw [cut_eq]
  cases split : splitExpression expression with
  | mk path found =>
    cases found with
    | none => rw [splitExpression_eq_none split]
    | some tokens =>
      obtain ⟨-, -, w, rfl, -⟩ := splitExpression_eq_some split
      cases path with
      | nil => simp
      | cons c path => rfl

/-- An expression is split exactly when it starts with a slash, and at its query part. -/
theorem extract_eq_ok_iff {expression path : Text} {query : Option Text} :
    extract expression = .ok (path, query) ↔ expression.head? = some '/' ∧ cut expression = (path, query) := by
  rw [← head?_cut, extract]
  by_cases start : (cut expression).1.head? = some '/' <;> simp [start]

theorem extract_eq_error_iff {expression : Text} {d : Diagnostic} :
    extract expression = .error d ↔ expression.head? ≠ some '/' ∧ d = .noLeadingSlash expression := by
  rw [ne_eq, ← head?_cut, extract]
  by_cases start : (cut expression).1.head? = some '/' <;> simp [start, eq_comm]

/-- A query part that has been split off is a question mark and the row of tokens that reading finds. -/
theorem exists_tokens_of_extract {expression path query : Text} (h : extract expression = .ok (path, some query)) :
    ∃ tokens, splitExpression expression = (path, some tokens) ∧ query = '?' :: rowText tokens := by
  have split := (extract_eq_ok_iff.1 h).2
  rw [cut_eq] at split
  obtain ⟨rfl, found⟩ := Prod.mk.inj split
  obtain ⟨tokens, read, written⟩ := Option.map_eq_some_iff.1 found
  exact ⟨tokens, Prod.ext rfl read, written.symm⟩

/-- **The split of an expression.** It is refused exactly when it does not start with a slash. When it does not end with a
newline, the search finds a query part exactly where a question mark has a row of well-formed tokens behind it up to the
end. There is one such place at most; the path is what stands before it and the query is all from there on, and without
such a place the path is the whole expression. Reading the tokens one by one makes the same cut. -/
theorem extract_spec (expression : Text) :
    (∀ d, extract expression = .error d ↔ expression.head? ≠ some '/' ∧ d = .noLeadingSlash expression) ∧
    cut expression = ((splitExpression expression).1, (splitExpression expression).2.map fun tokens =>
      '?' :: rowText tokens) ∧
    (expression.getLast? ≠ some '\n' →
      (∀ i j, queryPart.regex.firstSpan? expression = some (i, j) ↔ QueryAt expression i ∧ j = expression.length) ∧
      (∀ i j, QueryAt expression i → QueryAt expression j → i = j) ∧
      ∀ path query, extract expression = .ok (path, query) ↔ expression.head? = some '/' ∧
        ((∃ i, QueryAt expression i ∧ path = expression.take i ∧ query = some (expression.drop i)) ∨
          (¬ ∃ i, QueryAt expression i) ∧ path = expression ∧ query = none)) := by
  refine ⟨fun d => extract_eq_error_iff, cut_eq expression, fun line => ⟨fun i j => ?_, fun i j => QueryAt.unique, ?_⟩⟩
  · rw [firstSpan?_queryPart]
    constructor
    · intro h
      obtain ⟨tokens, found, place⟩ := Option.map_eq_some_iff.1 h
      obtain ⟨here, -, after⟩ := queryAt_of_splitExpression line (Prod.ext rfl found)
      obtain ⟨rfl, rfl⟩ := Prod.mk.inj place
      rw [after, List.length_drop]
      exact ⟨here, Nat.add_sub_of_le (Nat.le_of_lt here.splitExpression_eq.1)⟩
    · rintro ⟨here, rfl⟩
      obtain ⟨inside, tokens, split, after⟩ := here.splitExpression_eq
      rw [split, Option.map_some, ← after, List.length_take, List.length_drop, Nat.min_eq_left (Nat.le_of_lt inside),
        Nat.add_sub_of_le (Nat.le_of_lt inside)]
  · intro path query
    rw [extract_eq_ok_iff, cut_eq_iff line]

/-- A question mark in the path, and one in a token, start no query part. -/
theorem extract_search :
    "/search/(x)?/?:page\x7bint?\x7d&:q".toList.getLast? ≠ some '\n' ∧
      extract "/search/(x)?/?:page\x7bint?\x7d&:q".toList =
        .ok ("/search/(x)?/".toList, some "?:page\x7bint?\x7d&:q".toList) := by
  have line : "/search/(x)?/?:page\x7bint?\x7d&:q".toList.getLast? ≠ some '\n' := by decide
  have here : QueryAt "/search/(x)?/?:page\x7bint?\x7d&:q".toList 13 :=
    ⟨[.optional "page".toList { name := "int".toList }, .required "q".toList none], by simp, by decide, rfl⟩
  exact ⟨line, (((extract_spec _).2.2 line).2.2 _ _).2 ⟨rfl, .inl ⟨13, here, rfl, rfl⟩⟩⟩

end Grammar

end TypedRoutes.Pattern
