import Mathlib.Data.List.Perm.Subperm
import TypedRoutes.Proofs.Path.Coverage
import TypedRoutes.Proofs.Path.Reading
import TypedRoutes.Proofs.Regex.Captured
import TypedRoutes.Proofs.Regex.Groups

/-!
# Whose texts parameters are bound to

The texts that groups captured are bound to the parameters of the path in a row, and only their number is compared
with that of the parameters. So a parameter has the text of its own token when the groups that captured are those of
the tokens, one after the other (`OwnTexts`). Two things can keep them from that (`ownTexts_of_matchPattern`): a group
of the path itself takes part in the match, or the path is matched more than once.

`TokenGroups` says that every token stands as a group, and which. What such a group captures is what it has been read
as, one or more characters of a component (`text_of_tokenGroups`), though flags around it may set case aside.
-/

namespace TypedRoutes.Regex

set_option autoImplicit false

/-- The characters that a group in place of a token captures where the flags say how to treat case. -/
def componentSetAt (folding : Folding) : CharSet := { componentSet with folding }

/-- What a group in place of a token repeats. -/
def componentBody (folding : Folding) : Regex := .repeated .greedy 1 none (.set (componentSetAt folding))

/-- A property of some variant of a code point, when case is folded among ASCII letters only: it is one of the code
point itself, or of the letter in the other case. -/
theorem any_variants_ascii (n : Nat) (p : Nat → Bool) :
    (Folding.ascii.variants n).any p = (p n || (decide (65 ≤ n ∧ n ≤ 90) && p (n + 32)) ||
      (decide (97 ≤ n ∧ n ≤ 122) && p (n - 32))) := by
  simp only [Folding.variants, Folding.fold]
  by_cases capital : 65 ≤ n ∧ n ≤ 90
  · have small : ¬ (97 ≤ n ∧ n ≤ 122) := by omega
    have bounds : 97 ≤ n + 32 ∧ n + 32 ≤ 122 := by omega
    simp [capital, small, bounds, Bool.or_comm]
  · by_cases small : 97 ≤ n ∧ n ≤ 122 <;> simp [capital, small]

/-- Without case folding of all scripts the characters are those of a component. -/
theorem has_componentSetAt {folding : Folding} (h : folding ≠ .unicode) (c : Char) :
    (componentSetAt folding).has c = Path.isComponentChar c := by
  cases folding with
  | exact => exact has_componentSet c
  | unicode => exact absurd rfl h
  | ascii =>
    rw [← has_componentSet]
    have range (m n : Nat) : SetItem.hasFolded .ascii c (.range m n) =
      (Folding.ascii.variants c.toNat).any fun k => decide (m ≤ k) && decide (k ≤ n) := rfl
    have code (n : Nat) : SetItem.hasFolded .ascii c (.code n) = (Folding.ascii.fold c.toNat == n) := rfl
    have range' (m n : Nat) : SetItem.hasFolded .exact c (.range m n) =
      ([c.toNat].any fun k => decide (m ≤ k) && decide (k ≤ n)) := rfl
    have code' (n : Nat) : SetItem.hasFolded .exact c (.code n) = (c.toNat == n) := rfl
    simp only [CharSet.has, componentSetAt, componentSet, List.any_cons, List.any_nil, range, code, range', code',
      any_variants_ascii, Folding.fold]
    generalize c.toNat = n
    rw [Bool.eq_iff_iff]
    simp only [Bool.bne_false, Bool.or_eq_true, Bool.and_eq_true, decide_eq_true_eq, beq_iff_eq, Bool.or_false]
    split <;> omega

/-- Behind its bracket, the group of a token is read as the set of the characters of a component. -/
theorem charSet_component [CharacterNames] (flags : Flags) (rest : List Piece) :
    charSet flags (pieces "A-Za-z0-9_.\\-~]+)".toList ++ rest) =
      .ok (.set (componentSetAt flags.folding), .plain '+' :: .plain ')' :: rest) := by
  obtain ⟨ignoreCase, multiline, dotAll, verbose, asciiOnly⟩ := flags
  cases ignoreCase <;> cases asciiOnly <;> rfl

theorem pieces_componentGroup_tail (t : Text) :
    pieces (Vocabulary.componentGroup.tail ++ t) =
      .plain '[' :: (pieces "A-Za-z0-9_.\\-~]+)".toList ++ pieces t) := by
  have whole := pieces_componentGroup t
  have opened : Vocabulary.componentGroup ++ t = '(' :: (Vocabulary.componentGroup.tail ++ t) := rfl
  rw [opened, pieces_cons (by decide)] at whole
  exact (List.cons.inj whole).2

variable {n : Nat} {flags : Flags} {t : Text} {book : Book} {r : Regex} {source' : Source}

/-- A branch that starts with the bracket of a token's group reads the whole group and stops at its parenthesis. -/
theorem eq_componentBody_of_branch [CharacterNames] {rest : List Piece}
    (h : branch n .nested flags [] ⟨.plain '[' :: (pieces "A-Za-z0-9_.\\-~]+)".toList ++ rest), book⟩ =
      .ok (r, source')) :
    r = componentBody flags.folding ∧ source'.rest = .plain ')' :: rest := by
  cases n with
  | zero => cases h
  | succ n =>
    rw [branch_bracket, bind_of_eq_ok (charSet_component flags rest)] at h
    cases n with
    | zero => cases h
    | succ n =>
      simp only at h
      rw [branch_quantified (by decide)] at h
      cases n with
      | zero => cases h
      | succ n =>
        have closed : branch (n + 1) .nested flags [(.repetition, componentBody flags.folding)]
            ⟨.plain ')' :: rest, book⟩ = .ok (r, source') := h
        rw [branch_stop (by decide)] at closed
        cases closed
        exact ⟨rfl, rfl⟩

/-- What stands behind the parenthesis of a group in place of a token is read as one or more characters of a component,
up to the end of the group. -/
theorem eq_componentBody_of_alternatives [CharacterNames]
    (h : alternatives n .nested flags ⟨pieces (Vocabulary.componentGroup.tail ++ t), book⟩ = .ok (r, source')) :
    r = componentBody flags.folding := by
  rw [pieces_componentGroup_tail] at h
  cases n with
  | zero => cases h
  | succ n =>
    rw [alternatives] at h
    obtain ⟨⟨s, next⟩, hb, h⟩ := bind_eq_ok_iff.1 h
    obtain ⟨rfl, stop⟩ := eq_componentBody_of_branch hb
    simp only at h
    split at h
    · rename_i rest bar
      rw [stop] at bar
      cases bar
    · cases h
      rfl

end TypedRoutes.Regex

namespace TypedRoutes.Path

set_option autoImplicit false

open Regex

/-! ## Tokens of a path -/

/-- The tokens of a path by their names, each with what stands behind the parenthesis of the group in place of it. -/
def tokenPlaces : List Pattern.Component → List (Text × Text)
  | [] => []
  | .verbatim _ :: rest => tokenPlaces rest
  | .token name type tail :: rest =>
    (name, (Vocabulary.pathRegex (.token name type tail :: rest)).drop 2) :: tokenPlaces rest

/-- The numbers of the groups in place of tokens, when each token stands as a group. -/
structure TokenGroups [CharacterNames] (components : List Pattern.Component) (numbers : List Nat) : Prop where
  aligned : (tokenPlaces components).length = numbers.length
  stand : (((tokenPlaces components).map fun token => pieces token.2).zip numbers).Sublist
    ((groupPlaces (Vocabulary.pathRegex components)).zipIdx 1)

instance [CharacterNames] (components : List Pattern.Component) (numbers : List Nat) :
    Decidable (TokenGroups components numbers) :=
  decidable_of_iff (_ ∧ _) ⟨fun both => ⟨both.1, both.2⟩, fun groups => ⟨groups.aligned, groups.stand⟩⟩

section Places

variable {components : List Pattern.Component} {numbers : List Nat}

/-- The final slash of a text stands in its last part, when that is longer than one character. -/
theorem withoutFinalSlash_append_of_lt (t : Text) {u : Text} (long : 1 < u.length) :
    Text.withoutFinalSlash (t ++ u) = t ++ Text.withoutFinalSlash u := by
  have filled : u ≠ [] := by
    rintro rfl
    simp at long
  have alone : u ≠ ['/'] := by
    rintro rfl
    simp at long
  have alone' : t ++ u ≠ ['/'] := fun h => by
    have := congrArg List.length h
    simp only [List.length_append, List.length_cons, List.length_nil] at this
    omega
  have last : (t ++ u).getLast? = u.getLast? := List.getLast?_append_of_ne_nil t filled
  unfold Text.withoutFinalSlash
  rw [last]
  by_cases slash : u.getLast? = some '/'
  · rw [if_pos ⟨alone', slash⟩, if_pos ⟨alone, slash⟩, List.dropLast_append_of_ne_nil filled]
  · rw [if_neg fun both => slash both.2, if_neg fun both => slash both.2]

/-- The text of a path from a token on. -/
theorem exists_join_token (name : Text) (type : Option Text) (tail : Text) (rest : List Pattern.Component) :
    ∃ t, Text.join ['/'] ((Pattern.Component.token name type tail :: rest).map Vocabulary.componentText) =
      Vocabulary.componentGroup ++ t := by
  rw [List.map_cons, Text.join_cons, Vocabulary.componentText, List.append_assoc]
  exact ⟨_, rfl⟩

/-- Taking away a final slash leaves the group of a token in front as it is. -/
theorem exists_withoutFinalSlash_componentGroup (t : Text) :
    ∃ u, Text.withoutFinalSlash (Vocabulary.componentGroup ++ t) = Vocabulary.componentGroup ++ u := by
  cases t with
  | nil => exact ⟨[], Text.withoutFinalSlash_of_getLast? (by decide)⟩
  | cons c rest =>
    unfold Text.withoutFinalSlash
    split
    · exact ⟨_, List.dropLast_append_of_ne_nil (List.cons_ne_nil c rest)⟩
    · exact ⟨_, rfl⟩

theorem exists_join_append (piece : Text) (before after : List Text) :
    ∃ t, Text.join ['/'] (before ++ piece :: after) = t ++ Text.join ['/'] (piece :: after) := by
  cases before with
  | nil => exact ⟨[], rfl⟩
  | cons first before =>
    refine ⟨first ++ before.flatMap ('/' :: ·) ++ ['/'], ?_⟩
    simp [Text.join_cons]

/-- A place of a token is what stands behind the parenthesis of its group, in the text for the components from there
on. -/
theorem split_of_mem_tokenPlaces {token : Text × Text} (h : token ∈ tokenPlaces components) :
    ∃ before type tail rest, components = before ++ .token token.1 type tail :: rest ∧
      token.2 = (Vocabulary.pathRegex (.token token.1 type tail :: rest)).drop 2 := by
  induction components with
  | nil => cases h
  | cons component rest ih =>
    cases component with
    | verbatim t =>
      obtain ⟨before, type, tail, after, rfl, place⟩ := ih h
      exact ⟨.verbatim t :: before, type, tail, after, rfl, place⟩
    | token name type tail =>
      rcases List.mem_cons.1 h with rfl | later
      · exact ⟨[], type, tail, rest, rfl, rfl⟩
      · obtain ⟨before, type', tail', after, rfl, place⟩ := ih later
        exact ⟨.token name type tail :: before, type', tail', after, rfl, place⟩

/-- The place of a token is what stands behind a parenthesis in the text of the path, and starts with the group. -/
theorem place_of_mem_tokenPlaces {token : Text × Text} (h : token ∈ tokenPlaces components) :
    (∃ before, Vocabulary.pathRegex components = before ++ '(' :: token.2) ∧
      ∃ t, token.2 = Vocabulary.componentGroup.tail ++ t := by
  obtain ⟨before, type, tail, rest, rfl, place⟩ := split_of_mem_tokenPlaces h
  obtain ⟨t, ht⟩ := exists_join_token token.1 type tail rest
  obtain ⟨u, hu⟩ := exists_withoutFinalSlash_componentGroup t
  have own : token.2 = Vocabulary.componentGroup.tail ++ (u ++ ['$']) := by
    rw [place, Vocabulary.pathRegex, ht, hu]
    rfl
  refine ⟨?_, _, own⟩
  obtain ⟨w, hw⟩ := exists_join_append (Vocabulary.componentText (.token token.1 type tail))
    (before.map Vocabulary.componentText) (rest.map Vocabulary.componentText)
  have long : 1 < (Vocabulary.componentGroup ++ t).length := by
    have group : 1 < Vocabulary.componentGroup.length := by decide
    rw [List.length_append]
    omega
  rw [← List.map_cons] at hw
  refine ⟨'^' :: w, ?_⟩
  have opened : '(' :: token.2 = Vocabulary.componentGroup ++ (u ++ ['$']) := by
    rw [own]
    rfl
  rw [Vocabulary.pathRegex, List.map_append, hw, ht, withoutFinalSlash_append_of_lt w long, hu, opened]
  simp only [List.cons_append, List.append_assoc]

/-- The parameters of a path are those of its tokens. -/
theorem names_of_pathParams {κ : Type} {vocabulary : Vocabulary κ} {expression : Text} {params : List (Param κ)}
    (h : vocabulary.pathParams expression components = .ok params) :
    params.map Param.name = (tokenPlaces components).map Prod.fst := by
  induction components generalizing params with
  | nil =>
    cases h
    rfl
  | cons component rest ih =>
    cases component with
    | verbatim t => exact ih h
    | token name type tail =>
      simp only [Vocabulary.pathParams, bind_eq_ok_iff] at h
      obtain ⟨type, -, more, later, h⟩ := h
      cases h
      rw [List.map_cons, ih later]
      rfl

/-! ## Groups of tokens -/

/-- The groups of the tokens have ascending numbers. -/
theorem TokenGroups.ascends [CharacterNames] (groups : TokenGroups components numbers) : numbers.Pairwise (· < ·) := by
  have own : (((tokenPlaces components).map fun token => pieces token.2).zip numbers).map Prod.snd = numbers :=
    List.map_snd_zip (by rw [List.length_map, groups.aligned])
  have below := groups.stand.map Prod.snd
  rw [own, List.zipIdx_map_snd] at below
  exact List.Pairwise.sublist below List.pairwise_lt_range'

/-- A group in place of a token is the only one of its number, and it has been read as one or more characters of a
component. -/
theorem TokenGroups.body [CharacterNames] {r : Regex} (groups : TokenGroups components numbers)
    (read : Regex.parse (Vocabulary.pathRegex components) = .ok r) {number : Nat} (member : number ∈ numbers) :
    ∃ folding, ∀ u, (number, u) ∈ r.groups ↔ u = componentBody folding := by
  obtain ⟨i, hi, rfl⟩ := List.mem_iff_getElem.1 member
  have inside : i < (tokenPlaces components).length := by rw [groups.aligned]; exact hi
  have placed : (pieces (tokenPlaces components)[i].2, numbers[i]) ∈
      (groupPlaces (Vocabulary.pathRegex components)).zipIdx 1 := by
    refine groups.stand.subset (List.mem_iff_getElem.2 ⟨i, by simpa using ⟨inside, hi⟩, ?_⟩)
    simp
  obtain ⟨-, t, ht⟩ := place_of_mem_tokenPlaces (List.getElem_mem inside)
  obtain ⟨s, readAt, only⟩ := (grouped_of_parse read).own placed
  rw [ht] at readAt
  have unmarked : (pieces (Vocabulary.componentGroup.tail ++ t)).head? ≠ some (.plain '?') := by
    rw [pieces_componentGroup_tail]
    simp
  obtain ⟨n, flags, book, source', same⟩ := readAt unmarked
  rw [eq_componentBody_of_alternatives same] at only
  exact ⟨flags.folding, only⟩

/-- **The text of a token's group** is never empty and made of characters of a component, up to case where flags set
case aside. -/
theorem text_of_tokenGroups [CharacterNames] {r : Regex} (groups : TokenGroups components numbers)
    (read : Regex.parse (Vocabulary.pathRegex components) = .ok r) {number : Nat} (member : number ∈ numbers)
    {path t : Text} (captured : (number, t) ∈ r.numberedCaptures path) :
    t ≠ [] ∧ ∃ folding, (∀ u, (number, u) ∈ r.groups ↔ u = componentBody folding) ∧
      (∀ c ∈ t, (componentSetAt folding).has c = true) ∧ (folding ≠ .unicode → ∀ c ∈ t, isComponentChar c = true) := by
  obtain ⟨folding, only⟩ := groups.body read member
  obtain ⟨filled, all⟩ := run_of_mem_numberedCaptures (fun u hu => (only u).1 hu) captured
  refine ⟨filled, folding, only, all, fun exact c hc => ?_⟩
  rw [← has_componentSetAt exact]
  exact all c hc

end Places

/-! ## Matches -/

section

variable {κ : Type} {vocabulary : Vocabulary κ} {expression : Text} {pattern : Pattern κ} {r : Regex}

/-- The components of the path of an expression. -/
def componentsOf (expression : Text) : List Pattern.Component :=
  Pattern.components (Pattern.splitExpression expression).1

/-- The regular expression of a pattern is read from the text for its components. -/
theorem parse_of_compile [CharacterNames] (compiled : vocabulary.compile expression = .ok pattern)
    (hr : pattern.regex = some r) :
    Regex.parse (Vocabulary.pathRegex (componentsOf expression)) = .ok r := by
  have stages := Vocabulary.compile_eq_ok_iff.1 compiled
  have read := stages.regex
  rw [stages.pathRegex, hr, Vocabulary.regexOf] at read
  split at read
  · injection read with read
    injection read with read
    subst read
    assumption
  · injection read with read
    cases read
  · cases read

variable [Conversions κ] {numbers : List Nat} {m : Params}

/-- Each parameter of a path has the value of the text that its own token stands for: the groups that captured are those
of the tokens, one after the other, and each text is one or more characters of a component, up to case where the
expression sets case aside for the group. -/
structure OwnTexts (components : List Pattern.Component) (numbers : List Nat) (pattern : Pattern κ) (r : Regex)
    (path : Text) (m : Params) : Prop where
  names : pattern.pathParams.map Param.name = (tokenPlaces components).map Prod.fst
  groups : (r.numberedCaptures path).map Prod.fst = numbers
  values : ∀ param number t, (param, number, t) ∈ pattern.pathParams.zip (r.numberedCaptures path) →
    ∃ v, param.convert t = .ok (some v) ∧ Assoc.get? param.name m = some v
  texts : ∀ number t, (number, t) ∈ r.numberedCaptures path → t ≠ [] ∧ ∃ folding,
    (∀ u, (number, u) ∈ r.groups ↔ u = componentBody folding) ∧ (∀ c ∈ t, (componentSetAt folding).has c = true) ∧
      (folding ≠ .unicode → ∀ c ∈ t, isComponentChar c = true)

/-- Ascending numbers that are all among as many ascending numbers are the same. -/
theorem eq_of_ascending {own all : List Nat} (ascends : own.Pairwise (· < ·)) (ascends' : all.Pairwise (· < ·))
    (among : ∀ n ∈ own, n ∈ all) (aligned : own.length = all.length) : own = all := by
  have distinct : own.Nodup := ascends.imp Nat.ne_of_lt
  have perm : own.Perm all := (List.subperm_of_subset distinct among).perm_of_length_le aligned.ge
  exact perm.eq_of_pairwise (fun a b _ _ below above => absurd below (Nat.lt_asymm above)) ascends ascends'

/-- The numbers of the groups that captured ascend when the path is matched once. It is matched more than once only when
there is a bar outside of groups or the first match is empty. -/
theorem ascends_or_several [CharacterNames] {components : List Pattern.Component}
    (read : Regex.parse (Vocabulary.pathRegex components) = .ok r) (path : Text) :
    ((r.numberedCaptures path).map Prod.fst).Pairwise (· < ·) ∨
      ∃ first second rest, r.allMatches path = first :: second :: rest ∧
        ((∃ s t, r = .alt s t) ∨ first.start = first.stop) := by
  match all : r.allMatches path with
  | [] =>
    have none : r.numberedCaptures path = [] := by
      rw [numberedCaptures, all]
      rfl
    rw [none]
    exact .inl .nil
  | [first] =>
    have only : r.numberedCaptures path = first.numberedCaptures path := by
      rw [numberedCaptures, all, List.flatMap_singleton]
    rw [only]
    exact .inl (first.numberedCaptures_ascends path)
  | first :: second :: rest =>
    refine .inr ⟨first, second, rest, rfl, ?_⟩
    rcases anchored_or_alt_of_parse read with anchored | bar
    · rcases anchored.allMatches_eq_or path with none | ⟨first', rest', same, stays⟩
      · rw [all] at none
        cases none
      · rw [all] at same
        cases same
        exact .inr (stays.resolve_left (List.cons_ne_nil second rest))
    · exact .inl bar

/-- A match has bound the parameters of the path in a row to the texts that were captured from one of the paths that are
tried. -/
theorem values_of_matchPattern [CharacterNames] {subject : Subject}
    (compiled : vocabulary.compile expression = .ok pattern) (hr : pattern.regex = some r)
    (matched : subject.matchPattern pattern = .ok (some m)) :
    ∃ path, subject.Tried path ∧ r.hasMatch path = true ∧ pattern.pathParams.length = (r.captures path).length ∧
      ∀ entry ∈ pattern.pathParams.zip (r.captures path), ∃ v, entry.1.convert entry.2 = .ok (some v) ∧
        Assoc.get? entry.1.name m = some v := by
  obtain ⟨found, more, hf, -, -⟩ := Subject.bound_of_matchPattern matched
  obtain ⟨s, path, hs, tried, here, same⟩ := exists_path_of_bindPath hf
  obtain ⟨⟨s', texts, hs', captured, aligned, entries⟩, -⟩ := Subject.entries_of_matchPattern compiled matched
  cases hr.symm.trans hs
  cases hr.symm.trans hs'
  have own : r.captures path = texts := same.trans captured.eq.symm
  exact ⟨path, tried, here, own ▸ aligned, own ▸ entries⟩

/-- **When parameters have their own texts.** For every expression whose tokens stand as groups, a match has bound each
parameter of the path to what the group of its own token captured, with two exceptions: a group of the path itself may
have taken part, and the path may have been matched more than once. -/
theorem ownTexts_of_matchPattern [CharacterNames] {subject : Subject}
    (compiled : vocabulary.compile expression = .ok pattern) (hr : pattern.regex = some r)
    (groups : TokenGroups (componentsOf expression) numbers) (matched : subject.matchPattern pattern = .ok (some m)) :
    ∃ path, subject.Tried path ∧ r.hasMatch path = true ∧
      (OwnTexts (componentsOf expression) numbers pattern r path m ∨
        (∃ number t, (number, t) ∈ r.numberedCaptures path ∧ number ∉ numbers) ∨
        ∃ first second rest, r.allMatches path = first :: second :: rest ∧
          ((∃ s t, r = .alt s t) ∨ first.start = first.stop)) := by
  have read := parse_of_compile compiled hr
  have names := names_of_pathParams (Vocabulary.compile_eq_ok_iff.1 compiled).pathParams
  obtain ⟨path, tried, here, aligned, values⟩ := values_of_matchPattern compiled hr matched
  refine ⟨path, tried, here, ?_⟩
  by_cases foreign : ∃ number t, (number, t) ∈ r.numberedCaptures path ∧ number ∉ numbers
  · exact .inr (.inl foreign)
  rcases ascends_or_several read path with ascends | several
  swap
  · exact .inr (.inr several)
  left
  have own : ∀ number t, (number, t) ∈ r.numberedCaptures path → number ∈ numbers := by
    intro number t captured
    by_contra other
    exact foreign ⟨number, t, captured, other⟩
  -- There are as many texts as parameters, which are those of the tokens, and each token has one group.
  have count : ((r.numberedCaptures path).map Prod.fst).length = numbers.length := by
    have tokens := congrArg List.length names
    rw [List.length_map, List.length_map] at tokens
    rw [← map_snd_numberedCaptures, List.length_map] at aligned
    rw [List.length_map, ← aligned, tokens]
    exact groups.aligned
  refine ⟨names, ?_, ?_, ?_⟩
  · apply eq_of_ascending ascends groups.ascends _ count
    intro number member
    obtain ⟨⟨number, t⟩, captured, rfl⟩ := List.mem_map.1 member
    exact own number t captured
  · intro param number t member
    have paired : (param, t) ∈ pattern.pathParams.zip (r.captures path) := by
      rw [← map_snd_numberedCaptures, List.zip_map_right]
      exact List.mem_map_of_mem member
    exact values _ paired
  · intro number t captured
    exact text_of_tokenGroups groups read (own number t captured) captured

attribute [local instance] CharacterNames.empty in
/-- A group of the path itself that takes no part leaves the parameter to the group of its token. -/
theorem ownTexts_of_matchPattern_optional :
    letI : Conversions Unit := ⟨fun _ t => .ok (.text t)⟩
    let vocabulary : Vocabulary Unit := {}
    let expression := "/a(b)?/:id{int}".toList
    let subject := Subject.ofUrl { path := "/a/7".toList }
    TokenGroups (componentsOf expression) [2] ∧ ∃ pattern r m path, vocabulary.compile expression = .ok pattern ∧
      pattern.regex = some r ∧ subject.matchPattern pattern = .ok (some m) ∧ subject.Tried path ∧
        OwnTexts (componentsOf expression) [2] pattern r path m := by
  intro vocabulary expression subject
  let _ : Conversions Unit := ⟨fun _ t => .ok (.text t)⟩
  have groups : TokenGroups (componentsOf expression) [2] := by decide
  obtain ⟨pattern, compiled⟩ : ∃ pattern, vocabulary.compile expression = .ok pattern := ⟨_, rfl⟩
  have matched : (vocabulary.compile expression).map subject.matchPattern =
    .ok (.ok (some [("id".toList, .int 7)])) := by rfl
  -- Neither of the two paths is one on which something else than the group of the token takes part.
  have apart : (vocabulary.compile expression).map (fun p => p.regex.map fun r =>
      [subject.path, subject.path ++ ['/']].all fun path =>
        (r.numberedCaptures path).all (fun entry => entry.1 == 2) && decide ((r.allMatches path).length ≤ 1)) =
    .ok (some true) := by rfl
  rw [compiled] at matched apart
  injection matched with matched
  injection apart with apart
  obtain ⟨r, hr, apart⟩ := Option.map_eq_some_iff.1 apart
  obtain ⟨path, tried, -, kinds⟩ := ownTexts_of_matchPattern compiled hr groups matched
  have here : path ∈ [subject.path, subject.path ++ ['/']] := by
    rcases tried with rfl | ⟨-, rfl⟩
    · exact List.mem_cons_self ..
    · exact List.mem_cons_of_mem _ (List.mem_cons_self ..)
  have apart := List.all_eq_true.1 apart path here
  rw [Bool.and_eq_true, List.all_eq_true, decide_eq_true_eq] at apart
  refine ⟨groups, pattern, r, _, path, compiled, hr, matched, tried, ?_⟩
  rcases kinds with own | ⟨number, t, captured, other⟩ | ⟨first, second, rest, all, -⟩
  · exact own
  · have two := apart.1 _ captured
    exact absurd (by simpa using two) other
  · have many := apart.2
    rw [all] at many
    simp at many

/-- A match in which a parameter lacks a text of its own token: there is no way to read what the groups captured as
texts of characters of a component, each captured by the group of the token of its parameter. -/
def Misbinds [CharacterNames] (vocabulary : Vocabulary κ) (expression : Text) (url : Url) : Prop :=
  ∃ pattern r m, vocabulary.compile expression = .ok pattern ∧ pattern.regex = some r ∧
    (Subject.ofUrl url).matchPattern pattern = .ok (some m) ∧
      ¬ ∃ numbers path, TokenGroups (componentsOf expression) numbers ∧ (Subject.ofUrl url).Tried path ∧
        OwnTexts (componentsOf expression) numbers pattern r path m ∧
          ∀ number t, (number, t) ∈ r.numberedCaptures path → ∀ c ∈ t, isComponentChar c = true

/-- Whether the groups that captured are not those of the tokens, or captured other characters. -/
def strays [CharacterNames] (expression : Text) (r : Regex) (path : Text) : Bool :=
  !decide (TokenGroups (componentsOf expression) ((r.numberedCaptures path).map Prod.fst)) ||
    (r.numberedCaptures path).any fun entry => !entry.2.all isComponentChar

/-- When the computed check finds that what was captured strays from the groups of the tokens, a parameter lacks a text
of its own token. -/
theorem misbinds_of_strays [CharacterNames] {url : Url} (compiled : vocabulary.compile expression = .ok pattern)
    (matched : ((Subject.ofUrl url).matchPattern pattern).map Option.isSome = .ok true)
    (stray : (pattern.regex.map fun r => strays expression r (Subject.ofUrl url).path &&
      strays expression r ((Subject.ofUrl url).path ++ ['/'])) = some true) : Misbinds vocabulary expression url := by
  obtain ⟨r, hr, both⟩ := Option.map_eq_some_iff.1 stray
  rw [Bool.and_eq_true] at both
  obtain ⟨m, hm⟩ : ∃ m, (Subject.ofUrl url).matchPattern pattern = .ok (some m) := by
    cases h : (Subject.ofUrl url).matchPattern pattern with
    | error fault =>
      rw [h] at matched
      cases matched
    | ok found =>
      rw [h] at matched
      cases found with
      | none => cases matched
      | some m => exact ⟨m, rfl⟩
  refine ⟨pattern, r, m, compiled, hr, hm, ?_⟩
  rintro ⟨numbers, path, groups, tried, own, all⟩
  have stray : strays expression r path = true := by
    rcases tried with rfl | ⟨-, rfl⟩
    · exact both.1
    · exact both.2
  rw [strays, own.groups, decide_eq_true groups, Bool.not_true, Bool.false_or, List.any_eq_true] at stray
  obtain ⟨⟨number, t⟩, captured, other⟩ := stray
  rw [Bool.not_eq_true', ← Bool.not_eq_true, List.all_eq_true] at other
  exact other (all number t captured)

attribute [local instance] CharacterNames.empty in
/-- How parameters get other texts: a group of the path takes the place of a token that takes no part, one group
captures in two matches, a bracket makes the token a set of characters, or a letter of another script counts as one of a
component because they differ in case only. -/
theorem misbinds_examples :
    letI : Conversions Unit := ⟨fun _ t => .ok (.text t)⟩
    let vocabulary : Vocabulary Unit := {}
    Misbinds vocabulary "/(en|de)(?:/:page/)?".toList { path := "/en".toList } ∧
      Misbinds vocabulary "/(!)?(?:/:x/)?".toList { path := "/!".toList } ∧
      Misbinds vocabulary "/q|/:x/|/:y/".toList { path := "/a//b/c".toList } ∧
      Misbinds vocabulary "/([/:x/]".toList { path := "/a/b/]".toList } ∧
      Misbinds vocabulary "/a(?i:/:x/)".toList { path := "/a/\u212a/".toList } := by
  intro vocabulary
  let _ : Conversions Unit := ⟨fun _ t => .ok (.text t)⟩
  refine ⟨?_, ?_, ?_, ?_, ?_⟩
  · exact misbinds_of_strays rfl rfl rfl
  · exact misbinds_of_strays rfl rfl rfl
  · exact misbinds_of_strays rfl rfl rfl
  · exact misbinds_of_strays rfl rfl rfl
  · exact misbinds_of_strays rfl rfl rfl

end

end TypedRoutes.Path
