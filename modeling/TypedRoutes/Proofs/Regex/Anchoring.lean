import TypedRoutes.Proofs.Regex.Extension
import TypedRoutes.Proofs.Regex.Reading

/-!
# Reading a text between anchors

A branch goes on as before when a dollar sign is put behind the source (`Reads`), until it is closed by a bar or a
parenthesis or comes to the sign itself. One induction on the bound settles branches and alternatives in groups together
(`reads_extended`): what stands in a group is closed before the sign, and at the top level the flags in force are those
of the start, so that the sign is the end of the subject there.

A text that starts with a slash and is a regular expression on its own is therefore the same rows between anchors, the
first with the start of the subject before it and the last with the end of the subject after it (`parse_anchored`).
-/

namespace TypedRoutes.Regex

set_option autoImplicit false

variable {n : Nat} {level : Level} {flags : Flags} {items items' : List Item} {source next source' : Source} {r : Regex}

variable [CharacterNames]

/-- What reading a branch comes to when a dollar sign is put behind the source: the same items, and then whatever the
branch makes of what is left. Items that were there before stay below. -/
structure Reads (n : Nat) (level : Level) (flags : Flags) (items : List Item) (source : Source) (r : Regex)
    (source' : Source) : Prop where
  globals : source'.book.globals = source.book.globals
  stop : source'.rest = [] ∨ ∃ c more, (c = '|' ∨ c = ')') ∧ source'.rest = .plain c :: more
  goesOn : ∃ all, r = ofItems all ∧ ∀ base k, ∃ m, k < m ∧
    branch (n + k) level flags (items ++ base) source.extended = branch m level flags (all ++ base) source'.extended

/-- A branch that the source ends before its end is left as it was. -/
theorem Reads.closed (reads : Reads n level flags items source r source') (filled : source'.rest ≠ []) (k : Nat) :
    branch (n + k) level flags items source.extended = .ok (r, source'.extended) := by
  obtain ⟨all, rfl, goesOn⟩ := reads.goesOn
  obtain ⟨m, hm, same⟩ := goesOn [] k
  obtain ⟨m, rfl⟩ : ∃ m', m = m' + 1 := ⟨m - 1, by omega⟩
  obtain ⟨c, more, hc, rest⟩ := reads.stop.resolve_left filled
  rw [List.append_nil, List.append_nil] at same
  rw [same, Source.extended, rest, extended_plain, branch_stop hc]

/-- A step of the reader that the sign does not change. -/
theorem Reads.step (reads : Reads n level flags items' next r source') (globals : next.book.globals = source.book.globals)
    (same : ∀ base k, branch (n + k + 1) level flags (items ++ base) source.extended =
      branch (n + k) level flags (items' ++ base) next.extended) :
    Reads (n + 1) level flags items source r source' where
  globals := reads.globals.trans globals
  stop := reads.stop
  goesOn := by
    obtain ⟨all, hr, goesOn⟩ := reads.goesOn
    refine ⟨all, hr, fun base k => ?_⟩
    obtain ⟨m, hm, h⟩ := goesOn base k
    exact ⟨m, hm, by rw [Nat.add_right_comm, same, h]⟩

omit [CharacterNames] in
/-- The flags in force change with the global flags only. -/
theorem flags_of_globals {book book' : Book} (h : book'.globals = book.globals) :
    level.flags flags book' = level.flags flags book := by
  unfold Level.flags Book.flags
  rw [h]

/-- Alternatives in a group, which end before the source does, are the same with a dollar sign behind the source. -/
def GroupsRead (n : Nat) : Prop :=
  ∀ (flags : Flags) (source : Source) (r : Regex) (source' : Source),
    alternatives n .nested flags source = .ok (r, source') → source'.rest ≠ [] →
      source'.book.globals = source.book.globals ∧
        ∀ k, alternatives (n + k) .nested flags source.extended = .ok (r, source'.extended)

/-- A branch reads the same items with a dollar sign behind the source. It is not at the very start, where global flags
could be set, and unless it ends before the source does no comment of the verbose form can swallow the sign. -/
def BranchesRead (n : Nat) : Prop :=
  ∀ (level : Level) (flags : Flags) (items : List Item) (source : Source) (r : Regex) (source' : Source),
    branch n level flags items source = .ok (r, source') → (level == .start && items.isEmpty) = false →
      level.flags flags source.book = flags → source'.rest ≠ [] ∨ flags.verbose = false →
        Reads n level flags items source r source'

/-- Alternatives in a group are read the same with the sign behind them when their branches are. -/
theorem GroupsRead.succ (groups : GroupsRead n) (branches : BranchesRead n) : GroupsRead (n + 1) := by
  intro flags source r source' h filled
  rw [alternatives] at h
  obtain ⟨⟨r, next⟩, hb, h⟩ := bind_eq_ok_iff.1 h
  simp only at h
  split at h
  · rename_i rest hr
    obtain ⟨⟨s, last⟩, ha, h⟩ := bind_eq_ok_iff.1 h
    cases h
    have reads := branches _ _ _ _ _ _ hb rfl rfl (.inl (by simp [hr]))
    obtain ⟨globals, same⟩ := groups _ _ _ _ ha filled
    refine ⟨globals.trans reads.globals, fun k => ?_⟩
    rw [Nat.add_right_comm, alternatives]
    refine bind_eq_ok_iff.2 ⟨_, reads.closed (by simp [hr]) k, ?_⟩
    simp only [Source.extended, hr, extended_plain]
    exact bind_eq_ok_iff.2 ⟨_, same k, rfl⟩
  · rename_i single
    cases h
    have reads := branches _ _ _ _ _ _ hb rfl rfl (.inl filled)
    refine ⟨reads.globals, fun k => ?_⟩
    rw [Nat.add_right_comm, alternatives]
    refine bind_eq_ok_iff.2 ⟨_, reads.closed filled k, ?_⟩
    simp only
    split
    · exact absurd ‹_› (extended_ne_cons (by decide) single _)
    · rfl

/-- What a branch makes of a comment that the verbose form leaves out. -/
theorem skipLine_of_branch {rest : List Piece} {book : Book}
    (h : branch n level flags items ⟨skipLine rest, book⟩ = .ok (r, source')) (filled : source'.rest ≠ []) :
    skipLine (extended rest) = extended (skipLine rest) := by
  cases n with
  | zero => cases h
  | succ n =>
    rw [branch] at h
    refine skipLine_extended (fun none => ?_) fun more dangling => ?_
    · rw [none] at h
      cases h
      exact filled rfl
    · rw [dangling] at h
      cases h

/-- The two branches of a condition on a group. -/
theorem BranchesRead.condition (branches : BranchesRead n) {yes no : Regex} {last : Source}
    (hy : branch n .nested flags [] source = .ok (yes, next)) (hn : otherwise n flags next = .ok (no, last))
    (filled : last.rest ≠ []) :
    last.book.globals = source.book.globals ∧
      ∀ k, branch (n + k) .nested flags [] source.extended = .ok (yes, next.extended) ∧
        otherwise (n + k) flags next.extended = .ok (no, last.extended) := by
  unfold otherwise at hn ⊢
  split at hn
  · rename_i rest hr
    have first := branches _ _ _ _ _ _ hy rfl rfl (.inl (by simp [hr]))
    have second := branches _ _ _ _ _ _ hn rfl rfl (.inl filled)
    refine ⟨second.globals.trans first.globals, fun k => ⟨first.closed (by simp [hr]) k, ?_⟩⟩
    simp only [Source.extended, hr, extended_plain]
    exact second.closed filled k
  · rename_i single
    cases hn
    have first := branches _ _ _ _ _ _ hy rfl rfl (.inl filled)
    refine ⟨first.globals, fun k => ⟨first.closed filled k, ?_⟩⟩
    split
    · exact absurd ‹_› (extended_ne_cons (by decide) single _)
    · rfl

/-- What a parenthesis opens is closed before the sign. -/
theorem BranchesRead.parenthesis (groups : GroupsRead n) (branches : BranchesRead n) {rest : List Piece} {book : Book}
    (h : branch (n + 1) level flags items ⟨.plain '(' :: rest, book⟩ = .ok (r, source'))
    (started : (level == .start && items.isEmpty) = false) (settled : level.flags flags book = flags)
    (ended : source'.rest ≠ [] ∨ flags.verbose = false) :
    Reads (n + 1) level flags items ⟨.plain '(' :: rest, book⟩ r source' := by
  have later : ∀ base, (level == .start && (items ++ base).isEmpty) = false := by
    intro base
    cases items with
    | nil => cases level <;> simp_all
    | cons item items => simp
  rw [branch_parenthesis, started] at h
  obtain ⟨⟨opened, next⟩, ho, h⟩ := bind_eq_ok_iff.1 h
  obtain ⟨same, globals, keeps⟩ := opening_extended ho
  have opens : opening flags false ⟨extended rest, book⟩ = .ok (opened, next.extended) := same
  have settled' : level.flags flags next.book = flags := (flags_of_globals globals).trans settled
  cases opened with
  | nothing =>
    rw [afterOpening, settled'] at h
    refine (branches _ _ _ _ _ _ h started settled' ended).step globals fun base k => ?_
    change branch (n + k + 1) level flags (items ++ base) ⟨.plain '(' :: extended rest, book⟩ = _
    rw [branch_parenthesis, later, bind_of_eq_ok opens]
    rw [afterOpening, Source.extended, settled']
  | item s =>
    refine (branches _ _ _ _ _ _ h (by simp) settled' ended).step globals fun base k => ?_
    change branch (n + k + 1) level flags (items ++ base) ⟨.plain '(' :: extended rest, book⟩ = _
    rw [branch_parenthesis, later, bind_of_eq_ok opens]
    rfl
  | body inner close =>
    obtain ⟨⟨s, last⟩, ha, h⟩ := bind_eq_ok_iff.1 h
    obtain ⟨closed, hc, h⟩ := bind_eq_ok_iff.1 h
    obtain ⟨hc, same, filled⟩ := close_extended hc
    obtain ⟨within, ha⟩ := groups _ _ _ _ ha filled
    have globals' : (close s closed.book).2.globals = book.globals := by
      rw [keeps, same, within, globals]
    refine (branches _ _ _ _ _ _ h (by simp) ((flags_of_globals globals').trans settled) ended).step globals'
      fun base k => ?_
    change branch (n + k + 1) level flags (items ++ base) ⟨.plain '(' :: extended rest, book⟩ = _
    rw [branch_parenthesis, later, bind_of_eq_ok opens, afterOpening, bind_of_eq_ok (ha k)]
    simp only
    rw [bind_of_eq_ok hc]
    rfl
  | condition index =>
    obtain ⟨⟨yes, middle⟩, hy, h⟩ := bind_eq_ok_iff.1 h
    obtain ⟨⟨no, last⟩, hn, h⟩ := bind_eq_ok_iff.1 h
    obtain ⟨closed, hc, h⟩ := bind_eq_ok_iff.1 h
    obtain ⟨hc, same, filled⟩ := close_extended hc
    obtain ⟨within, both⟩ := branches.condition hy hn filled
    have globals' : closed.book.globals = book.globals := by
      rw [same, within, globals]
    refine (branches _ _ _ _ _ _ h (by simp) ((flags_of_globals globals').trans settled) ended).step globals'
      fun base k => ?_
    obtain ⟨hy, hn⟩ := both k
    change branch (n + k + 1) level flags (items ++ base) ⟨.plain '(' :: extended rest, book⟩ = _
    rw [branch_parenthesis, later, bind_of_eq_ok opens, afterOpening, bind_of_eq_ok hy]
    simp only
    rw [bind_of_eq_ok hn]
    simp only
    rw [bind_of_eq_ok hc]
    rfl

/-- What may repeat the last item, or is an item of its own, is read before the sign. -/
theorem BranchesRead.quantified (branches : BranchesRead n) {c : Char} {rest : List Piece} {book : Book}
    (quantified : c = '*' ∨ c = '+' ∨ c = '?' ∨ c = '\x7b')
    (h : branch (n + 1) level flags items ⟨.plain c :: rest, book⟩ = .ok (r, source'))
    (settled : level.flags flags book = flags) (ended : source'.rest ≠ [] ∨ flags.verbose = false) :
    Reads (n + 1) level flags items ⟨.plain c :: rest, book⟩ r source' := by
  rw [branch_quantified quantified] at h
  obtain ⟨found, hq, h⟩ := bind_eq_ok_iff.1 h
  cases found with
  | none =>
    have reads := branches _ _ _ ⟨rest, book⟩ _ _ h (by simp) settled ended
    exact reads.step rfl fun base k =>
      (branch_quantified quantified).trans (bind_of_eq_ok (quantifier_extended hq) _)
  | some found =>
    obtain ⟨least, most, after⟩ := found
    obtain ⟨items', hi, h⟩ := bind_eq_ok_iff.1 h
    obtain ⟨-, filled⟩ := repeatLast_append hi []
    have reads := branches _ _ _ ⟨(greed after).2, book⟩ _ _ h (by simp [filled]) settled ended
    refine reads.step rfl fun base k => ?_
    rw [Source.extended, extended_plain, branch_quantified quantified, bind_of_eq_ok (quantifier_extended hq),
      Option.map_some, afterQuantifier, greed_extended, bind_of_eq_ok (repeatLast_append hi base).1]
    rfl

/-- One step of reading a branch, by the piece that is next. -/
theorem BranchesRead.succ (groups : GroupsRead n) (branches : BranchesRead n) : BranchesRead (n + 1) := by
  intro level flags items source r source' h started settled ended
  obtain ⟨rest, book⟩ := source
  match rest with
  | [] =>
    cases h
    exact ⟨rfl, .inl rfl, items, rfl, fun base k => ⟨n + 1 + k, by omega, rfl⟩⟩
  | .dangling :: rest => cases h
  | .escaped c :: rest =>
    obtain ⟨⟨s, next⟩, he, h⟩ := bind_eq_ok_iff.1 h
    obtain ⟨he, kept⟩ := escape_extended he
    have globals : next.book.globals = book.globals := congrArg Book.globals kept
    have reads := branches _ _ _ _ _ _ h (by simp) ((flags_of_globals globals).trans settled) ended
    exact reads.step globals fun base k => bind_of_eq_ok he _
  | .plain c :: rest =>
    by_cases stop : c = '|' ∨ c = ')'
    · rw [branch_stop stop] at h
      cases h
      exact ⟨rfl, .inr ⟨c, rest, stop, rfl⟩, items, rfl, fun base k => ⟨n + 1 + k, by omega, rfl⟩⟩
    by_cases parenthesis : c = '('
    · subst parenthesis
      exact branches.parenthesis groups h started settled ended
    by_cases bracket : c = '['
    · subst bracket
      rw [branch_bracket] at h
      obtain ⟨⟨s, after⟩, hs, h⟩ := bind_eq_ok_iff.1 h
      have reads := branches _ _ _ ⟨after, book⟩ _ _ h (by simp) settled ended
      exact reads.step rfl fun base k => branch_bracket.trans (bind_of_eq_ok (charSet_extended hs) _)
    by_cases quantified : c = '*' ∨ c = '+' ∨ c = '?' ∨ c = '\x7b'
    · exact branches.quantified quantified h settled ended
    by_cases blank : (flags.verbose && isVerboseBlank c) = true
    · obtain ⟨verbose, blank⟩ := Bool.and_eq_true_iff.1 blank
      rw [branch_blank verbose blank] at h
      have reads := branches _ _ _ ⟨rest, book⟩ _ _ h started settled ended
      exact reads.step rfl fun base k => branch_blank verbose blank
    by_cases comment : (flags.verbose && c == '#') = true
    · obtain ⟨verbose, sign⟩ := Bool.and_eq_true_iff.1 comment
      obtain rfl := eq_of_beq sign
      rw [branch_comment verbose] at h
      have filled : source'.rest ≠ [] := ended.resolve_right (by simp [verbose])
      have reads := branches _ _ _ ⟨skipLine rest, book⟩ _ _ h started settled ended
      refine reads.step rfl fun base k => ?_
      rw [Source.extended, extended_plain, branch_comment verbose, skipLine_of_branch h filled]
      rfl
    rw [Bool.not_eq_true] at blank comment
    rw [branch_plain stop blank comment bracket quantified parenthesis] at h
    have reads := branches _ _ _ ⟨rest, book⟩ _ _ h (by simp) settled ended
    exact reads.step rfl fun base k => branch_plain stop blank comment bracket quantified parenthesis

/-- **Reading with a dollar sign behind the source.** -/
theorem reads_extended (n : Nat) : GroupsRead n ∧ BranchesRead n := by
  induction n with
  | zero =>
    constructor
    · intro flags source r source' h
      cases h
    · intro level flags items source r source' h
      cases h
  | succ n ih => exact ⟨ih.1.succ ih.2, ih.2.succ ih.1⟩

/-! ## The top level -/

/-- The items before the first one: the start of the subject, for the first branch. -/
def startItems (first : Bool) : List Item := if first then [(.anchor, .anchor .subjectStart)] else []

/-- What is left with a dollar sign behind the source, once a branch at the end has read the sign. -/
def Source.beyond (source : Source) : Source := if source.rest.isEmpty then source else source.extended

/-- At the top level a branch gets the end of the subject as its last item when it is the last one. -/
theorem Reads.row (reads : Reads n level {} [] source r next) :
    ∃ row, r = sequence row ∧ ∀ first k, 1 ≤ k → branch (n + k) level {} (startItems first) source.extended =
      .ok (sequence (anchoredRow first next.rest.isEmpty row), next.beyond) := by
  obtain ⟨all, rfl, goesOn⟩ := reads.goesOn
  refine ⟨all.reverse.map Prod.snd, rfl, fun first k hk => ?_⟩
  obtain ⟨m, hm, same⟩ := goesOn (startItems first) k
  obtain ⟨m, rfl⟩ : ∃ m', m = m' + 2 := ⟨m - 2, by omega⟩
  have start : (startItems first).reverse.map Prod.snd = if first then [.anchor .subjectStart] else [] := by
    cases first <;> rfl
  rw [List.nil_append] at same
  obtain ⟨rest, book⟩ := next
  rw [same]
  rcases reads.stop with rfl | ⟨c, more, hc, rfl⟩
  · have sign : branch (m + 2) level {} (all ++ startItems first) (Source.extended ⟨[], book⟩) =
        .ok (ofItems ((.anchor, .anchor .lastLineEnd) :: (all ++ startItems first)), ⟨[], book⟩) := rfl
    rw [sign]
    simp [ofItems, anchoredRow, Source.beyond, start]
  · have stop : branch (m + 2) level {} (all ++ startItems first) (Source.extended ⟨.plain c :: more, book⟩) =
        .ok (ofItems (all ++ startItems first), Source.extended ⟨.plain c :: more, book⟩) := branch_stop hc
    rw [stop]
    simp [ofItems, anchoredRow, Source.beyond, start]

/-- What follows a branch: another one after a bar. -/
def following (n : Nat) (level : Level) (r : Regex) (source : Source) : Except Refusal (Regex × Source) :=
  match source.rest with
  | .plain '|' :: rest => do
    let (s, source) ← alternatives n level.next {} { source with rest }
    return (.alt r s, source)
  | _ => .ok (r, source)

/-- Alternatives are a branch and what follows it. -/
theorem alternatives_eq (n : Nat) {level : Level} (settled : level.flags {} source.book = {}) :
    alternatives (n + 1) level {} source = (do
      let (r, source) ← branch n level {} [] source
      following n level r source) := by
  rw [alternatives, settled]
  rfl

omit [CharacterNames] in
theorem ofRows_cons (row : List Regex) {rows : List (List Regex)} (filled : rows ≠ []) :
    ofRows (row :: rows) = .alt (sequence row) (ofRows rows) := by
  obtain ⟨row', rows, rfl⟩ := List.exists_cons_of_ne_nil filled
  rfl

omit [CharacterNames] in
theorem anchoredRows_cons (first : Bool) (row : List Regex) {rows : List (List Regex)} (filled : rows ≠ []) :
    anchoredRows first (row :: rows) = anchoredRow first false row :: anchoredRows false rows := by
  obtain ⟨row', rows, rfl⟩ := List.exists_cons_of_ne_nil filled
  rfl

/-- Branches at the top level that end with the source are the same rows with a dollar sign behind the source, with the
end of the subject after the last one. -/
def TopRead (n : Nat) : Prop :=
  ∀ (source : Source) (r : Regex) (source' : Source), alternatives n .top {} source = .ok (r, source') →
    source.book.globals = [] → source'.rest = [] →
      ∃ rows, rows ≠ [] ∧ r = ofRows rows ∧ source'.book.globals = [] ∧ ∀ k, 1 ≤ k →
        alternatives (n + k) .top {} source.extended = .ok (ofRows (anchoredRows false rows), source')

/-- Alternatives that follow a branch at the top are read the same, each one anchored as its place asks for. -/
theorem TopRead.following (top : TopRead n) {level : Level} (unnested : level ≠ .nested) {row : List Regex}
    (h : following n level (sequence row) next = .ok (r, source')) (globals : next.book.globals = [])
    (ended : source'.rest = []) :
    ∃ rows, r = ofRows (row :: rows) ∧ source'.book.globals = [] ∧ ∀ first k, 1 ≤ k →
      Regex.following (n + k) level (sequence (anchoredRow first next.rest.isEmpty row)) next.beyond =
        .ok (ofRows (anchoredRows first (row :: rows)), source') := by
  have nextTop : level.next = .top := by cases level <;> first | rfl | exact absurd rfl unnested
  unfold Regex.following at h ⊢
  rw [nextTop] at h ⊢
  split at h
  · rename_i rest hr
    obtain ⟨⟨s, last⟩, ha, h⟩ := bind_eq_ok_iff.1 h
    cases h
    obtain ⟨rows, filled, rfl, globals', same⟩ := top _ _ _ ha globals ended
    refine ⟨rows, (ofRows_cons row filled).symm, globals', fun first k hk => ?_⟩
    simp only [Source.beyond, Source.extended, hr, extended_plain, List.isEmpty_cons]
    rw [anchoredRows_cons first row filled, ofRows_cons _ (anchoredRows_ne_nil false filled)]
    exact bind_eq_ok_iff.2 ⟨_, same k hk, rfl⟩
  · cases h
    obtain ⟨rest, book⟩ := next
    cases ended
    exact ⟨[], rfl, globals, fun first k hk => rfl⟩

/-- Alternatives at the top are read as the same rows, with the sign at the end of the last one. -/
theorem topRead (n : Nat) : TopRead n := by
  induction n with
  | zero =>
    intro source r source' h
    cases h
  | succ n ih =>
    intro source r source' h globals ended
    have settled : Level.flags .top {} source.book = {} := by
      have start : Level.flags .top {} {} = {} := rfl
      rw [← start]
      exact flags_of_globals globals
    rw [alternatives_eq n settled] at h
    obtain ⟨⟨s, next⟩, hb, h⟩ := bind_eq_ok_iff.1 h
    have reads := (reads_extended n).2 _ _ _ _ _ _ hb rfl settled (.inr rfl)
    obtain ⟨row, rfl, branches⟩ := reads.row
    obtain ⟨rows, rfl, globals', same⟩ := ih.following (by decide) h (reads.globals.trans globals) ended
    refine ⟨row :: rows, by simp, rfl, globals', fun k hk => ?_⟩
    have settled' : Level.flags .top {} source.extended.book = {} := settled
    rw [Nat.add_right_comm, alternatives_eq (n + k) settled']
    exact bind_eq_ok_iff.2 ⟨_, branches false k hk, same false k hk⟩

/-! ## The whole text -/

omit [CharacterNames] in
theorem rest_of_finalFault? (h : finalFault? r source = none) : source.rest = [] := by
  unfold finalFault? at h
  simp only at h
  split at h
  · cases h
  · split at h
    · cases h
    · simp_all

omit [CharacterNames] in
/-- Without global flags the end of a reading is judged by the source alone. -/
theorem finalFault?_of_globals {s : Regex} (globals : source.book.globals = []) (h : finalFault? r source = none) :
    finalFault? s source = none := by
  simpa [finalFault?, globals] using h

/-- **A text between anchors.** A text that starts with a slash and is a regular expression on its own consists of rows
between bars, and between anchors it consists of the same rows, the first one with the start of the subject before it
and the last one with the end of the subject after it. -/
theorem parse_anchored {body : Text} (slash : body.head? = some '/') (read : parse body = .ok r) :
    ∃ rows, rows ≠ [] ∧ r = ofRows rows ∧ parse ('^' :: (body ++ ['$'])) = .ok (ofRows (anchoredRows true rows)) := by
  obtain ⟨t, rfl⟩ : ∃ t, body = '/' :: t := by
    cases body with
    | nil => cases slash
    | cons c t => cases slash; exact ⟨t, rfl⟩
  have ordinary : Ordinary '/' := by decide
  have cut : pieces ('/' :: t) = .plain '/' :: pieces t := pieces_cons (by decide) t
  obtain ⟨⟨s, source'⟩, ha, hf⟩ := bind_eq_ok_iff.1 read
  simp only at hf
  split at hf
  · cases hf
  rename_i faultless
  cases hf
  have ended := rest_of_finalFault? faultless
  have bound : 2 * (pieces ('/' :: t)).length + 2 = 2 * (pieces t).length + 3 + 1 := by
    rw [cut, List.length_cons]
    omega
  have settled : Level.flags .start {} {} = {} := rfl
  rw [bound, alternatives_eq _ settled] at ha
  obtain ⟨⟨s, next⟩, hb, hn⟩ := bind_eq_ok_iff.1 ha
  rw [cut, branch_single ordinary] at hb
  have reads : Reads (2 * (pieces t).length + 3) .start {} [] ⟨.plain '/' :: pieces t, {}⟩ s next :=
    ((reads_extended _).2 _ _ _ _ _ _ hb rfl settled (.inr rfl)).step rfl
      fun base k => branch_single ordinary _ base (extended (pieces t)) {}
  obtain ⟨row, rfl, branches⟩ := reads.row
  obtain ⟨rows, rfl, globals, follows⟩ := (topRead _).following (by decide) hn reads.globals ended
  refine ⟨row :: rows, by simp, rfl, ?_⟩
  -- The sign and the caret are two pieces more, so that there are some rounds to spare.
  have cut' : pieces ('^' :: ('/' :: t ++ ['$'])) = .plain '^' :: .plain '/' :: extended (pieces t) := by
    rw [pieces_cons (by decide), pieces_append_dollar, cut]
    rfl
  obtain ⟨k, hk⟩ := Nat.exists_eq_add_of_le (length_le_extended (pieces t))
  have bound' : 2 * (pieces ('^' :: ('/' :: t ++ ['$']))).length + 2 = 2 * (pieces t).length + 3 + (2 * k + 2) + 1 := by
    rw [cut', List.length_cons, List.length_cons, hk]
    omega
  have caret : branch (2 * (pieces t).length + 3 + (2 * k + 2)) .start {} []
      ⟨.plain '^' :: .plain '/' :: extended (pieces t), {}⟩ =
        .ok (sequence (anchoredRow true next.rest.isEmpty row), next.beyond) := branches true (2 * k + 1) (by omega)
  have anchored : alternatives (2 * (pieces t).length + 3 + (2 * k + 2) + 1) .start {}
      ⟨.plain '^' :: .plain '/' :: extended (pieces t), {}⟩ = .ok (ofRows (anchoredRows true (row :: rows)), source') := by
    rw [alternatives_eq _ settled]
    exact bind_eq_ok_iff.2 ⟨_, caret, follows true (2 * k + 2) (by omega)⟩
  rw [parse, bound', cut']
  refine bind_eq_ok_iff.2 ⟨_, anchored, ?_⟩
  simp only
  rw [finalFault?_of_globals globals faultless]
  rfl

end TypedRoutes.Regex
