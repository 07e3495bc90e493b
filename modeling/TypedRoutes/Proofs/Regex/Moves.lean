import TypedRoutes.Proofs.Regex.Extension
import TypedRoutes.Proofs.Regex.Reading
import TypedRoutes.Proofs.Regex.Running
import TypedRoutes.Proofs.Regex.Ways

/-!
# Moves of the reader

A branch does one of four things at a time (`Move`): it ends, it takes pieces without groups, it enters a parenthesis,
or it asks about a group. `branch_succ` is the one equation for all four, and `spec_of_move` says once what each of them
does to the items and to the numbers of groups; what holds of a branch or of alternatives as a whole follows by induction
on the bound.

An anchor cannot be repeated, so that one at the start of a branch stays there (`anchor_suffix_of_branch`): an
expression that starts with the start of the subject matches there only, unless it has a bar outside of groups
(`anchored_or_alt_of_parse`).
-/

namespace TypedRoutes.Regex

set_option autoImplicit false

/-! ## Moves of the reader -/

/-- What a branch does next. -/
inductive Move where
  | stop
  | goOn (flags : Flags) (items : List Item) (source : Source)
  | enter (inner : Flags) (close : Regex → Book → Regex × Book) (source : Source)
  | ask (index : Nat) (source : Source)

/-- The move at what a parenthesis opens. -/
def Opening.move (level : Level) (flags : Flags) (items : List Item) : Opening × Source → Move
  | (.nothing, source) => .goOn (level.flags flags source.book) items source
  | (.item r, source) => .goOn flags ((.other, r) :: items) source
  | (.body inner close, source) => .enter inner close source
  | (.condition index, source) => .ask index source

/-- The move at a sign that may repeat the last item. -/
def quantifierMove (flags : Flags) (items : List Item) (c : Char) (rest : List Piece) (book : Book) :
    Option (Nat × Option Nat × List Piece) → Except Refusal Move
  | none => .ok (.goOn flags ((.other, literal flags c.toNat) :: items) ⟨rest, book⟩)
  | some (least, most, after) => do
    let items ← repeatLast (greed after).1 least most items
    return .goOn flags items ⟨(greed after).2, book⟩

/-- The move of a branch. -/
def move [CharacterNames] (level : Level) (flags : Flags) (items : List Item) (source : Source) : Except Refusal Move :=
  match source.rest with
  | [] => .ok .stop
  | .dangling :: _ => .error .malformed
  | .escaped c :: rest => do
    let (r, source) ← escape flags c { source with rest }
    return .goOn flags ((itemKind r, r) :: items) source
  | .plain c :: rest =>
    if c = '|' ∨ c = ')' then .ok .stop
    else if c = '(' then do
      return Opening.move level flags items (← opening flags (level == .start && items.isEmpty) { source with rest })
    else if c = '[' then do
      let (r, rest) ← charSet flags rest
      return .goOn flags ((.other, r) :: items) { source with rest }
    else if c = '*' ∨ c = '+' ∨ c = '?' ∨ c = '\x7b' then do
      quantifierMove flags items c rest source.book (← quantifier c rest)
    else if flags.verbose && isVerboseBlank c then .ok (.goOn flags items { source with rest })
    else if flags.verbose && c == '#' then .ok (.goOn flags items { source with rest := skipLine rest })
    else .ok (.goOn flags (plainItem flags c :: items) { source with rest })

/-- How a branch goes on after a move. -/
def afterMove [CharacterNames] (n : Nat) (level : Level) (flags : Flags) (items : List Item) (source : Source) :
    Move → Except Refusal (Regex × Source)
  | .stop => .ok (ofItems items, source)
  | .goOn flags items source => branch n level flags items source
  | .enter inner close source => afterOpening n level flags items (.body inner close, source)
  | .ask index source => afterOpening n level flags items (.condition index, source)

section

variable {n : Nat} {level : Level} {flags : Flags} {items items' : List Item} {source source' : Source} {r : Regex}

/-- A branch makes its moves one after the other. -/
theorem branch_succ [CharacterNames] (n : Nat) (level : Level) (flags : Flags) (items : List Item) (source : Source) :
    branch (n + 1) level flags items source =
      move level flags items source >>= afterMove n level flags items source := by
  obtain ⟨rest, book⟩ := source
  match rest with
  | [] => rfl
  | .dangling :: rest => rfl
  | .escaped c :: rest =>
    have taken : branch (n + 1) level flags items ⟨.escaped c :: rest, book⟩ =
      escape flags c ⟨rest, book⟩ >>= fun read => branch n level flags ((itemKind read.1, read.1) :: items) read.2 := rfl
    rw [taken, move, bind_assoc]
    rfl
  | .plain c :: rest =>
    simp only [move]
    by_cases stop : c = '|' ∨ c = ')'
    · rw [branch_stop stop, if_pos stop]
      rfl
    rw [if_neg stop]
    by_cases parenthesis : c = '('
    · subst parenthesis
      rw [branch_parenthesis, if_pos rfl, bind_assoc]
      congr 1
      funext opened
      obtain ⟨opened, source⟩ := opened
      cases opened <;> rfl
    rw [if_neg parenthesis]
    by_cases bracket : c = '['
    · subst bracket
      rw [branch_bracket, if_pos rfl, bind_assoc]
      rfl
    rw [if_neg bracket]
    by_cases quantified : c = '*' ∨ c = '+' ∨ c = '?' ∨ c = '\x7b'
    · rw [branch_quantified quantified, if_pos quantified, bind_assoc]
      congr 1
      funext counts
      cases counts with
      | none => rfl
      | some counts =>
        simp only [quantifierMove, afterQuantifier, bind_assoc]
        rfl
    rw [if_neg quantified]
    by_cases blank : (flags.verbose && isVerboseBlank c) = true
    · obtain ⟨verbose, blank'⟩ := Bool.and_eq_true_iff.1 blank
      rw [branch_blank verbose blank', if_pos blank]
      rfl
    rw [if_neg blank]
    by_cases comment : (flags.verbose && c == '#') = true
    · obtain ⟨verbose, sign⟩ := Bool.and_eq_true_iff.1 comment
      obtain rfl := eq_of_beq sign
      rw [branch_comment verbose, if_pos comment]
      rfl
    rw [if_neg comment]
    rw [Bool.not_eq_true] at blank comment
    rw [branch_plain stop blank comment bracket quantified parenthesis]
    rfl

/-! ## Groups of items -/

/-- The groups of a row of items are those of each, from the bottom up. -/
theorem groups_ofItems (items : List Item) :
    (ofItems items).groups = items.reverse.flatMap fun item => item.2.groups := by
  have row (rs : List Regex) : (sequence rs).groups = rs.flatMap groups := by
    induction rs with
    | nil => rfl
    | cons r rest ih =>
      cases rest with
      | nil => simp [sequence]
      | cons r' rest =>
        rw [List.flatMap_cons, ← ih]
        rfl
  rw [ofItems, row, List.flatMap_map]

theorem groups_ofItems_cons (item : Item) (items : List Item) :
    (ofItems (item :: items)).groups = (ofItems items).groups ++ item.2.groups := by
  simp [groups_ofItems]

/-- Items made of items by pieces that open no group: the groups stay the same, and so does an anchor at the bottom. -/
structure Follows (items' items : List Item) : Prop where
  groups : (ofItems items').groups = (ofItems items).groups
  bottom : ∀ a, [(ItemKind.anchor, a)] <:+ items → [(ItemKind.anchor, a)] <:+ items'

theorem Follows.refl (items : List Item) : Follows items items := ⟨rfl, fun _ h => h⟩

theorem Follows.cons {item : Item} (none : item.2.groups = []) (items : List Item) : Follows (item :: items) items where
  groups := by rw [groups_ofItems_cons, none, List.append_nil]
  bottom := fun _ h => h.trans (List.suffix_cons item items)

/-- Neither an anchor nor a repetition can be repeated. -/
theorem Follows.repeatLast {greed : Greed} {least : Nat} {most : Option Nat}
    (h : repeatLast greed least most items = .ok items') : Follows items' items := by
  unfold Regex.repeatLast at h
  split at h
  · rename_i r rest
    cases h
    refine ⟨?_, fun a ha => ?_⟩
    · rw [groups_ofItems_cons, groups_ofItems_cons]
      rfl
    · rcases List.suffix_cons_iff.1 ha with same | deeper
      · cases same
      · exact deeper.trans (List.suffix_cons _ rest)
  · cases h

theorem groups_plainItem (flags : Flags) (c : Char) : (plainItem flags c).2.groups = [] := by
  unfold plainItem
  split
  · rfl
  · split
    · rfl
    · split <;> rfl

theorem groups_charSet [CharacterNames] {rest rest' : List Piece} (h : charSet flags rest = .ok (r, rest')) :
    r.groups = [] := by
  obtain ⟨⟨items, after⟩, -, h⟩ := bind_eq_ok_iff.1 h
  cases h
  rfl

theorem groups_reference {index : Nat} (h : reference flags index source = .ok (r, source')) : r.groups = [] := by
  unfold reference at h
  split at h
  · cases h
    rfl
  · cases h

/-- An escape opens no group. -/
theorem groups_escape [CharacterNames] {c : Char} (h : escape flags c source = .ok (r, source')) : r.groups = [] := by
  unfold escape at h
  split at h
  · cases h
    rfl
  · cases h
    rfl
  · simp only at h
    split at h
    · split at h
      · split at h
        · cases h
          rfl
        · cases h
      · exact groups_reference h
    · obtain ⟨⟨code, rest⟩, -, h⟩ := bind_eq_ok_iff.1 h
      cases h
      rfl

/-! ## What a move does to the numbers -/

/-- A move opens at most one group, which gets the next number; its place is what follows the parenthesis, unless that
is a question mark. -/
inductive Move.Spec (items : List Item) (source : Source) : Move → Prop where
  | stop : Spec items source .stop
  | goOn {flags : Flags} {items' : List Item} {source' : Source} (next : source'.book.next = source.book.next)
      (follows : Follows items' items) : Spec items source (.goOn flags items' source')
  | bracket {inner : Flags} {close : Regex → Book → Regex × Book} {source' : Source}
      (next : source'.book.next = source.book.next) (closed : ∀ r book, (close r book).2.next = book.next)
      (groups : ∀ r book, (close r book).1.groups = r.groups) : Spec items source (.enter inner close source')
  | capture {inner : Flags} {close : Regex → Book → Regex × Book} {source' : Source}
      (next : source'.book.next = source.book.next + 1) (closed : ∀ r book, (close r book).2.next = book.next)
      (group : ∀ r book, (close r book).1 = .group source.book.next r)
      (place : source.rest.tail.head? ≠ some (.plain '?') → source'.rest = source.rest.tail) :
      Spec items source (.enter inner close source')
  | ask {index : Nat} {source' : Source} (next : source'.book.next = source.book.next) :
      Spec items source (.ask index source')

section Openings

variable {opened : Opening × Source} {base : Source} {atStart : Bool}

/-- A parenthesis that opens a group goes on as the specification of a move says. -/
theorem spec_of_openGroup {name : Option Text} (h : openGroup flags name source = .ok opened)
    (next : source.book.next = base.book.next)
    (place : base.rest.tail.head? ≠ some (.plain '?') → source.rest = base.rest.tail) :
    (Opening.move level flags items opened).Spec items base := by
  unfold openGroup at h
  simp only at h
  split at h
  · cases h
  · cases h
    refine .capture (congrArg (· + 1) next) (fun r book => rfl) (fun r book => ?_) place
    rw [next]

theorem spec_of_openLook {isBehind negated : Bool} (next : source.book.next = base.book.next) :
    (Opening.move level flags items (openLook flags isBehind negated source)).Spec items base := by
  unfold openLook
  split
  · exact .bracket next (fun r book => rfl) (fun r book => rfl)
  · exact .bracket next (fun r book => rfl) (fun r book => rfl)

theorem spec_of_openCondition (h : openCondition source = .ok opened) (next : source.book.next = base.book.next) :
    (Opening.move level flags items opened).Spec items base := by
  unfold openCondition at h
  split at h
  · cases h
  · simp only at h
    split at h
    · cases h
    · split at h
      · cases h
        exact .ask next
      · cases h

theorem spec_plain {inner : Flags} (next : source.book.next = base.book.next) :
    (Opening.move level flags items (.plain inner, source)).Spec items base :=
  .bracket next (fun _ _ => rfl) fun _ _ => rfl

theorem spec_of_openFlags (h : openFlags flags atStart source = .ok opened)
    (next : source.book.next = base.book.next) : (Opening.move level flags items opened).Spec items base := by
  unfold openFlags at h
  split at h
  · cases h
  · split at h
    · cases h
    split at h
    · split at h
      · cases h
        exact .goOn next (.refl items)
      · cases h
    split at h
    · cases h
    split at h
    · split at h
      · cases h
        exact spec_plain next
      · cases h
    · split at h
      · cases h
      · split at h
        · cases h
        · cases h
          exact spec_plain next

theorem spec_of_openNamed (h : openNamed flags source = .ok opened) (next : source.book.next = base.book.next)
    (marked : base.rest.tail.head? = some (.plain '?')) : (Opening.move level flags items opened).Spec items base := by
  unfold openNamed at h
  split at h
  · split at h
    · split at h
      · exact spec_of_openGroup h next fun h => absurd marked h
      · cases h
    · cases h
  · split at h
    · split at h
      · obtain ⟨⟨r, source'⟩, href, h⟩ := bind_eq_ok_iff.1 h
        cases h
        have same := (reference_extended href).2
        exact .goOn (by rw [same]; exact next) (.cons (groups_reference href) items)
      · cases h
    · cases h
  · cases h

/-- What a parenthesis opens. -/
theorem spec_of_opening {rest : List Piece} {book : Book} (h : opening flags atStart ⟨rest, book⟩ = .ok opened) :
    (Opening.move level flags items opened).Spec items ⟨.plain '(' :: rest, book⟩ := by
  by_cases question : ∃ more, rest = .plain '?' :: more
  · obtain ⟨more, rfl⟩ := question
    match more with
    | [] => cases h
    | .escaped c :: rest => cases h
    | .dangling :: rest => cases h
    | .plain c :: rest =>
      unfold opening at h
      simp only at h
      split at h
      · cases h
        exact spec_plain rfl
      split at h
      · exact spec_of_openNamed h rfl rfl
      split at h
      · split at h
        · cases h
          exact .goOn rfl (.refl items)
        · cases h
      split at h
      · cases h
        exact spec_of_openLook rfl
      split at h
      · split at h
        · split at h
          · cases h
            exact spec_of_openLook rfl
          · cases h
        · cases h
      split at h
      · exact spec_of_openCondition h rfl
      split at h
      · cases h
        exact .bracket rfl (fun _ _ => rfl) fun _ _ => rfl
      · exact spec_of_openFlags h rfl
  · have unmarked : ∀ more, rest ≠ .plain '?' :: more := fun more hm => question ⟨more, hm⟩
    rw [opening_of_ne unmarked] at h
    exact spec_of_openGroup h rfl fun _ => rfl

end Openings

/-- **A move** numbers the group that it opens, if any. -/
theorem spec_of_move [CharacterNames] {next : Move} (h : move level flags items source = .ok next) :
    next.Spec items source := by
  obtain ⟨rest, book⟩ := source
  match rest with
  | [] =>
    cases h
    exact .stop
  | .dangling :: rest => cases h
  | .escaped c :: rest =>
    obtain ⟨⟨r, source'⟩, he, h⟩ := bind_eq_ok_iff.1 h
    cases h
    have same := (escape_extended he).2
    exact .goOn (by rw [same]) (.cons (groups_escape he) items)
  | .plain c :: rest =>
    simp only [move] at h
    split at h
    · cases h
      exact .stop
    split at h
    · rename_i parenthesis
      subst parenthesis
      obtain ⟨opened, ho, h⟩ := bind_eq_ok_iff.1 h
      cases h
      exact spec_of_opening ho
    split at h
    · obtain ⟨⟨r, after⟩, hs, h⟩ := bind_eq_ok_iff.1 h
      cases h
      exact .goOn rfl (.cons (groups_charSet hs) items)
    split at h
    · obtain ⟨counts, -, h⟩ := bind_eq_ok_iff.1 h
      cases counts with
      | none =>
        cases h
        exact .goOn rfl (.cons rfl items)
      | some counts =>
        obtain ⟨items', hi, h⟩ := bind_eq_ok_iff.1 h
        cases h
        exact .goOn rfl (.repeatLast hi)
    split at h
    · cases h
      exact .goOn rfl (.refl items)
    split at h
    · cases h
      exact .goOn rfl (.refl items)
    · cases h
      exact .goOn rfl (.cons (groups_plainItem flags c) items)

/-! ## The start of a branch -/

/-- An anchor at the bottom of the items of a branch is the first thing in what the branch reads. -/
theorem anchor_suffix_of_branch [CharacterNames] {a : Regex} (h : branch n level flags items source = .ok (r, source'))
    (start : [(ItemKind.anchor, a)] <:+ items) : ∃ rest, r = sequence (a :: rest) := by
  -- By induction on the bound: every move leaves the bottom of the items as it is.
  induction n generalizing level flags items source with
  | zero => cases h
  | succ n ih =>
    rw [branch_succ] at h
    obtain ⟨moved, hm, h⟩ := bind_eq_ok_iff.1 h
    cases moved with
    | stop =>
      cases h
      obtain ⟨later, rfl⟩ := start
      exact ⟨later.reverse.map Prod.snd, by simp [ofItems]⟩
    | goOn flags' items' next =>
      cases spec_of_move hm with
      | goOn same follows => exact ih h (follows.bottom a start)
    | enter inner close next =>
      obtain ⟨⟨s, middle⟩, -, h⟩ := bind_eq_ok_iff.1 h
      obtain ⟨last, -, h⟩ := bind_eq_ok_iff.1 h
      exact ih h (start.trans (List.suffix_cons _ items))
    | ask index next =>
      obtain ⟨⟨yes, middle⟩, -, h⟩ := bind_eq_ok_iff.1 h
      obtain ⟨⟨no, closing⟩, -, h⟩ := bind_eq_ok_iff.1 h
      obtain ⟨last, -, h⟩ := bind_eq_ok_iff.1 h
      exact ih h (start.trans (List.suffix_cons _ items))

/-- An expression that starts with a caret matches at the start of the subject only, unless it has a bar outside of
groups. -/
theorem anchored_or_alt_of_parse [CharacterNames] {t : Text} (h : parse ('^' :: t) = .ok r) :
    Anchored r ∨ ∃ s t, r = .alt s t := by
  obtain ⟨⟨s, last⟩, ha, h⟩ := bind_eq_ok_iff.1 h
  have whole : s = r := by
    simp only at h
    split at h
    · cases h
    · cases h
      rfl
  subst whole
  rw [alternatives] at ha
  obtain ⟨⟨first, next⟩, hb, ha⟩ := bind_eq_ok_iff.1 ha
  simp only at ha
  split at ha
  · obtain ⟨⟨second, last⟩, -, ha⟩ := bind_eq_ok_iff.1 ha
    cases ha
    exact .inr ⟨first, second, rfl⟩
  · cases ha
    left
    have caret : branch (2 * (pieces ('^' :: t)).length + 1) .start {} [] ⟨pieces ('^' :: t), {}⟩ =
        branch (2 * (pieces ('^' :: t)).length) .start {} [(.anchor, .anchor .subjectStart)] ⟨pieces t, {}⟩ := by
      rw [pieces_cons (by decide)]
      rfl
    have settled : Level.flags .start {} {} = {} := rfl
    rw [settled, caret] at hb
    obtain ⟨rest, rfl⟩ := anchor_suffix_of_branch hb List.suffix_rfl
    exact anchored_sequence rest

end

end TypedRoutes.Regex
