import TypedRoutes.Proofs.Regex.Moves

/-!
# The places of groups

`groupPlaces` lists what stands behind the parentheses that open groups, in the order in which the reader comes to them.
The groups of an expression are numbered in that order, and each of them has been read where it stands
(`grouped_of_parse`): one induction on the bound carries this through branches and alternatives together, with
`Move.Spec` for each step.
-/

namespace TypedRoutes.Regex

set_option autoImplicit false

/-- The places in the second branch of a condition, if there is one. -/
def otherwisePlaces (places : Source → List (List Piece)) (source : Source) : List (List Piece) :=
  match source.rest with
  | .plain '|' :: rest => places { source with rest }
  | _ => []

variable [CharacterNames]

mutual

/-- What stands behind the parentheses that open groups in alternatives, in order. -/
def alternativesPlaces : Nat → Level → Flags → Source → List (List Piece)
  | 0, _, _, _ => []
  | bound + 1, level, flags, source =>
    branchPlaces bound level (level.flags flags source.book) [] source ++
      match branch bound level (level.flags flags source.book) [] source with
      | .ok (_, ⟨.plain '|' :: rest, book⟩) => alternativesPlaces bound level.next flags ⟨rest, book⟩
      | _ => []

/-- What stands behind the parentheses that open groups in a branch, in order. -/
def branchPlaces : Nat → Level → Flags → List Item → Source → List (List Piece)
  | 0, _, _, _, _ => []
  | bound + 1, level, flags, items, source =>
    match move level flags items source with
    | .ok (.goOn flags items next) => branchPlaces bound level flags items next
    | .ok (.enter inner close next) =>
      (if next.book.next = source.book.next then [] else [source.rest.tail]) ++
        (alternativesPlaces bound .nested inner next ++
          match alternatives bound .nested inner next >>= fun read => read.2.close.map fun last => (read.1, last) with
          | .ok (r, last) =>
            branchPlaces bound level flags ((.other, (close r last.book).1) :: items)
              { last with book := (close r last.book).2 }
          | .error _ => [])
    | .ok (.ask index next) =>
      branchPlaces bound .nested flags [] next ++
        match branch bound .nested flags [] next with
        | .ok (yes, middle) =>
          otherwisePlaces (branchPlaces bound .nested flags []) middle ++
            match otherwise bound flags middle >>= fun read => read.2.close.map fun last => (read.1, last) with
            | .ok (no, last) => branchPlaces bound level flags ((.other, .conditional index yes no) :: items) last
            | .error _ => []
        | .error _ => []
    | _ => []

end

/-- What stands behind the parentheses that open groups in a text, in order. -/
def groupPlaces (t : Text) : List (List Piece) :=
  alternativesPlaces (2 * (pieces t).length + 2) .start {} { rest := pieces t }

/-- A group that is not marked by a question mark is what the reader makes of its place. -/
def ReadAt (place : List Piece) (r : Regex) : Prop :=
  place.head? ≠ some (.plain '?') → ∃ n flags book source',
    alternatives n .nested flags ⟨place, book⟩ = .ok (r, source')

/-- Groups numbered on from a number, each with the place where it has been read. -/
inductive Grouped : Nat → List (Nat × Regex) → List (List Piece) → Prop where
  | nil (first : Nat) : Grouped first [] []
  | cons {first : Nat} {r : Regex} {groups : List (Nat × Regex)} {place : List Piece} {places : List (List Piece)}
      (read : ReadAt place r) (rest : Grouped (first + 1) groups places) :
      Grouped first ((first, r) :: groups) (place :: places)

/-- Groups that go on with the next number are those of two rows of places. -/
theorem Grouped.append {first : Nat} {groups more : List (Nat × Regex)} {places others : List (List Piece)}
    (h : Grouped first groups places) (h' : Grouped (first + groups.length) more others) :
    Grouped first (groups ++ more) (places ++ others) := by
  induction h with
  | nil => exact h'
  | cons read rest ih =>
    refine .cons read (ih ?_)
    rwa [List.length_cons, Nat.add_comm _ 1, ← Nat.add_assoc] at h'

/-- Alternatives have the groups of their places, numbered on from the next number. -/
def AlternativesGrouped (n : Nat) : Prop :=
  ∀ (level : Level) (flags : Flags) (source : Source) (r : Regex) (source' : Source),
    alternatives n level flags source = .ok (r, source') →
      Grouped source.book.next r.groups (alternativesPlaces n level flags source) ∧
        source'.book.next = source.book.next + r.groups.length

/-- A branch adds the groups of its places, numbered on from the next number, to those of its items. -/
def BranchesGrouped (n : Nat) : Prop :=
  ∀ (level : Level) (flags : Flags) (items : List Item) (source : Source) (r : Regex) (source' : Source),
    branch n level flags items source = .ok (r, source') →
      ∃ groups, r.groups = (ofItems items).groups ++ groups ∧
        Grouped source.book.next groups (branchPlaces n level flags items source) ∧
          source'.book.next = source.book.next + groups.length

section

variable {n : Nat} {level : Level} {flags : Flags} {items : List Item} {source source' next last : Source} {r : Regex}

/-- The groups of alternatives are those of the first branch and then of the others. -/
theorem AlternativesGrouped.succ (alternatives : AlternativesGrouped n) (branches : BranchesGrouped n) :
    AlternativesGrouped (n + 1) := by
  intro level flags source r source' h
  rw [Regex.alternatives] at h
  obtain ⟨⟨s, next⟩, hb, h⟩ := bind_eq_ok_iff.1 h
  obtain ⟨found, same, grouped, number⟩ := branches _ _ _ _ _ _ hb
  -- A branch starts without items, so that all its groups are new.
  have own : s.groups = found := same
  rw [alternativesPlaces, hb]
  obtain ⟨rest, book⟩ := next
  simp only at h number
  split at h
  · obtain ⟨⟨t, last⟩, ha, h⟩ := bind_eq_ok_iff.1 h
    cases h
    obtain ⟨grouped', number'⟩ := alternatives _ _ _ _ _ ha
    simp only at number' grouped' ⊢
    rw [number] at grouped' number'
    rw [groups, own]
    refine ⟨grouped.append grouped', ?_⟩
    rw [number', List.length_append]
    omega
  · rename_i single
    cases h
    rw [own]
    split
    · rename_i same
      cases same
      exact absurd rfl (single _)
    · rw [List.append_nil]
      exact ⟨grouped, number⟩

omit [CharacterNames] in
/-- Closing a parenthesis changes nothing in the book. -/
theorem book_of_close (h : source.close = .ok last) : last.book = source.book := by
  unfold Source.close at h
  split at h
  · cases h
    rfl
  · cases h

/-- What a move enters, up to its end. -/
theorem BranchesGrouped.enter (alternatives : AlternativesGrouped n) (branches : BranchesGrouped n) {inner : Flags}
    {close : Regex → Book → Regex × Book} (moved : move level flags items source = .ok (.enter inner close next))
    (h : afterOpening n level flags items (.body inner close, next) = .ok (r, source')) :
    ∃ found, r.groups = (ofItems items).groups ++ found ∧
      Grouped source.book.next found (branchPlaces (n + 1) level flags items source) ∧
        source'.book.next = source.book.next + found.length := by
  obtain ⟨⟨s, middle⟩, ha, h⟩ := bind_eq_ok_iff.1 h
  obtain ⟨last, hc, h⟩ := bind_eq_ok_iff.1 h
  obtain ⟨within, number⟩ := alternatives _ _ _ _ _ ha
  obtain ⟨more, same, grouped, number'⟩ := branches _ _ _ _ _ _ h
  have closing : (Regex.alternatives n .nested inner next >>= fun read => read.2.close.map fun last => (read.1, last)) =
      .ok (s, last) := by
    rw [ha]
    show middle.close.map _ = _
    rw [hc]
    rfl
  rw [branchPlaces, moved]
  simp only [closing]
  rw [groups_ofItems_cons, List.append_assoc] at same
  refine ⟨_, same, ?_⟩
  simp only at grouped number' ⊢
  -- A bracket hands on the groups in it, and a group puts itself before them.
  cases spec_of_move moved with
  | bracket same_ closed groups =>
    have start : (close s last.book).2.next = source.book.next + s.groups.length := by
      rw [closed, book_of_close hc, number, same_]
    rw [start] at grouped number'
    rw [same_] at within
    rw [if_pos same_, groups, List.nil_append]
    refine ⟨within.append grouped, ?_⟩
    rw [number', List.length_append]
    omega
  | capture following closed group place =>
    have start : (close s last.book).2.next = source.book.next + 1 + s.groups.length := by
      rw [closed, book_of_close hc, number, following]
    have own : ReadAt source.rest.tail s := by
      intro unmarked
      refine ⟨n, inner, next.book, middle, ?_⟩
      rw [← place unmarked]
      exact ha
    rw [start] at grouped number'
    rw [following] at within
    have opened : (close s last.book).1.groups = (source.book.next, s) :: s.groups := by
      rw [group]
      rfl
    rw [if_neg (by omega), opened]
    refine ⟨.cons own (within.append grouped), ?_⟩
    rw [number', List.length_append, List.length_cons]
    omega

/-- The second branch of a condition on a group. -/
theorem BranchesGrouped.otherwise (branches : BranchesGrouped n) (h : Regex.otherwise n flags source = .ok (r, last)) :
    Grouped source.book.next r.groups (otherwisePlaces (branchPlaces n .nested flags []) source) ∧
      last.book.next = source.book.next + r.groups.length := by
  unfold Regex.otherwise at h
  split at h
  · rename_i rest hr
    obtain ⟨found, same, grouped, number⟩ := branches _ _ _ _ _ _ h
    have own : r.groups = found := same
    rw [own, otherwisePlaces, hr]
    exact ⟨grouped, number⟩
  · rename_i single
    cases h
    refine ⟨?_, rfl⟩
    unfold otherwisePlaces
    split
    · exact absurd ‹_› (single _)
    · exact .nil _

/-- The two branches of a condition on a group, up to its end. -/
theorem BranchesGrouped.ask (branches : BranchesGrouped n) {index : Nat}
    (moved : move level flags items source = .ok (.ask index next))
    (h : afterOpening n level flags items (.condition index, next) = .ok (r, source')) :
    ∃ found, r.groups = (ofItems items).groups ++ found ∧
      Grouped source.book.next found (branchPlaces (n + 1) level flags items source) ∧
        source'.book.next = source.book.next + found.length := by
  obtain ⟨⟨yes, middle⟩, hy, h⟩ := bind_eq_ok_iff.1 h
  obtain ⟨⟨no, closing⟩, hn, h⟩ := bind_eq_ok_iff.1 h
  obtain ⟨last, hc, h⟩ := bind_eq_ok_iff.1 h
  obtain ⟨first, own, within, number⟩ := branches _ _ _ _ _ _ hy
  obtain ⟨within', number'⟩ := branches.otherwise hn
  obtain ⟨more, same, grouped, number''⟩ := branches _ _ _ _ _ _ h
  have closed : (Regex.otherwise n flags middle >>= fun read => read.2.close.map fun last => (read.1, last)) =
      .ok (no, last) := by
    rw [hn]
    show closing.close.map _ = _
    rw [hc]
    rfl
  rw [branchPlaces, moved]
  simp only [hy, closed]
  cases spec_of_move moved with
  | ask same_ =>
    rw [groups_ofItems_cons, List.append_assoc] at same
    refine ⟨_, same, ?_⟩
    have first' : yes.groups = first := own
    have start : last.book.next = source.book.next + (yes.groups ++ no.groups).length := by
      rw [book_of_close hc, number', number, same_, List.length_append, first']
      omega
    rw [start] at grouped number''
    rw [number, same_, ← first'] at within'
    rw [same_, ← first'] at within
    have opened : (ItemKind.other, conditional index yes no).2.groups = yes.groups ++ no.groups := rfl
    rw [opened, ← List.append_assoc]
    refine ⟨(within.append within').append grouped, ?_⟩
    rw [List.length_append, ← Nat.add_assoc]
    exact number''

/-- One step of reading a branch, by what the piece that is next comes to. -/
theorem BranchesGrouped.succ (alternatives : AlternativesGrouped n) (branches : BranchesGrouped n) :
    BranchesGrouped (n + 1) := by
  intro level flags items source r source' h
  rw [branch_succ] at h
  obtain ⟨moved, hm, h⟩ := bind_eq_ok_iff.1 h
  cases moved with
  | stop =>
    cases h
    refine ⟨[], (List.append_nil _).symm, ?_, rfl⟩
    rw [branchPlaces, hm]
    exact .nil _
  | goOn flags' items' next =>
    cases spec_of_move hm with
    | goOn same follows =>
      obtain ⟨found, own, grouped, number⟩ := branches _ _ _ _ _ _ h
      rw [branchPlaces, hm]
      rw [same] at grouped number
      exact ⟨found, by rw [own, follows.groups], grouped, number⟩
  | enter inner close next => exact branches.enter alternatives hm h
  | ask index next => exact branches.ask hm h

/-- By induction on the bound, the groups of alternatives and of branches stand at their places, in order. -/
theorem grouped (n : Nat) : AlternativesGrouped n ∧ BranchesGrouped n := by
  induction n with
  | zero =>
    constructor
    · intro level flags source r source' h
      cases h
    · intro level flags items source r source' h
      cases h
  | succ n ih => exact ⟨ih.1.succ ih.2, ih.2.succ ih.1⟩

/-- **The groups of an expression** are numbered from one in the order of their places, and each of them is what the
reader makes of its place. -/
theorem grouped_of_parse {t : Text} (h : parse t = .ok r) : Grouped 1 r.groups (groupPlaces t) := by
  obtain ⟨⟨s, source'⟩, ha, h⟩ := bind_eq_ok_iff.1 h
  simp only at h
  split at h
  · cases h
  · cases h
    exact ((grouped _).1 _ _ _ _ _ ha).1

/-! ## One group -/

/-- Groups have at least the number from which they are counted. -/
theorem Grouped.le {first number : Nat} {groups : List (Nat × Regex)} {places : List (List Piece)}
    (h : Grouped first groups places) {t : Regex} (member : (number, t) ∈ groups) : first ≤ number := by
  induction h with
  | nil => cases member
  | cons read rest ih =>
    rcases List.mem_cons.1 member with same | later
    · cases same
      exact Nat.le_refl _
    · exact Nat.le_of_succ_le (ih later)

/-- The group of a number is the only one, and it has been read where it stands. -/
theorem Grouped.own {first number : Nat} {groups : List (Nat × Regex)} {places : List (List Piece)}
    (h : Grouped first groups places) {place : List Piece} (member : (place, number) ∈ places.zipIdx first) :
    ∃ r, ReadAt place r ∧ ∀ t, (number, t) ∈ groups ↔ t = r := by
  induction h with
  | nil => cases member
  | @cons first s groups here places read rest ih =>
    rw [List.zipIdx_cons] at member
    rcases List.mem_cons.1 member with same | later
    · cases same
      refine ⟨s, read, fun t => ⟨fun ht => ?_, fun ht => ht ▸ List.mem_cons_self ..⟩⟩
      rcases List.mem_cons.1 ht with same | later
      · cases same
        rfl
      · exact absurd (rest.le later) (by omega)
    · obtain ⟨t, read', only⟩ := ih later
      have above := List.le_snd_of_mem_zipIdx later
      refine ⟨t, read', fun u => ⟨fun hu => ?_, fun hu => List.mem_cons_of_mem _ ((only u).2 hu)⟩⟩
      rcases List.mem_cons.1 hu with same | later
      · cases same
        omega
      · exact (only u).1 later

end

end TypedRoutes.Regex
