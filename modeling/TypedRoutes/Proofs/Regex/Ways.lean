import TypedRoutes.Regex.Search

/-!
# The ways in which an expression matches

`Regex.run` hands the ways in which an expression can match to a continuation, one after the other. `ways` lists
them, and a run is the first success of its continuation on the list (`run_eq_findSome?`). What an expression settles on
its own, such as a condition on what lies ahead, is a single way.

What passing a character and what the groups of an expression keep holds of all its ways (`keeps_of_groups`). So every
way stays within the subject and ends no earlier than it starts (`within_ways`).
-/

namespace TypedRoutes.Regex

set_option autoImplicit false

/-- The ways of the required rounds of a repetition. -/
def roundWays (body : State → List State) : Nat → State → List State
  | 0, s => [s]
  | n + 1, s => (body s).flatMap (roundWays body n)

/-- The ways of the further rounds of a greedy repetition: one more round first. -/
def greedyWays (body : State → List State) : Text → Option Nat → Option Nat → State → List State
  | [], _, _, s => [s]
  | _ :: bound, budget, last, s =>
    if mayGoOn budget last s then
      (body s).flatMap (greedyWays body bound (budget.map (· - 1)) (some s.cursor.pos)) ++ [s]
    else [s]

/-- The ways of the further rounds of a lazy repetition: no more rounds first. -/
def lazyWays (body : State → List State) : Text → Option Nat → Option Nat → State → List State
  | [], _, _, s => [s]
  | _ :: bound, budget, last, s =>
    s :: if mayGoOn budget last s then
      (body s).flatMap (lazyWays body bound (budget.map (· - 1)) (some s.cursor.pos))
    else []

/-- The states in which an expression can be left, in order of preference. -/
def ways : Regex → State → List State
  | empty, s => [s]
  | set chars, s =>
    match s.cursor.after with
    | c :: rest => if chars.has c then [{ s with cursor := s.cursor.over c rest }] else []
    | [] => []
  | anchor a, s => if a.holds s.cursor then [s] else []
  | cat r t, s => (ways r s).flatMap (ways t)
  | alt r t, s => ways r s ++ ways t s
  | group i r, s =>
    (ways r { s with marks := s.marks.update i fun m => (some s.cursor.pos, m.2) }).map fun t =>
      { t with marks := t.marks.update i fun m => (m.1, some t.cursor.pos) }
  | repeated .greedy least most r, s =>
    (roundWays (ways r) least s).flatMap fun t => greedyWays (ways r) t.bound (most.map (· - least)) none t
  | repeated .lazy least most r, s =>
    (roundWays (ways r) least s).flatMap fun t => lazyWays (ways r) t.bound (most.map (· - least)) none t
  | conditional i yes no, s => if (s.marks.span? i).isSome then ways yes s else ways no s
  | repeated .possessive least most r, s => (run (repeated .possessive least most r) s some).toList
  | backreference i folding, s => (run (backreference i folding) s some).toList
  | look behind negated r, s => (run (look behind negated r) s some).toList
  | atomic r, s => (run (atomic r) s some).toList

/-! ## Running and listing -/

theorem findSome?_flatMap {α β γ : Type} (l : List α) (f : α → List β) (g : β → Option γ) :
    (l.flatMap f).findSome? g = l.findSome? fun a => (f a).findSome? g := by
  induction l with
  | nil => rfl
  | cons a l ih =>
    rw [List.flatMap_cons, List.findSome?_append, ih, List.findSome?_cons]
    cases (f a).findSome? g <;> rfl

section Rounds

variable {body : State → Next → Option State} {list : State → List State}

/-- A number of rounds succeeds with the first of their ways from which it can go on. -/
theorem rounds_eq_findSome? (h : ∀ s next, body s next = (list s).findSome? next) (n : Nat) (s : State) (next : Next) :
    rounds body n s next = (roundWays list n s).findSome? next := by
  induction n generalizing s with
  | zero => simp [rounds, roundWays]
  | succ n ih =>
    rw [rounds, h, roundWays, findSome?_flatMap]
    congr 1
    funext t
    exact ih t

/-- So do greedy rounds, whose ways are the longest first. -/
theorem greedyRounds_eq_findSome? (h : ∀ s next, body s next = (list s).findSome? next) (bound : Text)
    (budget last : Option Nat) (s : State) (next : Next) :
    greedyRounds body bound budget last s next = (greedyWays list bound budget last s).findSome? next := by
  induction bound generalizing budget last s with
  | nil => simp [greedyRounds, greedyWays]
  | cons c bound ih =>
    rw [greedyRounds, greedyWays]
    split
    · rw [h, List.findSome?_append, findSome?_flatMap, List.findSome?_singleton]
      simp only [ih]
      cases (list s).findSome? fun t =>
        (greedyWays list bound (budget.map (· - 1)) (some s.cursor.pos) t).findSome? next <;> rfl
    · rw [List.findSome?_singleton]

theorem lazyRounds_eq_findSome? (h : ∀ s next, body s next = (list s).findSome? next) (bound : Text)
    (budget last : Option Nat) (s : State) (next : Next) :
    lazyRounds body bound budget last s next = (lazyWays list bound budget last s).findSome? next := by
  induction bound generalizing budget last s with
  | nil => simp [lazyRounds, lazyWays]
  | cons c bound ih =>
    rw [lazyRounds, lazyWays, List.findSome?_cons]
    cases next s with
    | some result => rfl
    | none =>
      simp only
      split
      · rw [h, findSome?_flatMap]
        simp only [ih]
      · rfl

end Rounds

theorem findSome?_toList {α β : Type} (o : Option α) (f : α → Option β) : o.toList.findSome? f = o.bind f := by
  cases o <;> simp

/-- **A run** is the first success of its continuation on the ways. -/
theorem run_eq_findSome? (r : Regex) (s : State) (next : Next) : run r s next = (ways r s).findSome? next := by
  induction r generalizing s next with
  | empty => simp [run, ways]
  | set chars =>
    rw [run, ways]
    cases s.cursor.after with
    | nil => rfl
    | cons c rest => by_cases hc : chars.has c = true <;> simp [hc]
  | anchor a =>
    rw [run, ways]
    split <;> simp
  | cat r t ihr iht =>
    rw [run, ways, ihr, findSome?_flatMap]
    simp only [iht]
  | alt r t ihr iht =>
    rw [run, ways, ihr, iht, List.findSome?_append]
    cases (ways r s).findSome? next <;> rfl
  | group i r ih =>
    rw [run, ways, ih, List.findSome?_map]
    rfl
  | repeated greed least most r ih =>
    cases greed with
    | greedy =>
      rw [run, ways, rounds_eq_findSome? ih, findSome?_flatMap]
      simp only [greedyRounds_eq_findSome? ih]
    | lazy =>
      rw [run, ways, rounds_eq_findSome? ih, findSome?_flatMap]
      simp only [lazyRounds_eq_findSome? ih]
    | possessive =>
      rw [ways, findSome?_toList, run, run]
      split <;> rfl
  | backreference i folding =>
    rw [ways, findSome?_toList, run, run]
    split
    · split <;> rfl
    · rfl
  | look behind negated r ih =>
    rw [ways, findSome?_toList, run, run]
    split
    · cases negated <;> rfl
    · split <;> cases negated <;> rfl
  | atomic r ih =>
    rw [ways, findSome?_toList, run, run]
    split <;> rfl
  | conditional i yes no ihy ihn =>
    rw [run, ways]
    split
    · exact ihy s next
    · exact ihn s next

/-- What a run ends with is one of the ways. -/
theorem mem_ways_of_run {r : Regex} {s x : State} (h : run r s some = some x) : x ∈ ways r s := by
  rw [run_eq_findSome?] at h
  obtain ⟨y, hy, hx⟩ := List.exists_of_findSome?_eq_some h
  cases hx
  exact hy

/-! ## Invariants -/

section Invariants

variable {body : State → Next → Option State} {list : State → List State} {p : State → Prop}

theorem holds_of_mem_roundWays (step : ∀ s, p s → ∀ x ∈ list s, p x) {n : Nat} {s x : State} (hs : p s)
    (hx : x ∈ roundWays list n s) : p x := by
  induction n generalizing s with
  | zero => exact List.mem_singleton.1 hx ▸ hs
  | succ n ih =>
    obtain ⟨y, hy, hx⟩ := List.mem_flatMap.1 hx
    exact ih (step s hs y hy) hx

/-- What one round keeps, greedy rounds keep. -/
theorem holds_of_mem_greedyWays (step : ∀ s, p s → ∀ x ∈ list s, p x) {bound : Text}
    {budget last : Option Nat} {s x : State} (hs : p s) (hx : x ∈ greedyWays list bound budget last s) :
    p x := by
  induction bound generalizing budget last s with
  | nil => exact List.mem_singleton.1 hx ▸ hs
  | cons c bound ih =>
    rw [greedyWays] at hx
    split at hx
    · rcases List.mem_append.1 hx with hx | hx
      · obtain ⟨y, hy, hx⟩ := List.mem_flatMap.1 hx
        exact ih (step s hs y hy) hx
      · exact List.mem_singleton.1 hx ▸ hs
    · exact List.mem_singleton.1 hx ▸ hs

theorem holds_of_mem_lazyWays (step : ∀ s, p s → ∀ x ∈ list s, p x) {bound : Text}
    {budget last : Option Nat} {s x : State} (hs : p s) (hx : x ∈ lazyWays list bound budget last s) :
    p x := by
  induction bound generalizing budget last s with
  | nil => exact List.mem_singleton.1 hx ▸ hs
  | cons c bound ih =>
    rw [lazyWays] at hx
    rcases List.mem_cons.1 hx with rfl | hx
    · exact hs
    · split at hx
      · obtain ⟨y, hy, hx⟩ := List.mem_flatMap.1 hx
        exact ih (step s hs y hy) hx
      · cases hx

theorem holds_of_settledRounds (step : ∀ s, p s → ∀ x, body s some = some x → p x) {n : Nat} {s x : State}
    (hs : p s) (hx : settledRounds body n s = some x) : p x := by
  induction n generalizing s with
  | zero => cases hx; exact hs
  | succ n ih =>
    rw [settledRounds] at hx
    split at hx
    · exact ih (step s hs _ ‹_›) hx
    · cases hx

theorem holds_possessiveRounds (step : ∀ s, p s → ∀ x, body s some = some x → p x) {bound : Text}
    {budget last : Option Nat} {s : State} (hs : p s) : p (possessiveRounds body bound budget last s) := by
  induction bound generalizing budget last s with
  | nil => exact hs
  | cons c bound ih =>
    rw [possessiveRounds]
    split
    · split
      · exact ih (step s hs _ ‹_›)
      · exact hs
    · exact hs

end Invariants

/-- The groups of an expression with their numbers, in the order in which they open. -/
def groups : Regex → List (Nat × Regex)
  | empty | set _ | anchor _ | backreference _ _ => []
  | cat r t | alt r t | conditional _ r t => groups r ++ groups t
  | group i r => (i, r) :: groups r
  | repeated _ _ _ r | look _ _ r | atomic r => groups r

/-- An expression leaves a state with a property in states with the property only. -/
def Keeps (p : State → Prop) (r : Regex) : Prop := ∀ s, p s → ∀ x ∈ ways r s, p x

section Constructors

variable {p : State → Prop} {r : Regex}

/-- What an expression keeps, any number of its rounds keep. -/
theorem Keeps.repeated (h : Keeps p r) (greed : Greed) (least : Nat) (most : Option Nat) :
    Keeps p (.repeated greed least most r) := by
  intro s hs x hx
  cases greed with
  | greedy =>
    obtain ⟨y, hy, hx⟩ := List.mem_flatMap.1 hx
    exact holds_of_mem_greedyWays h (holds_of_mem_roundWays h hs hy) hx
  | lazy =>
    obtain ⟨y, hy, hx⟩ := List.mem_flatMap.1 hx
    exact holds_of_mem_lazyWays h (holds_of_mem_roundWays h hs hy) hx
  | possessive =>
    have step : ∀ s : State, p s → ∀ x, run r s some = some x → p x := fun s hs x hx => h s hs x (mem_ways_of_run hx)
    rw [ways, Option.mem_toList, run] at hx
    split at hx
    · cases hx
      exact holds_possessiveRounds step (holds_of_settledRounds step hs ‹_›)
    · cases hx

/-- A look ahead or behind either leaves the state as it was or takes over the marks of what it has found. -/
theorem keeps_look (behind : Option Nat) (negated : Bool)
    (look : ∀ (s : State) cursor, p s → s.cursor.back? (behind.getD 0) = some cursor →
      ∀ x ∈ ways r { s with cursor }, p { s with marks := x.marks }) : Keeps p (.look behind negated r) := by
  intro s hs x hx
  rw [ways, Option.mem_toList, run] at hx
  split at hx
  · cases negated <;> cases hx
    exact hs
  · rename_i cursor hb
    split at hx
    · cases negated <;> cases hx
      exact look s cursor hs hb _ (mem_ways_of_run ‹_›)
    · cases negated <;> cases hx
      exact hs

variable (passing : ∀ (s : State) c rest, p s → s.cursor.after = c :: rest →
  p { s with cursor := s.cursor.over c rest })

include passing

/-- What passing a character keeps, skipping a text keeps. -/
theorem holds_of_skip? {folding : Folding} {t : Text} {s : State} {skipped : Cursor} (hs : p s)
    (h : s.cursor.skip? folding t = some skipped) : p { s with cursor := skipped } := by
  induction t generalizing s with
  | nil =>
    cases h
    exact hs
  | cons c t ih =>
    unfold Cursor.skip? at h
    split at h
    · split at h
      · have moved := passing s _ _ hs ‹_›
        have skipped := ih moved h
        exact skipped
      · cases h
    · cases h

theorem keeps_backreference (index : Nat) (folding : Folding) : Keeps p (.backreference index folding) := by
  intro s hs x hx
  rw [ways, Option.mem_toList, run] at hx
  split at hx
  · split at hx
    · cases hx
      exact holds_of_skip? passing hs ‹_›
    · cases hx
  · cases hx

end Constructors

/-- **Invariants of matching.** What passing a character keeps, what the groups keep, and what taking over the marks of a
condition on what lies ahead or behind keeps, every expression keeps. -/
theorem keeps_of_groups {p : State → Prop}
    (passing : ∀ (s : State) c rest, p s → s.cursor.after = c :: rest → p { s with cursor := s.cursor.over c rest })
    (look : ∀ (s : State) n cursor r, p s → s.cursor.back? n = some cursor → Keeps p r →
      ∀ x ∈ ways r { s with cursor }, p { s with marks := x.marks })
    (r : Regex) (group : ∀ i t, (i, t) ∈ groups r → Keeps p t → Keeps p (.group i t)) : Keeps p r := by
  induction r with
  | empty =>
    intro s hs x hx
    exact List.mem_singleton.1 hx ▸ hs
  | set chars =>
    intro s hs x hx
    rw [ways] at hx
    split at hx
    · split at hx
      · exact List.mem_singleton.1 hx ▸ passing s _ _ hs ‹_›
      · cases hx
    · cases hx
  | anchor a =>
    intro s hs x hx
    rw [ways] at hx
    split at hx
    · exact List.mem_singleton.1 hx ▸ hs
    · cases hx
  | cat r t ihr iht =>
    intro s hs x hx
    obtain ⟨y, hy, hx⟩ := List.mem_flatMap.1 hx
    have first := ihr (fun i u h => group i u (List.mem_append_left _ h)) s hs y hy
    exact iht (fun i u h => group i u (List.mem_append_right _ h)) y first x hx
  | alt r t ihr iht =>
    intro s hs x hx
    obtain hx | hx := List.mem_append.1 hx
    · exact ihr (fun i u h => group i u (List.mem_append_left _ h)) s hs x hx
    · exact iht (fun i u h => group i u (List.mem_append_right _ h)) s hs x hx
  | group i r ih => exact group i r (List.mem_cons_self ..) (ih fun j t h => group j t (List.mem_cons_of_mem _ h))
  | repeated greed least most r ih => exact (ih group).repeated greed least most
  | backreference i folding => exact keeps_backreference passing i folding
  | look behind negated r ih =>
    exact keeps_look behind negated fun s cursor hs back => look s _ cursor r hs back (ih group)
  | atomic r ih =>
    intro s hs x hx
    rw [ways, Option.mem_toList, run] at hx
    split at hx
    · cases hx
      exact ih group s hs _ (mem_ways_of_run ‹_›)
    · cases hx
  | conditional i yes no ihy ihn =>
    intro s hs x hx
    rw [ways] at hx
    split at hx
    · exact ihy (fun i u h => group i u (List.mem_append_left _ h)) s hs x hx
    · exact ihn (fun i u h => group i u (List.mem_append_right _ h)) s hs x hx

/-! ## Staying within the subject -/

/-- A place of a subject, not before a position. -/
structure Cursor.Within (subject : Text) (first : Nat) (at' : Cursor) : Prop where
  around : at'.before.reverse ++ at'.after = subject
  pos : at'.pos = at'.before.length
  beyond : first ≤ at'.pos

theorem Cursor.Within.over {subject : Text} {first : Nat} {at' : Cursor} (h : at'.Within subject first) {c : Char}
    {rest : Text} (hc : at'.after = c :: rest) : (at'.over c rest).Within subject first where
  around := by simpa [Cursor.over, hc] using h.around
  pos := by simp [Cursor.over, h.pos]
  beyond := Nat.le_succ_of_le h.beyond

/-- **Every way stays within the subject** and ends no earlier than it starts. -/
theorem within_ways {subject : Text} {first : Nat} (r : Regex) (s : State) (hs : s.cursor.Within subject first) :
    ∀ x ∈ ways r s, x.cursor.Within subject first := by
  have group : ∀ i t, Keeps (fun s => s.cursor.Within subject first) t →
      Keeps (fun s => s.cursor.Within subject first) (.group i t) := by
    intro i t inner s hs x hx
    obtain ⟨y, hy, rfl⟩ := List.mem_map.1 hx
    have entered : (State.mk s.cursor (s.marks.update i fun m => (some s.cursor.pos, m.2))).cursor.Within
      subject first := hs
    exact inner _ entered y hy
  refine keeps_of_groups (p := fun s => s.cursor.Within subject first) (fun s c rest hs => hs.over) ?_ r
    (fun i t _ => group i t) s hs
  -- The place stays, whatever a condition on what lies ahead or behind finds.
  intro s n cursor r hs _ _ x _
  exact hs

end TypedRoutes.Regex
