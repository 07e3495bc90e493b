import TypedRoutes.Proofs.Text.Pieces
import TypedRoutes.Url.Basic

/-!
# URLs that are refused

Only the authority of a text decides whether the text is a URL (`parse_eq_error_iff`): everything else is read in some
way. A text without brackets and without characters that could be taken for delimiters is always one
(`exists_parse_of_harmless`).
-/

namespace TypedRoutes.Url

set_option autoImplicit false

variable {t : Text}

/-- The checks of an authority: that of its brackets, and then that of its characters. -/
def Authority.check (authority : Text) : Except Malformed Unit := do
  checkBrackets authority
  checkLookalikes authority

/-- The authority that a text is read with. -/
def authority (t : Text) : Text := (splitAuthority (splitScheme (clean t)).2).1

/-- **Refusals.** Reading a text fails exactly when a check of its authority does, for the same reason. -/
theorem parse_eq_error_iff {reason : Malformed} :
    parse t = .error reason ↔ Authority.check (authority t) = .error reason := by
  unfold parse authority Authority.check
  generalize splitScheme (clean t) = scheme
  obtain ⟨scheme, rest⟩ := scheme
  simp only
  generalize splitAuthority rest = authority
  obtain ⟨authority, rest⟩ := authority
  simp only
  cases Authority.checkBrackets authority with
  | error e => simp [bind, Except.bind]
  | ok _ =>
    cases Authority.checkLookalikes authority with
    | error e => simp [bind, Except.bind]
    | ok _ => simp [bind, Except.bind, pure, Except.pure]

/-- A text is a URL, or its authority is refused. -/
theorem exists_parse_or_refused (t : Text) :
    (∃ url, parse t = .ok url) ∨ ∃ reason, Authority.check (authority t) = .error reason := by
  cases parsed : parse t with
  | ok url => exact .inl ⟨url, rfl⟩
  | error reason => exact .inr ⟨reason, parse_eq_error_iff.1 parsed⟩

/-! ## Texts that are never refused -/

/-- No brackets, and no characters that could be taken for delimiters. -/
def Harmless (t : Text) : Prop := ∀ c ∈ t, c ≠ '[' ∧ c ≠ ']' ∧ c.toNat ∉ Authority.lookalikes

instance (t : Text) : Decidable (Harmless t) :=
  List.decidableBAll (fun c => c ≠ '[' ∧ c ≠ ']' ∧ c.toNat ∉ Authority.lookalikes) t

/-- A host without brackets and characters that could be taken for delimiters passes the check. -/
theorem Authority.check_of_harmless (h : Harmless t) : check t = .ok ⟨⟩ := by
  have opening : t.contains '[' = false := by simpa using fun hm => (h _ hm).1 rfl
  have closing : t.contains ']' = false := by simpa using fun hm => (h _ hm).2.1 rfl
  have looks : (t.any fun c => lookalikes.contains c.toNat) = false := by simpa using fun c hc => (h c hc).2.2
  simp only [check, checkBrackets, opening, closing, checkLookalikes, looks]
  rfl

theorem mem_of_mem_clean {c : Char} (h : c ∈ clean t) : c ∈ t :=
  (List.dropWhile_sublist _).subset (List.mem_filter.1 h).1

theorem mem_of_mem_splitScheme {c : Char} (h : c ∈ (splitScheme t).2) : c ∈ t := by
  unfold splitScheme at h
  split at h
  · rename_i cut
    split at h
    · rw [Text.eq_of_cut? cut]
      exact List.mem_append_right _ (List.mem_cons_of_mem _ h)
    · exact h
  · exact h

theorem mem_of_mem_splitAuthority {c : Char} (h : c ∈ (splitAuthority t).1) : c ∈ t := by
  unfold splitAuthority at h
  split at h
  · exact List.mem_cons_of_mem _ (List.mem_cons_of_mem _ ((List.takeWhile_sublist _).subset h))
  · simp at h

theorem mem_of_mem_authority {c : Char} (h : c ∈ authority t) : c ∈ t :=
  mem_of_mem_clean (mem_of_mem_splitScheme (mem_of_mem_splitAuthority h))

theorem exists_parse_of_harmless (h : Harmless t) : ∃ url, parse t = .ok url := by
  rcases exists_parse_or_refused t with parsed | ⟨reason, refused⟩
  · exact parsed
  · rw [Authority.check_of_harmless fun c hc => h c (mem_of_mem_authority hc)] at refused
    cases refused

end TypedRoutes.Url
