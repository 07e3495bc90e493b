import TypedRoutes.Proofs.Text.Pieces
import TypedRoutes.Url.Basic

/-!
# Reading URLs that start with their path

A URL without scheme and authority is cut at the first `#` and before it at the first `?` (`parse_rooted`). Without a
fragment it is a path and a query (`parse_local`). The path is read without the parameters of its last segment.
-/

namespace TypedRoutes.Url

set_option autoImplicit false

/-- The text starts with a path, and has no sign in it that reading drops. -/
structure Rooted (t : Text) : Prop where
  head : t.head? = some '/'
  single : t.tail.head? ≠ some '/'
  breaks : ∀ c ∈ t, c ≠ '\t' ∧ c ≠ '\n' ∧ c ≠ '\r'

/-- The text of a URL that starts with the path. -/
structure Local (t : Text) : Prop where
  head : t.head? = some '/'
  single : t.tail.head? ≠ some '/'
  fragment : '#' ∉ t
  breaks : ∀ c ∈ t, c ≠ '\t' ∧ c ≠ '\n' ∧ c ≠ '\r'

variable {t : Text}

theorem Local.rooted (h : Local t) : Rooted t := ⟨h.head, h.single, h.breaks⟩

/-- Reading drops nothing of a rooted text. -/
theorem Rooted.clean_eq (h : Rooted t) : clean t = t := by
  obtain ⟨rest, rfl⟩ : ∃ rest, t = '/' :: rest := by
    cases t with
    | nil => exact absurd h.head (by simp)
    | cons c rest => exact ⟨rest, by simpa using h.head⟩
  have kept : ('/' :: rest).dropWhile (fun c => decide (c.toNat ≤ 32)) = '/' :: rest := by
    rw [List.dropWhile_cons_of_neg (by decide)]
  rw [clean, kept, List.filter_eq_self]
  intro c hc
  simpa [and_assoc] using h.breaks c hc

theorem Rooted.splitScheme_eq (h : Rooted t) : splitScheme t = ([], t) := by
  unfold splitScheme
  split
  · rename_i c rest after hcut
    have slash : c = '/' := by
      have head := h.head
      rw [Text.eq_of_cut? hcut] at head
      simpa using head
    rw [slash, if_neg (by simp [show ('/').isAlpha = false from rfl])]
  · rfl

theorem Rooted.splitAuthority_eq (h : Rooted t) : splitAuthority t = ([], t) := by
  unfold splitAuthority
  split
  · exact absurd rfl h.single
  · rfl

theorem splitAt_append_cons {separator : Char} (h : separator ∉ t) (rest : Text) :
    splitAt separator (t ++ separator :: rest) = (t, rest) := by
  rw [splitAt, Text.cut?_append_cons h, Option.getD_some]

theorem splitAt_of_notMem {separator : Char} (h : separator ∉ t) : splitAt separator t = (t, []) := by
  rw [splitAt, Text.cut?_of_notMem h, Option.getD_none]

/-- Only the last segment of a path loses its parameters. -/
theorem dropParams_append_cons {last : Text} (h : '/' ∉ last) (before : Text) :
    dropParams (before ++ '/' :: last) = before ++ '/' :: Text.upTo ';' last := by
  rw [dropParams, Text.cutLast?_append_cons h]

theorem dropParams_of_notMem (h : ';' ∉ t) : dropParams t = t := by
  by_cases slash : '/' ∈ t
  · obtain ⟨before, last, rfl, plain⟩ := Text.exists_eq_append_last slash
    have whole : ';' ∉ last := fun hm => h (by simp [hm])
    rw [dropParams_append_cons plain, Text.upTo_of_notMem whole]
  · have uncut : Text.cutLast? '/' t = none := by
      rw [Text.cutLast?, Text.cut?_of_notMem (by simpa using slash), Option.map_none]
    rw [dropParams, uncut]
    exact Text.upTo_of_notMem h

/-- **A URL that starts with its path** is read as the path, the query and the fragment. -/
theorem parse_rooted (h : Rooted t) :
    let cut := splitAt '?' (splitAt '#' t).1
    let path := Text.percentDecode (dropParams cut.1)
    parse t = .ok { path := if path.isEmpty then ['/'] else path, query := cut.2, fragment := (splitAt '#' t).2 } := by
  unfold parse
  rw [h.clean_eq, h.splitScheme_eq]
  simp only [h.splitAuthority_eq]
  rfl

/-- A URL that starts with its path is read as that and its query. -/
theorem parse_local (h : Local t) :
    parse t = .ok {
      path := if (Text.percentDecode (dropParams (splitAt '?' t).1)).isEmpty then ['/']
        else Text.percentDecode (dropParams (splitAt '?' t).1)
      query := (splitAt '?' t).2 } := by
  have read := parse_rooted h.rooted
  rwa [splitAt_of_notMem h.fragment] at read

end TypedRoutes.Url
