import TypedRoutes.Proofs.Matching
import TypedRoutes.Proofs.Path.Running

/-!
# Plain paths match component by component

An expression with a plain path, with or without a slash at its end, matches the paths whose components align with
its segments. A wildcard matches the paths that do so up to some slash. The matcher tries a path with a slash at its
end as well (`Subject.Tried`): that lets a wildcard match the path that it starts with, and makes no difference to the other
expressions, because no segment stands for an empty component.
-/

namespace TypedRoutes.Path

set_option autoImplicit false

open Regex

variable {κ : Type} {segments : List Segment} {pieces : List Text} {closing : Closing}

/-- The components that fit are the same in both paths that are tried. -/
theorem Fitting.eq_of_slash (readable : Readable segments) {path : Text} {others : List Text}
    (h : Fitting segments closing path pieces) (h' : Fitting segments closing (path ++ ['/']) others) :
    pieces = others := by
  obtain ⟨fits, rest, rfl, closed⟩ := h
  have starts : rest ++ ['/'] = [] ∨ ∃ more, rest ++ ['/'] = '/' :: more := by
    rcases closing.stops rest closed with rfl | ⟨more, rfl⟩
    · exact .inr ⟨[], rfl⟩
    · exact .inr ⟨more ++ ['/'], rfl⟩
  rw [h'.eq_take readable, List.append_assoc, components_append (slashless_of_fits readable fits) starts,
    fits.length_eq, List.take_left]

section Subject

variable [Conversions κ] {subject : Subject}

/-- From a path that is tried and fits, the tokens capture their components. -/
theorem captures_of_tried (readable : Readable segments) (line : '\n' ∉ subject.path) {path : Text}
    (tried : subject.Tried path) (fitting : Fitting segments closing path pieces) :
    subject.captures (regex segments closing) = tokenTexts segments pieces := by
  have here := captures_of_fitting readable (tried.notMem line) fitting
  refine (Subject.Captured.eq ?_).symm
  unfold Subject.Captured
  split
  · rename_i filled
    rcases tried with rfl | ⟨-, rfl⟩
    · exact here.symm
    · by_cases h : ∃ others, Fitting segments closing subject.path others
      · obtain ⟨others, fitting'⟩ := h
        rw [captures_of_fitting readable line fitting', fitting'.eq_of_slash readable fitting]
      · exact absurd (captures_of_not_fitting line h) filled
  · rename_i empty
    have empty := not_not.1 empty
    rcases tried with rfl | ⟨last, rfl⟩
    · -- There are no tokens, and then no path has captures.
      rw [here] at empty
      have count := (tokenTexts_length fitting.1).symm.trans (List.length_eq_zero_iff.2 empty)
      rw [empty, captures_of_groupCount ((groupCount_regex segments closing).trans count), ite_self]
    · rw [if_neg last, here]

/-- The path matches exactly when one of those that are tried fits the segments, piece by piece. -/
theorem pathMatches_regex_iff (line : '\n' ∉ subject.path) :
    subject.pathMatches (regex segments closing) = true ↔
      ∃ path pieces, subject.Tried path ∧ Fitting segments closing path pieces := by
  have slashed : '\n' ∉ subject.path ++ ['/'] := by simpa using line
  rw [Subject.pathMatches_iff, hasMatch_regex_iff line, hasMatch_regex_iff slashed]
  constructor
  · rintro (⟨pieces, h⟩ | ⟨last, pieces, h⟩)
    · exact ⟨_, pieces, .inl rfl, h⟩
    · exact ⟨_, pieces, .inr ⟨last, rfl⟩, h⟩
  · rintro ⟨path, pieces, rfl | ⟨last, rfl⟩, h⟩
    · exact .inl ⟨pieces, h⟩
    · exact .inr ⟨last, pieces, h⟩

/-- When no path that is tried fits, nothing is captured. -/
theorem captures_of_not_tried (line : '\n' ∉ subject.path)
    (h : ¬ ∃ path pieces, subject.Tried path ∧ Fitting segments closing path pieces) :
    subject.captures (regex segments closing) = [] := by
  have nothing : ∀ path, subject.Tried path → (regex segments closing).captures path = [] := by
    intro path tried
    exact captures_of_not_fitting (tried.notMem line) fun ⟨pieces, fitting⟩ => h ⟨path, pieces, tried, fitting⟩
  refine (Subject.Captured.eq ?_).symm
  unfold Subject.Captured
  rw [if_neg (not_not.2 (nothing _ (.inl rfl)))]
  split
  · rfl
  · rename_i last
    exact (nothing _ (.inr ⟨last, rfl⟩)).symm

variable {vocabulary : Vocabulary κ} {expression : Text} {pattern : Pattern κ}

/-- From a path that is tried and fits, the parameters are bound to the components at their places. -/
theorem bindPath_of_tried (readable : Readable segments) (line : '\n' ∉ subject.path)
    (hregex : pattern.regex = some (regex segments closing))
    (hparams : vocabulary.pathParams expression (segments.map Segment.component) = .ok pattern.pathParams) {path : Text}
    (tried : subject.Tried path) (fitting : Fitting segments closing path pieces) :
    subject.bindPath pattern = Subject.bind pattern.pathParams (tokenTexts segments pieces) := by
  have matched := (pathMatches_regex_iff line).2 ⟨path, pieces, tried, fitting⟩
  simp only [Subject.bindPath, hregex, captures_of_tried readable line tried fitting,
    length_tokenTexts hparams fitting.1, ne_eq, not_true_eq_false, if_false, matched, if_true]
  split
  · rename_i empty
    rw [List.isEmpty_iff.1 empty, Subject.bind]
    simp
  · rfl

/-- When no path that is tried fits, there is no match. -/
theorem bindPath_of_not_tried (line : '\n' ∉ subject.path) (hregex : pattern.regex = some (regex segments closing))
    (h : ¬ ∃ path pieces, subject.Tried path ∧ Fitting segments closing path pieces) :
    subject.bindPath pattern = .ok none := by
  have unmatched := mt (pathMatches_regex_iff line).1 h
  simp only [Subject.bindPath, hregex, captures_of_not_tried line h, List.length_nil, unmatched]
  split
  · rfl
  · rename_i none
    have empty : pattern.pathParams = [] := List.length_eq_zero_iff.1 (not_not.1 none).symm
    rw [empty]
    rfl

/-- **Binding the path** of a pattern whose regular expression is that of segments. -/
theorem bindPath_regex_iff (readable : Readable segments) (line : '\n' ∉ subject.path)
    (hregex : pattern.regex = some (regex segments closing))
    (hparams : vocabulary.pathParams expression (segments.map Segment.component) = .ok pattern.pathParams) (m : Params) :
    subject.bindPath pattern = .ok (some m) ↔
      ∃ path pieces, subject.Tried path ∧ Fitting segments closing path pieces ∧
        Aligned vocabulary.types segments pieces m := by
  constructor
  · intro h
    by_cases hfits : ∃ path pieces, subject.Tried path ∧ Fitting segments closing path pieces
    · obtain ⟨path, pieces, tried, fitting⟩ := hfits
      rw [bindPath_of_tried readable line hregex hparams tried fitting, bind_tokenTexts hparams fitting.1] at h
      exact ⟨path, pieces, tried, fitting, h⟩
    · rw [bindPath_of_not_tried line hregex hfits] at h
      cases h
  · rintro ⟨path, pieces, tried, fitting, aligned⟩
    rw [bindPath_of_tried readable line hregex hparams tried fitting]
    exact (bind_tokenTexts hparams fitting.1 m).2 aligned

end Subject

/-! ## Compiled expressions -/

/-- Segments that are read back from their text, which the slashes take apart and which has no query part. -/
structure Spelled (segments : List Segment) : Prop where
  readable : Readable segments
  pieces : ∀ piece ∈ segments.map Segment.text, '/' ∉ piece ∧ '\n' ∉ piece
  read : (segments.map Segment.text).map Pattern.Component.ofText = segments.map Segment.component

theorem Spelled.nil : Spelled [] := ⟨by simp [Readable], by simp, rfl⟩

theorem Plain.spelled (plain : Plain segments) : Spelled segments where
  readable := plain.readable
  pieces piece hp :=
    ⟨plain.pieces (by decide) (by decide) (by decide) (by decide) piece hp,
      plain.pieces (by decide) (by decide) (by decide) (by decide) piece hp⟩
  read := plain.map_ofText

/-- The regular expression for a path is its components behind slashes, between a caret and a dollar sign and without
a final slash. -/
theorem pathRegex_slashed (pieces : List Text) (segments : List Segment) (h : pieces = segments.map Segment.regexText)
    (extra : List Text) :
    Vocabulary.pathRegex (.verbatim [] :: (segments.map Segment.component ++ extra.map .verbatim)) =
      '^' :: Text.withoutFinalSlash (slashed (pieces ++ extra)) ++ ['$'] := by
  have texts : (Pattern.Component.verbatim [] ::
      (segments.map Segment.component ++ extra.map .verbatim)).map Vocabulary.componentText = [] :: (pieces ++ extra) := by
    rw [List.map_cons, List.map_append, List.map_map, List.map_map, h]
    congr 2
    · refine List.map_congr_left fun segment _ => ?_
      cases segment <;> simp [Segment.component, Segment.regexText, Vocabulary.componentText]
    · exact List.map_id _
  rw [Vocabulary.pathRegex, texts, Text.join_cons, List.nil_append, slashed]

section Compiled

variable {vocabulary : Vocabulary κ} {expression : Text} {pattern : Pattern κ}

/-- What a compiled expression is whose path has segments and further pieces that mean nothing but text. -/
theorem compiled_slashed [CharacterNames] (spelled : Spelled segments) {extra : List Text}
    (hextra : ∀ piece ∈ extra, '/' ∉ piece ∧ '\n' ∉ piece ∧ piece.head? ≠ some ':')
    (hpath : (Pattern.splitExpression expression).1 = slashed (segments.map Segment.text ++ extra))
    (htext : Text.withoutFinalSlash (slashed (segments.map Segment.regexText ++ extra)) ++ ['$'] =
      slashed (segments.map Segment.regexText) ++ closing.text)
    (compiled : vocabulary.compile expression = .ok pattern) :
    pattern.regex = some (regex segments closing) ∧
      vocabulary.pathParams expression (segments.map Segment.component) = .ok pattern.pathParams := by
  have stages := Vocabulary.compile_eq_ok_iff.1 compiled
  have components := components_slashed spelled.read spelled.pieces hextra
  constructor
  · have text := stages.pathRegex
    rw [hpath, components, pathRegex_slashed _ _ rfl, List.cons_append, htext] at text
    have read := stages.regex
    rw [text, Vocabulary.regexOf, parse_slashed spelled.readable closing] at read
    injection read with read
    exact read.symm
  · have params := stages.pathParams
    rwa [hpath, components, Vocabulary.pathParams, pathParams_append_verbatim] at params

end Compiled

/-! ## The end of a path -/

/-- Components that are not empty do not end with a slash. -/
theorem getLast?_slashed {pieces : List Text} (hne : pieces ≠ []) (h : ∀ piece ∈ pieces, piece ≠ [] ∧ '/' ∉ piece) :
    (slashed pieces).getLast? ≠ some '/' := by
  induction pieces with
  | nil => exact absurd rfl hne
  | cons piece rest ih =>
    obtain ⟨filled, slashless⟩ := h piece (List.mem_cons_self ..)
    have parts : slashed (piece :: rest) = ('/' :: piece) ++ slashed rest := by simp
    rw [parts, List.getLast?_append]
    cases rest with
    | nil =>
      rw [slashed_nil, List.getLast?_nil, Option.none_or, List.getLast?_cons_of_ne_nil filled]
      exact Pattern.getLast?_ne_of_notMem slashless
    | cons next rest =>
      have tail := ih (by simp) fun q hq => h q (List.mem_cons_of_mem _ hq)
      cases hl : (slashed (next :: rest)).getLast? with
      | none => simp at hl
      | some c => rw [hl] at tail; simpa using tail

theorem Plain.withoutFinalSlash_regexText (plain : Plain segments) :
    Text.withoutFinalSlash (slashed (segments.map Segment.regexText)) = slashed (segments.map Segment.regexText) := by
  rcases plain with rfl | ⟨hne, h⟩
  · rfl
  · refine Text.withoutFinalSlash_of_getLast? (getLast?_slashed (by simpa using hne) ?_)
    rintro _ ht
    obtain ⟨segment, hm, rfl⟩ := List.mem_map.1 ht
    cases segment with
    | fixed t => exact ⟨(h _ hm).1, notMem_of_isFixedChar (h _ hm).2 (by decide)⟩
    | token name type =>
      have group : Vocabulary.componentGroup ≠ [] ∧ '/' ∉ Vocabulary.componentGroup := by decide
      exact group

/-- The segments of a path other than `/` stand for texts that are not empty. -/
theorem filled_of_fits (h : ∀ segment ∈ segments, segment.WellFormed)
    (fits : List.Forall₂ Segment.Fits segments pieces) : ∀ piece ∈ pieces, piece ≠ [] := by
  induction fits with
  | nil => simp
  | cons fit fits ih =>
    rename_i segment piece segments pieces
    intro q hq
    rcases List.mem_cons.1 hq with rfl | hq
    · cases segment with
      | fixed t =>
        cases fit
        exact (h _ (List.mem_cons_self ..)).1
      | token name type => exact fit.1
    · exact ih (fun segment hm => h segment (List.mem_cons_of_mem _ hm)) q hq

/-- A path that fits plain segments does not end with a slash, unless it is the root. -/
theorem Plain.getLast?_slashed (plain : Plain segments) (hroot : segments ≠ [.fixed []])
    (fits : List.Forall₂ Segment.Fits segments pieces) : (slashed pieces).getLast? ≠ some '/' := by
  obtain ⟨hne, h⟩ := plain.resolve_left hroot
  refine Path.getLast?_slashed ?_ fun piece hp =>
    ⟨filled_of_fits h fits piece hp, slashless_of_fits plain.readable fits piece hp⟩
  rintro rfl
  cases fits
  exact hne rfl

/-! ## What is tried -/

/-- The path, or what stands before one of its slashes that is not the first one. -/
def Cut (path q : Text) : Prop := q = path ∨ q ≠ [] ∧ ∃ rest, path = q ++ '/' :: rest

section Tried

variable {subject : Subject}

/-- Only the path itself can be a plain path that fits. -/
theorem tried_plain_iff (plain : Plain segments) (slash : subject.path.head? = some '/')
    (fits : List.Forall₂ Segment.Fits segments pieces) :
    (∃ path, subject.Tried path ∧ Fitting segments .plain path pieces) ↔ subject.path = slashed pieces := by
  constructor
  · rintro ⟨path, tried, -, rest, hpath, rfl⟩
    rw [List.append_nil] at hpath
    rcases tried with rfl | ⟨-, rfl⟩
    · exact hpath
    · by_cases hroot : segments = [.fixed []]
      · subst hroot
        obtain - | ⟨rfl, ⟨⟩⟩ := fits
        have empty : subject.path = [] := by simpa using hpath
        simp [empty] at slash
      · refine absurd ?_ (plain.getLast?_slashed hroot fits)
        rw [← hpath]
        simp
  · intro h
    exact ⟨_, .inl rfl, fits, [], by rw [List.append_nil, h], rfl⟩

/-- A wildcard fits up to a slash, or up to the end of the path, behind which a slash is tried. -/
theorem tried_wildcard_iff (plain : Plain segments) (hroot : segments ≠ [.fixed []])
    (fits : List.Forall₂ Segment.Fits segments pieces) :
    (∃ path, subject.Tried path ∧ Fitting segments .wildcard path pieces) ↔ Cut subject.path (slashed pieces) := by
  constructor
  · rintro ⟨path, tried, -, rest, hpath, more, rfl⟩
    have filled : slashed pieces ≠ [] := by
      rintro hempty
      cases fits with
      | nil => exact (plain.resolve_left hroot).1 rfl
      | cons _ _ => simp at hempty
    rcases tried with rfl | ⟨-, rfl⟩
    · exact .inr ⟨filled, more, hpath⟩
    · rcases List.eq_nil_or_concat more with rfl | ⟨more, c, rfl⟩
      · exact .inl (List.append_cancel_right hpath).symm
      · rw [List.concat_eq_append, ← List.cons_append, ← List.append_assoc] at hpath
        exact .inr ⟨filled, more, (List.append_inj' hpath rfl).1⟩
  · rintro (h | ⟨-, more, h⟩)
    · refine ⟨_, .inr ⟨?_, rfl⟩, fits, ['/'], by rw [h], [], rfl⟩
      rw [← h]
      exact plain.getLast?_slashed hroot fits
    · exact ⟨_, .inl rfl, fits, _, h, more, rfl⟩

/-- The components of a path are aligned with segments exactly when the path is made of aligned pieces. -/
theorem aligned_components_iff [Conversions κ] {types : TypeTable κ} (readable : Readable segments) {path : Text}
    (slash : path.head? = some '/') (m : Params) :
    Aligned types segments (components path) m ↔ ∃ pieces, slashed pieces = path ∧ Aligned types segments pieces m := by
  constructor
  · exact fun h => ⟨_, slashed_components slash, h⟩
  · rintro ⟨pieces, rfl, h⟩
    rwa [components_slashed_eq (slashless_of_fits readable h.forall₂)]

/-- A cut of a path has components of the path. -/
theorem mem_components_of_cut (h : ∀ piece ∈ pieces, '/' ∉ piece) (cut : Cut subject.path (slashed pieces)) :
    ∀ piece ∈ pieces, piece ∈ components subject.path := by
  intro piece hp
  rcases cut with cut | ⟨-, rest, cut⟩
  · rwa [← cut, components_slashed_eq h]
  · rw [cut, components_append h (.inr ⟨rest, rfl⟩)]
    exact List.mem_append_left _ hp

end Tried

/-! ## Expressions with a plain path -/

/-- How an expression with a plain path can end. -/
inductive Ending where
  | bare
  | slash
  | wildcard
  deriving DecidableEq, Repr

namespace Ending

/-- The expression with the path of segments and an ending. -/
def Spells : Ending → List Segment → Text → Prop
  | bare, segments, expression => expression = pathText segments
  | slash, segments, expression => segments ≠ [.fixed []] ∧ expression = pathText segments ++ ['/']
  | wildcard, segments, expression =>
    expression = if segments = [.fixed []] then "/.*".toList else pathText segments ++ "/.*".toList

/-- The paths that such an expression describes, with the values that they give: those whose components align with
the segments, and for a wildcard those that do so up to a slash; `/.*` describes every path. -/
def Matches [Conversions κ] (types : TypeTable κ) : Ending → List Segment → Text → Params → Prop
  | bare, segments, path, m | slash, segments, path, m => Aligned types segments (components path) m
  | wildcard, segments, path, m =>
    if segments = [.fixed []] then m = [] else ∃ q, Cut path q ∧ Aligned types segments (components q) m

/-- The segments whose units the regular expression of such an expression has. -/
def base (ending : Ending) (segments : List Segment) : List Segment :=
  if ending = wildcard ∧ segments = [.fixed []] then [] else segments

/-- The pieces behind the segments. -/
def extra : Ending → List Text
  | bare => []
  | slash => [[]]
  | wildcard => [".*".toList]

/-- What the regular expression has behind the units of the segments. -/
def close : Ending → Closing
  | bare | slash => .plain
  | wildcard => .wildcard

/-- An expression that spells segments with an ending is made of their texts, each behind a slash, and of what the
ending adds. -/
theorem Spells.eq_slashed {ending : Ending} {expression : Text} (h : ending.Spells segments expression) :
    expression = slashed ((ending.base segments).map Segment.text ++ ending.extra) := by
  cases ending with
  | bare =>
    have h : expression = pathText segments := h
    rw [h, pathText]
    simp [base, extra]
  | slash =>
    obtain ⟨-, rfl⟩ := h
    rw [pathText]
    simp [base, extra, slashed_append]
  | wildcard =>
    have h : expression = if segments = [.fixed []] then "/.*".toList else pathText segments ++ "/.*".toList := h
    rw [h]
    by_cases hroot : segments = [.fixed []]
    · simp [hroot, base, extra]
    · simp [hroot, base, extra, slashed_append, pathText]

theorem spelled_base (plain : Plain segments) (ending : Ending) : Spelled (ending.base segments) := by
  unfold base
  split
  · exact .nil
  · exact plain.spelled

/-- The pieces behind the segments are neither tokens nor taken apart. -/
theorem extra_verbatim (ending : Ending) :
    ∀ piece ∈ ending.extra, '/' ∉ piece ∧ '\n' ∉ piece ∧ piece.head? ≠ some ':' := by
  cases ending <;> simp [extra]

/-- What is left of an ending without its final slash is how the regular expression closes. -/
theorem withoutFinalSlash_extra (plain : Plain segments) {ending : Ending} {expression : Text}
    (h : ending.Spells segments expression) :
    Text.withoutFinalSlash (slashed ((ending.base segments).map Segment.regexText ++ ending.extra)) ++ ['$'] =
      slashed ((ending.base segments).map Segment.regexText) ++ ending.close.text := by
  cases ending with
  | bare => simp [base, extra, close, Closing.plain, plain.withoutFinalSlash_regexText]
  | slash =>
    have filled : slashed (segments.map Segment.regexText) ≠ [] := by
      rcases plain with rfl | ⟨hne, -⟩
      · exact absurd rfl h.1
      · cases segments with
        | nil => exact absurd rfl hne
        | cons _ _ => simp
    simp [base, extra, close, Closing.plain, slashed_append, Text.withoutFinalSlash_append filled]
  | wildcard =>
    have last : ∀ t : Text, (t ++ slashed [".*".toList]).getLast? ≠ some '/' := by
      intro t
      simp
    rw [extra, slashed_append, Text.withoutFinalSlash_of_getLast? (last _), List.append_assoc]
    rfl

end Ending

section Endings

variable {vocabulary : Vocabulary κ} {expression : Text} {pattern : Pattern κ} {ending : Ending}

/-- An expression that spells plain segments has no query part. -/
theorem notMem_of_spells (plain : Plain segments) (h : ending.Spells segments expression) : '?' ∉ expression := by
  have texts : '?' ∉ pathText segments :=
    Text.notMem_flatMap (by decide) (plain.pieces (by decide) (by decide) (by decide) (by decide))
  cases ending with
  | bare =>
    have h : expression = pathText segments := h
    rwa [h]
  | slash =>
    obtain ⟨-, rfl⟩ := h
    simpa using texts
  | wildcard =>
    have h : expression = if segments = [.fixed []] then "/.*".toList else pathText segments ++ "/.*".toList := h
    rw [h]
    split
    · decide
    · simpa using texts

/-- The regular expression and the parameters of a compiled expression whose path is plain. -/
theorem compiled_of_spells [CharacterNames] (plain : Plain segments) {path : Text} (h : ending.Spells segments path)
    (hpath : (Pattern.splitExpression expression).1 = path) (compiled : vocabulary.compile expression = .ok pattern) :
    pattern.regex = some (regex (ending.base segments) ending.close) ∧
      vocabulary.pathParams expression ((ending.base segments).map Segment.component) = .ok pattern.pathParams :=
  compiled_slashed (ending.spelled_base plain) ending.extra_verbatim (hpath.trans h.eq_slashed)
    (ending.withoutFinalSlash_extra plain h) compiled

variable [Conversions κ] {subject : Subject}

/-- The paths that are tried fit with values exactly when the path is one that the expression describes. -/
theorem tried_iff_matches (plain : Plain segments) (head : subject.path.head? = some '/') (types : TypeTable κ)
    (ending : Ending) (m : Params) :
    (∃ path pieces, subject.Tried path ∧ Fitting (ending.base segments) ending.close path pieces ∧
      Aligned types (ending.base segments) pieces m) ↔ ending.Matches types segments subject.path m := by
  have exact_iff : (∃ path pieces, subject.Tried path ∧ Fitting segments .plain path pieces ∧
      Aligned types segments pieces m) ↔ Aligned types segments (components subject.path) m := by
    rw [aligned_components_iff plain.readable head]
    constructor
    · rintro ⟨path, pieces, tried, fitting, aligned⟩
      exact ⟨pieces, ((tried_plain_iff plain head fitting.1).1 ⟨path, tried, fitting⟩).symm, aligned⟩
    · rintro ⟨pieces, h, aligned⟩
      obtain ⟨path, tried, fitting⟩ := (tried_plain_iff plain head aligned.forall₂).2 h.symm
      exact ⟨path, pieces, tried, fitting, aligned⟩
  cases ending with
  | bare => exact exact_iff
  | slash => exact exact_iff
  | wildcard =>
    by_cases hroot : segments = [.fixed []]
    · have whole : ∃ rest, subject.path = '/' :: rest := by
        cases h : subject.path with
        | nil => simp [h] at head
        | cons c rest => exact ⟨rest, by rw [h] at head; cases head; rfl⟩
      simp only [Ending.base, hroot, and_self, if_true, Ending.Matches]
      constructor
      · rintro ⟨path, pieces, -, -, aligned⟩
        cases aligned
        rfl
      · rintro rfl
        exact ⟨_, [], .inl rfl, ⟨.nil, _, rfl, whole⟩, .nil⟩
    · simp only [Ending.base, hroot, and_false, if_false, Ending.Matches, Ending.close]
      constructor
      · rintro ⟨path, pieces, tried, fitting, aligned⟩
        have cut := (tried_wildcard_iff plain hroot fitting.1).1 ⟨path, tried, fitting⟩
        refine ⟨_, cut, ?_⟩
        rwa [components_slashed_eq (slashless_of_fits plain.readable fitting.1)]
      · rintro ⟨q, cut, aligned⟩
        have start : q.head? = some '/' := by
          rcases cut with rfl | ⟨hq, rest, h⟩
          · exact head
          · rwa [h, List.head?_append_of_ne_nil _ hq] at head
        obtain ⟨pieces, rfl, aligned'⟩ := (aligned_components_iff plain.readable start m).1 aligned
        obtain ⟨path, tried, fitting⟩ := (tried_wildcard_iff plain hroot aligned'.forall₂).2 cut
        exact ⟨path, pieces, tried, fitting, aligned'⟩

/-- The components that fit are components of the path. -/
theorem mem_components_of_tried (plain : Plain segments) (head : subject.path.head? = some '/') {path : Text}
    (tried : subject.Tried path) (fitting : Fitting (ending.base segments) ending.close path pieces) :
    ∀ piece ∈ pieces, piece ∈ components subject.path := by
  have slashless := slashless_of_fits (ending.spelled_base plain).readable fitting.1
  have exact_mem : Fitting segments .plain path pieces → ∀ piece ∈ pieces, piece ∈ components subject.path := by
    intro fitting
    rw [(tried_plain_iff plain head fitting.1).1 ⟨path, tried, fitting⟩]
    exact fun piece hp => by rwa [components_slashed_eq slashless]
  cases ending with
  | bare => exact exact_mem fitting
  | slash => exact exact_mem fitting
  | wildcard =>
    by_cases hroot : segments = [.fixed []]
    · simp only [Ending.base, hroot, and_self, if_true] at fitting
      obtain ⟨⟨⟩, -⟩ := fitting
      simp
    · simp only [Ending.base, hroot, and_false, if_false] at fitting
      exact mem_components_of_cut slashless ((tried_wildcard_iff plain hroot fitting.1).1 ⟨path, tried, fitting⟩)

theorem mem_of_mem_tokenTexts {segments : List Segment} {pieces : List Text} {t : Text}
    (h : t ∈ tokenTexts segments pieces) : t ∈ pieces := by
  fun_induction tokenTexts segments pieces with
  | case1 _ _ piece _ ih => exact List.mem_cons_of_mem _ (ih h)
  | case2 _ _ _ piece _ ih =>
    rcases List.mem_cons.1 h with rfl | h
    · exact List.mem_cons_self ..
    · exact List.mem_cons_of_mem _ (ih h)
  | case3 => cases h

end Endings

/-- **Matching a plain path.** An expression with a plain path, with or without a slash at its end, or as a wildcard,
binds the path of a URL exactly when the components of the path align with the segments, for a wildcard up to some
slash. It binds each path parameter to the conversion of the component at its place, and no capture reaches over a
slash. -/
theorem bindPath_eq_ok_iff [CharacterNames] [Conversions κ] {vocabulary : Vocabulary κ}
    (builtin : vocabulary.types = .default) {segments : List Segment} (plain : Plain segments) {ending : Ending}
    {expression : Text} (spells : ending.Spells segments expression) {pattern : Pattern κ}
    (compiled : vocabulary.compile expression = .ok pattern) {url : Url} (head : url.path.head? = some '/')
    (line : '\n' ∉ url.path) :
    ∃ r result, pattern.regex = some r ∧ (Subject.ofUrl url).bindPath pattern = .ok result ∧
      (∀ m, result = some m ↔ ending.Matches (.default : TypeTable κ) segments (Subject.ofUrl url).path m) ∧
      ∀ t ∈ (Subject.ofUrl url).captures r, t ∈ components (Subject.ofUrl url).path := by
  have whole := Pattern.splitExpression_of_notMem (notMem_of_spells plain spells)
  obtain ⟨hregex, hparams⟩ := compiled_of_spells plain spells (congrArg Prod.fst whole) compiled
  have readable := (ending.spelled_base plain).readable
  have stays : (Subject.ofUrl url).path.head? = some '/' ∧ '\n' ∉ (Subject.ofUrl url).path :=
    ⟨Text.head?_withoutFinalSlash head, fun hm => line (Text.mem_of_mem_withoutFinalSlash hm)⟩
  have total : vocabulary.types.Total := TypeTable.total_of_custom (by rw [builtin]; simp [TypeTable.default])
  have totalPath : ∀ param ∈ pattern.pathParams, ∀ t, ∃ v, Param.convert param t = .ok v := by
    intro param hp t
    obtain ⟨name, type, rfl, offers⟩ := Vocabulary.required_of_pathParams hparams param hp
    exact offers.total total t
  obtain ⟨result, hresult, -⟩ := (Subject.ofUrl url).bindPath_spec totalPath
  refine ⟨_, result, hregex, hresult, fun m => ?_, ?_⟩
  · have bound := bindPath_regex_iff readable stays.2 hregex hparams m
    rw [builtin, tried_iff_matches plain stays.1, hresult, Except.ok.injEq] at bound
    exact bound
  · intro t ht
    by_cases hfits : ∃ path pieces, (Subject.ofUrl url).Tried path ∧
        Fitting (ending.base segments) ending.close path pieces
    · obtain ⟨path, pieces, tried, fitting⟩ := hfits
      rw [captures_of_tried readable stays.2 tried fitting] at ht
      exact mem_components_of_tried plain stays.1 tried fitting t (mem_of_mem_tokenTexts ht)
    · rw [captures_of_not_tried stays.2 hfits] at ht
      cases ht

attribute [local instance] CharacterNames.empty in
/-- A wildcard matches the path that it starts with, behind which a slash is tried. -/
theorem bindPath_eq_ok_iff_wildcard :
    letI : Conversions Unit := ⟨fun _ t => .ok (.text t)⟩
    let vocabulary : Vocabulary Unit := {}
    let segments : List Segment := [.fixed "feed".toList, .token "id".toList (some "int".toList)]
    let url : Url := { path := "/feed/07/".toList }
    ∃ pattern r, vocabulary.compile "/feed/:id{int}/.*".toList = .ok pattern ∧ pattern.regex = some r ∧
      (Subject.ofUrl url).bindPath pattern = .ok (some [("id".toList, .int 7)]) ∧
      Ending.wildcard.Matches (.default : TypeTable Unit) segments (Subject.ofUrl url).path [("id".toList, .int 7)] ∧
      ∀ t ∈ (Subject.ofUrl url).captures r, t ∈ components (Subject.ofUrl url).path := by
  intro vocabulary segments url
  let _ : Conversions Unit := ⟨fun _ t => .ok (.text t)⟩
  have plain : Plain segments := by
    refine .inr ⟨by decide, fun segment hm => ?_⟩
    simp only [segments, List.mem_cons, List.not_mem_nil, or_false] at hm
    rcases hm with rfl | rfl
    · exact ⟨by decide, List.all_eq_true.1 rfl⟩
    · exact ⟨by decide, by decide⟩
  have spells : Ending.wildcard.Spells segments "/feed/:id{int}/.*".toList := by
    unfold Ending.Spells
    decide
  obtain ⟨pattern, compiled⟩ : ∃ pattern, vocabulary.compile "/feed/:id{int}/.*".toList = .ok pattern := ⟨_, rfl⟩
  have matched : (vocabulary.compile "/feed/:id{int}/.*".toList).map (Subject.ofUrl url).bindPath =
      .ok (.ok (some [("id".toList, .int 7)])) := by rfl
  rw [compiled] at matched
  injection matched with matched
  have head : url.path.head? = some '/' := rfl
  have line : '\n' ∉ url.path := by decide
  obtain ⟨r, result, hregex, hresult, hmatches, hcaptures⟩ := bindPath_eq_ok_iff rfl plain spells compiled head line
  have found : Except.ok result = Except.ok _ := hresult.symm.trans matched
  injection found with found
  exact ⟨pattern, r, compiled, hregex, matched, (hmatches _).1 found, hcaptures⟩

end TypedRoutes.Path
