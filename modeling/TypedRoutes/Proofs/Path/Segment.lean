import Mathlib.Data.List.Forall2
import TypedRoutes.Matching
import TypedRoutes.Proofs.Pattern.Token
import TypedRoutes.Proofs.Vocabulary

/-!
# Plain paths

A plain path is `/` alone, or a row of segments with a slash before each: fixed texts of harmless characters, and
tokens. `Fits` says which component of a URL's path a segment stands for, and `Aligned` says it of a row of segments
and components, place by place, with the values that the tokens bind.
-/

namespace TypedRoutes.Path

set_option autoImplicit false

variable {κ : Type}

/-- A component of a plain path. -/
inductive Segment where
  | fixed (t : Text)
  | token (name : Text) (type : Option Text)
  deriving DecidableEq, Repr

/-- A character that fixed texts may have: none of them means anything in a regular expression or a URL. -/
def isFixedChar (c : Char) : Bool := c.isAlphanum || c == '_' || c == '~' || c == '-'

/-- A character that a token can stand for. -/
def isComponentChar (c : Char) : Bool := isFixedChar c || c == '.'

/-- The path that pieces make, with a slash before each of them. -/
def slashed (pieces : List Text) : Text := pieces.flatMap ('/' :: ·)

@[simp] theorem slashed_nil : slashed [] = [] := rfl

@[simp] theorem slashed_cons (piece : Text) (rest : List Text) :
    slashed (piece :: rest) = '/' :: (piece ++ slashed rest) := by
  simp [slashed]

theorem slashed_append (pieces more : List Text) : slashed (pieces ++ more) = slashed pieces ++ slashed more := by
  simp [slashed]

namespace Segment

/-- A segment as expressions write it. -/
def text : Segment → Text
  | fixed t => t
  | token name type => (Pattern.Token.required name (type.map fun name => { name })).text

/-- A fixed text that is not empty, or a token with a proper name and type. -/
def WellFormed : Segment → Prop
  | fixed t => t ≠ [] ∧ ∀ c ∈ t, isFixedChar c = true
  | token name type => Pattern.isName name = true ∧ ∀ word ∈ type, Pattern.isTypeWord word = true

/-- The component of an expression that a segment is. -/
def component : Segment → Pattern.Component
  | fixed t => .verbatim t
  | token name type => .token name type []

/-- The components that a segment stands for: a fixed text for itself, a token for any text of one or more of the
characters that a token can stand for. -/
def Fits : Segment → Text → Prop
  | fixed t, piece => piece = t
  | token _ _, piece => piece ≠ [] ∧ ∀ c ∈ piece, isComponentChar c = true

/-- The type of a token. -/
def type? (types : TypeTable κ) : Option Text → Option (ValueType κ)
  | none => some types.inferred
  | some name => types.get? name

end Segment

/-- The segments of a plain path; `/` alone is a single empty one. -/
def Plain (segments : List Segment) : Prop :=
  segments = [.fixed []] ∨ segments ≠ [] ∧ ∀ segment ∈ segments, segment.WellFormed

/-- The plain path of segments. -/
def pathText (segments : List Segment) : Text := slashed (segments.map Segment.text)

/-- Segments and components agree place by place, and every token binds the value of the component at its place. -/
inductive Aligned [Conversions κ] (types : TypeTable κ) : List Segment → List Text → Params → Prop where
  | nil : Aligned types [] [] []
  | fixed {t : Text} {segments : List Segment} {pieces : List Text} {m : Params}
      (rest : Aligned types segments pieces m) : Aligned types (.fixed t :: segments) (t :: pieces) m
  | token {name : Text} {ref : Option Text} {type : ValueType κ} {piece : Text} {v : Value}
      {segments : List Segment} {pieces : List Text} {m : Params} (fits : (Segment.token name ref).Fits piece)
      (found : Segment.type? types ref = some type) (converts : type.convert piece = .ok (some v))
      (rest : Aligned types segments pieces m) :
      Aligned types (.token name ref :: segments) (piece :: pieces) ((name, v) :: m)

/-- The components at the places of the tokens. -/
def tokenTexts : List Segment → List Text → List Text
  | .fixed _ :: segments, _ :: pieces => tokenTexts segments pieces
  | .token _ _ :: segments, piece :: pieces => piece :: tokenTexts segments pieces
  | _, _ => []

/-! ## Segments as components of expressions -/

/-- What a fixed text has no character of. -/
theorem notMem_of_isFixedChar {t : Text} (h : ∀ c ∈ t, isFixedChar c = true) {c : Char} (hc : isFixedChar c = false) :
    c ∉ t := fun hm => by simp [h c hm] at hc

theorem notMem_of_isComponentChar {t : Text} (h : ∀ c ∈ t, isComponentChar c = true) {c : Char}
    (hc : isComponentChar c = false) : c ∉ t := fun hm => by simp [h c hm] at hc

/-- The signs of a path token are a colon and braces. -/
theorem Segment.notMem_text {segment : Segment} (h : segment.WellFormed) {c : Char} (hf : isFixedChar c = false)
    (hw : Text.isWord c = false) (ht : Pattern.isTypeChar c = false) (hs : c ∉ [':', '\x7b', '\x7d']) :
    c ∉ segment.text := by
  simp only [List.mem_cons, List.not_mem_nil, or_false, not_or] at hs
  cases segment with
  | fixed t => exact notMem_of_isFixedChar h.2 hf
  | token name type =>
    have hn := Pattern.notMem_of_isName h.1 hw
    cases type with
    | none => simp [text, Pattern.Token.text, hn, hs.1]
    | some word =>
      have hword := Pattern.notMem_of_isTypeWord (h.2 word rfl) ht
      simp [text, Pattern.Token.text, Pattern.Token.braced, Pattern.TypeRef.text, hn, hword, hs]

theorem token?_of_head? {t : Text} (h : t.head? ≠ some ':') : Pattern.Component.token? t = none := by
  have unsplit : Pattern.Token.split? t = none := by
    cases t with
    | nil => rfl
    | cons c rest =>
      have hc : c ≠ ':' := fun he => h (by simp [he])
      simp [Pattern.Token.split?, hc]
  rw [Pattern.Component.token?, Pattern.Token.ofText?, unsplit]

/-- A component that does not start with a colon stands for itself. -/
theorem ofText_of_head? {t : Text} (h : t.head? ≠ some ':') : Pattern.Component.ofText t = .verbatim t := by
  rw [Pattern.Component.ofText, token?_of_head? h]

/-- The text of a segment is read as the segment. -/
theorem Segment.ofText_text {segment : Segment} (h : segment.WellFormed) :
    Pattern.Component.ofText segment.text = segment.component := by
  cases segment with
  | fixed t => exact ofText_of_head? (Pattern.head?_ne_of_notMem (notMem_of_isFixedChar h.2 (by decide)))
  | token name type =>
    have read : Pattern.Token.ofText? (Segment.token name type).text =
        some (.required name (type.map fun name => { name })) := by
      refine Pattern.Token.ofText?_text ?_
      cases type with
      | none => exact h.1
      | some word => exact ⟨h.1, h.2 word rfl⟩
    rw [Pattern.Component.ofText, Pattern.Component.token?, read]
    cases type <;> rfl

/-- A plain path has the pieces of its segments. -/
theorem Plain.pieces {segments : List Segment} (h : Plain segments) {c : Char} (hf : isFixedChar c = false)
    (hw : Text.isWord c = false) (ht : Pattern.isTypeChar c = false) (hs : c ∉ [':', '\x7b', '\x7d']) :
    ∀ piece ∈ segments.map Segment.text, c ∉ piece := by
  rcases h with rfl | ⟨-, h⟩
  · simp [Segment.text]
  · rintro piece hp
    obtain ⟨segment, hm, rfl⟩ := List.mem_map.1 hp
    exact Segment.notMem_text (h segment hm) hf hw ht hs

theorem Plain.map_ofText {segments : List Segment} (h : Plain segments) :
    (segments.map Segment.text).map Pattern.Component.ofText = segments.map Segment.component := by
  rcases h with rfl | ⟨-, h⟩
  · rfl
  · rw [List.map_map]
    exact List.map_congr_left fun segment hm => Segment.ofText_text (h segment hm)

/-- The components of a plain path with further pieces behind it that are no tokens. -/
theorem components_slashed {pieces extra : List Text} {components : List Pattern.Component}
    (hpieces : pieces.map Pattern.Component.ofText = components)
    (hplain : ∀ piece ∈ pieces, '/' ∉ piece ∧ '\n' ∉ piece)
    (hextra : ∀ piece ∈ extra, '/' ∉ piece ∧ '\n' ∉ piece ∧ piece.head? ≠ some ':') :
    Pattern.components (slashed (pieces ++ extra)) =
      .verbatim [] :: (components ++ extra.map Pattern.Component.verbatim) := by
  have all : ∀ piece ∈ pieces ++ extra, '/' ∉ piece ∧ '\n' ∉ piece := by
    intro piece hp
    rcases List.mem_append.1 hp with hp | hp
    · exact hplain piece hp
    · exact ⟨(hextra piece hp).1, (hextra piece hp).2.1⟩
  have verbatim : extra.map Pattern.Component.ofText = extra.map Pattern.Component.verbatim :=
    List.map_congr_left fun piece hp => ofText_of_head? (hextra piece hp).2.2
  have line : ∀ last, (pieces ++ extra).getLast? = some last → last.getLast? ≠ some '\n' := fun last hl =>
    Pattern.getLast?_ne_of_notMem (all last (List.mem_of_getLast? hl)).2
  rw [Pattern.components, slashed, Text.splitOn_flatMap fun piece hp => (all piece hp).1]
  simp only [Pattern.Component.ofTexts_eq_map line, List.map_append, hpieces, verbatim]

/-! ## Binding -/

section Binding

variable {vocabulary : Vocabulary κ} {expression : Text} {params : List (Param κ)}

/-- Components that are no tokens add no parameters. -/
theorem pathParams_append_verbatim (components : List Pattern.Component) (extra : List Text) :
    vocabulary.pathParams expression (components ++ extra.map Pattern.Component.verbatim) =
      vocabulary.pathParams expression components := by
  induction components with
  | nil =>
    induction extra with
    | nil => rfl
    | cons t rest ih => exact ih
  | cons component rest ih =>
    cases component with
    | verbatim t => exact ih
    | token name type tail => simp only [List.cons_append, Vocabulary.pathParams, ih]

/-- The type of a segment is the one that its reference resolves to. -/
theorem type?_of_resolveOrInfer {ref : Option Text} {type : ValueType κ}
    (h : vocabulary.resolveOrInfer expression (ref.map fun name => { name }) = .ok type) :
    Segment.type? vocabulary.types ref = some type := by
  cases ref with
  | none =>
    cases h
    rfl
  | some name =>
    simp only [Option.map_some, Vocabulary.resolveOrInfer, Vocabulary.resolve] at h
    split at h
    · rename_i found hf
      cases h
      exact hf
    · cases h

theorem length_tokenTexts {segments : List Segment} {pieces : List Text}
    (h : vocabulary.pathParams expression (segments.map Segment.component) = .ok params)
    (fits : List.Forall₂ Segment.Fits segments pieces) : (tokenTexts segments pieces).length = params.length := by
  induction fits generalizing params with
  | nil => cases h; rfl
  | cons _ _ ih =>
    rename_i segment piece segments pieces _ _
    cases segment with
    | fixed t => exact ih h
    | token name ref =>
      simp only [List.map_cons, Segment.component, Vocabulary.pathParams, bind_eq_ok_iff] at h
      obtain ⟨type, ht, more, hm, h⟩ := h
      cases h
      simp [tokenTexts, ih hm]

/-- Binding the components at the places of the tokens is alignment. -/
theorem bind_tokenTexts [Conversions κ] {segments : List Segment} {pieces : List Text}
    (h : vocabulary.pathParams expression (segments.map Segment.component) = .ok params)
    (fits : List.Forall₂ Segment.Fits segments pieces) (m : Params) :
    Subject.bind params (tokenTexts segments pieces) = .ok (some m) ↔
      Aligned vocabulary.types segments pieces m := by
  induction fits generalizing params m with
  | nil =>
    cases h
    constructor
    · rintro ⟨⟩
      exact .nil
    · rintro ⟨⟩
      rfl
  | cons fit _ ih =>
    rename_i segment piece segments pieces _
    cases segment with
    | fixed t =>
      cases fit
      rw [tokenTexts, ih h]
      constructor
      · exact .fixed
      · rintro ⟨⟩
        assumption
    | token name ref =>
      simp only [List.map_cons, Segment.component, Vocabulary.pathParams, bind_eq_ok_iff] at h
      obtain ⟨type, ht, more, hm, h⟩ := h
      cases h
      have found := type?_of_resolveOrInfer ht
      have converts : (Param.required name type).convert piece = type.convert piece := rfl
      rw [tokenTexts, Subject.bind, converts]
      constructor
      · intro hb
        split at hb
        · cases hb
        · cases hb
        · rename_i v hv
          split at hb
          · rename_i values hvalues
            cases hb
            exact .token fit found hv ((ih hm values).1 hvalues)
          · rename_i other hother
            exact absurd hb (hother m)
      · intro ha
        cases ha with
        | token _ found' hv rest =>
          rw [found] at found'
          cases found'
          simp only [hv, (ih hm _).2 rest, Param.name]

theorem Aligned.forall₂ [Conversions κ] {types : TypeTable κ} {segments : List Segment} {pieces : List Text} {m : Params}
    (h : Aligned types segments pieces m) : List.Forall₂ Segment.Fits segments pieces := by
  induction h with
  | nil => exact .nil
  | fixed _ ih => exact .cons rfl ih
  | token fits _ _ _ ih => exact .cons fits ih

end Binding

end TypedRoutes.Path
