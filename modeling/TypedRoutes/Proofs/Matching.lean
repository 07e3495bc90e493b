import Mathlib.Data.List.Forall2
import TypedRoutes.Matching
import TypedRoutes.Proofs.Assoc
import TypedRoutes.Proofs.Vocabulary

/-!
# What a match is

When no conversion fails, a URL either matches a compiled pattern or it does not, and which of the two is settled by
the path (`PathFits`) and by the query (`QueryFits`). A match holds one value for each parameter that is there, its
own: the names of a compiled pattern are distinct, so that no value ever replaces another one
(`matchPattern_eq_ok`).
-/

namespace TypedRoutes

set_option autoImplicit false

variable {κ : Type} [Conversions κ]

/-! ## Conversions that do not fail -/

/-- Every text either denotes an instance of the type or does not. -/
def ValueType.Total (type : ValueType κ) : Prop := ∀ t, ∃ v, type.convert t = .ok v

/-- No conversion of a type of the table fails. -/
def TypeTable.Total (table : TypeTable κ) : Prop := ∀ type ∈ table.all, type.Total

/-- An array of a type that never fails never fails. -/
theorem ValueType.convertPieces_total {of : ValueType κ} (total : of.Total) (pieces : List Text) :
    ∃ vs, convertPieces (convert of) pieces = .ok vs := by
  induction pieces with
  | nil => exact ⟨_, rfl⟩
  | cons piece rest ih =>
    obtain ⟨v, hv⟩ := total piece
    obtain ⟨vs, hvs⟩ := ih
    cases hp : piece.isEmpty with
    | true => exact ⟨none, by simp [convertPieces, hp]⟩
    | false =>
      cases v with
      | none => exact ⟨none, by simp [convertPieces, hp, hv]⟩
      | some v => cases vs <;> exact ⟨_, by simp only [convertPieces, hp, hv, hvs]; rfl⟩

theorem ValueType.Total.array {of : ValueType κ} (total : of.Total) : (ValueType.array of).Total := by
  intro t
  obtain ⟨vs, hvs⟩ := convertPieces_total total (Text.splitOn ',' t)
  cases vs <;> exact ⟨_, by simp only [convert, hvs]; rfl⟩

/-- The built-in types never fail, so that only those of the application count. -/
theorem TypeTable.total_of_custom {table : TypeTable κ} (h : ∀ type ∈ table.custom, type.Total) : table.Total := by
  intro type ht
  rcases List.mem_append.1 ht with hb | hc
  · simp only [builtins, List.mem_cons, List.not_mem_nil, or_false] at hb
    rcases hb with rfl | rfl | rfl <;> exact fun t => ⟨_, rfl⟩
  · exact h type hc

theorem TypeTable.default_total : (default : TypeTable κ).Total := total_of_custom nofun

/-- A type that a table of types offers never fails when none of the table does. -/
theorem Vocabulary.Offers.total {vocabulary : Vocabulary κ} (total : vocabulary.types.Total) {type : ValueType κ}
    (h : vocabulary.Offers type) : type.Total := by
  rcases h with h | ⟨of, h, rfl⟩
  · exact total type h
  · exact (total of h).array

namespace Subject

/-! ## The path -/

/-- The texts that the groups of a regular expression capture from the path, or, when they capture none and the
path does not end with a slash, from the path with a slash at its end. -/
def Captured (subject : Subject) (r : Regex) (texts : List Text) : Prop :=
  if r.captures subject.path ≠ [] then texts = r.captures subject.path
  else if subject.path.getLast? = some '/' then texts = []
  else texts = r.captures (subject.path ++ ['/'])

/-- The path is one that the pattern describes: the captured texts are as many as the parameters, and each of them
converts to the value of the parameter at its place. Without parameters the regular expression has to match the
path, or the path with a slash at its end. -/
def PathFits (subject : Subject) (pattern : Pattern κ) : Prop :=
  ∃ r texts, pattern.regex = some r ∧ subject.Captured r texts ∧
    List.Forall₂ (fun param t => ∃ v, Param.convert param t = .ok (some v)) pattern.pathParams texts ∧
    (pattern.pathParams = [] → r.hasMatch subject.path = true ∨
      subject.path.getLast? ≠ some '/' ∧ r.hasMatch (subject.path ++ ['/']) = true)

/-- A value that the path gives: a path parameter's own, converted from the text captured at its place. -/
def PathGives (subject : Subject) (pattern : Pattern κ) (name : Text) (v : Value) : Prop :=
  ∃ r texts param t, pattern.regex = some r ∧ subject.Captured r texts ∧
    (param, t) ∈ pattern.pathParams.zip texts ∧ Param.name param = name ∧ param.convert t = .ok (some v)

/-- The captures of the path, or of the path with a slash behind it, are what has been captured. -/
theorem captured_captures (subject : Subject) (r : Regex) : subject.Captured r (subject.captures r) := by
  unfold Captured captures slashed?
  by_cases hc : r.captures subject.path = []
  · by_cases hs : subject.path.getLast? = some '/' <;> simp [hc, hs]
  · have filled : (r.captures subject.path).isEmpty = false := by simpa using hc
    simp [hc, filled]

/-- What has been captured is determined by the path and the expression. -/
theorem Captured.eq {subject : Subject} {r : Regex} {texts : List Text} (h : subject.Captured r texts) :
    texts = subject.captures r := by
  have h' := subject.captured_captures r
  unfold Captured at h h'
  split at h
  · rw [if_pos ‹_›] at h'; rw [h, h']
  · rw [if_neg ‹_›] at h'
    split at h
    · rw [if_pos ‹_›] at h'; rw [h, h']
    · rw [if_neg ‹_›] at h'; rw [h, h']

/-- A path matches as it stands or, when it does not end with a slash, with one behind it. -/
theorem pathMatches_iff (subject : Subject) (r : Regex) :
    subject.pathMatches r = true ↔ r.hasMatch subject.path = true ∨
      subject.path.getLast? ≠ some '/' ∧ r.hasMatch (subject.path ++ ['/']) = true := by
  unfold pathMatches slashed?
  by_cases hs : subject.path.getLast? = some '/' <;> simp [hs]

/-- The paths that are tried for a subject: its own and, unless that ends with a slash, the same with a slash at its
end. -/
def Tried (subject : Subject) (path : Text) : Prop :=
  path = subject.path ∨ subject.path.getLast? ≠ some '/' ∧ path = subject.path ++ ['/']

theorem Tried.notMem {subject : Subject} {path : Text} (h : subject.Tried path) (line : '\n' ∉ subject.path) :
    '\n' ∉ path := by
  rcases h with rfl | ⟨-, rfl⟩
  · exact line
  · simpa using line

/-- A path matches exactly when one of the paths that are tried does. -/
theorem pathMatches_iff_tried (subject : Subject) (r : Regex) :
    subject.pathMatches r = true ↔ ∃ path, subject.Tried path ∧ r.hasMatch path = true := by
  rw [pathMatches_iff]
  constructor
  · rintro (here | ⟨last, there⟩)
    · exact ⟨_, .inl rfl, here⟩
    · exact ⟨_, .inr ⟨last, rfl⟩, there⟩
  · rintro ⟨path, rfl | ⟨last, rfl⟩, found⟩
    · exact .inl found
    · exact .inr ⟨last, found⟩

/-- Binding as many texts as there are parameters: it succeeds when all of them convert, and then there is an entry
for each parameter, in order. -/
theorem bind_spec {params : List (Param κ)} {texts : List Text}
    (total : ∀ param ∈ params, ∀ t, ∃ v, param.convert t = .ok v) (hlen : params.length = texts.length) :
    ∃ result, bind params texts = .ok result ∧
      (result.isSome = true ↔ List.Forall₂ (fun param t => ∃ v, param.convert t = .ok (some v)) params texts) ∧
      ∀ m, result = some m → Assoc.keys m = params.map Param.name ∧
        ∀ name v, (name, v) ∈ m ↔
          ∃ param t, (param, t) ∈ params.zip texts ∧ param.name = name ∧ param.convert t = .ok (some v) := by
  induction params generalizing texts with
  | nil =>
    have empty : texts = [] := List.length_eq_zero_iff.1 hlen.symm
    subst empty
    exact ⟨some [], rfl, by simp, by rintro m ⟨⟩; simp⟩
  | cons param rest ih =>
    cases texts with
    | nil => simp at hlen
    | cons t ts =>
      obtain ⟨v, hv⟩ := total param (List.mem_cons_self ..) t
      obtain ⟨result, hr, hsome, hm⟩ := ih (fun q hq => total q (List.mem_cons_of_mem _ hq)) (by simpa using hlen)
      cases v with
      | none => exact ⟨none, by simp only [bind, hv], by simp [hv], by simp⟩
      | some v =>
        cases result with
        | none => exact ⟨none, by simp only [bind, hv, hr], by simpa [hv] using hsome, by simp⟩
        | some values =>
          refine ⟨some ((param.name, v) :: values), by simp only [bind, hv, hr], by simpa [hv] using hsome, ?_⟩
          rintro m ⟨⟩
          obtain ⟨hk, hmem⟩ := hm values rfl
          refine ⟨by simp [hk], fun name w => ?_⟩
          simp only [List.mem_cons, Prod.mk.injEq, hmem, List.zip_cons_cons]
          constructor
          · rintro (⟨rfl, rfl⟩ | ⟨q, s, hq⟩)
            · exact ⟨param, t, .inl ⟨rfl, rfl⟩, rfl, hv⟩
            · exact ⟨q, s, .inr hq.1, hq.2⟩
          · rintro ⟨q, s, ⟨rfl, rfl⟩ | hq, hn, hw⟩
            · rw [hv] at hw
              cases hw
              exact .inl ⟨hn.symm, rfl⟩
            · exact .inr ⟨q, s, hq, hn, hw⟩

/-- As many texts as there are parameters that have been bound: each text converts to the value under the name of its
parameter. -/
theorem entries_of_bind {params : List (Param κ)} {texts : List Text} {found : Params}
    (h : bind params texts = .ok (some found)) (aligned : params.length = texts.length) :
    Assoc.keys found = params.map Param.name ∧
      ∀ entry ∈ params.zip texts, ∃ v, entry.1.convert entry.2 = .ok (some v) ∧ (entry.1.name, v) ∈ found := by
  induction params generalizing texts found with
  | nil =>
    cases h
    simp
  | cons param rest ih =>
    cases texts with
    | nil => simp at aligned
    | cons t ts =>
      unfold bind at h
      split at h
      · cases h
      · cases h
      · rename_i v converted
        split at h
        · rename_i values later
          cases h
          obtain ⟨keys, entries⟩ := ih later (Nat.succ.inj aligned)
          refine ⟨by simp [keys], fun entry he => ?_⟩
          rcases List.mem_cons.1 he with rfl | he
          · exact ⟨v, converted, List.mem_cons_self ..⟩
          · obtain ⟨w, hw, member⟩ := entries entry he
            exact ⟨w, hw, List.mem_cons_of_mem _ member⟩
        · rename_i other
          exact absurd h (other _)

/-! ## The query -/

/-- The value that the query gives a parameter: a literal one has its text, the others are converted. -/
def QueryGives (subject : Subject) : Param κ → Value → Prop
  | .required name type, v | .optional name type, v =>
    ∃ t, Assoc.get? name subject.query = some t ∧ type.convert t = .ok (some v)
  | .literal name value, v => Assoc.get? name subject.query = some value ∧ v = .text value
  | .foreign _ _, _ => False

/-- A value for a parameter with a type is converted from the text of the query. -/
theorem QueryGives.exists_convert {subject : Subject} {param : Param κ} {type : ValueType κ} {v : Value}
    (gives : subject.QueryGives param v) (typed : param.type = .ok type) :
    ∃ t, Assoc.get? param.name subject.query = some t ∧ type.convert t = .ok (some v) := by
  cases param with
  | foreign name owner => cases typed
  | literal name value => cases typed
  | required name own | optional name own =>
    cases typed
    exact gives

/-- The query has what a parameter asks for. -/
def Admits (subject : Subject) : Param κ → Prop
  | .required name type => ∃ t v, Assoc.get? name subject.query = some t ∧ type.convert t = .ok (some v)
  | .optional name type => ∀ t, Assoc.get? name subject.query = some t → ∃ v, type.convert t = .ok (some v)
  | .literal name value => Assoc.get? name subject.query = some value
  | .foreign _ _ => False

/-- Whether the query has an item with the name of a parameter. -/
def mentions (subject : Subject) (param : Param κ) : Bool := (Assoc.get? param.name subject.query).isSome

/-- The query has what every parameter of the pattern asks for. -/
def QueryFits (subject : Subject) (pattern : Pattern κ) : Prop := ∀ param ∈ pattern.queryParams, subject.Admits param

theorem eq_some_of_map {x : Except Fault (Option Value)} {found : Option Value}
    (h : (x.map fun v => v.map some) = .ok (some found)) : ∃ v, x = .ok (some v) ∧ found = some v := by
  cases x with
  | error fault => cases h
  | ok v =>
    cases v with
    | none => cases h
    | some v =>
      cases h
      exact ⟨v, rfl, rfl⟩

/-- A query that does not rule a parameter out gives it its value, or none when it is optional and not there. -/
theorem queryValue_eq_some {subject : Subject} {param : Param κ} {found : Option Value}
    (h : subject.queryValue param = .ok (some found)) :
    (∀ v, found = some v → subject.QueryGives param v) ∧
      (found = none → (∃ name type, param = .optional name type) ∧ Assoc.get? param.name subject.query = none) := by
  cases param with
  | foreign name owner => cases h
  | literal name value =>
    by_cases raw : Assoc.get? name subject.query = some value
    · simp only [queryValue, Param.name, raw, if_true] at h
      cases h
      exact ⟨fun v hv => ⟨raw, (Option.some.inj hv).symm⟩, nofun⟩
    · simp [queryValue, Param.name, raw] at h
  | required name type =>
    cases raw : Assoc.get? name subject.query with
    | none => simp [queryValue, Param.name, raw] at h
    | some t =>
      simp only [queryValue, Param.name, raw] at h
      obtain ⟨v, converted, rfl⟩ := eq_some_of_map h
      exact ⟨fun w hw => ⟨t, raw, hw ▸ converted⟩, nofun⟩
  | optional name type =>
    cases raw : Assoc.get? name subject.query with
    | none =>
      simp only [queryValue, Param.name, raw] at h
      cases h
      exact ⟨nofun, fun _ => ⟨⟨name, type, rfl⟩, raw⟩⟩
    | some t =>
      simp only [queryValue, Param.name, raw] at h
      obtain ⟨v, converted, rfl⟩ := eq_some_of_map h
      exact ⟨fun w hw => ⟨t, raw, hw ▸ converted⟩, nofun⟩

/-- One parameter: it has a value exactly when the query mentions it, and the value is its own. -/
theorem queryValue_spec {vocabulary : Vocabulary κ} (total : vocabulary.types.Total) (subject : Subject)
    {param : Param κ} (offers : vocabulary.OffersParam param) :
    ∃ result, subject.queryValue param = .ok result ∧ (result.isSome = true ↔ subject.Admits param) ∧
      ∀ found, result = some found → found.isSome = subject.mentions param ∧
        ∀ v, found = some v ↔ subject.QueryGives param v := by
  cases param with
  | foreign name owner => exact offers.elim
  | literal name value =>
    by_cases h : Assoc.get? name subject.query = some value
    · refine ⟨some (some (.text value)), by simp [queryValue, Param.name, h], by simp [Admits, h], ?_⟩
      rintro found ⟨⟩
      exact ⟨by simp [mentions, Param.name, h], fun v => by simp [QueryGives, h, eq_comm]⟩
    · exact ⟨none, by simp [queryValue, Param.name, h], by simp [Admits, h], by simp⟩
  | required name type =>
    cases hg : Assoc.get? name subject.query with
    | none => exact ⟨none, by simp [queryValue, Param.name, hg], by simp [Admits, hg], by simp⟩
    | some t =>
      obtain ⟨v, hv⟩ := offers.total total t
      cases v with
      | none => exact ⟨none, by simp [queryValue, Param.name, hg, hv, Except.map], by simp [Admits, hg, hv], by simp⟩
      | some v =>
        refine ⟨some (some v), by simp [queryValue, Param.name, hg, hv, Except.map], by simp [Admits, hg, hv], ?_⟩
        rintro found ⟨⟩
        exact ⟨by simp [mentions, Param.name, hg], fun w => by simp [QueryGives, hg, hv]⟩
  | optional name type =>
    cases hg : Assoc.get? name subject.query with
    | none =>
      refine ⟨some none, by simp [queryValue, Param.name, hg], by simp [Admits, hg], ?_⟩
      rintro found ⟨⟩
      exact ⟨by simp [mentions, Param.name, hg], fun w => by simp [QueryGives, hg]⟩
    | some t =>
      obtain ⟨v, hv⟩ := offers.total total t
      cases v with
      | none => exact ⟨none, by simp [queryValue, Param.name, hg, hv, Except.map], by simp [Admits, hg, hv], by simp⟩
      | some v =>
        refine ⟨some (some v), by simp [queryValue, Param.name, hg, hv, Except.map], by simp [Admits, hg, hv], ?_⟩
        rintro found ⟨⟩
        exact ⟨by simp [mentions, Param.name, hg], fun w => by simp [QueryGives, hg, hv]⟩

/-- The parameters of a query in a row: one that the query does not admit rules the pattern out, and the others are
entered under their names, in order, as far as the query mentions them. -/
theorem bindQuery_spec {vocabulary : Vocabulary κ} (total : vocabulary.types.Total) (subject : Subject)
    {params : List (Param κ)} (offers : ∀ param ∈ params, vocabulary.OffersParam param) :
    ∃ result, subject.bindQuery params = .ok result ∧
      (result.isSome = true ↔ ∀ param ∈ params, subject.Admits param) ∧
      ∀ m, result = some m → Assoc.keys m = (params.filter subject.mentions).map Param.name ∧
        ∀ name v, (name, v) ∈ m ↔ ∃ param ∈ params, param.name = name ∧ subject.QueryGives param v := by
  induction params with
  | nil => exact ⟨some [], rfl, by simp, by rintro m ⟨⟩; simp⟩
  | cons param rest ih =>
    obtain ⟨found, hf, hadmits, hfound⟩ := queryValue_spec total subject (offers param (List.mem_cons_self ..))
    obtain ⟨result, hr, hsome, hm⟩ := ih fun q hq => offers q (List.mem_cons_of_mem _ hq)
    cases found with
    | none => exact ⟨none, by simp only [bindQuery, hf], by simp [← hadmits], by simp⟩
    | some found =>
      have admitted : subject.Admits param := hadmits.1 rfl
      obtain ⟨hmention, hgives⟩ := hfound found rfl
      cases result with
      | none => exact ⟨none, by simp only [bindQuery, hf, hr], by simpa [admitted] using hsome, by simp⟩
      | some values =>
        obtain ⟨hk, hmem⟩ := hm values rfl
        cases found with
        | none =>
          refine ⟨some values, by simp only [bindQuery, hf, hr], by simpa [admitted] using hsome, ?_⟩
          rintro m ⟨⟩
          have silent : subject.mentions param = false := hmention.symm
          refine ⟨by simp [hk, silent], fun name v => ?_⟩
          have nothing : ¬ subject.QueryGives param v := fun h => by simpa using (hgives v).2 h
          simp [hmem, nothing]
        | some w =>
          refine ⟨some ((param.name, w) :: values), by simp only [bindQuery, hf, hr],
            by simpa [admitted] using hsome, ?_⟩
          rintro m ⟨⟩
          have mentioned : subject.mentions param = true := hmention.symm
          refine ⟨by simp [hk, mentioned], fun name v => ?_⟩
          simp only [List.mem_cons, Prod.mk.injEq, hmem, exists_eq_or_imp, ← hgives, Option.some.injEq]
          constructor
          · rintro (⟨rfl, rfl⟩ | h)
            · exact .inl ⟨rfl, rfl⟩
            · exact .inr h
          · rintro (⟨rfl, rfl⟩ | h)
            · exact .inl ⟨rfl, rfl⟩
            · exact .inr h

/-- The values of a query are entered under names of its parameters, in order. -/
theorem keys_sublist_of_bindQuery {subject : Subject} {params : List (Param κ)} {found : Params}
    (h : subject.bindQuery params = .ok (some found)) : (Assoc.keys found).Sublist (params.map Param.name) := by
  induction params generalizing found with
  | nil =>
    cases h
    exact .slnil
  | cons param rest ih =>
    unfold bindQuery at h
    split at h
    · cases h
    · cases h
    · rename_i v hv
      split at h
      · rename_i values later
        cases h
        cases v with
        | none => exact (ih later).cons _
        | some v => exact (ih later).cons_cons _
      · rename_i other
        exact absurd h (other _)

/-- A query that has bound its parameters has a result for each of them, under its own name. -/
theorem entries_of_bindQuery {subject : Subject} {params : List (Param κ)} {found : Params}
    (h : subject.bindQuery params = .ok (some found)) (distinct : (params.map Param.name).Nodup) :
    ∀ param ∈ params, ∃ v, subject.queryValue param = .ok (some v) ∧ Assoc.get? param.name found = v := by
  induction params generalizing found with
  | nil => simp
  | cons param rest ih =>
    unfold bindQuery at h
    split at h
    · cases h
    · cases h
    · rename_i v hv
      split at h
      · rename_i values later
        cases h
        obtain ⟨new, distinct⟩ := List.nodup_cons.1 distinct
        intro other ho
        rcases List.mem_cons.1 ho with rfl | ho
        · refine ⟨v, hv, ?_⟩
          cases v with
          | some v => simp [Assoc.get?]
          | none =>
            rw [Assoc.get?_eq_none_iff]
            exact fun hm => new ((keys_sublist_of_bindQuery later).subset hm)
        · obtain ⟨w, hw, entered⟩ := ih later distinct other ho
          refine ⟨w, hw, ?_⟩
          cases v with
          | none => exact entered
          | some v =>
            have apart : param.name ≠ other.name := fun same => new (same ▸ List.mem_map_of_mem ho)
            simpa [Assoc.get?, apart] using entered
      · rename_i others
        exact absurd h (others _)

/-! ## The match -/

/-- The path and the query of a match have bound their parameters. -/
theorem bound_of_matchPattern {subject : Subject} {pattern : Pattern κ} {m : Params}
    (h : subject.matchPattern pattern = .ok (some m)) :
    ∃ found more, subject.bindPath pattern = .ok (some found) ∧
      subject.bindQuery pattern.queryParams = .ok (some more) ∧ m = Assoc.ofPairs (found ++ more) := by
  unfold matchPattern at h
  split at h
  · rename_i found hf
    split at h
    · rename_i more hm
      cases h
      exact ⟨found, more, hf, hm, rfl⟩
    · rename_i other
      exact absurd h (other _)
  · rename_i other
    exact absurd h (other _)

/-- A path gives a name a value exactly when the text at the place of a parameter of that name converts to it. -/
theorem pathGives_iff (subject : Subject) {pattern : Pattern κ} {r : Regex} (hr : pattern.regex = some r) (name : Text)
    (v : Value) :
    subject.PathGives pattern name v ↔ ∃ param t,
      (param, t) ∈ pattern.pathParams.zip (subject.captures r) ∧ param.name = name ∧ param.convert t = .ok (some v) := by
  constructor
  · rintro ⟨r', texts, param, t, hr', captured, h⟩
    rw [hr] at hr'
    cases hr'
    exact ⟨param, t, captured.eq ▸ h⟩
  · rintro ⟨param, t, h⟩
    exact ⟨r, _, param, t, hr, subject.captured_captures r, h⟩

/-- A path fits exactly when the captures convert, parameter by parameter, and when there are no parameters the path
itself matches. -/
theorem pathFits_iff (subject : Subject) {pattern : Pattern κ} {r : Regex} (hr : pattern.regex = some r) :
    subject.PathFits pattern ↔
      List.Forall₂ (fun param t => ∃ v, Param.convert param t = .ok (some v)) pattern.pathParams (subject.captures r) ∧
        (pattern.pathParams = [] → subject.pathMatches r = true) := by
  rw [pathMatches_iff]
  constructor
  · rintro ⟨r', texts, hr', captured, h⟩
    rw [hr] at hr'
    cases hr'
    exact captured.eq ▸ h
  · intro h
    exact ⟨r, _, hr, subject.captured_captures r, h⟩

/-- The path of any pattern whose path parameters have conversions that do not fail. -/
theorem bindPath_spec (subject : Subject) {pattern : Pattern κ}
    (total : ∀ param ∈ pattern.pathParams, ∀ t, ∃ v, param.convert t = .ok v) :
    ∃ result, subject.bindPath pattern = .ok result ∧ (result.isSome = true ↔ subject.PathFits pattern) ∧
      ∀ m, result = some m → Assoc.keys m = pattern.pathParams.map Param.name ∧
        ∀ name v, (name, v) ∈ m ↔ subject.PathGives pattern name v := by
  cases hr : pattern.regex with
  | none => exact ⟨none, by simp [bindPath, hr], by simp [PathFits, hr], by simp⟩
  | some r =>
    have gives := subject.pathGives_iff hr
    have fits := subject.pathFits_iff hr
    by_cases hlen : (subject.captures r).length = pattern.pathParams.length
    · cases hp : pattern.pathParams with
      | nil =>
        rw [hp] at hlen fits
        have nothing : subject.captures r = [] := List.length_eq_zero_iff.1 hlen
        refine ⟨if subject.pathMatches r then some [] else none, by simp [bindPath, hr, hp, nothing], ?_, ?_⟩
        · rw [fits, nothing]
          by_cases hm : subject.pathMatches r = true <;> simp [hm]
        · intro m hm
          have empty : m = [] := by
            by_cases hm' : subject.pathMatches r = true <;> simp_all
          subst empty
          refine ⟨rfl, fun name v => ?_⟩
          simp [gives, hp]
      | cons param rest =>
        rw [← hp]
        have filled : pattern.pathParams.isEmpty = false := by simp [hp]
        obtain ⟨result, hb, hsome, hm⟩ := bind_spec total hlen.symm
        refine ⟨result, by simp [bindPath, hr, hlen, filled, hb], ?_, ?_⟩
        · rw [hsome, fits]
          simp [hp]
        · intro m h
          obtain ⟨hk, hmem⟩ := hm m h
          exact ⟨hk, fun name v => by rw [hmem, gives]⟩
    · have unfit : ¬ subject.PathFits pattern := fun h => hlen (fits.1 h).1.length_eq.symm
      exact ⟨none, by simp [bindPath, hr, hlen], by simp [unfit], by simp⟩

/-- A path and a query that bind their parameters give a match with the entries of both: the names of a pattern are
distinct, so that no entry replaces another one. -/
theorem matchPattern_eq_append {subject : Subject} {pattern : Pattern κ} (distinct : pattern.names.Nodup)
    {found more : Params} (hf : subject.bindPath pattern = .ok (some found))
    (hm : subject.bindQuery pattern.queryParams = .ok (some more))
    (hkf : Assoc.keys found = pattern.pathParams.map Param.name)
    (hkm : (Assoc.keys more).Sublist (pattern.queryParams.map Param.name)) :
    subject.matchPattern pattern = .ok (some (found ++ more)) ∧ (Assoc.keys (found ++ more)).Nodup := by
  have names : (Assoc.keys (found ++ more)).Nodup := by
    rw [Assoc.keys_append, hkf]
    refine distinct.sublist ?_
    rw [Pattern.names, Pattern.params, List.map_append, List.map_append]
    exact (List.sublist_append_left _ _).append hkm
  exact ⟨by simp only [matchPattern, hf, hm, Assoc.ofPairs_of_nodup names], names⟩

/-- A path that has bound its parameters has captured a text for each of them, and without parameters the regular
expression matches it. -/
theorem captures_of_bindPath {subject : Subject} {pattern : Pattern κ} {found : Params}
    (h : subject.bindPath pattern = .ok (some found)) :
    ∃ r, pattern.regex = some r ∧ pattern.pathParams.length = (subject.captures r).length ∧
      bind pattern.pathParams (subject.captures r) = .ok (some found) ∧
      (pattern.pathParams = [] → subject.pathMatches r = true) := by
  unfold bindPath at h
  split at h
  · cases h
  rename_i r hr
  simp only at h
  split at h
  · cases h
  rename_i aligned
  rw [ne_eq, not_not] at aligned
  refine ⟨r, hr, aligned.symm, ?_⟩
  split at h
  · rename_i none
    rw [List.isEmpty_iff] at none
    rw [none]
    split at h
    · rename_i here
      exact ⟨h, fun _ => here⟩
    · cases h
  · rename_i filled
    exact ⟨h, fun none => absurd (List.isEmpty_iff.2 none) filled⟩

/-- **The entries of a match**, whatever the conversions do: under the name of each path parameter its text converted,
under that of each query parameter what the query has for it, and nothing under other names. -/
theorem entries_of_matchPattern [CharacterNames] {vocabulary : Vocabulary κ} {expression : Text} {pattern : Pattern κ}
    (compiled : vocabulary.compile expression = .ok pattern) {subject : Subject} {m : Params}
    (matched : subject.matchPattern pattern = .ok (some m)) :
    (∃ r texts, pattern.regex = some r ∧ subject.Captured r texts ∧ pattern.pathParams.length = texts.length ∧
      ∀ entry ∈ pattern.pathParams.zip texts, ∃ v, entry.1.convert entry.2 = .ok (some v) ∧
        Assoc.get? entry.1.name m = some v) ∧
      (∀ param ∈ pattern.queryParams, ∃ v, subject.queryValue param = .ok (some v) ∧
        Assoc.get? param.name m = v) ∧
      ∀ name, name ∉ (pattern.pathParams ++ pattern.queryParams).map Param.name → Assoc.get? name m = none := by
  have stages := Vocabulary.compile_eq_ok_iff.1 compiled
  obtain ⟨found, more, hf, hm, rfl⟩ := bound_of_matchPattern matched
  obtain ⟨r, hr, aligned, bound, -⟩ := captures_of_bindPath hf
  obtain ⟨keys, entries⟩ := entries_of_bind bound aligned
  have later := keys_sublist_of_bindQuery hm
  obtain ⟨-, distinct⟩ := matchPattern_eq_append stages.distinct hf hm keys later
  have own := stages.distinct
  rw [Pattern.names, Pattern.params, List.map_append, List.map_append] at own
  obtain ⟨-, ownQuery, apart⟩ := List.nodup_append.1 own
  rw [Assoc.ofPairs_of_nodup distinct]
  refine ⟨⟨r, _, hr, subject.captured_captures r, aligned, fun entry he => ?_⟩, fun param hp => ?_,
    fun name outside => ?_⟩
  · obtain ⟨v, converted, entered⟩ := entries entry he
    exact ⟨v, converted, (Assoc.get?_eq_some_iff distinct).2 (List.mem_append_left _ entered)⟩
  · obtain ⟨v, hv, entered⟩ := entries_of_bindQuery hm ownQuery param hp
    -- The path has no entry under the name of a query parameter.
    have foreign : Assoc.get? param.name found = none := by
      rw [Assoc.get?_eq_none_iff, keys]
      intro hk
      exact apart _ (List.mem_append_left _ hk) _ (List.mem_map_of_mem hp) rfl
    exact ⟨v, hv, by rw [Assoc.get?_append, foreign, Option.none_or, entered]⟩
  · rw [List.map_append, List.mem_append, not_or] at outside
    rw [Assoc.get?_eq_none_iff, Assoc.keys_append, List.mem_append, not_or, keys]
    exact ⟨outside.1, fun hk => outside.2 (later.subset hk)⟩

/-- The conversions of the path parameters of a compiled pattern are those of the vocabulary. -/
theorem pathParams_total [CharacterNames] {vocabulary : Vocabulary κ} (total : vocabulary.types.Total)
    {expression : Text} {pattern : Pattern κ} (compiled : vocabulary.compile expression = .ok pattern) :
    ∀ param ∈ pattern.pathParams, ∀ t, ∃ v, param.convert t = .ok v := by
  intro param hp t
  have stages := Vocabulary.compile_eq_ok_iff.1 compiled
  obtain ⟨name, type, rfl, offers⟩ := Vocabulary.required_of_pathParams stages.pathParams param hp
  exact offers.total total t

/-- Matching a compiled pattern has an answer. -/
theorem exists_matchPattern [CharacterNames] {vocabulary : Vocabulary κ} (total : vocabulary.types.Total)
    {expression : Text} {pattern : Pattern κ} (compiled : vocabulary.compile expression = .ok pattern)
    (subject : Subject) :
    ∃ result, subject.matchPattern pattern = .ok result := by
  have stages := Vocabulary.compile_eq_ok_iff.1 compiled
  obtain ⟨found, hf, -⟩ := subject.bindPath_spec (pathParams_total total compiled)
  obtain ⟨more, hq, -⟩ := bindQuery_spec total subject (Vocabulary.offers_queryParams stages.queryParams)
  cases found with
  | none => exact ⟨none, by simp only [matchPattern, hf]⟩
  | some found => cases more <;> exact ⟨_, by simp only [matchPattern, hf, hq]; rfl⟩

/-- The global parameters of texts: those that the query mentions have the texts that it gives them. -/
theorem globalValues_texts (subject : Subject) (names : List Text) :
    subject.globalValues (names.map fun name => (.optional name .string : Param κ)) =
      .ok (some (names.filterMap fun name => (Assoc.get? name subject.query).map fun t => (name, .text t))) := by
  induction names with
  | nil => rfl
  | cons name rest ih =>
    rw [List.map_cons, globalValues, List.filterMap_cons, ih]
    cases hg : Assoc.get? name subject.query <;> simp [Param.name, hg, Param.convert, Param.type, ValueType.convert]

/-- **Matching a compiled pattern.** When no conversion of the vocabulary fails, there is an answer for every URL.
It is a match exactly when the path and the query fit. A match has one entry for each path parameter and for each
query parameter that the query mentions, under names that are distinct, and each entry is the parameter's own
value. -/
theorem matchPattern_eq_ok [CharacterNames] {vocabulary : Vocabulary κ} (total : vocabulary.types.Total)
    {expression : Text} {pattern : Pattern κ} (compiled : vocabulary.compile expression = .ok pattern) (url : Url) :
    ∃ result, (ofUrl url).matchPattern pattern = .ok result ∧
      (result.isSome = true ↔ (ofUrl url).PathFits pattern ∧ (ofUrl url).QueryFits pattern) ∧
      ∀ m, result = some m → (Assoc.keys m).Nodup ∧
        Assoc.keys m =
          pattern.pathParams.map Param.name ++ (pattern.queryParams.filter (ofUrl url).mentions).map Param.name ∧
        ∀ name v, Assoc.get? name m = some v ↔ (ofUrl url).PathGives pattern name v ∨
          ∃ param ∈ pattern.queryParams, param.name = name ∧ (ofUrl url).QueryGives param v := by
  have stages := Vocabulary.compile_eq_ok_iff.1 compiled
  obtain ⟨found, hf, hpath, hfound⟩ := (ofUrl url).bindPath_spec (pathParams_total total compiled)
  obtain ⟨more, hq, hquery, hmore⟩ :=
    bindQuery_spec total (ofUrl url) (Vocabulary.offers_queryParams stages.queryParams)
  cases found with
  | none =>
    refine ⟨none, by simp only [matchPattern, hf], ?_, by simp⟩
    rw [← hpath]
    simp
  | some found =>
    cases more with
    | none =>
      refine ⟨none, by simp only [matchPattern, hf, hq], ?_, by simp⟩
      unfold QueryFits
      rw [← hquery]
      simp
    | some more =>
      obtain ⟨hkf, hmf⟩ := hfound found rfl
      obtain ⟨hkm, hmm⟩ := hmore more rfl
      obtain ⟨merged, names⟩ :=
        matchPattern_eq_append stages.distinct hf hq hkf (by rw [hkm]; exact List.filter_sublist.map _)
      refine ⟨some (found ++ more), merged, ?_, ?_⟩
      · unfold QueryFits
        rw [← hpath, ← hquery]
        simp
      · rintro m ⟨⟩
        refine ⟨names, by rw [Assoc.keys_append, hkf, hkm], fun name v => ?_⟩
        rw [Assoc.get?_eq_some_iff names, List.mem_append, hmf, hmm]

attribute [local instance] CharacterNames.empty in
/-- A value of zero is kept like any other, be it that of a path parameter or that of a query parameter of a type
of the application's own, here the length of a text. -/
theorem matchPattern_eq_ok_zero :
    letI : Conversions Unit := ⟨fun _ t => .ok (.int t.length)⟩
    let vocabulary : Vocabulary Unit := { types := { custom := [.guarded (.text "size".toList) ()] } }
    let subject := ofUrl { path := "/feed/0/".toList, query := "n=&tag=x".toList }
    vocabulary.types.Total ∧ ∃ pattern,
      vocabulary.compile "/feed/:id{int}?:n{size?}&:tag\x7b'x'\x7d&:page{int?}".toList = .ok pattern ∧
        subject.matchPattern pattern =
          .ok (some [("id".toList, .int 0), ("n".toList, .int 0), ("tag".toList, .text "x".toList)]) ∧
        subject.PathFits pattern ∧ subject.QueryFits pattern := by
  intro vocabulary subject
  let _ : Conversions Unit := ⟨fun _ t => .ok (.int t.length)⟩
  have total : vocabulary.types.Total := by
    apply TypeTable.total_of_custom
    rintro type ⟨⟩ t
    · exact ⟨_, rfl⟩
    · contradiction
  obtain ⟨pattern, compiled⟩ : ∃ pattern,
    vocabulary.compile "/feed/:id{int}?:n{size?}&:tag\x7b'x'\x7d&:page{int?}".toList = .ok pattern := ⟨_, rfl⟩
  have matched : (vocabulary.compile "/feed/:id{int}?:n{size?}&:tag\x7b'x'\x7d&:page{int?}".toList).map
      subject.matchPattern = .ok (.ok (some [("id".toList, .int 0), ("n".toList, .int 0),
        ("tag".toList, .text "x".toList)])) := by rfl
  rw [compiled] at matched
  injection matched with matched
  obtain ⟨result, found, fits, -⟩ := matchPattern_eq_ok total compiled
    { path := "/feed/0/".toList, query := "n=&tag=x".toList }
  have is_match : Except.ok result = Except.ok _ := found.symm.trans matched
  injection is_match with is_match
  obtain ⟨path, query⟩ := fits.1 (is_match ▸ rfl)
  exact ⟨total, pattern, compiled, matched, path, query⟩

end Subject

end TypedRoutes
