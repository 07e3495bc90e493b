import TypedRoutes.Proofs.Matching
import TypedRoutes.Proofs.ValueType
import TypedRoutes.RouteTable

/-!
# Records from matches

A match of a pattern over the built-in types has values that fit the types of record fields which are written for the
types of its parameters (`check_of_matchPattern`). A record type whose fields suit the pattern therefore makes a record
of every match, with each value in its own field (`decode_of_matchPattern`). The exception is a union that names
literals before the type that is wanted: no value can be held against literals, and the check does not go on behind
them.
-/

namespace TypedRoutes

set_option autoImplicit false

variable {κ : Type}

/-! ## Verdicts in a row -/

namespace Verdict

theorem every_eq_fits {verdicts : List Verdict} (h : ∀ verdict ∈ verdicts, verdict = fits) : every verdicts = fits := by
  induction verdicts with
  | nil => rfl
  | cons verdict rest ih =>
    obtain ⟨rfl, later⟩ := List.forall_mem_cons.1 h
    exact ih later

/-- When each verdict is one, so is that on all of them. -/
theorem every_ne_uncheckable {verdicts : List Verdict} (h : ∀ verdict ∈ verdicts, verdict ≠ uncheckable) :
    every verdicts ≠ uncheckable := by
  induction verdicts with
  | nil => simp [every]
  | cons verdict rest ih =>
    obtain ⟨first, later⟩ := List.forall_mem_cons.1 h
    cases verdict with
    | fits => exact ih later
    | misfit => simp [every]
    | uncheckable => exact absurd rfl first

theorem some_ne_uncheckable {verdicts : List Verdict} (h : ∀ verdict ∈ verdicts, verdict ≠ uncheckable) :
    some verdicts ≠ uncheckable := by
  induction verdicts with
  | nil => simp [some]
  | cons verdict rest ih =>
    obtain ⟨first, later⟩ := List.forall_mem_cons.1 h
    cases verdict with
    | fits => simp [some]
    | misfit => exact ih later
    | uncheckable => exact absurd rfl first

/-- A member of a union that is no misfit counts, unless one before it does. -/
theorem some_append_ne_misfit {verdict : Verdict} (h : verdict ≠ misfit) (before after : List Verdict) :
    some (before ++ verdict :: after) ≠ misfit := by
  induction before with
  | nil => cases verdict <;> simp_all [some]
  | cons first rest ih => cases first <;> simp_all [some]

/-- A value fits some of the members when it fits one and those before it can be checked. -/
theorem some_append_eq_fits {before : List Verdict} (h : ∀ verdict ∈ before, verdict ≠ uncheckable)
    (after : List Verdict) : some (before ++ fits :: after) = fits := by
  induction before with
  | nil => rfl
  | cons first rest ih =>
    obtain ⟨own, later⟩ := List.forall_mem_cons.1 h
    cases first with
    | fits => rfl
    | misfit => exact ih later
    | uncheckable => exact absurd rfl own

end Verdict

/-! ## Types of fields -/

namespace FieldType

mutual

/-- Whether a type names no literals that a check could come upon. -/
def literalFree : FieldType → Bool
  | literal _ => false
  | listOf _ item => literalFree item
  | union _ members => literalFreeAll members
  | _ => true

/-- Whether none of the types names literals. -/
def literalFreeAll : List FieldType → Bool
  | [] => true
  | type :: types => literalFree type && literalFreeAll types

end

theorem checkEach_eq_map (members : List FieldType) (v : Value) : checkEach members v = members.map (check · v) := by
  induction members with
  | nil => rfl
  | cons member rest ih => rw [checkEach, ih, List.map_cons]

mutual

/-- Only literals are in the way of a check. -/
theorem check_ne_uncheckable : ∀ (type : FieldType) (v : Value), type.literalFree = true → type.check v ≠ .uncheckable
  | listOf _ item, v, free => by
    rw [check]
    cases v.items? with
    | none => simp
    | some items =>
      apply Verdict.every_ne_uncheckable
      intro verdict hv
      obtain ⟨w, -, rfl⟩ := List.mem_map.1 hv
      exact check_ne_uncheckable item w free
  | union _ members, v, free => Verdict.some_ne_uncheckable (checkEach_ne_uncheckable members v free)
  | literal _, _, free => by cases free
  | int, v, _ | float, v, _ | bool, v, _ | text, v, _ | nothing, v, _ | anyList _, v, _ | anyMap, v, _
  | mapOf _ _, v, _ => by
    simp only [check, Verdict.ofBool]
    split <;> simp
  | null, _, _ | any, _, _ | object, _, _ | generic, _, _ => by simp [check]

theorem checkEach_ne_uncheckable : ∀ (types : List FieldType) (v : Value), literalFreeAll types = true →
    ∀ verdict ∈ checkEach types v, verdict ≠ .uncheckable
  | [], _, _ => by simp [checkEach]
  | type :: types, v, free => by
    rw [literalFreeAll, Bool.and_eq_true] at free
    rw [checkEach, List.forall_mem_cons]
    exact ⟨check_ne_uncheckable type v free.1, checkEach_ne_uncheckable types v free.2⟩

end

/-- The types that a field may have where some types are wanted: one of these, any type at all, or a union with a member
that may stand there. The members before that one are of a given kind. -/
inductive Allows (earlier wanted : FieldType → Prop) : FieldType → Prop where
  | own {type : FieldType} (own : wanted type) : Allows earlier wanted type
  | any : Allows earlier wanted any
  | union {style : Style} {before after : List FieldType} {member : FieldType}
      (passed : ∀ other ∈ before, earlier other) (allows : Allows earlier wanted member) :
      Allows earlier wanted (union style (before ++ member :: after))

/-- What allows a type goes on to allow it when more types are known. -/
theorem Allows.mono {earlier more wanted : FieldType → Prop} {type : FieldType} (allows : Allows earlier wanted type)
    (h : ∀ type, earlier type → more type) : Allows more wanted type := by
  induction allows with
  | own own => exact .own own
  | any => exact .any
  | union passed _ ih => exact .union (fun other ho => h other (passed other ho)) ih

/-- A value that fits what is wanted is no misfit for a type that allows for it, and it fits when the members before can
be checked. -/
theorem Allows.check {earlier wanted : FieldType → Prop} {type : FieldType} (allows : Allows earlier wanted type)
    {v : Value} (fits : ∀ other, wanted other → other.check v = .fits) :
    type.check v ≠ .misfit ∧
      ((∀ other, earlier other → other.check v ≠ .uncheckable) → type.check v = .fits) := by
  induction allows with
  | own own => simp [fits _ own]
  | any => simp [FieldType.check]
  | @union style before after member passed allows ih =>
    rw [FieldType.check, checkEach_eq_map, List.map_append, List.map_cons]
    refine ⟨Verdict.some_append_ne_misfit ih.1 _ _, fun calm => ?_⟩
    rw [ih.2 calm]
    apply Verdict.some_append_eq_fits
    intro verdict hv
    obtain ⟨other, ho, rfl⟩ := List.mem_map.1 hv
    exact calm other (passed other ho)

end FieldType

/-! ## Types of values -/

/-- The types of fields that are written for a built-in type and for arrays of it. -/
inductive ValueType.WrittenAs : ValueType κ → FieldType → Prop where
  | int : WrittenAs .int .int
  | string : WrittenAs .string .text
  | bool : WrittenAs .bool .bool
  | array {of : ValueType κ} {item : FieldType} (style : Style) (written : WrittenAs of item) :
      WrittenAs (.array of) (.listOf style item)

/-- The types of fields that are written for a parameter. The value of a literal one is a text. -/
def Param.WrittenAs : Param κ → FieldType → Prop
  | .required _ type, hint | .optional _ type, hint => type.WrittenAs hint
  | .literal _ _, hint => hint = .text
  | .foreign _ _, _ => False

/-- What a text converts to fits the types that are written for the type. -/
theorem ValueType.WrittenAs.check [Conversions κ] {type : ValueType κ} {hint : FieldType} (written : type.WrittenAs hint)
    {t : Text} {v : Value} (h : type.convert t = .ok (some v)) : hint.check v = .fits := by
  induction written generalizing t v with
  | int =>
    obtain ⟨n, -, rfl⟩ := Option.map_eq_some_iff.1 (Except.ok.inj h)
    rfl
  | string =>
    cases h
    rfl
  | bool =>
    obtain ⟨b, -, rfl⟩ := Option.map_eq_some_iff.1 (Except.ok.inj h)
    rfl
  | @array of item style written ih =>
    obtain ⟨vs, rfl, converted⟩ := convert_array_eq_some h
    have items : ∀ w ∈ vs, item.check w = .fits := by
      clear h
      generalize Text.splitOn ',' t = pieces at converted
      induction converted with
      | nil => simp
      | cons own _ later => exact List.forall_mem_cons.2 ⟨ih own, later⟩
    apply Verdict.every_eq_fits
    intro verdict hv
    obtain ⟨w, hw, rfl⟩ := List.mem_map.1 hv
    exact items w hw

/-! ## Values of a match -/

section

variable [Conversions κ] {vocabulary : Vocabulary κ} {expression : Text} {pattern : Pattern κ} {subject : Subject}
  {m : Params}

/-- A value that the query gives a parameter fits the types that are written for it. -/
theorem Param.WrittenAs.check_of_queryGives {param : Param κ} {hint : FieldType} (written : param.WrittenAs hint)
    {v : Value} (gives : subject.QueryGives param v) : hint.check v = .fits := by
  cases param with
  | required name type | optional name type =>
    obtain ⟨t, -, converted⟩ := gives
    exact ValueType.WrittenAs.check written converted
  | literal name value =>
    obtain ⟨-, rfl⟩ := gives
    cases written
    rfl
  | foreign name owner => cases gives

/-- A value of a match that has the name of a parameter fits the types that are written for the parameter, and only an
optional parameter has none. -/
theorem check_of_matchPattern [CharacterNames] {names : List Value} {types : TypeTable κ}
    (made : Vocabulary.ofNames types names = .ok vocabulary) (compiled : vocabulary.compile expression = .ok pattern)
    (matched : subject.matchPattern pattern = .ok (some m)) {param : Param κ} (hp : param ∈ pattern.params) :
    (∀ v, Assoc.get? param.name m = some v → ∀ hint, param.WrittenAs hint → hint.check v = .fits) ∧
      (Assoc.get? param.name m = none → ∃ name type, param = .optional name type) := by
  have stages := Vocabulary.compile_eq_ok_iff.1 compiled
  obtain ⟨⟨r, texts, -, -, aligned, path⟩, query, outside⟩ := Subject.entries_of_matchPattern compiled matched
  simp only [Pattern.params, List.mem_append] at hp
  rcases hp with (hp | hp) | hp
  · obtain ⟨name, type, rfl, -⟩ := Vocabulary.required_of_pathParams stages.pathParams _ hp
    have first : (pattern.pathParams.zip texts).map Prod.fst = pattern.pathParams := List.map_fst_zip (Nat.le_of_eq aligned)
    rw [← first] at hp
    obtain ⟨⟨_, t⟩, entry, rfl⟩ := List.mem_map.1 hp
    obtain ⟨v, converted, entered⟩ := path _ entry
    refine ⟨fun w hw hint written => ?_, fun absent => ?_⟩
    · cases entered.symm.trans hw
      exact ValueType.WrittenAs.check written converted
    · cases entered.symm.trans absent
  · -- A match says nothing about global parameters.
    obtain ⟨globals, -, apart⟩ := Vocabulary.names_of_compile compiled
    obtain ⟨names, -, texts, -⟩ := Vocabulary.ofNames_spec made
    rw [globals] at hp
    have absent : Assoc.get? param.name m = none := by
      apply outside
      intro hm
      obtain ⟨other, ho, same⟩ := List.mem_map.1 hm
      exact apart other ho param hp same
    refine ⟨fun v hv => ?_, fun _ => ?_⟩
    · cases absent.symm.trans hv
    · rw [texts] at hp
      obtain ⟨name, -, rfl⟩ := List.mem_map.1 hp
      exact ⟨_, _, rfl⟩
  · obtain ⟨found, own, entered⟩ := query param hp
    obtain ⟨gives, lacks⟩ := Subject.queryValue_eq_some own
    rw [entered]
    exact ⟨fun v hv hint written => written.check_of_queryGives (gives v hv), fun absent => (lacks absent).1⟩

end

/-! ## Fields and records -/

section

variable {expression : Text} {pattern : Pattern κ} {m : Params}

/-- Whether a field may go without a parameter: it has a default, or its type allows for none. -/
def Field.MayLack (field : Field) : Prop := field.default.isSome = true ∨ field.type.allowsNone = true

/-- A field that suits a pattern has the name of a parameter and a type that allows for what is written for the
parameter, or it has a name of its own. When there may be no parameter for it, it may go without. -/
inductive Field.Suits (earlier : FieldType → Prop) (pattern : Pattern κ) (field : Field) : Prop where
  | param {param : Param κ} (member : param ∈ pattern.params) (named : param.name = field.name)
      (allows : field.type.Allows earlier param.WrittenAs)
      (lack : (∃ name type, param = .optional name type) → field.MayLack)
  | apart (apart : field.name ∉ pattern.names) (lack : field.MayLack)

/-- The value that a field has in the record of a match. -/
def Field.filled (params : Params) (field : Field) : Option Value :=
  if field.given then some ((Assoc.get? field.name params).getD (field.default.getD .none)) else field.default

/-- The record in which each field has its value. -/
def RecordType.filled (type : RecordType) (params : Params) : Value :=
  .record type.name (type.fields.filterMap fun field => (field.filled params).map fun v => (field.name, v))

/-- A field that may go without a value gets its default, or none. -/
theorem Field.MayLack.absent_eq {field : Field} (lack : field.MayLack) (owner : Text) :
    field.absent owner = .ok (field.default.getD .none) := by
  unfold absent
  cases present : field.default with
  | some v => rfl
  | none =>
    have allowed : field.type.allowsNone = true := lack.resolve_left (by simp [present])
    simp [allowed]

theorem Field.Suits.mono {earlier more : FieldType → Prop} {field : Field} (suits : field.Suits earlier pattern)
    (h : ∀ type, earlier type → more type) : field.Suits more pattern := by
  cases suits with
  | param member named allows lack => exact .param member named (allows.mono h) lack
  | apart apart lack => exact .apart apart lack

theorem Param.WrittenAs.ne_null {param : Param κ} {hint : FieldType} (written : param.WrittenAs hint) :
    hint ≠ .null := by
  rintro rfl
  cases param with
  | required name type => cases written
  | optional name type => cases written
  | literal name value => cases written
  | foreign name owner => exact written

/-- A type that is allowed is not `null`, so that by itself it is the same. -/
theorem FieldType.Allows.resolved_eq {earlier wanted : FieldType → Prop} {type : FieldType}
    (allows : type.Allows earlier wanted) (present : ∀ other, wanted other → other ≠ .null) : type.resolved = type := by
  cases type with
  | null =>
    cases allows with
    | own own => exact absurd rfl (present _ own)
  | _ => rfl

variable [Conversions κ] {vocabulary : Vocabulary κ} {names : List Value} {types : TypeTable κ} {subject : Subject}

/-- A field that suits the pattern has its value, or it cannot be checked. -/
theorem Field.value?_of_suits [CharacterNames] (made : Vocabulary.ofNames types names = .ok vocabulary)
    (compiled : vocabulary.compile expression = .ok pattern) (matched : subject.matchPattern pattern = .ok (some m))
    {earlier : FieldType → Prop} {field : Field} (suits : field.given = true → field.Suits earlier pattern)
    (owner : Text) :
    (field.value? owner m = .ok (field.filled m) ∨ field.value? owner m = .error .uncheckable) ∧
      ((∀ other, earlier other → ∀ v, other.check v ≠ .uncheckable) → field.value? owner m = .ok (field.filled m)) := by
  unfold value? filled
  cases given : field.given with
  | false => simp
  | true =>
    simp only [if_true]
    cases found : Assoc.get? field.name m with
    | none =>
      have lack : field.MayLack := by
        cases suits given with
        | param member named _ lack =>
          exact lack ((check_of_matchPattern made compiled matched member).2 (named ▸ found))
        | apart _ lack => exact lack
      simp [lack.absent_eq, Except.map]
    | some v =>
      cases suits given with
      | param member named allows _ =>
        have fits := (check_of_matchPattern made compiled matched member).1 v (named ▸ found)
        obtain ⟨passes, calm⟩ := allows.check fits
        simp only [present, allows.resolved_eq fun _ written => written.ne_null]
        refine ⟨?_, fun free => ?_⟩
        · cases verdict : field.type.check v with
          | fits => exact .inl rfl
          | misfit => exact absurd verdict passes
          | uncheckable => exact .inr rfl
        · rw [calm fun other ho => free other ho v]
          rfl
      | apart apart _ =>
        -- A match has no value under a name that the pattern does not have.
        obtain ⟨-, -, outside⟩ := Subject.entries_of_matchPattern compiled matched
        refine absurd (outside field.name fun hn => apart ?_) (by simp [found])
        simp only [Pattern.names, Pattern.params, List.map_append, List.mem_append] at hn ⊢
        exact hn.elim (fun hn => .inl (.inl hn)) .inr

namespace RecordType

/-- When each field has its value or fails in one and the same way, the fields have their values, unless one of them
fails. -/
theorem decodeFields_of_values {owner : Text} {filled : Field → Option Value} {e : RecordError} {fields : List Field}
    (h : ∀ field ∈ fields, field.value? owner m = .ok (filled field) ∨ field.value? owner m = .error e) :
    decodeFields owner m fields =
        .ok (fields.filterMap fun field => (filled field).map fun v => (field.name, v)) ∨
      decodeFields owner m fields = .error e ∧ ∃ field ∈ fields, field.value? owner m = .error e := by
  induction fields with
  | nil => exact .inl rfl
  | cons field rest ih =>
    obtain ⟨first, later⟩ := List.forall_mem_cons.1 h
    rcases first with first | first
    · rcases ih later with later | ⟨later, failing, member, fails⟩
      · left
        rw [decodeFields, first, later, List.filterMap_cons]
        cases filled field <;> rfl
      · right
        rw [decodeFields, first, later]
        exact ⟨rfl, failing, List.mem_cons_of_mem _ member, fails⟩
    · right
      refine ⟨?_, field, List.mem_cons_self .., first⟩
      rw [decodeFields, first]
      rfl

/-- **Records of matches.** When every field suits the pattern, each match makes the record with all fields filled:
those that it has values for have these, and the others have their defaults or none. The only other outcome is that a
value comes upon literals in a union before the type that is wanted; when there are none before it, the decoder of the
record type accepts each match. -/
theorem decode_of_matchPattern [CharacterNames] (made : Vocabulary.ofNames types names = .ok vocabulary)
    (compiled : vocabulary.compile expression = .ok pattern) {type : RecordType}
    (suits : ∀ field ∈ type.fields, field.given = true → field.Suits (fun _ => True) pattern) {url : Url}
    (matched : (Subject.ofUrl url).matchPattern pattern = .ok (some m)) :
    (type.decode m = .ok (type.filled m) ∨ type.decode m = .error .uncheckable) ∧
      ((∀ field ∈ type.fields, field.given = true → field.Suits (·.literalFree = true) pattern) →
        type.decode m = .ok (type.filled m) ∧ type.decoder m = .value (type.filled m)) := by
  have values (field : Field) (member : field ∈ type.fields) :=
    (Field.value?_of_suits made compiled matched (suits field member) type.name).1
  rcases decodeFields_of_values values with decoded | ⟨decoded, failing, member, fails⟩
  · have made : type.decode m = .ok (type.filled m) := by
      rw [decode, decoded]
      rfl
    exact ⟨.inl made, fun _ => ⟨made, by rw [decoder, made]⟩⟩
  · have stuck : type.decode m = .error .uncheckable := by
      rw [decode, decoded]
      rfl
    refine ⟨.inr stuck, fun free => ?_⟩
    have value := (Field.value?_of_suits made compiled matched (free failing member) type.name).2
      fun other ho v => FieldType.check_ne_uncheckable other v ho
    cases fails.symm.trans value

attribute [local instance] CharacterNames.empty in
/-- An array that is optional and absent, a word that is given in a union after a number, a global parameter, and fields
of other names. -/
theorem decode_of_matchPattern_feed :
    let type : RecordType := {
      name := "Feed".toList
      fields := [
        { name := "id".toList, type := .int },
        { name := "tags".toList, type := .union .classic [.listOf .classic .text, .nothing] },
        { name := "sizes".toList, type := .listOf .modern .int, default := some (.list []) },
        { name := "kind".toList, type := .union .modern [.int, .text] },
        { name := "lang".toList, type := .any, default := some (.text "en".toList) },
        { name := "note".toList, type := .optional .text },
        { name := "hits".toList, type := .int, given := false }] }
    letI : Conversions Unit := ⟨fun _ _ => .ok .none⟩
    ∃ (vocabulary : Vocabulary Unit) (pattern : Pattern Unit) (m : Params),
      Vocabulary.ofNames .default [.text "lang".toList] = .ok vocabulary ∧
        vocabulary.compile "/feed/:id{int}?:tags{[string]?}&:sizes{[int]?}&:kind\x7b'x'\x7d".toList = .ok pattern ∧
        (Subject.ofUrl { path := "/feed/7".toList, query := "kind=x&sizes=1,2".toList }).matchPattern pattern =
          .ok (some m) ∧
        type.decoder m = .value (.record "Feed".toList [("id".toList, .int 7), ("tags".toList, .none),
          ("sizes".toList, .list [.int 1, .int 2]), ("kind".toList, .text "x".toList),
          ("lang".toList, .text "en".toList), ("note".toList, .none)]) := by
  intro type
  let _ : Conversions Unit := ⟨fun _ _ => .ok .none⟩
  let expression := "/feed/:id{int}?:tags{[string]?}&:sizes{[int]?}&:kind\x7b'x'\x7d".toList
  let subject := Subject.ofUrl { path := "/feed/7".toList, query := "kind=x&sizes=1,2".toList }
  let vocabulary : Vocabulary Unit := { globals := [.optional "lang".toList .string] }
  let m : Params := [("id".toList, .int 7), ("sizes".toList, .list [.int 1, .int 2]), ("kind".toList, .text "x".toList)]
  have made : Vocabulary.ofNames .default [.text "lang".toList] = .ok vocabulary := rfl
  obtain ⟨pattern, compiled⟩ : ∃ pattern, vocabulary.compile expression = .ok pattern := ⟨_, rfl⟩
  have matched : subject.matchPattern pattern = .ok (some m) := eq_of_map_eq_ok compiled rfl
  have params : pattern.params = [.required "id".toList .int, .optional "lang".toList .string,
    .optional "tags".toList (.array .string), .optional "sizes".toList (.array .int),
    .literal "kind".toList "x".toList] := eq_of_map_eq_ok compiled rfl
  have names : pattern.names = ["id".toList, "lang".toList, "tags".toList, "sizes".toList, "kind".toList] := by
    rw [Pattern.names, params]
    rfl
  have own (param : Param Unit) (member : param ∈ [.required "id".toList .int, .optional "lang".toList .string,
    .optional "tags".toList (.array .string), .optional "sizes".toList (.array .int),
    .literal "kind".toList "x".toList]) : param ∈ pattern.params := params ▸ member
  have suits : ∀ field ∈ type.fields, field.given = true → field.Suits (·.literalFree = true) pattern := by
    simp only [type, List.forall_mem_cons]
    refine ⟨fun _ => ?id, fun _ => ?tags, fun _ => ?sizes, fun _ => ?kind, fun _ => ?lang, fun _ => ?note, by simp,
      by simp⟩
    case id => exact .param (own (.required _ .int) (by simp)) rfl (.own .int) (by simp)
    case tags =>
      have allows : (FieldType.union .classic ([] ++ .listOf .classic .text :: [.nothing])).Allows
        (·.literalFree = true) (Param.WrittenAs (.optional "tags".toList (.array .string) : Param Unit)) :=
        .union (by simp) (.own (.array _ .string))
      exact .param (own (.optional _ _) (by simp)) rfl allows fun _ => .inr rfl
    case sizes => exact .param (own (.optional _ (.array .int)) (by simp)) rfl (.own (.array _ .int)) fun _ => .inl rfl
    case kind =>
      have allows : (FieldType.union .modern ([.int] ++ .text :: [])).Allows (·.literalFree = true)
          (Param.WrittenAs (.literal "kind".toList "x".toList : Param Unit)) :=
        .union (by simp [FieldType.literalFree]) (.own rfl)
      exact .param (own (.literal _ _) (by simp)) rfl allows (by simp)
    case lang => exact .param (own (.optional _ .string) (by simp)) rfl .any fun _ => .inl rfl
    case note => exact .apart (by rw [names]; decide) (.inr rfl)
  have anyway (field : Field) (member : field ∈ type.fields) (given : field.given = true) :=
    (suits field member given).mono fun _ _ => trivial
  have decoded := ((decode_of_matchPattern made compiled anyway matched).2 suits).2
  exact ⟨vocabulary, pattern, m, made, compiled, matched, decoded⟩

attribute [local instance] CharacterNames.empty in
/-- A union with literals before the type that is wanted: the only field suits the pattern, and the decoder rejects a
match of it. -/
theorem rejected_of_earlier_literals :
    let type : RecordType := {
      name := "Page".toList
      fields := [{ name := "x".toList, type := .union .classic [.literals [.text "b".toList], .text] }] }
    letI : Conversions Unit := ⟨fun _ _ => .ok .none⟩
    ∃ (vocabulary : Vocabulary Unit) (pattern : Pattern Unit) (m : Params),
      Vocabulary.ofNames .default [] = .ok vocabulary ∧ vocabulary.compile "/a/:x".toList = .ok pattern ∧
        (∀ field ∈ type.fields, field.given = true → field.Suits (fun _ => True) pattern) ∧
        (Subject.ofUrl { path := "/a/c".toList }).matchPattern pattern = .ok (some m) ∧
        type.decode m = .error .uncheckable ∧ type.decoder m = .rejected := by
  intro type
  let _ : Conversions Unit := ⟨fun _ _ => .ok .none⟩
  let vocabulary : Vocabulary Unit := {}
  obtain ⟨pattern, compiled⟩ : ∃ pattern, vocabulary.compile "/a/:x".toList = .ok pattern := ⟨_, rfl⟩
  have matched : (Subject.ofUrl { path := "/a/c".toList }).matchPattern pattern =
    .ok (some [("x".toList, .text "c".toList)]) := eq_of_map_eq_ok compiled rfl
  have params : pattern.params = [.required "x".toList .string] := eq_of_map_eq_ok compiled rfl
  have suits : ∀ field ∈ type.fields, field.given = true → field.Suits (fun _ => True) pattern := by
    simp only [type, List.forall_mem_singleton]
    intro _
    have allows : (FieldType.union .classic ([.literals [.text "b".toList]] ++ .text :: [])).Allows (fun _ => True)
        (Param.WrittenAs (.required "x".toList .string : Param Unit)) :=
      .union (fun _ _ => trivial) (.own .string)
    have own : (.required "x".toList .string : Param Unit) ∈ pattern.params := params ▸ .head _
    exact .param own rfl allows nofun
  exact ⟨vocabulary, pattern, _, rfl, compiled, suits, matched, rfl, rfl⟩

end RecordType

end

end TypedRoutes
