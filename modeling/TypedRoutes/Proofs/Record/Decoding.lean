import TypedRoutes.Proofs.Assoc
import TypedRoutes.Proofs.Record.Fitting

/-!
# What parameters make a record

A field accepts the parameters, rejects them, or comes upon literals (`Field.accepts_or`), and its value follows
(`Field.value?_of_accepts` and the two beside it). The first field that does not accept decides the record
(`decodeFields_eq_error_iff`).

For fields of plain types this is a matter of the values that the types hold: the parameters make the filled record, or
the first field that they do not suit is named (`decode_of_plain`). For fields of any types, the only other outcome is
that a value comes upon literals first (`decode_stumbles_iff`).
-/

namespace TypedRoutes

set_option autoImplicit false

/-- Whether the reason is that the parameters do not suit the fields. -/
def RecordError.isMisfit : RecordError → Bool
  | mismatch _ _ _ _ | missing _ _ => true
  | uncheckable | notRecord _ => false

/-- A union with nothing as a member. Of nothing alone there is no such union: it is simplified to `nothing`. -/
def FieldType.IsOptional (type : FieldType) : Prop := ∃ style members, type = .union style members ∧ .nothing ∈ members

theorem FieldType.same_nothing_iff {type : FieldType} : same nothing type = true ↔ type = nothing := by
  cases type <;> simp [same]

/-- A type allows none exactly when it is optional. -/
theorem FieldType.allowsNone_iff {type : FieldType} : type.allowsNone = true ↔ type.IsOptional := by
  cases type with
  | union style members => simp [allowsNone, IsOptional, same_nothing_iff]
  | _ => simp [allowsNone, IsOptional]

/-! ## One field -/

namespace Field

/-- The parameters suit a field: it takes none, its value fits, or it may go without one. -/
inductive Accepts (params : Params) (field : Field) : Prop where
  | apart (apart : field.given = false)
  | fits {v : Value} (present : Assoc.get? field.name params = some v) (fits : field.type.resolved.check v = .fits)
  | lacks (absent : Assoc.get? field.name params = none) (lack : field.MayLack)

/-- The parameters do not suit a field: its value is a misfit, or it has none and may not go without one. -/
inductive Rejects (params : Params) (field : Field) : Prop where
  | misfit {v : Value} (given : field.given = true) (present : Assoc.get? field.name params = some v)
      (misfit : field.type.resolved.check v = .misfit)
  | missing (given : field.given = true) (absent : Assoc.get? field.name params = none) (lack : ¬ field.MayLack)

/-- The value of a field comes upon literals. -/
inductive Stumbles (params : Params) (field : Field) : Prop where
  | value {v : Value} (given : field.given = true) (present : Assoc.get? field.name params = some v)
      (stumbles : field.type.resolved.Stumbles v)

/-- What a field that the parameters do not suit has to say. -/
def complaint (owner : Text) (params : Params) (field : Field) : RecordError :=
  match Assoc.get? field.name params with
  | some v => .mismatch field.name owner field.type.resolved.name v.typeName
  | none => .missing field.name owner

variable {params : Params} {field : Field}

/-- The parameters suit a field, or do not, or cannot be checked against it. -/
theorem accepts_or (params : Params) (field : Field) :
    field.Accepts params ∨ field.Rejects params ∨ field.Stumbles params := by
  cases given : field.given with
  | false => exact .inl (.apart given)
  | true =>
    cases present : Assoc.get? field.name params with
    | none =>
      by_cases lack : field.MayLack
      · exact .inl (.lacks present lack)
      · exact .inr (.inl (.missing given present lack))
    | some v =>
      cases verdict : field.type.resolved.check v with
      | fits => exact .inl (.fits present verdict)
      | misfit => exact .inr (.inl (.misfit given present verdict))
      | uncheckable => exact .inr (.inr (.value given present (FieldType.check_eq_uncheckable_iff.1 verdict)))

/-- A field that the parameters suit has the value that they fill in. -/
theorem value?_of_accepts (accepts : field.Accepts params) (owner : Text) :
    field.value? owner params = .ok (field.filled params) := by
  unfold value? filled
  cases given : field.given with
  | false => rfl
  | true =>
    cases accepts with
    | apart apart => cases given.symm.trans apart
    | fits found fits =>
      simp only [found, present, fits]
      rfl
    | lacks found lack =>
      simp only [found, lack.absent_eq]
      rfl

theorem value?_of_rejects (rejects : field.Rejects params) (owner : Text) :
    field.value? owner params = .error (field.complaint owner params) := by
  unfold value? complaint
  cases rejects with
  | misfit given found misfit =>
    simp only [given, found, present, misfit]
    rfl
  | missing given found lack =>
    simp only [MayLack, not_or, Bool.not_eq_true, Option.isSome_eq_false_iff, Option.isNone_iff_eq_none] at lack
    simp only [given, found, absent, lack]
    rfl

theorem value?_of_stumbles (stumbles : field.Stumbles params) (owner : Text) :
    field.value? owner params = .error .uncheckable := by
  obtain ⟨given, found, stumbles⟩ := stumbles
  simp only [value?, given, found, present, stumbles.check]
  rfl

/-- A complaint says that the parameters do not suit, and its words start with the names of the field and its type. -/
theorem complaint_spec (owner : Text) (params : Params) (field : Field) :
    (field.complaint owner params).isMisfit = true ∧ ∃ rest : Text, (field.complaint owner params).message =
      "Field ".toList ++ Text.quoted field.name ++ " of ".toList ++ owner ++ rest := by
  unfold complaint
  cases Assoc.get? field.name params with
  | some v =>
    have words : (RecordError.mismatch field.name owner field.type.resolved.name v.typeName).message =
        "Field ".toList ++ Text.quoted field.name ++ " of ".toList ++ owner ++
          (" expected ".toList ++ (field.type.resolved.name ++ (", got ".toList ++ v.typeName))) := by
      unfold RecordError.message
      simp only [List.append_assoc]
    exact ⟨rfl, _, words⟩
  | none => exact ⟨rfl, _, rfl⟩

/-- A field has a value exactly when the parameters suit it. -/
theorem exists_value?_iff {owner : Text} : (∃ w, field.value? owner params = .ok w) ↔ field.Accepts params := by
  constructor
  · rintro ⟨w, made⟩
    rcases field.accepts_or params with accepts | rejects | stumbles
    · exact accepts
    · cases (value?_of_rejects rejects owner).symm.trans made
    · cases (value?_of_stumbles stumbles owner).symm.trans made
  · exact fun accepts => ⟨_, value?_of_accepts accepts owner⟩

theorem value?_eq_uncheckable_iff {owner : Text} :
    field.value? owner params = .error .uncheckable ↔ field.Stumbles params := by
  refine ⟨fun made => ?_, fun stumbles => value?_of_stumbles stumbles owner⟩
  rcases field.accepts_or params with accepts | rejects | stumbles
  · cases (value?_of_accepts accepts owner).symm.trans made
  · have same := Except.error.inj ((value?_of_rejects rejects owner).symm.trans made)
    have kind := (complaint_spec owner params field).1
    rw [same] at kind
    cases kind
  · exact stumbles

theorem value?_eq_error {owner : Text} {e : RecordError} (h : field.value? owner params = .error e) :
    e.isMisfit = true ∨ e = .uncheckable := by
  rcases field.accepts_or params with accepts | rejects | stumbles
  · cases (value?_of_accepts accepts owner).symm.trans h
  · cases (value?_of_rejects rejects owner).symm.trans h
    exact .inl (complaint_spec owner params field).1
  · cases (value?_of_stumbles stumbles owner).symm.trans h
    exact .inr rfl

/-! ### Fields of plain types -/

/-- The parameters do not suit a field: its type does not hold the value, or there is none for it, no default, and its
type is no union with nothing. -/
inductive Unfit (params : Params) (field : Field) : Prop where
  | misfit {v : Value} (given : field.given = true) (present : Assoc.get? field.name params = some v)
      (foreign : ¬ field.type.resolved.Holds v)
  | missing (given : field.given = true) (absent : Assoc.get? field.name params = none) (bare : field.default = none)
      (strict : ¬ field.type.IsOptional)

theorem not_mayLack_iff : ¬ field.MayLack ↔ field.default = none ∧ ¬ field.type.IsOptional := by
  rw [MayLack, not_or, FieldType.allowsNone_iff]
  simp

/-- For a plain type, the parameters do not suit a field exactly when the value is unfit or missing. -/
theorem rejects_iff_unfit (plain : field.given = true → field.type.resolved.Plain) :
    field.Rejects params ↔ field.Unfit params := by
  constructor
  · intro rejects
    cases rejects with
    | misfit given present misfit => exact .misfit given present ((plain given).check_eq_misfit_iff.1 misfit)
    | missing given absent lack =>
      obtain ⟨bare, strict⟩ := not_mayLack_iff.1 lack
      exact .missing given absent bare strict
  · intro unfit
    cases unfit with
    | misfit given present foreign => exact .misfit given present ((plain given).check_eq_misfit_iff.2 foreign)
    | missing given absent bare strict => exact .missing given absent (not_mayLack_iff.2 ⟨bare, strict⟩)

theorem not_stumbles_of_plain (plain : field.given = true → field.type.resolved.Plain) : ¬ field.Stumbles params := by
  rintro ⟨given, -, stumbles⟩
  exact (plain given).check_ne_uncheckable _ stumbles.check

/-- For a plain type, the parameters suit a field exactly when it is not unfit. -/
theorem accepts_iff_not_unfit (plain : field.given = true → field.type.resolved.Plain) :
    field.Accepts params ↔ ¬ field.Unfit params := by
  rw [← rejects_iff_unfit plain]
  constructor
  · intro accepts rejects
    cases (value?_of_accepts accepts []).symm.trans (value?_of_rejects rejects [])
  · intro passes
    rcases field.accepts_or params with accepts | rejects | stumbles
    · exact accepts
    · exact absurd rejects passes
    · exact absurd stumbles (not_stumbles_of_plain plain)

/-- A field of a plain type fails exactly when it is unfit, and then with its complaint. -/
theorem value?_eq_error_iff_unfit (plain : field.given = true → field.type.resolved.Plain) {owner : Text}
    {e : RecordError} :
    field.value? owner params = .error e ↔ field.Unfit params ∧ e = field.complaint owner params := by
  constructor
  · intro made
    rcases field.accepts_or params with accepts | rejects | stumbles
    · cases (value?_of_accepts accepts owner).symm.trans made
    · cases (value?_of_rejects rejects owner).symm.trans made
      exact ⟨(rejects_iff_unfit plain).1 rejects, rfl⟩
    · exact absurd stumbles (not_stumbles_of_plain plain)
  · rintro ⟨unfit, rfl⟩
    exact value?_of_rejects ((rejects_iff_unfit plain).2 unfit) owner

end Field

/-! ## Fields in a row -/

namespace RecordType

variable {owner : Text} {params : Params} {fields : List Field}

/-- Fields fail as the first one does or, when that one has a value, as the others do. -/
theorem decodeFields_cons_eq_error_iff {field : Field} {e : RecordError} :
    decodeFields owner params (field :: fields) = .error e ↔ field.value? owner params = .error e ∨
      field.Accepts params ∧ decodeFields owner params fields = .error e := by
  have accepts : (∃ w, field.value? owner params = .ok w) ↔ field.Accepts params := Field.exists_value?_iff
  rw [decodeFields, bind_eq_error_iff, ← accepts]
  simp only [bind_eq_error_iff, pure, Except.pure, reduceCtorEq, and_false, exists_false, or_false,
    exists_and_right]

/-- The first field that does not accept the parameters decides. -/
theorem decodeFields_eq_error_iff {e : RecordError} :
    decodeFields owner params fields = .error e ↔ ∃ before field after, fields = before ++ field :: after ∧
      (∀ earlier ∈ before, earlier.Accepts params) ∧ field.value? owner params = .error e := by
  induction fields with
  | nil => simp [decodeFields]
  | cons first rest ih =>
    rw [decodeFields_cons_eq_error_iff, ih]
    constructor
    · rintro (stopped | ⟨accepts, before, field, after, rfl, passed, stopped⟩)
      · exact ⟨[], first, rest, rfl, by simp, stopped⟩
      · exact ⟨first :: before, field, after, rfl, List.forall_mem_cons.2 ⟨accepts, passed⟩, stopped⟩
    · rintro ⟨before, field, after, row, passed, stopped⟩
      cases before with
      | nil =>
        cases row
        exact .inl stopped
      | cons earlier before =>
        cases row
        obtain ⟨accepts, passed⟩ := List.forall_mem_cons.1 passed
        exact .inr ⟨accepts, before, field, after, rfl, passed, stopped⟩

/-- Fields that all accept the parameters have their values. -/
theorem decodeFields_of_accepts (owner : Text) (accepts : ∀ field ∈ fields, field.Accepts params) :
    decodeFields owner params fields =
      .ok (fields.filterMap fun field => (field.filled params).map fun v => (field.name, v)) := by
  have values (field : Field) (member : field ∈ fields) : field.value? owner params = .ok (field.filled params) ∨
      field.value? owner params = .error .uncheckable := .inl (Field.value?_of_accepts (accepts field member) owner)
  rcases decodeFields_of_values values with made | ⟨-, field, member, fails⟩
  · exact made
  · cases (Field.value?_of_accepts (accepts field member) owner).symm.trans fails

/-- Fields have values only when they all accept the parameters. -/
theorem accepts_of_decodeFields {entries : List (Text × Value)} (made : decodeFields owner params fields = .ok entries) :
    ∀ field ∈ fields, field.Accepts params := by
  induction fields generalizing entries with
  | nil => simp
  | cons first rest ih =>
    rw [decodeFields, bind_eq_ok_iff] at made
    obtain ⟨w, own, made⟩ := made
    obtain ⟨others, later, -⟩ := bind_eq_ok_iff.1 made
    exact List.forall_mem_cons.2 ⟨Field.exists_value?_iff.1 ⟨w, own⟩, ih later⟩

/-- Decoding looks at the parameters that have the name of a field only. -/
theorem decodeFields_congr {other : Params}
    (same : ∀ field ∈ fields, field.given = true → Assoc.get? field.name other = Assoc.get? field.name params) :
    decodeFields owner other fields = decodeFields owner params fields := by
  induction fields with
  | nil => rfl
  | cons first rest ih =>
    obtain ⟨own, later⟩ := List.forall_mem_cons.1 same
    have value : first.value? owner other = first.value? owner params := by
      unfold Field.value?
      split
      · rename_i given
        rw [own given]
      · rfl
    rw [decodeFields, decodeFields, value, ih later]

/-! ## Records -/

variable {type : RecordType}

theorem decode_eq_error_iff {e : RecordError} :
    type.decode params = .error e ↔ decodeFields type.name params type.fields = .error e := by
  rw [decode, bind_eq_error_iff]
  simp [pure, Except.pure]

/-- A record is decoded exactly when the parameters suit each field, and into what they fill in. -/
theorem decode_eq_ok_iff {v : Value} :
    type.decode params = .ok v ↔ (∀ field ∈ type.fields, field.Accepts params) ∧ v = type.filled params := by
  rw [decode, bind_eq_ok_iff]
  constructor
  · rintro ⟨entries, made, same⟩
    cases same
    have accepts := accepts_of_decodeFields made
    rw [decodeFields_of_accepts _ accepts] at made
    exact ⟨accepts, by rw [filled, Except.ok.inj made]⟩
  · rintro ⟨accepts, rfl⟩
    exact ⟨_, decodeFields_of_accepts _ accepts, rfl⟩

/-- **Records of plain fields.** The parameters make no record exactly when there is a field that they do not suit, and
then the first of these in the order of the fields is the one that the reason names. Otherwise they make the record in
which each field has the value that is given for it, or else its default, or else none. Only the values under the names
of fields that take one count, in whatever order. -/
theorem decode_of_plain (plain : ∀ field ∈ type.fields, field.given = true → field.type.resolved.Plain)
    (params : Params) :
    ((∃ e, type.decode params = .error e ∧ e.isMisfit = true) ↔ ∃ field ∈ type.fields, field.Unfit params) ∧
      (∀ e, type.decode params = .error e ↔ ∃ before field after, type.fields = before ++ field :: after ∧
        (∀ earlier ∈ before, ¬ earlier.Unfit params) ∧ field.Unfit params ∧ e = field.complaint type.name params) ∧
      (∀ field ∈ type.fields, ∃ rest : Text, (field.complaint type.name params).message =
        "Field ".toList ++ Text.quoted field.name ++ " of ".toList ++ type.name ++ rest) ∧
      (∀ v, type.decode params = .ok v ↔ (∀ field ∈ type.fields, ¬ field.Unfit params) ∧ v = type.filled params) ∧
      (∀ other, (∀ field ∈ type.fields, field.given = true →
        Assoc.get? field.name other = Assoc.get? field.name params) → type.decode other = type.decode params) ∧
      ((Assoc.keys params).Nodup → ∀ other, params.Perm other → type.decode other = type.decode params) := by
  have congr : ∀ other, (∀ field ∈ type.fields, field.given = true →
      Assoc.get? field.name other = Assoc.get? field.name params) → type.decode other = type.decode params := by
    intro other same
    rw [decode, decodeFields_congr same]
    rfl
  have fails : ∀ e, type.decode params = .error e ↔ ∃ before field after, type.fields = before ++ field :: after ∧
      (∀ earlier ∈ before, ¬ earlier.Unfit params) ∧ field.Unfit params ∧ e = field.complaint type.name params := by
    intro e
    rw [decode_eq_error_iff, decodeFields_eq_error_iff]
    refine exists_congr fun before => exists_congr fun field => exists_congr fun after => and_congr_right fun row => ?_
    have within (other : Field) (member : other ∈ before ++ field :: after) := plain other (row ▸ member)
    refine and_congr (forall₂_congr fun earlier he => ?_) ?_
    · exact Field.accepts_iff_not_unfit (within earlier (List.mem_append_left _ he))
    · exact Field.value?_eq_error_iff_unfit (within field (by simp))
  have succeeds : ∀ v, type.decode params = .ok v ↔
      (∀ field ∈ type.fields, ¬ field.Unfit params) ∧ v = type.filled params := by
    intro v
    rw [decode_eq_ok_iff]
    exact and_congr_left fun _ => forall₂_congr fun field member => Field.accepts_iff_not_unfit (plain field member)
  refine ⟨⟨?_, ?_⟩, fails, fun field _ => (field.complaint_spec type.name params).2, succeeds, congr, ?_⟩
  · rintro ⟨e, made, -⟩
    obtain ⟨before, field, after, row, -, unfit, -⟩ := (fails e).1 made
    exact ⟨field, by simp [row], unfit⟩
  · rintro ⟨field, member, unfit⟩
    cases made : type.decode params with
    | ok v => exact absurd unfit (((succeeds v).1 made).1 field member)
    | error e =>
      obtain ⟨_, first, _, _, _, _, rfl⟩ := (fails e).1 made
      exact ⟨_, rfl, (first.complaint_spec type.name params).1⟩
  · intro distinct other perm
    exact congr other fun field _ _ => (Assoc.get?_eq_of_perm distinct perm field.name).symm

/-- Numbers of both kinds in a list that may have gaps, a union with a default, a field that may be absent and one that
takes no parameter: with other parameters in between, with a truth value among the numbers, and with a number missing. -/
theorem decode_of_plain_order :
    let type : RecordType := {
      name := "Order".toList
      fields := [
        { name := "sizes".toList, type := .classicList (.optional .float) },
        { name := "key".toList, type := .anyOf [.int, .text], default := some (.text "a".toList) },
        { name := "note".toList, type := .optional .text },
        { name := "id".toList, type := .int },
        { name := "hits".toList, type := .int, default := some (.int 0), given := false }] }
    (∀ field ∈ type.fields, field.given = true → field.type.resolved.Plain) ∧
      type.decode [("hits".toList, .none), ("id".toList, .int 7), ("x".toList, .int 1),
          ("sizes".toList, .list [.none, .int 2])] =
        .ok (.record "Order".toList [("sizes".toList, .list [.none, .int 2]), ("key".toList, .text "a".toList),
          ("note".toList, .none), ("id".toList, .int 7), ("hits".toList, .int 0)]) ∧
      type.decode [("key".toList, .none), ("sizes".toList, .list [.int 2, .bool true])] =
        .error (.mismatch "sizes".toList "Order".toList "List".toList "list".toList) ∧
      type.decode [("sizes".toList, .list [])] = .error (.missing "id".toList "Order".toList) := by
  intro type
  have key : (FieldType.anyOf [.int, .text]).Plain := .ofMembers _ (List.forall_mem_cons.2 ⟨.int, by simpa using .text⟩)
  have plain : ∀ field ∈ type.fields, field.given = true → field.type.resolved.Plain := by
    simp only [type, List.forall_mem_cons]
    exact ⟨fun _ => .listOf _ (.optional .float), fun _ => key, fun _ => .optional .text, fun _ => .int, by simp, by simp⟩
  have accepts : ∀ field ∈ type.fields, field.Accepts [("hits".toList, .none), ("id".toList, .int 7),
      ("x".toList, .int 1), ("sizes".toList, .list [.none, .int 2])] := by
    simp only [type, List.forall_mem_cons]
    exact ⟨.fits rfl rfl, .lacks rfl (.inl rfl), .lacks rfl (.inr rfl), .fits rfl rfl, .apart rfl, by simp⟩
  obtain ⟨-, -, -, made, -⟩ := decode_of_plain plain [("hits".toList, .none), ("id".toList, .int 7),
    ("x".toList, .int 1), ("sizes".toList, .list [.none, .int 2])]
  obtain ⟨-, mixed, -⟩ := decode_of_plain plain [("key".toList, .none), ("sizes".toList, .list [.int 2, .bool true])]
  obtain ⟨-, lacking, -⟩ := decode_of_plain plain [("sizes".toList, .list [])]
  refine ⟨plain, (made _).2 ⟨fun field member => ?_, rfl⟩, (mixed _).2 ⟨[], _, _, rfl, by simp, ?_, rfl⟩,
    (lacking _).2 ⟨[_, _, _], _, _, rfl, ?_, .missing rfl rfl rfl ?_, rfl⟩⟩
  · exact (Field.accepts_iff_not_unfit (plain field member)).1 (accepts field member)
  · refine .misfit rfl rfl ?_
    exact (plain _ (List.mem_cons_self ..) rfl).check_eq_misfit_iff.1 rfl
  · intro field member
    have passes : field.Accepts [("sizes".toList, .list [])] := by
      simp only [List.mem_cons, List.not_mem_nil, or_false] at member
      rcases member with rfl | rfl | rfl
      · exact .fits rfl rfl
      · exact .lacks rfl (.inl rfl)
      · exact .lacks rfl (.inr rfl)
    refine (Field.accepts_iff_not_unfit (plain field ?_)).1 passes
    exact List.mem_append_left _ member
  · rintro ⟨style, members, same, -⟩
    cases same

/-! ## Records of fields of any types -/

/-- A value comes upon literals, and the parameters suit the fields before. -/
def Stumbles (type : RecordType) (params : Params) : Prop :=
  ∃ before field after, type.fields = before ++ field :: after ∧
    (∀ earlier ∈ before, earlier.Accepts params) ∧ field.Stumbles params

/-- Decoding ends with a failure of the check exactly when the record stumbles over the parameters. -/
theorem decode_eq_uncheckable_iff : type.decode params = .error .uncheckable ↔ type.Stumbles params := by
  rw [decode_eq_error_iff, decodeFields_eq_error_iff]
  simp only [Field.value?_eq_uncheckable_iff]
  rfl

/-- A record whose types have no literals never stumbles. -/
theorem not_stumbles_of_literalFree (h : ∀ field ∈ type.fields, field.given = true → field.type.literalFree = true) :
    ¬ type.Stumbles params := by
  rintro ⟨before, field, after, row, -, given, -, stumbles⟩
  have free : field.type.resolved.literalFree = true := by
    have own := h field (by simp [row]) given
    cases known : field.type <;> simp_all [FieldType.resolved, FieldType.literalFree]
  exact FieldType.check_ne_uncheckable _ _ free stumbles.check

/-- **Records of any fields.** Parameters make a record, or there is a complaint about a field, unless a value comes upon
literals before. Then, and only then, the check itself fails. Without literals that does not happen. -/
theorem decode_stumbles_iff (type : RecordType) (params : Params) :
    ((∃ v, type.decode params = .ok v) ∨ (∃ e, type.decode params = .error e ∧ e.isMisfit = true) ↔
        ¬ type.Stumbles params) ∧
      (type.decode params = .error .uncheckable ↔ type.Stumbles params) ∧
      (∀ (hint : FieldType) (v : Value), hint.check v = .uncheckable ↔ hint.Stumbles v) ∧
      ((∀ field ∈ type.fields, field.given = true → field.type.literalFree = true) → ¬ type.Stumbles params) := by
  refine ⟨?_, decode_eq_uncheckable_iff, fun _ _ => FieldType.check_eq_uncheckable_iff, not_stumbles_of_literalFree⟩
  rw [← decode_eq_uncheckable_iff]
  cases made : type.decode params with
  | ok v => simp
  | error e =>
    obtain ⟨_, field, _, _, _, failed⟩ := decodeFields_eq_error_iff.1 (decode_eq_error_iff.1 made)
    rcases Field.value?_eq_error failed with misfit | rfl
    · have other : e ≠ .uncheckable := by
        rintro rfl
        cases misfit
      simp [misfit, other]
    · simp [RecordError.isMisfit]

/-- The type of literals by itself, for the literal and for another text, as an option in place of none, and for the items
of a list. -/
theorem uncheckable_examples :
    let record (hint : FieldType) : RecordType :=
      { name := "Page".toList, fields := [{ name := "x".toList, type := hint }] }
    let letter := FieldType.literals [.text "b".toList]
    (record letter).decode [("x".toList, .text "b".toList)] = .error .uncheckable ∧
      (record letter).decode [("x".toList, .text "c".toList)] = .error .uncheckable ∧
      (record letter.optional).decode [("x".toList, .none)] = .error .uncheckable ∧
      (record (.classicList letter)).decode [("x".toList, .list [.text "b".toList])] = .error .uncheckable :=
  ⟨rfl, rfl, rfl, rfl⟩

end RecordType

end TypedRoutes
