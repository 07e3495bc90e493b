import TypedRoutes.Proofs.Record.Fitting
import Mathlib.Logic.Relation

/-!
# Hints of record fields

A hint is a type of a field as it is written. `Hint.fieldType` is the type that it stands for: unions are flattened and
repeated members go, none by itself is the type of nothing, and an optional hint is a union. `Hint.Holds` says which values
a hint holds, and it reads the hint as it is written. The two agree (`holds_fieldType_iff`), so what is done to unions on
the way does not matter to a check.

A truth value is held by the truth values, by objects and by anything at all. Where a hint has no place for it, no value
holds one at any depth (`Flagless.not_flagged`). A hint that is made wider somewhere inside lists and unions holds what it
held before (`Widens.holds`), and the order of the members of a union does not count (`Reorders.holds`).
-/

namespace TypedRoutes

set_option autoImplicit false

/-! ## Types that are put together -/

namespace FieldType

theorem Plain.resolved_eq {type : FieldType} (plain : type.Plain) : type.resolved = type := by
  cases plain <;> rfl

/-- Each type that is among others is the same as one of them. -/
theorem exists_same_of_allAmong {types others : List FieldType} (among : allAmong types others = true) :
    ∀ type ∈ types, ∃ other ∈ others, same type other = true := by
  induction types with
  | nil => simp
  | cons first rest ih =>
    rw [allAmong, Bool.and_eq_true, List.any_eq_true] at among
    exact List.forall_mem_cons.2 ⟨among.1, ih among.2⟩

/-- Types that are the same hold the same values. -/
theorem Holds.of_same {type : FieldType} {v : Value} (holds : type.Holds v) :
    ∀ {other : FieldType}, same type other = true → other.Holds v := by
  -- the induction is on what is held: of a union only the member that holds the value counts
  induction holds with
  | listOf style _ ih =>
    intro other alike
    cases other with
    | listOf style' item =>
      rw [same, Bool.and_eq_true] at alike
      exact .listOf style' fun w hw => ih w hw alike.2
    | _ => simp [same] at alike
  | union style member _ ih =>
    intro other alike
    cases other with
    | union style' others =>
      rw [same, Bool.and_eq_true] at alike
      obtain ⟨kept, among, alike⟩ := exists_same_of_allAmong alike.2 _ member
      exact .union style' among (ih alike)
    | _ => simp [same] at alike
  | _ =>
    intro other alike
    cases other <;> simp [same] at alike
    all_goals constructor

/-- A repeated type goes only because one that is the same is kept. -/
theorem exists_mem_distinct {types : List FieldType} {v : Value} {type : FieldType} (member : type ∈ types)
    (holds : type.Holds v) : ∃ kept ∈ distinct types, kept.Holds v := by
  -- along the fold, what is seen stays seen
  have carried : ∀ seen : List FieldType, (∃ kept ∈ seen, kept.Holds v) ∨ type ∈ types →
      ∃ kept ∈ types.foldl (fun seen type => if seen.any type.same then seen else seen ++ [type]) seen,
        kept.Holds v := by
    clear member
    induction types with
    | nil => simp
    | cons first rest ih =>
      intro seen h
      refine ih _ ?_
      rw [List.mem_cons, ← or_assoc] at h
      refine h.imp_left ?_
      dsimp only
      rintro (⟨kept, hk, held⟩ | rfl)
      · split
        · exact ⟨kept, hk, held⟩
        · exact ⟨kept, List.mem_append_left _ hk, held⟩
      · split
        · rename_i found
          obtain ⟨kept, hk, alike⟩ := List.any_eq_true.1 found
          exact ⟨kept, hk, holds.of_same alike⟩
        · exact ⟨type, by simp, holds⟩
  exact carried [] (.inr member)

/-- One of the members of a type holds a value exactly when the type does, with `null` read as `nothing`. -/
theorem holds_members_iff {type : FieldType} {v : Value} :
    (∃ member ∈ type.members, member.Holds v) ↔ type.resolved.Holds v := by
  cases type with
  | union style members => exact holds_union_iff.symm
  | _ => simp [FieldType.members]

/-- A union holds what one of the types holds, however it is simplified. -/
theorem holds_ofMembers_iff {style : Style} {types : List FieldType} {v : Value} :
    (ofMembers style types).Holds v ↔ ∃ type ∈ types, type.resolved.Holds v := by
  have kept : (∃ member ∈ distinct (types.flatMap members), member.Holds v) ↔
      ∃ type ∈ types, type.resolved.Holds v := by
    simp only [← holds_members_iff]
    constructor
    · rintro ⟨member, among, holds⟩
      obtain ⟨type, ht, hm⟩ := List.mem_flatMap.1 (mem_of_mem_distinct among)
      exact ⟨type, ht, member, hm, holds⟩
    · rintro ⟨type, ht, member, hm, holds⟩
      exact exists_mem_distinct (List.mem_flatMap.2 ⟨type, ht, hm⟩) holds
  rw [← kept, ofMembers]
  split
  · rename_i only
    simp [only]
  · exact holds_union_iff

end FieldType

/-! ## Hints -/

/-- A type of a field as it is written. -/
inductive Hint where
  | int
  | float
  | bool
  | text
  | none
  | any
  | object
  | anyList (style : Style)
  | listOf (item : Hint)
  | optional (hint : Hint)
  | union (members : List Hint)
  deriving Repr

namespace Hint

mutual

/-- The type that a hint stands for. -/
def fieldType : Hint → FieldType
  | int => .int
  | float => .float
  | bool => .bool
  | text => .text
  | none => .null
  | any => .any
  | object => .object
  | anyList style => .anyList style
  | listOf item => .classicList (fieldType item)
  | optional hint => .optional (fieldType hint)
  | union members => .anyOf (fieldTypes members)

/-- The types that hints stand for. -/
def fieldTypes : List Hint → List FieldType
  | [] => []
  | hint :: hints => fieldType hint :: fieldTypes hints

end

theorem fieldTypes_eq_map (hints : List Hint) : fieldTypes hints = hints.map fieldType := by
  induction hints with
  | nil => rfl
  | cons hint rest ih => rw [fieldTypes, ih, List.map_cons]

/-- Whether a value may stand where a hint is given. -/
def check (hint : Hint) (v : Value) : Verdict := hint.fieldType.resolved.check v

/-- The values that a hint holds. -/
inductive Holds : Hint → Value → Prop where
  | int (n : Int) : Holds int (.int n)
  | floatOfInt (n : Int) : Holds float (.int n)
  | float (x : Number.Binary64) : Holds float (.float x)
  | bool (b : Bool) : Holds bool (.bool b)
  | text (t : Text) : Holds text (.text t)
  | none : Holds none .none
  | any (v : Value) : Holds any v
  | object (v : Value) : Holds object v
  | anyList (style : Style) (items : List Value) : Holds (anyList style) (.list items)
  | listOf {item : Hint} {items : List Value} (all : ∀ v ∈ items, Holds item v) : Holds (listOf item) (.list items)
  | absent (hint : Hint) : Holds (optional hint) .none
  | present {hint : Hint} {v : Value} (holds : Holds hint v) : Holds (optional hint) v
  | union {members : List Hint} {member : Hint} {v : Value} (among : member ∈ members) (holds : Holds member v) :
      Holds (union members) v

/-- A union of hints holds what one of them holds. -/
theorem holds_union_iff {members : List Hint} {v : Value} :
    (union members).Holds v ↔ ∃ member ∈ members, member.Holds v := by
  constructor
  · rintro ⟨⟩
    exact ⟨_, ‹_›, ‹_›⟩
  · rintro ⟨member, among, holds⟩
    exact .union among holds

/-- The types that hints stand for are plain. -/
theorem plain_fieldType : ∀ hint : Hint, hint.fieldType.resolved.Plain
  | int => .int
  | float => .float
  | bool => .bool
  | text => .text
  | none => .nothing
  | any => .any
  | object => .object
  | anyList style => .anyList style
  | listOf item => .listOf _ (plain_fieldType item)
  | optional hint => by
    have plain : hint.fieldType.optional.Plain := .optional (plain_fieldType hint)
    rwa [fieldType, plain.resolved_eq]
  | union members => by
    have plain : (FieldType.anyOf (members.map fieldType)).Plain :=
      .ofMembers _ (List.forall_mem_map.2 fun member _ => plain_fieldType member)
    rwa [fieldType, fieldTypes_eq_map, plain.resolved_eq]

theorem resolved_fieldType_optional (hint : Hint) :
    (optional hint).fieldType.resolved = .ofMembers .classic [hint.fieldType, .nothing] := by
  rw [fieldType]
  exact (FieldType.Plain.optional (plain_fieldType hint)).resolved_eq

theorem resolved_fieldType_union (members : List Hint) :
    (union members).fieldType.resolved = .ofMembers .classic (members.map fieldType) := by
  rw [fieldType, fieldTypes_eq_map]
  exact (FieldType.Plain.ofMembers _ (List.forall_mem_map.2 fun member _ => plain_fieldType member)).resolved_eq

/-- A hint holds what its type holds. -/
theorem holds_fieldType_iff : ∀ {hint : Hint} {v : Value}, hint.fieldType.resolved.Holds v ↔ hint.Holds v
  | listOf item, v => by
    rw [fieldType]
    refine FieldType.holds_listOf_iff.trans ⟨?_, ?_⟩
    · rintro ⟨items, rfl, all⟩
      exact .listOf fun w hw => holds_fieldType_iff.1 (all w hw)
    · intro holds
      cases holds with
      | listOf all => exact ⟨_, rfl, fun w hw => holds_fieldType_iff.2 (all w hw)⟩
  | optional hint, v => by
    rw [resolved_fieldType_optional, FieldType.holds_ofMembers_iff]
    simp only [List.mem_cons, List.not_mem_nil, or_false, exists_eq_or_imp, exists_eq_left]
    constructor
    · rintro (own | none)
      · exact .present (holds_fieldType_iff.1 own)
      · cases none
        exact .absent hint
    · intro holds
      cases holds with
      | absent => exact .inr .nothing
      | present own => exact .inl (holds_fieldType_iff.2 own)
  | union members, v => by
    rw [resolved_fieldType_union, FieldType.holds_ofMembers_iff, holds_union_iff]
    simp only [List.mem_map, exists_exists_and_eq_and]
    exact exists_congr fun member => and_congr_right fun among => holds_fieldType_iff
  | int, v | float, v | bool, v | text, v | none, v | any, v | object, v | anyList _, v => by
    constructor <;> rintro ⟨⟩ <;> constructor

/-- A value fits a hint exactly when the hint holds it. -/
theorem check_eq_fits_iff {hint : Hint} {v : Value} : hint.check v = .fits ↔ hint.Holds v :=
  (plain_fieldType hint).check_eq_fits_iff.trans holds_fieldType_iff

theorem check_eq_misfit_iff {hint : Hint} {v : Value} : hint.check v = .misfit ↔ ¬ hint.Holds v :=
  (plain_fieldType hint).check_eq_misfit_iff.trans (not_congr holds_fieldType_iff)

end Hint

/-! ## Truth values -/

/-- A value is a truth value or a list with one at some depth. -/
inductive Value.Flagged : Value → Prop where
  | bool (b : Bool) : Flagged (.bool b)
  | list {items : List Value} {v : Value} (among : v ∈ items) (flagged : Flagged v) : Flagged (.list items)

namespace Hint

/-- The hints that are made up of numbers, texts, none, lists of what is given and unions. -/
inductive Flagless : Hint → Prop where
  | int : Flagless int
  | float : Flagless float
  | text : Flagless text
  | none : Flagless none
  | listOf {item : Hint} (flagless : Flagless item) : Flagless (listOf item)
  | optional {hint : Hint} (flagless : Flagless hint) : Flagless (optional hint)
  | union {members : List Hint} (flagless : ∀ member ∈ members, Flagless member) : Flagless (union members)

/-- A hint without truth values in it holds no value with one in it. -/
theorem Flagless.not_flagged {hint : Hint} (flagless : hint.Flagless) {v : Value} (holds : hint.Holds v) :
    ¬ v.Flagged := by
  induction holds with
  | listOf _ ih =>
    rintro ⟨⟩
    cases flagless with
    | listOf flagless => exact ih _ ‹_› flagless ‹_›
  | present _ ih =>
    cases flagless with
    | optional flagless => exact ih flagless
  | union among _ ih =>
    cases flagless with
    | union flagless => exact ih (flagless _ among)
  | bool | any | object | anyList => cases flagless
  | _ => rintro ⟨⟩

/-! ## Hints that are changed somewhere inside -/

/-- A change at one place of a hint: of the hint itself, or inside the item of a list or a member of a union. -/
inductive Inside (change : Hint → Hint → Prop) : Hint → Hint → Prop where
  | here {hint other : Hint} (own : change hint other) : Inside change hint other
  | item {hint other : Hint} (inside : Inside change hint other) : Inside change (listOf hint) (listOf other)
  | present {hint other : Hint} (inside : Inside change hint other) : Inside change (optional hint) (optional other)
  | member (before after : List Hint) {hint other : Hint} (inside : Inside change hint other) :
      Inside change (union (before ++ hint :: after)) (union (before ++ other :: after))

namespace Inside

variable {change : Hint → Hint → Prop} {hint other : Hint}

/-- A change that loses no values loses none inside a hint. -/
theorem holds (keeps : ∀ {hint other : Hint} {v : Value}, change hint other → hint.Holds v → other.Holds v)
    (inside : Inside change hint other) {v : Value} (holds : hint.Holds v) : other.Holds v := by
  induction inside generalizing v with
  | here own => exact keeps own holds
  | item _ ih =>
    cases holds with
    | listOf all => exact .listOf fun w hw => ih (all w hw)
  | present _ ih =>
    cases holds with
    | absent => exact .absent _
    | present holds => exact .present (ih holds)
  | @member before after hint other _ ih =>
    cases holds with
    | union among holds =>
      simp only [List.mem_append, List.mem_cons] at among
      rcases among with among | rfl | among
      · exact .union (by simp [among]) holds
      · exact .union (by simp) (ih holds)
      · exact .union (by simp [among]) holds

/-- A change inside a hint can be undone when the change itself can. -/
theorem symm (symm : ∀ {hint other : Hint}, change hint other → change other hint) (inside : Inside change hint other) :
    Inside change other hint := by
  induction inside with
  | here own => exact .here (symm own)
  | item _ ih => exact .item ih
  | present _ ih => exact .present ih
  | member before after _ ih => exact .member before after ih

/-- Changes that lose no values lose none one after the other. -/
theorem holds_of_steps (keeps : ∀ {hint other : Hint} {v : Value}, change hint other → hint.Holds v → other.Holds v)
    (steps : Relation.ReflTransGen (Inside change) hint other) {v : Value} (start : hint.Holds v) : other.Holds v := by
  induction steps with
  | refl => exact start
  | tail _ step ih => exact step.holds keeps ih

end Inside

/-- A hint is made wider: it is replaced by anything at all, made optional, or united with others, or members are added to
a union. -/
inductive Widening : Hint → Hint → Prop where
  | any (hint : Hint) : Widening hint any
  | optional (hint : Hint) : Widening hint (optional hint)
  | unite {hint : Hint} {members : List Hint} (among : hint ∈ members) : Widening hint (union members)
  | add {members more : List Hint} (kept : members ⊆ more) : Widening (union members) (union more)

/-- A wider hint holds what the hint holds. -/
theorem Widening.holds {hint wider : Hint} {v : Value} (widening : Widening hint wider) (holds : hint.Holds v) :
    wider.Holds v := by
  cases widening with
  | any => exact .any v
  | optional => exact .present holds
  | unite among => exact .union among holds
  | add kept =>
    cases holds with
    | union among holds => exact .union (kept among) holds

/-- The members of a union are put in another order. -/
inductive Reordering : Hint → Hint → Prop where
  | union {members others : List Hint} (perm : members.Perm others) : Reordering (union members) (union others)

/-- A change of the order can be undone. -/
theorem Reordering.symm {hint other : Hint} : Reordering hint other → Reordering other hint
  | .union perm => .union perm.symm

theorem Reordering.holds {hint other : Hint} {v : Value} : Reordering hint other → hint.Holds v → other.Holds v
  | .union perm, .union among holds => .union (perm.mem_iff.1 among) holds

/-- A hint is made wider at any places, one after the other. -/
def Widens : Hint → Hint → Prop := Relation.ReflTransGen (Inside Widening)

/-- The members of unions are put in another order at any places. -/
def Reorders : Hint → Hint → Prop := Relation.ReflTransGen (Inside Reordering)

theorem Widens.holds {hint wider : Hint} (widens : hint.Widens wider) {v : Value} : hint.Holds v → wider.Holds v :=
  Inside.holds_of_steps Widening.holds widens

theorem Reorders.symm {hint other : Hint} (reorders : hint.Reorders other) : other.Reorders hint :=
  have : Std.Symm (Inside Reordering) := ⟨fun _ _ step => step.symm Reordering.symm⟩
  Relation.ReflTransGen.stdSymm.symm _ _ reorders

/-- Steps that change the order at any depth change nothing of what is held. -/
theorem Reorders.holds {hint other : Hint} (reorders : hint.Reorders other) {v : Value} :
    hint.Holds v → other.Holds v :=
  Inside.holds_of_steps Reordering.holds reorders

/-- **Checks of hints.** A value fits a hint exactly when the hint holds it, and is a misfit otherwise. A truth value at any
depth is a misfit for numbers, texts and none in lists and unions. A hint that is made wider accepts what it accepted
before, and the order of the members of unions does not count. -/
theorem check_spec (hint : Hint) (v : Value) :
    (hint.check v = .fits ↔ hint.Holds v) ∧ (hint.check v = .misfit ↔ ¬ hint.Holds v) ∧
      (hint.Flagless → v.Flagged → hint.check v = .misfit) ∧
      (∀ wider, hint.Widens wider → hint.check v = .fits → wider.check v = .fits) ∧
      (∀ other, hint.Reorders other → other.check v = hint.check v) := by
  refine ⟨check_eq_fits_iff, check_eq_misfit_iff, fun flagless flagged => ?_, fun wider widens fits => ?_,
    fun other reorders => ?_⟩
  · exact check_eq_misfit_iff.2 fun holds => flagless.not_flagged holds flagged
  · exact check_eq_fits_iff.2 (widens.holds (check_eq_fits_iff.1 fits))
  · by_cases holds : hint.Holds v
    · rw [check_eq_fits_iff.2 holds, check_eq_fits_iff.2 (reorders.holds holds)]
    · have lost : ¬ other.Holds v := fun held => holds (reorders.symm.holds held)
      rw [check_eq_misfit_iff.2 holds, check_eq_misfit_iff.2 lost]

/-- Numbers and lists of numbers in a list: a truth value two lists deep is a misfit, also when the members of the union
change places. What fits still does when the inner numbers are replaced by anything at all, inside the union. -/
theorem check_spec_nested :
    let rows := listOf (union [int, listOf float])
    let flagged := Value.list [.int 1, .list [.int 2, .bool true]]
    rows.check flagged = .misfit ∧ (listOf (union [listOf float, int])).check flagged = .misfit ∧
      (listOf (union [int, listOf any])).check (.list [.int 1, .list [.int 2]]) = .fits := by
  intro rows flagged
  have flagless : rows.Flagless := by
    refine .listOf (.union ?_)
    simpa using ⟨.int, .listOf .float⟩
  obtain ⟨-, -, strict, -, order⟩ := check_spec rows flagged
  obtain ⟨holds, -, -, wider, -⟩ := check_spec rows (.list [.int 1, .list [.int 2]])
  have deep : flagged.Flagged := .list (v := .list [.int 2, .bool true]) (by simp) (.list (by simp) (.bool true))
  refine ⟨strict flagless deep, ?_, ?_⟩
  · rw [order _ (.single (.item (.here (.union (.swap ..)))))]
    exact strict flagless deep
  · refine wider _ (.single (.item (.member [int] [] (.item (.here (.any float)))))) rfl

end Hint

end TypedRoutes
