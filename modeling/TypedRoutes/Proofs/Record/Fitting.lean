import TypedRoutes.Proofs.Record

/-!
# What the types of fields hold

`FieldType.Holds` says which values a type holds, constructor by constructor: a truth value is no number, an integer is
one of both kinds, a list is held by what all its items are held by, and a union holds what a member holds. Checks of
plain types decide it (`Plain.check_eq_fits_iff`).

A check of any type at all has an answer unless it comes upon literals, and `FieldType.Stumbles` says when that is: the
items before one fit, or the members before one do not (`check_eq_uncheckable_iff`).
-/

namespace TypedRoutes

set_option autoImplicit false

/-! ## The first outcome that decides -/

namespace Verdict

/-- The verdict on all of a row is the first that is not a fit. -/
theorem every_eq_find? (row : List Verdict) : every row = (row.find? (· != fits)).getD fits := by
  induction row with
  | nil => rfl
  | cons verdict rest ih => cases verdict <;> simp [every, ih]

theorem some_eq_find? (row : List Verdict) : some row = (row.find? (· != misfit)).getD misfit := by
  induction row with
  | nil => rfl
  | cons verdict rest ih => cases verdict <;> simp [some, ih]

/-- What is found in a row is the first that is not neutral. -/
theorem getD_find?_eq_iff {neutral verdict : Verdict} (decisive : verdict ≠ neutral) {row : List Verdict} :
    (row.find? (· != neutral)).getD neutral = verdict ↔
      ∃ before after, row = before ++ verdict :: after ∧ ∀ earlier ∈ before, earlier = neutral := by
  have found : (row.find? (· != neutral)).getD neutral = verdict ↔ row.find? (· != neutral) = Option.some verdict := by
    cases row.find? (· != neutral) with
    | none => simpa using decisive.symm
    | some other => simp
  rw [found, List.find?_eq_some_iff_append]
  simp [decisive]

/-- All of a row cannot be checked exactly when one member cannot be and those before it fit. -/
theorem every_eq_uncheckable_iff {row : List Verdict} :
    every row = uncheckable ↔ ∃ before after, row = before ++ uncheckable :: after ∧ ∀ earlier ∈ before, earlier = fits := by
  rw [every_eq_find?, getD_find?_eq_iff (by simp)]

theorem some_eq_uncheckable_iff {row : List Verdict} :
    some row = uncheckable ↔ ∃ before after, row = before ++ uncheckable :: after ∧ ∀ earlier ∈ before, earlier = misfit := by
  rw [some_eq_find?, getD_find?_eq_iff (by simp)]

theorem every_eq_fits_iff {row : List Verdict} : every row = fits ↔ ∀ verdict ∈ row, verdict = fits := by
  refine ⟨fun h => ?_, every_eq_fits⟩
  induction row with
  | nil => simp
  | cons verdict rest ih =>
    cases verdict with
    | fits => exact List.forall_mem_cons.2 ⟨rfl, ih h⟩
    | misfit => cases h
    | uncheckable => cases h

/-- A union of members that can be checked fits when one of them does. -/
theorem some_eq_fits_iff {row : List Verdict} (calm : ∀ verdict ∈ row, verdict ≠ uncheckable) :
    some row = fits ↔ fits ∈ row := by
  constructor
  · intro h
    rw [some_eq_find?, getD_find?_eq_iff (by simp)] at h
    obtain ⟨before, after, rfl, -⟩ := h
    simp
  · intro h
    obtain ⟨before, after, rfl⟩ := List.append_of_mem h
    exact some_append_eq_fits (fun verdict hv => calm verdict (List.mem_append_left _ hv)) after

end Verdict

theorem Value.eq_list_of_items? {v : Value} {items : List Value} (h : v.items? = some items) : v = .list items := by
  cases v with
  | list own =>
    cases h
    rfl
  | _ => cases h

namespace FieldType

/-! ## Plain types -/

/-- The types that are made up of numbers, texts, truth values, none, lists, maps and anything at all. -/
inductive Plain : FieldType → Prop where
  | int : Plain int
  | float : Plain float
  | bool : Plain bool
  | text : Plain text
  | nothing : Plain nothing
  | any : Plain any
  | object : Plain object
  | anyMap : Plain anyMap
  | anyList (style : Style) : Plain (anyList style)
  | listOf (style : Style) {item : FieldType} (plain : Plain item) : Plain (listOf style item)
  | union (style : Style) {members : List FieldType} (plain : ∀ member ∈ members, Plain member) :
      Plain (union style members)

/-- The values that a plain type holds. -/
inductive Holds : FieldType → Value → Prop where
  | int (n : Int) : Holds int (.int n)
  | floatOfInt (n : Int) : Holds float (.int n)
  | float (x : Number.Binary64) : Holds float (.float x)
  | bool (b : Bool) : Holds bool (.bool b)
  | text (t : Text) : Holds text (.text t)
  | nothing : Holds nothing .none
  | any (v : Value) : Holds any v
  | object (v : Value) : Holds object v
  | anyMap (entries : List (Text × Value)) : Holds anyMap (.map entries)
  | anyList (style : Style) (items : List Value) : Holds (anyList style) (.list items)
  | listOf (style : Style) {item : FieldType} {items : List Value} (all : ∀ v ∈ items, Holds item v) :
      Holds (listOf style item) (.list items)
  | union (style : Style) {members : List FieldType} {member : FieldType} {v : Value} (among : member ∈ members)
      (holds : Holds member v) : Holds (union style members) v

/-- A list type holds the lists whose items its type holds. -/
theorem holds_listOf_iff {style : Style} {item : FieldType} {v : Value} :
    (listOf style item).Holds v ↔ ∃ items, v = .list items ∧ ∀ w ∈ items, item.Holds w := by
  constructor
  · rintro ⟨⟩
    exact ⟨_, rfl, ‹_›⟩
  · rintro ⟨items, rfl, all⟩
    exact .listOf style all

theorem holds_union_iff {style : Style} {members : List FieldType} {v : Value} :
    (union style members).Holds v ↔ ∃ member ∈ members, member.Holds v := by
  constructor
  · rintro ⟨⟩
    exact ⟨_, ‹_›, ‹_›⟩
  · rintro ⟨member, among, holds⟩
    exact .union style among holds

/-! ## Checks of plain types -/

theorem literalFreeAll_of_all {types : List FieldType} (h : ∀ type ∈ types, type.literalFree = true) :
    literalFreeAll types = true := by
  induction types with
  | nil => rfl
  | cons type rest ih =>
    obtain ⟨own, later⟩ := List.forall_mem_cons.1 h
    rw [literalFreeAll, own, ih later, Bool.and_self]

/-- A plain type has no literal in it. -/
theorem Plain.literalFree {type : FieldType} (plain : type.Plain) : type.literalFree = true := by
  induction plain with
  | listOf _ _ ih => exact ih
  | union _ _ ih => exact literalFreeAll_of_all ih
  | _ => rfl

/-- A value can be checked against every plain type. -/
theorem Plain.check_ne_uncheckable {type : FieldType} (plain : type.Plain) (v : Value) : type.check v ≠ .uncheckable :=
  FieldType.check_ne_uncheckable type v plain.literalFree

/-- A check of a plain type finds the values that it holds. -/
theorem Plain.check_eq_fits_iff {type : FieldType} (plain : type.Plain) {v : Value} :
    type.check v = .fits ↔ type.Holds v := by
  induction plain generalizing v with
  | int =>
    cases v with
    | int n => exact ⟨fun _ => .int n, fun _ => rfl⟩
    | _ => exact ⟨nofun, nofun⟩
  | float =>
    cases v with
    | int n => exact ⟨fun _ => .floatOfInt n, fun _ => rfl⟩
    | float x => exact ⟨fun _ => .float x, fun _ => rfl⟩
    | _ => exact ⟨nofun, nofun⟩
  | bool =>
    cases v with
    | bool b => exact ⟨fun _ => .bool b, fun _ => rfl⟩
    | _ => exact ⟨nofun, nofun⟩
  | text =>
    cases v with
    | text t => exact ⟨fun _ => .text t, fun _ => rfl⟩
    | _ => exact ⟨nofun, nofun⟩
  | nothing =>
    cases v with
    | none => exact ⟨fun _ => .nothing, fun _ => rfl⟩
    | _ => exact ⟨nofun, nofun⟩
  | any => exact ⟨fun _ => .any v, fun _ => rfl⟩
  | object => exact ⟨fun _ => .object v, fun _ => rfl⟩
  | anyMap =>
    cases v with
    | map entries => exact ⟨fun _ => .anyMap entries, fun _ => rfl⟩
    | _ => exact ⟨nofun, nofun⟩
  | anyList style =>
    cases v with
    | list items => exact ⟨fun _ => .anyList style items, fun _ => rfl⟩
    | _ => exact ⟨nofun, nofun⟩
  | listOf style _ ih =>
    rw [holds_listOf_iff, check]
    cases found : v.items? with
    | none =>
      refine ⟨nofun, ?_⟩
      rintro ⟨items, rfl, -⟩
      cases found
    | some items =>
      obtain rfl := Value.eq_list_of_items? found
      rw [Verdict.every_eq_fits_iff, List.forall_mem_map]
      simp [ih]
  | union style plain ih =>
    have calm : ∀ verdict ∈ (checkEach _ v), verdict ≠ .uncheckable :=
      checkEach_ne_uncheckable _ v (literalFreeAll_of_all fun member among => (plain member among).literalFree)
    rw [holds_union_iff, check, Verdict.some_eq_fits_iff calm, checkEach_eq_map, List.mem_map]
    exact exists_congr fun member => and_congr_right fun among => ih member among

/-- A plain type that does not hold a value is a misfit for it. -/
theorem Plain.check_eq_misfit_iff {type : FieldType} (plain : type.Plain) {v : Value} :
    type.check v = .misfit ↔ ¬ type.Holds v := by
  rw [← plain.check_eq_fits_iff]
  cases verdict : type.check v with
  | fits => simp
  | misfit => simp
  | uncheckable => exact absurd verdict (plain.check_ne_uncheckable v)

/-! ## Types that are put together from plain ones -/

theorem Plain.of_mem_members {type : FieldType} (plain : type.resolved.Plain) : ∀ member ∈ type.members, member.Plain := by
  cases type with
  | union style types =>
    cases plain with
    | union _ plain => exact plain
  | _ => simpa [FieldType.members] using plain

/-- Taking out repetitions adds no type. -/
theorem mem_of_mem_distinct {types : List FieldType} {type : FieldType} (h : type ∈ distinct types) : type ∈ types := by
  have kept : ∀ seen : List FieldType,
      type ∈ types.foldl (fun seen type => if seen.any type.same then seen else seen ++ [type]) seen →
        type ∈ seen ∨ type ∈ types := by
    clear h
    induction types with
    | nil => exact fun seen h => .inl h
    | cons first rest ih =>
      intro seen h
      rcases ih _ h with h | h
      · dsimp only at h
        split at h
        · exact .inl h
        · rcases List.mem_append.1 h with h | h
          · exact .inl h
          · exact .inr (List.mem_singleton.1 h ▸ List.mem_cons_self ..)
      · exact .inr (List.mem_cons_of_mem _ h)
  exact (kept [] h).resolve_left List.not_mem_nil

/-- A union of plain types is plain, however it is simplified. -/
theorem Plain.ofMembers (style : Style) {types : List FieldType} (h : ∀ type ∈ types, type.resolved.Plain) :
    (ofMembers style types).Plain := by
  have all : ∀ member ∈ distinct (types.flatMap members), member.Plain := by
    intro member hm
    obtain ⟨type, ht, among⟩ := List.mem_flatMap.1 (mem_of_mem_distinct hm)
    exact (h type ht).of_mem_members member among
  unfold FieldType.ofMembers
  split
  · rename_i only
    exact all _ (only ▸ List.mem_singleton_self _)
  · exact .union style all

theorem Plain.optional {type : FieldType} (plain : type.resolved.Plain) : type.optional.Plain := by
  apply Plain.ofMembers
  simpa using ⟨plain, .nothing⟩

/-! ## Checks that come upon literals -/

/-- A check of a value comes upon literals: the type names them, or they are in the way for an item when those before it
fit, or for a member of a union when those before it do not. -/
inductive Stumbles : FieldType → Value → Prop where
  | literal (options : List Text) (v : Value) : Stumbles (literal options) v
  | listOf (style : Style) {item : FieldType} {before after : List Value} {v : Value}
      (passed : ∀ w ∈ before, item.check w = .fits) (stumbles : Stumbles item v) :
      Stumbles (listOf style item) (.list (before ++ v :: after))
  | union (style : Style) {before after : List FieldType} {member : FieldType} {v : Value}
      (passed : ∀ other ∈ before, other.check v = .misfit) (stumbles : Stumbles member v) :
      Stumbles (union style (before ++ member :: after)) v

/-- A value over which a type stumbles cannot be checked against it. -/
theorem Stumbles.check {type : FieldType} {v : Value} (stumbles : type.Stumbles v) : type.check v = .uncheckable := by
  induction stumbles with
  | literal options v => rfl
  | @listOf style item before after v passed _ ih =>
    change Verdict.every ((before ++ v :: after).map _) = _
    rw [Verdict.every_eq_uncheckable_iff, List.map_append, List.map_cons, ih]
    exact ⟨_, _, rfl, List.forall_mem_map.2 passed⟩
  | @union style before after member v passed _ ih =>
    rw [FieldType.check, Verdict.some_eq_uncheckable_iff, checkEach_eq_map, List.map_append, List.map_cons, ih]
    exact ⟨_, _, rfl, List.forall_mem_map.2 passed⟩

mutual

/-- By induction on the type: a value that cannot be checked against it is one over which it stumbles. -/
theorem stumbles_of_check : ∀ (type : FieldType) (v : Value), type.check v = .uncheckable → type.Stumbles v
  | literal options, v, _ => .literal options v
  | listOf style item, v, h => by
    rw [check] at h
    cases found : v.items? with
    | none => simp [found] at h
    | some items =>
      obtain rfl := Value.eq_list_of_items? found
      simp only [found, Verdict.every_eq_uncheckable_iff, List.map_eq_append_iff, List.map_eq_cons_iff] at h
      obtain ⟨-, -, ⟨before, -, rfl, rfl, w, after, rfl, stuck, rfl⟩, passed⟩ := h
      exact .listOf style (List.forall_mem_map.1 passed) (stumbles_of_check item w stuck)
  | union style members, v, h => by
    rw [check, Verdict.some_eq_uncheckable_iff, checkEach_eq_map] at h
    simp only [List.map_eq_append_iff, List.map_eq_cons_iff] at h
    obtain ⟨-, -, ⟨before, -, rfl, rfl, member, after, rfl, stuck, rfl⟩, passed⟩ := h
    have here := stumbles_of_checkAmong (before ++ member :: after) v member (by simp) stuck
    exact .union style (List.forall_mem_map.1 passed) here
  | int, v, h | float, v, h | bool, v, h | text, v, h | nothing, v, h | anyList _, v, h | anyMap, v, h
  | mapOf _ _, v, h => absurd h (check_ne_uncheckable _ v rfl)
  | null, _, h | any, _, h | object, _, h | generic, _, h => by cases h

theorem stumbles_of_checkAmong : ∀ (types : List FieldType) (v : Value), ∀ type ∈ types,
    type.check v = .uncheckable → type.Stumbles v
  | [], _ => by simp
  | type :: types, v => by
    rw [List.forall_mem_cons]
    exact ⟨stumbles_of_check type v, stumbles_of_checkAmong types v⟩

end

/-- A check has no answer exactly when it comes upon literals. -/
theorem check_eq_uncheckable_iff {type : FieldType} {v : Value} : type.check v = .uncheckable ↔ type.Stumbles v :=
  ⟨stumbles_of_check type v, Stumbles.check⟩

end FieldType

end TypedRoutes
