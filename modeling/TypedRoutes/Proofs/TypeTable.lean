import TypedRoutes.Proofs.Assoc
import TypedRoutes.Proofs.Vocabulary

/-!
# Making a table of types

Types make a table exactly when their names, those of the built-in types first, are distinct words of letters
(`WellNamed`); otherwise the first name that repeats an earlier one or is no such word is reported (`Violates`).

A table has two views: the row of its types, and the map from names to types, in which a later type would take the place of
an earlier one of its name. Distinct names make the two agree (`get?_byName`), so that a name is found exactly when it is
listed, with the one type that has it (`ofTypes_spec`).
-/

namespace TypedRoutes

set_option autoImplicit false

/-- A name that can be compared with others: all but lists and maps. -/
def TypeName.Hashable : TypeName → Prop
  | text _ => True
  | foreign _ kind => kind ≠ "list".toList ∧ kind ≠ "dict".toList

/-- A name of a type in a table: a word of one or more ASCII letters. -/
def TypeName.IsWord : TypeName → Prop
  | text t => t ≠ [] ∧ ∀ c ∈ t, c.isAlpha = true
  | foreign _ _ => False

namespace TypeTable

variable {κ : Type}

/-! ## Names -/

/-- The names of the types are distinct words. -/
structure WellNamed (types : List (ValueType κ)) : Prop where
  word : ∀ type ∈ types, ∃ name, type.name? = some name ∧ name.IsWord
  distinct : (types.map ValueType.name?).Nodup

/-- What is wrong with a type behind others: it has the name of one of them, or a name that is no word. -/
inductive Violates (before : List (ValueType κ)) (type : ValueType κ) : Diagnostic → Prop where
  | repeated {name : TypeName} (named : type.name? = some name) (earlier : ∃ other ∈ before, other.name? = some name) :
      Violates before type (.duplicateTypeName name.display)
  | improper {name : TypeName} (named : type.name? = some name) (fresh : ∀ other ∈ before, other.name? ≠ some name)
      (noWord : ¬ name.IsWord) : Violates before type (.badTypeName name.display)

theorem isTypeName_iff {t : Text} : isTypeName t = true ↔ (TypeName.text t).IsWord := by
  rw [isTypeName, Bool.and_eq_true, Bool.not_eq_true', List.isEmpty_eq_false_iff, List.all_eq_true]
  rfl

theorem label_of_name? {type : ValueType κ} {name : TypeName} (named : type.name? = some name) :
    type.label = name.display := by
  rw [ValueType.label, named]

/-- A name that is a word is a text, and the label of its type. -/
theorem name?_eq_of_isWord {type : ValueType κ} {name : TypeName} (named : type.name? = some name)
    (word : name.IsWord) : type.name? = some (.text type.label) := by
  cases name with
  | text t => rw [label_of_name? named, named, TypeName.display]
  | foreign display kind => exact word.elim

/-- The types of a well-named row have their labels as names. -/
theorem WellNamed.name?_eq {types : List (ValueType κ)} (named : WellNamed types) {type : ValueType κ}
    (member : type ∈ types) : type.name? = some (.text type.label) := by
  obtain ⟨name, own, word⟩ := named.word type member
  exact name?_eq_of_isWord own word

/-- A word is a label of well-named types exactly when it is the name of one of them. -/
theorem WellNamed.mem_labels_iff {types : List (ValueType κ)} (named : WellNamed types) {t : Text} :
    t ∈ types.map ValueType.label ↔ ∃ type ∈ types, type.name? = some (.text t) := by
  rw [List.mem_map]
  constructor
  · rintro ⟨type, member, rfl⟩
    exact ⟨type, member, named.name?_eq member⟩
  · rintro ⟨type, member, own⟩
    exact ⟨type, member, label_of_name? own⟩

theorem WellNamed.nodup_labels {types : List (ValueType κ)} (named : WellNamed types) :
    (types.map ValueType.label).Nodup := by
  have texts : types.map ValueType.name? = (types.map ValueType.label).map fun t => some (.text t) := by
    rw [List.map_map]
    exact List.map_congr_left fun type member => named.name?_eq member
  exact List.Nodup.of_map _ (texts ▸ named.distinct)

/-- A row is well named exactly when its first type has a word for a name, the others are well named, and none of them
has its label. -/
theorem wellNamed_cons {type : ValueType κ} {rest : List (ValueType κ)} :
    WellNamed (type :: rest) ↔ (∃ name, type.name? = some name ∧ name.IsWord) ∧ WellNamed rest ∧
      type.label ∉ rest.map ValueType.label := by
  constructor
  · intro named
    obtain ⟨word, words⟩ := List.forall_mem_cons.1 named.word
    have distinct := named.nodup_labels
    rw [List.map_cons, List.nodup_cons] at distinct
    have own := named.distinct
    rw [List.map_cons, List.nodup_cons] at own
    exact ⟨word, ⟨words, own.2⟩, distinct.1⟩
  · rintro ⟨word, named, fresh⟩
    refine ⟨List.forall_mem_cons.2 ⟨word, named.word⟩, ?_⟩
    rw [List.map_cons, List.nodup_cons]
    refine ⟨fun member => fresh ?_, named.distinct⟩
    obtain ⟨other, there, same⟩ := List.mem_map.1 member
    obtain ⟨name, own, proper⟩ := word
    rw [label_of_name? own, ← label_of_name? (same.trans own)]
    exact List.mem_map_of_mem there

/-! ## The first fault -/

/-- What is wrong with a type behind types with the given names. -/
def typeError? (seen : List Text) (type : ValueType κ) : Option TypeTableError :=
  match type.name? with
  | none => some (.fault (.noAttribute "TypeDescriptor".toList "name".toList))
  | some name => nameError? seen name

theorem firstError?_cons (seen : List Text) (type : ValueType κ) (rest : List (ValueType κ)) :
    firstError? seen (type :: rest) = (typeError? seen type).or (firstError? (type.label :: seen) rest) := by
  rw [firstError?, typeError?]
  cases named : type.name? with
  | none => rfl
  | some name =>
    rw [label_of_name? named]
    cases error : nameError? seen name <;> simp [error]

/-- Nothing is wrong with a type exactly when it has a word for a name, and none that has been seen. -/
theorem typeError?_eq_none_iff {seen : List Text} {type : ValueType κ} :
    typeError? seen type = none ↔ (∃ name, type.name? = some name ∧ name.IsWord) ∧ type.label ∉ seen := by
  rw [typeError?]
  cases named : type.name? with
  | none => simp
  | some name =>
    rw [label_of_name? named]
    cases name with
    | text t =>
      by_cases known : t ∈ seen
      · simp [nameError?, known, TypeName.display]
      · by_cases word : (TypeName.text t).IsWord
        · simp [nameError?, known, isTypeName_iff.2 word, word, TypeName.display]
        · have improper : isTypeName t = false := Bool.eq_false_iff.2 fun h => word (isTypeName_iff.1 h)
          simp [nameError?, known, improper, word]
    | foreign display kind =>
      simp only [nameError?, TypeName.IsWord]
      split <;> simp

/-- Types are accepted when they are well named and no name has been seen. -/
theorem firstError?_eq_none_iff {seen : List Text} {types : List (ValueType κ)} :
    firstError? seen types = none ↔ WellNamed types ∧ ∀ type ∈ types, type.label ∉ seen := by
  induction types generalizing seen with
  | nil => exact ⟨fun _ => ⟨⟨nofun, .nil⟩, nofun⟩, fun _ => rfl⟩
  | cons type rest ih =>
    rw [firstError?_cons, Option.or_eq_none_iff, typeError?_eq_none_iff, ih, wellNamed_cons, List.forall_mem_cons]
    simp only [List.mem_cons, not_or, List.mem_map, not_exists, not_and]
    constructor
    · rintro ⟨⟨word, new⟩, named, fresh⟩
      exact ⟨⟨word, named, fun other ho => (fresh other ho).1⟩, new, fun other ho => (fresh other ho).2⟩
    · rintro ⟨⟨word, named, distinct⟩, new, fresh⟩
      exact ⟨⟨word, new⟩, named, fun other ho => ⟨distinct other ho, fresh other ho⟩⟩

/-- What is reported is wrong with the first type that cannot be accepted. -/
theorem firstError?_eq_some_iff {seen : List Text} {types : List (ValueType κ)} {reason : TypeTableError} :
    firstError? seen types = some reason ↔ ∃ before type after, types = before ++ type :: after ∧
      firstError? seen before = none ∧ typeError? ((before.map ValueType.label).reverse ++ seen) type = some reason := by
  induction types generalizing seen with
  | nil => simp [firstError?]
  | cons first rest ih =>
    rw [firstError?_cons]
    cases error : typeError? seen first with
    | some found =>
      constructor
      · rintro ⟨⟩
        exact ⟨[], first, rest, rfl, rfl, error⟩
      · rintro ⟨before, type, after, cut, accepted, wrong⟩
        cases before with
        | nil =>
          obtain ⟨rfl, -⟩ := List.cons.inj cut
          exact error.symm.trans wrong
        | cons other before =>
          obtain ⟨rfl, -⟩ := List.cons.inj cut
          rw [firstError?_cons, error] at accepted
          cases accepted
    | none =>
      rw [Option.none_or, ih]
      have seenBy (before : List (ValueType κ)) : ((first :: before).map ValueType.label).reverse ++ seen =
          (before.map ValueType.label).reverse ++ first.label :: seen := by simp
      constructor
      · rintro ⟨before, type, after, rfl, accepted, wrong⟩
        refine ⟨first :: before, type, after, rfl, ?_, seenBy before ▸ wrong⟩
        rw [firstError?_cons, error, Option.none_or, accepted]
      · rintro ⟨before, type, after, cut, accepted, wrong⟩
        cases before with
        | nil =>
          obtain ⟨rfl, -⟩ := List.cons.inj cut
          cases error.symm.trans wrong
        | cons other before =>
          obtain ⟨rfl, rfl⟩ := List.cons.inj cut
          rw [firstError?_cons, error, Option.none_or] at accepted
          exact ⟨before, type, after, rfl, accepted, seenBy before ▸ wrong⟩

/-- A repeated name and one that is no word are reported. -/
theorem typeError?_of_violates {before : List (ValueType κ)} (accepted : WellNamed before) {type : ValueType κ}
    (hashable : ∀ name, type.name? = some name → name.Hashable) {d : Diagnostic} (violates : Violates before type d) :
    typeError? (before.map ValueType.label).reverse type = some (.diagnostic d) := by
  cases violates with
  | @repeated name named earlier =>
    obtain ⟨other, member, same⟩ := earlier
    cases Option.some.inj (same.symm.trans (accepted.name?_eq member))
    have known : other.label ∈ (before.map ValueType.label).reverse := List.mem_reverse.2 (List.mem_map_of_mem member)
    rw [typeError?, named]
    simp [nameError?, known, TypeName.display]
  | @improper name named fresh noWord =>
    rw [typeError?, named]
    cases name with
    | text t =>
      have new : t ∉ (before.map ValueType.label).reverse := by
        rw [List.mem_reverse, accepted.mem_labels_iff]
        rintro ⟨other, member, same⟩
        exact fresh other member same
      have improper : isTypeName t = false := Bool.eq_false_iff.2 fun h => noWord (isTypeName_iff.1 h)
      simp [nameError?, new, improper, TypeName.display]
    | foreign display kind =>
      have comparable := hashable _ named
      exact if_neg (not_or.2 comparable)

/-- Behind well-named types, what is reported of a type whose name can be compared is that it repeats a name or has none
that is a word. -/
theorem typeError?_eq_some_iff {before : List (ValueType κ)} (accepted : WellNamed before) {type : ValueType κ}
    {name : TypeName} (named : type.name? = some name) (hashable : name.Hashable) {reason : TypeTableError} :
    typeError? (before.map ValueType.label).reverse type = some reason ↔
      ∃ d, Violates before type d ∧ reason = .diagnostic d := by
  have reported {d : Diagnostic} := typeError?_of_violates (d := d) accepted fun other own =>
    Option.some.inj (named.symm.trans own) ▸ hashable
  constructor
  · intro wrong
    have found {d : Diagnostic} (violates : Violates before type d) : ∃ d, Violates before type d ∧ reason = .diagnostic d :=
      ⟨d, violates, Option.some.inj (wrong.symm.trans (reported violates))⟩
    by_cases earlier : ∃ other ∈ before, other.name? = some name
    · exact found (.repeated named earlier)
    · by_cases word : name.IsWord
      · have new : type.label ∉ (before.map ValueType.label).reverse := by
          rw [List.mem_reverse, accepted.mem_labels_iff, ← name?_eq_of_isWord named word, named]
          exact earlier
        cases wrong.symm.trans (typeError?_eq_none_iff.2 ⟨⟨name, named, word⟩, new⟩)
      · exact found (.improper named (fun other member same => earlier ⟨other, member, same⟩) word)
  · rintro ⟨d, violates, rfl⟩
    exact reported violates

/-! ## Tables -/

/-- Types make a table exactly when nothing is wrong with them and the built-in ones in front of them. -/
theorem exists_ofTypes_iff {custom : List (ValueType κ)} :
    (∃ table, ofTypes custom = .ok table) ↔ firstError? [] (builtins ++ custom) = none := by
  unfold ofTypes
  split
  · rename_i reason wrong
    simp [wrong]
  · rename_i accepted
    simp [accepted]

theorem ofTypes_eq_error_iff {custom : List (ValueType κ)} {reason : TypeTableError} :
    ofTypes custom = .error reason ↔ firstError? [] (builtins ++ custom) = some reason := by
  unfold ofTypes
  split
  · rename_i other wrong
    simp [wrong]
  · rename_i accepted
    simp [accepted]

theorem wellNamed_iff {types : List (ValueType κ)} : firstError? [] types = none ↔ WellNamed types := by
  rw [firstError?_eq_none_iff]
  exact and_iff_left fun type _ => List.not_mem_nil

/-- The types by name: setting one name after the other, a later type would take the place of an earlier one. -/
def byName (table : TypeTable κ) : List (Text × ValueType κ) :=
  Assoc.ofPairs (table.all.map fun type => (type.label, type))

variable (table : TypeTable κ)

theorem wellNamed : WellNamed table.all := wellNamed_iff.1 table.valid

theorem nodup_names : table.names.Nodup := table.wellNamed.nodup_labels

theorem keys_pairs : Assoc.keys (table.all.map fun type => (type.label, type)) = table.names := by
  rw [Assoc.keys, List.map_map]
  rfl

/-- No type takes the place of another one. -/
theorem byName_eq : table.byName = table.all.map fun type => (type.label, type) := by
  apply Assoc.ofPairs_of_nodup
  rw [keys_pairs]
  exact table.nodup_names

theorem keys_byName : Assoc.keys table.byName = table.names := by rw [byName_eq, keys_pairs]

/-- The two views of a table agree. -/
theorem get?_byName (name : Text) : Assoc.get? name table.byName = table.get? name := by
  rw [byName_eq, get?]
  generalize table.all = types
  induction types with
  | nil => rfl
  | cons type rest ih =>
    by_cases own : type.label = name <;> simp [Assoc.get?, own, ih]

/-- A type is found under its name and under no other one. -/
theorem get?_eq_some_iff_name? {name : Text} {type : ValueType κ} :
    table.get? name = some type ↔ type ∈ table.all ∧ type.name? = some (.text name) := by
  have distinct : (Assoc.keys table.byName).Nodup := table.keys_byName ▸ table.nodup_names
  rw [← get?_byName, Assoc.get?_eq_some_iff distinct, byName_eq, List.mem_map]
  constructor
  · rintro ⟨other, member, same⟩
    cases same
    exact ⟨member, table.wellNamed.name?_eq member⟩
  · rintro ⟨member, named⟩
    exact ⟨type, member, by rw [label_of_name? named, TypeName.display]⟩

theorem mem_names_iff {name : Text} : name ∈ table.names ↔ ∃ type, table.get? name = some type := by
  rw [names, table.wellNamed.mem_labels_iff]
  simp only [get?_eq_some_iff_name?]

theorem contains_iff {name : Text} : table.contains name = true ↔ name ∈ table.names := by
  rw [contains, Option.isSome_iff_exists, mem_names_iff]

/-- **Making a table.** When the names of the types can be compared, the types make a table exactly when the names of the
built-in types and theirs are distinct words, and otherwise the first type behind well-named ones that repeats a name or
has none that is a word is reported, the repetition first. A table holds the built-in types and then the others, each under
its own name: a name is found, by look-up in the map from names to types or in the row of types, exactly when it is listed,
and what is found is the one type with the name. The type that is inferred is that of texts. -/
theorem ofTypes_spec (custom : List (ValueType κ))
    (hashable : ∀ type ∈ custom, ∃ name, type.name? = some name ∧ name.Hashable) :
    ((∃ table, ofTypes custom = .ok table) ↔ WellNamed (builtins ++ custom)) ∧
    (∀ reason, ofTypes custom = .error reason ↔ ∃ before type after d, builtins ++ custom = before ++ type :: after ∧
      WellNamed before ∧ Violates before type d ∧ reason = .diagnostic d) ∧
    ∀ table, ofTypes custom = .ok table →
      table.all = builtins ++ custom ∧ table.all.length = 3 + custom.length ∧
      table.names.length = table.all.length ∧ table.names.Nodup ∧
      Assoc.keys table.byName = table.names ∧ (∀ name, Assoc.get? name table.byName = table.get? name) ∧
      (∀ name, table.contains name = true ↔ name ∈ table.names) ∧
      (∀ name, (∃ type, table.get? name = some type) ↔ name ∈ table.names) ∧
      (∀ name type, table.get? name = some type ↔ type ∈ table.all ∧ type.name? = some (.text name)) ∧
      table.inferred = .string ∧ table.get? "string".toList = some table.inferred := by
  have hashable : ∀ type ∈ builtins ++ custom, ∃ name, type.name? = some name ∧ name.Hashable := by
    intro type member
    rcases List.mem_append.1 member with builtin | member
    · simp only [builtins, List.mem_cons, List.not_mem_nil, or_false] at builtin
      rcases builtin with rfl | rfl | rfl <;> exact ⟨_, rfl, trivial⟩
    · exact hashable type member
  refine ⟨by rw [exists_ofTypes_iff, wellNamed_iff], fun reason => ?_, fun table made => ?_⟩
  · rw [ofTypes_eq_error_iff, firstError?_eq_some_iff]
    constructor
    · rintro ⟨before, type, after, cut, accepted, wrong⟩
      have named := wellNamed_iff.1 accepted
      obtain ⟨name, own, comparable⟩ := hashable type (by simp [cut])
      rw [List.append_nil] at wrong
      obtain ⟨d, violates, rfl⟩ := (typeError?_eq_some_iff named own comparable).1 wrong
      exact ⟨before, type, after, d, cut, named, violates, rfl⟩
    · rintro ⟨before, type, after, d, cut, named, violates, rfl⟩
      obtain ⟨name, own, comparable⟩ := hashable type (by simp [cut])
      refine ⟨before, type, after, cut, wellNamed_iff.2 named, ?_⟩
      rw [List.append_nil]
      exact (typeError?_eq_some_iff named own comparable).2 ⟨d, violates, rfl⟩
  · have all : table.all = builtins ++ custom := by rw [TypeTable.all, Vocabulary.custom_of_ofTypes made]
    have length : table.all.length = 3 + custom.length := by rw [all, List.length_append]; rfl
    exact ⟨all, length, List.length_map _, table.nodup_names, table.keys_byName, table.get?_byName,
      fun name => table.contains_iff, fun name => table.mem_names_iff.symm, fun name type => table.get?_eq_some_iff_name?, rfl,
      table.get?_eq_some_iff_name?.2 ⟨by simp [all, builtins, inferred], rfl⟩⟩

/-- Names differ by case, a repeated name is reported before a later one that is no word, and a name that is a number is no
word. -/
theorem ofTypes_spec_names :
    let place : ValueType Unit := .guarded (.text "place".toList) ()
    let capital : ValueType Unit := .plain (.text "Int".toList) ()
    let number : ValueType Unit := .plain (.foreign "5".toList "int".toList) ()
    (∀ type ∈ [place, capital, number], ∃ name, type.name? = some name ∧ name.Hashable) ∧
      (∃ table, ofTypes [place, capital] = .ok table ∧ table.get? "Int".toList = some capital ∧
        table.names.Nodup ∧ table.all.length = 5) ∧
      ofTypes [place, place, number] = .error (.diagnostic (.duplicateTypeName "place".toList)) ∧
      ofTypes [capital, number, capital] = .error (.diagnostic (.badTypeName "5".toList)) := by
  intro place capital number
  have hashable : ∀ type ∈ [place, capital, number], ∃ name, type.name? = some name ∧ name.Hashable := by
    simp only [List.forall_mem_cons]
    exact ⟨⟨_, rfl, trivial⟩, ⟨_, rfl, trivial⟩, ⟨_, rfl, by decide, by decide⟩, nofun⟩
  have spec (custom : List (ValueType Unit)) (known : custom ⊆ [place, capital, number]) :=
    ofTypes_spec custom fun type member => hashable type (known member)
  refine ⟨hashable, ?_, ?_, ?_⟩
  · obtain ⟨made, -, holds⟩ := spec [place, capital] (by simp)
    obtain ⟨table, ok⟩ := made.2 (wellNamed_iff.1 rfl)
    obtain ⟨all, length, -, distinct, -, -, -, -, found, -⟩ := holds table ok
    exact ⟨table, ok, (found _ _).2 ⟨by simp [all], rfl⟩, distinct, length⟩
  · exact ((spec [place, place, number] (by simp)).2.1 _).2 ⟨builtins ++ [place], place, [number], _, rfl,
      wellNamed_iff.1 rfl, .repeated rfl ⟨place, by simp, rfl⟩, rfl⟩
  · have named : WellNamed (builtins ++ [capital]) := wellNamed_iff.1 rfl
    refine ((spec [capital, number, capital] (by simp)).2.1 _).2 ⟨builtins ++ [capital], number, [capital], _, rfl,
      named, .improper rfl ?_ not_false, rfl⟩
    intro other member same
    cases (named.name?_eq member).symm.trans same

end TypeTable

end TypedRoutes
