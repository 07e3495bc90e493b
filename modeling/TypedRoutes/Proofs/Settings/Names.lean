import TypedRoutes.Proofs.Json.Texts
import TypedRoutes.Proofs.Pattern.Token
import TypedRoutes.Proofs.Settings.Precedence
import TypedRoutes.Proofs.Text.Trim

/-!
# Ways to give names

Names of global parameters are given as a list in a document, as the JSON of a list in a variable, or in a text with
commas between them, anywhere. Blanks around the names do not count there, nor do pieces of nothing else
(`Settings.Joins`). All of these ways give the same names (`names_of_writes`): what is read of a variable is a list or a
text that gives them (`readVariable_of_spells`), and the settings have the names of either (`names_of_lists`). The list
and the text may be those of any reader; it only counts what can be seen of them.
-/

namespace TypedRoutes

set_option autoImplicit false

namespace Settings

/-! ## Texts with commas -/

/-- Pieces in which names stand: each in one, with blanks around it, and between these any pieces of blanks. -/
inductive Spreads : List Text → List Text → Prop where
  | nil : Spreads [] []
  | blank {gap : Text} {names pieces : List Text} (blank : ∀ c ∈ gap, Text.isBlank c = true)
      (rest : Spreads names pieces) : Spreads names (gap :: pieces)
  | name {before name after : Text} {names pieces : List Text} (blank : ∀ c ∈ before, Text.isBlank c = true)
      (blank' : ∀ c ∈ after, Text.isBlank c = true) (rest : Spreads names pieces) :
      Spreads (name :: names) ((before ++ name ++ after) :: pieces)

/-- A text with commas between the pieces in which the names stand. -/
def Joins (names : List Text) (t : Text) : Prop := ∃ pieces, Spreads names pieces ∧ t = Text.join [','] pieces

variable {names pieces : List Text}

/-- Pieces in which names stand have no characters but those of words and blanks. -/
theorem Spreads.notMem (spreads : Spreads names pieces) (valid : ∀ name ∈ names, Pattern.isName name = true) {c : Char}
    (word : Text.isWord c = false) (dark : Text.isBlank c = false) : ∀ piece ∈ pieces, c ∉ piece := by
  have outside : ∀ gap : Text, (∀ b ∈ gap, Text.isBlank b = true) → c ∉ gap := by
    intro gap blank member
    rw [blank c member] at dark
    cases dark
  induction spreads with
  | nil => simp
  | blank blank _ ih => exact List.forall_mem_cons.2 ⟨outside _ blank, ih valid⟩
  | name blank blank' _ ih =>
    obtain ⟨own, later⟩ := List.forall_mem_cons.1 valid
    refine List.forall_mem_cons.2 ⟨?_, ih later⟩
    simp only [List.mem_append, not_or]
    exact ⟨⟨outside _ blank, Pattern.notMem_of_isName own word⟩, outside _ blank'⟩

/-- Without blanks and empty pieces, the pieces are the names. -/
theorem Spreads.filter_trim (spreads : Spreads names pieces) (valid : ∀ name ∈ names, Pattern.isName name = true) :
    (pieces.map Text.trim).filter (fun name => !name.isEmpty) = names := by
  induction spreads with
  | nil => rfl
  | blank blank _ ih => rw [List.map_cons, Text.trim_of_blank blank, List.filter_cons_of_neg (by simp), ih valid]
  | name blank blank' _ ih =>
    obtain ⟨own, later⟩ := List.forall_mem_cons.1 valid
    obtain ⟨ne, word⟩ := Pattern.isName_iff.1 own
    have dark := fun c member => Text.isBlank_of_isWord (word c member)
    rw [List.map_cons, Text.trim_append blank blank' ne dark, List.filter_cons_of_pos (by simpa using ne), ih later]

/-- The names in a text with commas are the ones that stand in its pieces. -/
theorem namesOfText_of_joins {t : Text} (joins : Joins names t) (valid : ∀ name ∈ names, Pattern.isName name = true) :
    namesOfText t = names := by
  obtain ⟨pieces, spreads, rfl⟩ := joins
  cases pieces with
  | nil =>
    cases spreads
    rfl
  | cons piece pieces =>
    have apart := spreads.notMem valid (by decide : Text.isWord ',' = false) (by decide)
    rw [namesOfText, Text.splitOn_join (by simp) apart, spreads.filter_trim valid]

/-- No such text starts with a bracket. -/
theorem Joins.head?_ne {t : Text} (joins : Joins names t) (valid : ∀ name ∈ names, Pattern.isName name = true) :
    t.head? ≠ some '[' := by
  obtain ⟨pieces, spreads, rfl⟩ := joins
  have apart := spreads.notMem valid (by decide : Text.isWord '[' = false) (by decide)
  exact fun first => Text.notMem_join (by decide : '[' ≠ ',') apart (List.mem_of_mem_head? first)

/-! ## Objects and variables -/

variable {κ α : Type} {readers : Readers κ α}

/-- An object that gives names: the list of them, or a text with commas. -/
inductive Lists (readers : Readers κ α) (names : List Text) (given : Object α) : Prop where
  | list {items : List (Object α)} (seen : readers.look given = .list items)
      (texts : List.Forall₂ (fun item name => readers.look item = .text name) items names) : Lists readers names given
  | joined {t : Text} (seen : readers.look given = .text t) (joins : Joins names t) : Lists readers names given

/-- The text of a variable that gives names: the JSON of the list of them, or a text with commas. -/
inductive Spells (names : List Text) : Text → Prop where
  | json {t : Text} (spells : Json.SpellsTexts names t) : Spells names t
  | joined {t : Text} (joins : Joins names t) : Spells names t

/-- The list of names as a value gives them. -/
theorem lists_texts (readers : Readers κ α) (names : List Text) :
    Lists readers names (.value (.list (names.map .text))) := by
  refine .list rfl ?_
  rw [List.map_map, List.forall₂_map_left_iff, List.forall₂_same]
  exact fun _ _ => rfl

/-- What is read of a variable that gives names is an object that gives them, whatever the readers are. -/
theorem readVariable_of_spells (readers : Readers κ α) {t : Text} (spells : Spells names t)
    (valid : ∀ name ∈ names, Pattern.isName name = true) :
    ∃ v, readVariable t = .ok v ∧ Lists readers names (.value v) := by
  cases spells with
  | json spells =>
    have bracket : t.head? = some '[' := by cases spells <;> rfl
    refine ⟨_, ?_, lists_texts readers names⟩
    rw [readVariable, if_pos bracket, Json.read_of_spellsTexts spells]
  | joined joins => exact ⟨_, if_neg (joins.head?_ne valid), .joined rfl joins⟩

theorem mapM_text? {items : List (Object α)}
    (texts : List.Forall₂ (fun item name => readers.look item = .text name) items names) :
    items.mapM (text? readers) = some names := by
  induction texts with
  | nil => rfl
  | cons seen _ ih => simp [List.mapM_cons, text?, seen, ih]

/-- An object that lists names gives just these. -/
theorem Lists.names?_eq {given : Object α} (lists : Lists readers names given)
    (valid : ∀ name ∈ names, Pattern.isName name = true) : names? readers given = some names := by
  cases lists with
  | list seen texts => simp only [names?, seen, mapM_text? texts]
  | joined seen joins => simp only [names?, seen, namesOfText_of_joins joins valid]

variable [DecidableEq κ]

/-- Settings that have an object which gives names have these names. -/
theorem names_of_lists {settings : Settings κ α} {given : Object α} (lists : Lists readers names given)
    (valid : ∀ name ∈ names, Pattern.isName name = true) (value : Assoc.get? namesKey settings = some given) :
    settings.names readers = .ok names := by
  simp only [Settings.names, value, lists.names?_eq valid]

end Settings

open Settings

/-! ## Layers -/

variable {κ α : Type} [DecidableEq κ] {readers : Readers κ α}

/-- A layer gives names: a document has an object for them, or the last variable for them spells them. -/
inductive Layer.Writes (readers : Readers κ α) (lead : Text) (names : List Text) : Layer α → Prop where
  | document {content given : Object α} (value : documentValue? readers namesKey content = some given)
      (lists : Lists readers names given) : Writes readers lead names (.document content)
  | row {before after : List (Text × Option Text)} {key t : Text}
      (named : (settingName? lead key).map .text = some (namesKey : Key κ)) (spells : Spells names t)
      (last : ∀ row ∈ after, bindingValue? (α := α) lead (namesKey : Key κ) row = none) :
      Writes readers lead names (.bindings (before ++ (key, some t) :: after))

/-- A layer that writes names has an object for them, and it lists them. -/
theorem Layer.Writes.exists_value? {lead : Text} {names : List Text} {layer : Layer α}
    (writes : layer.Writes readers lead names) (valid : ∀ name ∈ names, Pattern.isName name = true) :
    ∃ given, layer.value? readers lead namesKey = some given ∧ Lists readers names given := by
  cases writes with
  | document value lists => exact ⟨_, value, lists⟩
  | @row before after key t named spells last =>
    obtain ⟨v, read, lists⟩ := readVariable_of_spells readers spells valid
    have own : bindingValue? lead (namesKey : Key κ) (key, some t) = some (.value v : Object α) := by
      rw [bindingValue?, if_pos named, Option.bind_some, read]
      rfl
    have absent : after.reverse.findSome? (bindingValue? (α := α) lead (namesKey : Key κ)) = none :=
      List.findSome?_eq_none_iff.2 fun row member => last row (List.mem_reverse.1 member)
    refine ⟨.value v, ?_, lists⟩
    rw [Layer.value?, List.reverse_append, List.reverse_cons, List.append_assoc, List.findSome?_append, absent,
      Option.none_or, List.singleton_append, List.findSome?_cons, own]

namespace Sources

/-- **Ways to give names.** Whether a document has the list of them or a text with commas, or a variable has the JSON of
the list or such a text, each in any way to write it: when that is the last layer to say anything about names, the
configuration has just these names, in their order and as often as they are given. No such variable is refused. This is so
whatever the readers make of the texts. -/
theorem names_of_writes (readers : Readers κ α) {names : List Text}
    (valid : ∀ name ∈ names, Pattern.isName name = true) :
    (∀ t, Spells names t → ∃ v, readVariable t = .ok v ∧ Lists readers names (.value v)) ∧
      (∀ (settings : Settings κ α) (given : Object α), Lists readers names given →
        Assoc.get? namesKey settings = some given → settings.names readers = .ok names) ∧
      ∀ (sources : Sources α) (settings : Settings κ α), sources.load readers = .ok settings → ∀ before layer after,
        sources.layers readers = before ++ layer :: after → layer.Writes readers sources.lead names →
        (∀ later ∈ after, later.value? readers sources.lead namesKey = none) → sources.names readers = .ok names := by
  refine ⟨fun t spells => readVariable_of_spells readers spells valid,
    fun settings given lists => names_of_lists lists valid, ?_⟩
  intro sources settings loaded before layer after row writes last
  obtain ⟨given, gives, lists⟩ := writes.exists_value? valid
  have value : Assoc.get? namesKey settings = some given := by
    rw [get?_of_load loaded, Sources.value?, List.findSome?_eq_some_iff]
    refine ⟨after.reverse, layer, before.reverse, by simp [row], gives, fun later member => ?_⟩
    exact last later (List.mem_reverse.1 member)
  rw [Sources.names, loaded]
  exact names_of_lists lists valid value

/-- A list in the overrides, its JSON in a variable with escapes in it, and a text with commas, blanks and empty pieces in a
variable: a name twice, and one that is not ASCII. -/
theorem names_of_writes_ways :
    let names := ["id".toList, "größe".toList, "id".toList]
    let key := "TRAILHEAD_ROUTER__GLOBAL_QUERY_PARAMS".toList
    let inVariable (t : Text) : Sources Dated := { environment := [(key, t)] }
    let inOverrides : Sources Dated := { overrides := .value (.map [("router".toList,
      .map [("global_query_params".toList, .list (names.map .text))])]) }
    (∀ name ∈ names, Pattern.isName name = true) ∧ inOverrides.names datedReaders = .ok names ∧
      (inVariable (Json.write none (.list (names.map .text)))).names datedReaders = .ok names ∧
      (inVariable " id ,\t, größe,,id\n".toList).names datedReaders = .ok names := by
  intro names key inVariable inOverrides
  have valid : ∀ name ∈ names, Pattern.isName name = true := by decide +kernel
  have named : settingName? "TRAILHEAD_".toList key = some "global_query_params".toList := by decide +kernel
  obtain ⟨readable, -, ways⟩ := names_of_writes datedReaders valid
  have single : ∀ t, Spells names t → (inVariable t).names datedReaders = .ok names := by
    intro t spells
    obtain ⟨v, read, -⟩ := readable t spells
    have merged : mergeAll "TRAILHEAD_".toList ([] : Settings Int Dated) [(key, some t)] =
        .ok [(namesKey, .value v)] := by
      simp only [mergeAll, mergeVariables, named, read]
      rfl
    have loaded : (inVariable t).load datedReaders = .ok [(namesKey, .value v)] := by
      change (mergeAll "TRAILHEAD_".toList [] [(key, some t)] >>= _) = _
      rw [merged]
      rfl
    have spelled : (Layer.bindings ([] ++ (key, some t) :: [])).Writes datedReaders "TRAILHEAD_".toList names :=
      .row (by rw [named]; rfl) spells (by simp)
    exact ways _ _ loaded [_] _ [_] rfl spelled
      (by simp [Layer.value?, documentValue?, inVariable, Readers.look, Shape.ofValue])
  have blank : ∀ c ∈ [' ', '\t', '\n'], Text.isBlank c = true := List.all_eq_true.1 (by decide +kernel)
  have spreads : Spreads names [[' '] ++ "id".toList ++ [' '], ['\t'], [' '] ++ "größe".toList ++ [], [],
      [] ++ "id".toList ++ ['\n']] := by
    refine .name ?_ ?_ (.blank ?_ (.name ?_ ?_ (.blank ?_ (.name ?_ ?_ .nil)))) <;> simp [blank]
  refine ⟨valid, ?_, single _ (.json (Json.spellsTexts_write none names)), single _ (.joined ⟨_, spreads, rfl⟩)⟩
  exact ways _ _ rfl [_, _] _ [] rfl (.document rfl (lists_texts datedReaders names)) (by simp)

end Sources

end TypedRoutes
