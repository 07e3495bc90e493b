import TypedRoutes.Proofs.Assoc
import TypedRoutes.Proofs.Stages
import TypedRoutes.Settings.Sources

/-!
# Which source a setting comes from

The sources of settings are layers: the documents of the files, the variables of a file, those of the environment,
and the overrides. `Layer.value?` is the value that a layer gives a setting, read off the layer alone. Merging a layer
replaces exactly the settings that it gives (`Overlays`), so that after the whole row of layers each setting has the
value of the last one that gives it any (`overlays_of_load`).
-/

namespace TypedRoutes

set_option autoImplicit false

open Settings

/-- A source of settings. -/
inductive Layer (α : Type) where
  | document (content : Object α)
  | bindings (rows : List (Text × Option Text))

variable {κ α : Type} [DecidableEq κ] {readers : Readers κ α}

/-- The object that a document gives a setting: the one in its section. -/
def documentValue? (readers : Readers κ α) (name : Key κ) (document : Object α) : Option (Object α) :=
  match readers.look document with
  | .map entries =>
    match (Assoc.get? sectionKey entries).map readers.look with
    | some (.map more) => Assoc.get? name (Assoc.ofPairs more)
    | _ => none
  | _ => none

/-- The value that a variable gives a setting, when it is one for that setting and has a text. -/
def bindingValue? (lead : Text) (name : Key κ) (row : Text × Option Text) : Option (Object α) :=
  if (settingName? lead row.1).map .text = some name then
    row.2.bind fun t => (readVariable t).toOption.map .value
  else none

/-- The object that a layer gives a setting. Of several variables for it the last one counts. -/
def Layer.value? (readers : Readers κ α) (lead : Text) (name : Key κ) : Layer α → Option (Object α)
  | document content => documentValue? readers name content
  | bindings rows => rows.reverse.findSome? (bindingValue? lead name)

namespace Sources

/-- The files that the patterns stand for, in the order in which they are read. -/
def paths (sources : Sources α) : List Text := sources.patterns.flatMap sources.tree.glob

/-- The document in the file at a path; nothing, if there is no file that can be read. -/
def documentAt (readers : Readers κ α) (tree : FileTree) (path : Text) : Object α :=
  match (tree.read? path).map (readDocument readers path) with
  | some (.ok document) => document
  | _ => .value .none

/-- The layers, from the first that is merged to the last. -/
def layers (readers : Readers κ α) (sources : Sources α) : List (Layer α) :=
  (sources.paths.map fun path => .document (documentAt readers sources.tree path)) ++
    [.bindings ((sources.fileVariables readers).toOption.getD []), .bindings sources.environmentVariables,
      .document sources.overrides]

/-- The object that the layers give a setting: that of the last one to give it any. -/
def value? (readers : Readers κ α) (sources : Sources α) (name : Key κ) : Option (Object α) :=
  (sources.layers readers).reverse.findSome? (Layer.value? readers sources.lead name)

end Sources

/-! ## Overlays -/

/-- Settings after others, with the given ones in place of what was there. -/
structure Overlays (given : Key κ → Option (Object α)) (settings after : Settings κ α) : Prop where
  get? : ∀ name, Assoc.get? name after = (given name).or (Assoc.get? name settings)
  distinct : (Assoc.keys settings).Nodup → (Assoc.keys after).Nodup

variable {given more : Key κ → Option (Object α)} {settings between after : Settings κ α}

theorem Overlays.refl (settings : Settings κ α) : Overlays (fun _ => none) settings settings where
  get? _ := Option.none_or.symm
  distinct := id

theorem Overlays.trans (first : Overlays given settings between) (second : Overlays more between after) :
    Overlays (fun name => (more name).or (given name)) settings after where
  get? name := by rw [second.get?, first.get?, Option.or_assoc]
  distinct h := second.distinct (first.distinct h)

/-- Sources merged one after the other: the last one that gives a setting counts. -/
theorem overlays_of_foldlM {σ : Type} {step : Settings κ α → σ → Except SettingsError (Settings κ α)}
    {value? : σ → Key κ → Option (Object α)}
    (one : ∀ settings source after, step settings source = .ok after → Overlays (value? source) settings after)
    {row : List σ} (merged : row.foldlM step settings = .ok after) :
    Overlays (fun name => row.reverse.findSome? fun source => value? source name) settings after := by
  induction row generalizing settings with
  | nil =>
    cases merged
    exact .refl _
  | cons source rest ih =>
    rw [List.foldlM_cons, bind_eq_ok_iff] at merged
    obtain ⟨between, first, others⟩ := merged
    have both := (one settings source between first).trans (ih others)
    simpa [List.findSome?_append] using both

/-! ## One layer -/

/-- Merging a document replaces the settings in its section. -/
theorem overlays_of_merge {source : Text} {document : Object α}
    (merged : settings.merge readers source document = .ok after) :
    Overlays (fun name => documentValue? readers name document) settings after := by
  unfold merge at merged
  split at merged
  · rename_i entries seen
    split at merged
    · rename_i absent
      cases merged
      simpa only [documentValue?, seen, absent] using Overlays.refl settings
    · rename_i empty
      cases merged
      simpa only [documentValue?, seen, empty] using Overlays.refl settings
    · rename_i section' present
      cases merged
      constructor
      · intro name
        simp only [documentValue?, seen, present, Assoc.get?_update, Assoc.get?_ofPairs]
      · exact fun h => Assoc.nodup_keys_update h section'
    · cases merged
  · cases merged

/-- Merging variables replaces the settings that they are for. -/
theorem overlays_of_mergeVariables {lead : Text} {rows : List (Text × Option Text)}
    (merged : settings.mergeVariables lead rows = (after, none)) :
    Overlays (fun name => rows.reverse.findSome? (bindingValue? lead name)) settings after := by
  induction rows generalizing settings with
  | nil =>
    cases merged
    exact .refl _
  | cons row rows ih =>
    obtain ⟨key, value⟩ := row
    suffices ∃ between, Overlays (fun name => bindingValue? lead name (key, value)) settings between ∧
        between.mergeVariables lead rows = (after, none) by
      obtain ⟨between, first, others⟩ := this
      have both := first.trans (ih others)
      simpa [List.findSome?_append] using both
    cases named : settingName? lead key with
    | none =>
      simp only [mergeVariables, named] at merged
      exact ⟨settings, by simpa [bindingValue?, named] using Overlays.refl settings, merged⟩
    | some name =>
      cases value with
      | none =>
        simp only [mergeVariables, named] at merged
        exact ⟨settings, by simpa [bindingValue?] using Overlays.refl settings, merged⟩
      | some t =>
        simp only [mergeVariables, named] at merged
        split at merged
        · rename_i v read
          refine ⟨Assoc.set (Key.text name) (Object.value v) settings,
            ⟨fun other => ?_, Assoc.nodup_keys_set (Key.text name) (Object.value v)⟩, merged⟩
          rw [Assoc.get?_set, bindingValue?, named]
          by_cases same : Key.text name = other <;> simp [same, read, Except.toOption]
        · cases merged

/-! ## All layers -/

namespace Sources

variable {tree : FileTree}

/-- Merging a file puts the settings of its document over those that were there. -/
theorem overlays_of_mergeFile {path : Text} (merged : mergeFile readers tree settings path = .ok after) :
    Overlays (fun name => documentValue? readers name (documentAt readers tree path)) settings after := by
  unfold mergeFile at merged
  split at merged
  · cases merged
  · rename_i content there
    split at merged
    · cases merged
    · rename_i document read
      have found : documentAt readers tree path = document := by
        simp only [documentAt, there, Option.map_some, read]
      rw [found]
      split at merged
      · rename_i empty
        cases merged
        simpa only [documentValue?, empty] using Overlays.refl settings
      · exact overlays_of_merge merged

/-- The files of one pattern after those of the other make a single row of files. -/
theorem foldlM_mergeFile {patterns : List Text}
    (merged : patterns.foldlM (mergePattern readers tree) settings = .ok after) :
    (patterns.flatMap tree.glob).foldlM (mergeFile readers tree) settings = .ok after := by
  induction patterns generalizing settings with
  | nil => exact merged
  | cons pattern rest ih =>
    rw [List.foldlM_cons, bind_eq_ok_iff] at merged
    obtain ⟨between, first, others⟩ := merged
    unfold mergePattern at first
    split at first
    · cases first
    · rw [List.flatMap_cons, List.foldlM_append, bind_eq_ok_iff]
      exact ⟨between, first, ih others⟩

/-- Merging bindings puts the values of those for settings over them, the last one for a name first. -/
theorem overlays_of_mergeAll {lead : Text} {rows : List (Text × Option Text)}
    (merged : mergeAll lead settings rows = .ok after) :
    Overlays (fun name => rows.reverse.findSome? (bindingValue? lead name)) settings after := by
  unfold mergeAll at merged
  split at merged
  · rename_i all
    cases merged
    exact overlays_of_mergeVariables all
  · cases merged

/-- A document that counts as nothing given gives no setting. -/
theorem documentValue?_of_isFalsy {document : Object α} (falsy : (readers.look document).isFalsy = true)
    (name : Key κ) : documentValue? readers name document = none := by
  unfold documentValue?
  cases seen : readers.look document with
  | map entries =>
    rw [seen] at falsy
    cases entries with
    | nil => rfl
    | cons entry rest => cases falsy
  | _ => rfl

/-- Overrides go before the environment, the environment before the file of variables, and that before the files. -/
theorem value?_eq (sources : Sources α) (name : Key κ) :
    sources.value? readers name = (documentValue? readers name sources.overrides).or
      ((sources.environmentVariables.reverse.findSome? (bindingValue? sources.lead name)).or
        ((((sources.fileVariables readers).toOption.getD []).reverse.findSome? (bindingValue? sources.lead name)).or
          (sources.paths.reverse.findSome? fun path =>
            documentValue? readers name (documentAt readers sources.tree path)))) := by
  have latestFirst : ∀ (files : List (Layer α)) (a b c : Layer α),
      (files ++ [a, b, c]).reverse = [c] ++ ([b] ++ ([a] ++ files.reverse)) := by simp
  rw [value?, layers, latestFirst, ← List.map_reverse]
  simp only [List.findSome?_append, List.findSome?_singleton, List.findSome?_map]
  rfl

/-- Loading replaces nothing but what some layer gives, and with what the last one gives. -/
theorem overlays_of_load {sources : Sources α} (loaded : sources.load readers = .ok settings) :
    Overlays (sources.value? readers) [] settings := by
  simp only [load, bind_eq_ok_iff] at loaded
  obtain ⟨fromFiles, files, rows, read, fromVariables, ofFile, fromEnvironment, ofEnvironment, last⟩ := loaded
  have one : ∀ settings path after, mergeFile readers sources.tree settings path = .ok after →
      Overlays (fun name => documentValue? readers name (documentAt readers sources.tree path)) settings after :=
    fun _ _ _ => overlays_of_mergeFile
  have documents := overlays_of_foldlM one (foldlM_mergeFile files)
  have overrides : Overlays (fun name => documentValue? readers name sources.overrides) fromEnvironment settings := by
    split at last
    · rename_i falsy
      cases last
      simpa only [documentValue?_of_isFalsy falsy] using Overlays.refl settings
    · exact overlays_of_merge last
  have all := ((documents.trans (overlays_of_mergeAll ofFile)).trans (overlays_of_mergeAll ofEnvironment)).trans overrides
  have same : (sources.fileVariables readers).toOption.getD [] = rows := by rw [read]; rfl
  rw [← same] at all
  rwa [show sources.value? readers = _ from funext sources.value?_eq]

/-- Loaded settings have for a name what the sources give it. -/
theorem get?_of_load {sources : Sources α} (loaded : sources.load readers = .ok settings) (name : Key κ) :
    Assoc.get? name settings = sources.value? readers name := by
  rw [(overlays_of_load loaded).get?, Assoc.get?, Option.or_none]

/-- Objects of a document that are no values: the document, its section, and a date in it. -/
inductive Dated where
  | document
  | settings
  | date
  deriving DecidableEq

/-- A document with a date and with a number as a key. -/
def datedText : Text := "router:\n  w: 2024-01-01\n  5: x\n  y: 1\n  z: 1\n".toList

/-- Variables of which one refers to the environment. -/
def referringText : Text :=
  "TRAILHEAD_ROUTER__X=2\nTRAILHEAD_ROUTER__y=$\x7bHOME\x7d\nTRAILHEAD_ROUTER__U=2".toList

/-- Readers that know these two texts, and no other but a lone bracket. -/
def datedReaders : Readers Int Dated where
  yaml path content :=
    if content = datedText then .ok (.foreign .document)
    else .error {
      kind := "ParserError".toList
      message := "while parsing a flow node\nexpected the node content, but found '<stream end>'\n  in \"".toList ++
        path ++ "\", line 1, column 2".toList }
  bindings environment content :=
    if content = referringText then
      .ok [("TRAILHEAD_ROUTER__X".toList, some "2".toList),
        ("TRAILHEAD_ROUTER__y".toList, some ((Assoc.get? "HOME".toList environment).getD [])),
        ("TRAILHEAD_ROUTER__U".toList, some "2".toList)]
    else .ok []
  shape
    | .document => .map [(.text "router".toList, .foreign .settings)]
    | .settings => .map [(.text "w".toList, .foreign .date), (.other 5, .value (.text "x".toList)),
        (.text "y".toList, .value (.int 1)), (.text "z".toList, .value (.int 1))]
    | .date => .other false
  shown
    | .document => .ok "\x7b'router': \x7b'w': datetime.date(2024, 1, 1), 5: 'x', 'y': 1, 'z': 1\x7d\x7d".toList
    | .settings => .ok "\x7b'w': datetime.date(2024, 1, 1), 5: 'x', 'y': 1, 'z': 1\x7d".toList
    | .date => .ok "datetime.date(2024, 1, 1)".toList

end Sources

end TypedRoutes
