import TypedRoutes.Proofs.Settings.Precedence

/-!
# What can be wrong with configuration

What is wrong with a source can be read off the source alone, whatever was merged before it. `Sources.problems` lists
what is wrong with all of them, in the order in which they are merged, and `Meets` says of a stage that it stops with
the first problem and succeeds when there is none. Stages in a row meet the problems of all of them (`Meets.bind`,
`meets_foldlM`), so that loading stops with the first problem of the sources (`meets_load`).

So the configuration reports what is wrong as a problem of its own exactly when the first problem is of that kind. What a
reader has to say about a text goes through as it is (`refused_of_mem_problems`): a file that is refused, be it a document
or a file of variables, or a variable in brackets that goes beyond a limit. So does an object that no message can show.
Nothing is assumed of the readers of YAML and of files of variables.
-/

namespace TypedRoutes

set_option autoImplicit false

open Settings

variable {κ α : Type} {readers : Readers κ α}

/-- A stage stops with the first of the problems, and succeeds when there is none. -/
def Meets {σ : Type} (stage : Except SettingsError σ) : List SettingsError → Prop
  | [] => ∃ a, stage = .ok a
  | e :: _ => stage = .error e

/-- Two stages meet the problems of the first and then those of the second. -/
theorem Meets.bind {σ τ : Type} {stage : Except SettingsError σ} {next : σ → Except SettingsError τ}
    {problems more : List SettingsError} (first : Meets stage problems)
    (second : ∀ a, stage = .ok a → Meets (next a) more) : Meets (stage >>= next) (problems ++ more) := by
  cases problems with
  | nil =>
    obtain ⟨a, ok⟩ := first
    have rest := second a ok
    rw [ok]
    exact rest
  | cons e rest =>
    have stopped : stage = .error e := first
    rw [stopped]
    rfl

/-- A loop meets the problems of its rounds, in order. -/
theorem meets_foldlM {σ : Type} {step : Settings κ α → σ → Except SettingsError (Settings κ α)}
    {problems : σ → List SettingsError} (one : ∀ settings source, Meets (step settings source) (problems source))
    (row : List σ) (settings : Settings κ α) :
    Meets (row.foldlM step settings) (row.flatMap problems) := by
  induction row generalizing settings with
  | nil => exact ⟨settings, rfl⟩
  | cons source rest ih =>
    rw [List.foldlM_cons, List.flatMap_cons]
    exact (one settings source).bind fun between _ => ih between

/-- A stage succeeds or reports a problem exactly when its first problem is one that is reported. -/
theorem Meets.isReported_iff {σ : Type} {stage : Except SettingsError σ} {problems : List SettingsError}
    (meets : Meets stage problems) :
    ((∃ a, stage = .ok a) ∨ ∃ e, stage = .error e ∧ e.isReported = true) ↔
      ∀ e, problems.head? = some e → e.isReported = true := by
  cases problems with
  | nil =>
    constructor
    · intro _ e none
      cases none
    · intro _
      exact .inl meets
  | cons e rest =>
    have stopped : stage = .error e := meets
    simp [stopped]

/-! ## The problems of a source -/

/-- What is wrong with a variable for a setting. -/
def bindingProblems (lead : Text) (row : Text × Option Text) : List SettingsError :=
  match settingName? lead row.1, row.2 with
  | some _, some t =>
    match readVariable t with
    | .ok _ => []
    | .error e => [e]
  | _, _ => []

/-- What is wrong with a variable is that its text is refused. -/
theorem exists_of_mem_bindingProblems {lead : Text} {row : Text × Option Text} {e : SettingsError}
    (h : e ∈ bindingProblems lead row) : ∃ key t, row = (key, some t) ∧ readVariable t = .error e := by
  obtain ⟨key, value⟩ := row
  unfold bindingProblems at h
  split at h
  · rename_i name t named given
    obtain rfl : value = some t := given
    split at h
    · cases h
    · rename_i refused
      rw [List.mem_singleton.1 h]
      exact ⟨key, t, rfl, refused⟩
  · cases h

/-- What is wrong with the object that is to give the names. -/
def nameProblems (readers : Readers κ α) (given : Object α) : List SettingsError :=
  if (names? readers given).isSome then [] else [refusal readers given]

/-- What keeps an object from being shown is not reported. -/
theorem isReported_of_shownText {given : Object α} {e : SettingsError} (h : readers.shownText given = .error e) :
    e.isReported = false := by
  cases given with
  | value v =>
    rw [Readers.shownText] at h
    split at h
    · cases h
    · cases h
      rfl
  | foreign a =>
    obtain ⟨fault, -, rfl⟩ := mapError_eq_error_iff.1 h
    rfl

/-- An object that gives no names is reported when it can be shown. -/
theorem reported_nameProblems_iff (given : Object α) :
    (∀ e, (nameProblems readers given).head? = some e → e.isReported = true) ↔
      (names? readers given).isSome = true ∨ ∃ shown, readers.shownText given = .ok shown := by
  unfold nameProblems
  by_cases gives : (names? readers given).isSome = true
  · simp [gives]
  · rw [if_neg gives, refusal]
    cases made : readers.shownText given with
    | ok shown => simp [SettingsError.isReported]
    | error e =>
      have through : e.isReported = false := isReported_of_shownText made
      simp [gives, through]

variable [DecidableEq κ]

/-- What is wrong with a document: it is no map, or its section is none. -/
def documentProblems (readers : Readers κ α) (source : Text) (document : Object α) : List SettingsError :=
  match readers.look document with
  | .map entries =>
    match (Assoc.get? sectionKey entries).map readers.look with
    | none | some .none | some (.map _) => []
    | some _ => [.sectionNotMap source]
  | _ => [.notMap source]

namespace Sources

/-- What is wrong with the file at a path. -/
def fileProblems (readers : Readers κ α) (tree : FileTree) (path : Text) : List SettingsError :=
  match tree.read? path with
  | none => [.directory (FileTree.shownPath path)]
  | some content =>
    match readDocument readers path content with
    | .error e => [e]
    | .ok document =>
      match readers.look document with
      | .none => []
      | _ => documentProblems readers (FileTree.shownPath path) document

/-- What is wrong with the files of a pattern. -/
def patternProblems (readers : Readers κ α) (tree : FileTree) (pattern : Text) : List SettingsError :=
  match tree.glob pattern with
  | [] => [.noFile pattern]
  | paths => paths.flatMap (fileProblems readers tree)

/-- What is wrong with the file of variables: it cannot be read, or some of its variables cannot. -/
def variableProblems (readers : Readers κ α) (sources : Sources α) : List SettingsError :=
  match sources.fileVariables readers with
  | .error e => [e]
  | .ok rows => rows.flatMap (bindingProblems sources.lead)

/-- What is wrong with the overrides, when there are any. -/
def overrideProblems (readers : Readers κ α) (overrides : Object α) : List SettingsError :=
  if (readers.look overrides).isFalsy then [] else documentProblems readers "overrides".toList overrides

/-- What is wrong with the sources, in the order in which they are merged. -/
def problems (readers : Readers κ α) (sources : Sources α) : List SettingsError :=
  sources.patterns.flatMap (patternProblems readers sources.tree) ++ (sources.variableProblems readers ++
    (sources.environmentVariables.flatMap (bindingProblems sources.lead) ++
      overrideProblems readers sources.overrides))

end Sources

/-! ## Stages -/

/-- Merging a document goes wrong by what is wrong with the document, whatever the settings are. -/
theorem meets_merge (settings : Settings κ α) (source : Text) (document : Object α) :
    Meets (settings.merge readers source document) (documentProblems readers source document) := by
  unfold merge documentProblems
  cases readers.look document with
  | map entries =>
    simp only
    cases (Assoc.get? sectionKey entries).map readers.look with
    | none => exact ⟨settings, rfl⟩
    | some section' =>
      cases section' with
      | none => exact ⟨settings, rfl⟩
      | map more => exact ⟨_, rfl⟩
      | _ => rfl
  | _ => rfl

/-- Merging bindings meets the problems of each. -/
theorem meets_mergeAll (lead : Text) (settings : Settings κ α) (rows : List (Text × Option Text)) :
    Meets (Sources.mergeAll lead settings rows) (rows.flatMap (bindingProblems lead)) := by
  induction rows generalizing settings with
  | nil => exact ⟨settings, rfl⟩
  | cons row rows ih =>
    obtain ⟨key, value⟩ := row
    have passed : ∀ between : Settings κ α,
        settings.mergeVariables lead ((key, value) :: rows) = between.mergeVariables lead rows →
        bindingProblems lead (key, value) = [] → Meets (Sources.mergeAll lead settings ((key, value) :: rows))
          (((key, value) :: rows).flatMap (bindingProblems lead)) := by
      intro between same none
      rw [Sources.mergeAll, same, List.flatMap_cons, none]
      exact ih between
    cases named : settingName? lead key with
    | none => exact passed settings (by simp [mergeVariables, named]) (by simp [bindingProblems, named])
    | some name =>
      cases value with
      | none => exact passed settings (by simp [mergeVariables]) (by simp [bindingProblems])
      | some t =>
        cases read : readVariable t with
        | ok v =>
          exact passed (Assoc.set (.text name) (.value v) settings) (by simp [mergeVariables, named, read])
            (by simp [bindingProblems, named, read])
        | error e => simp [Sources.mergeAll, mergeVariables, bindingProblems, named, read, Meets]

/-- Settings have names unless they have an object for them that gives none. -/
theorem Settings.meets_names (settings : Settings κ α) :
    Meets (settings.names readers) (((Assoc.get? namesKey settings).map (nameProblems readers)).getD []) := by
  unfold names
  cases Assoc.get? namesKey settings with
  | none => exact ⟨[], rfl⟩
  | some given => cases all : names? readers given <;> simp [nameProblems, all, Meets]

namespace Sources

/-- Merging a file meets the problems of its document. -/
theorem meets_mergeFile (tree : FileTree) (settings : Settings κ α) (path : Text) :
    Meets (mergeFile readers tree settings path) (fileProblems readers tree path) := by
  unfold mergeFile fileProblems
  cases tree.read? path with
  | none => rfl
  | some content =>
    simp only
    cases readDocument readers path content with
    | error e => rfl
    | ok document =>
      simp only
      cases readers.look document with
      | none => exact ⟨settings, rfl⟩
      | _ => exact meets_merge settings _ _

theorem meets_mergePattern (tree : FileTree) (settings : Settings κ α) (pattern : Text) :
    Meets (mergePattern readers tree settings pattern) (patternProblems readers tree pattern) := by
  unfold mergePattern patternProblems
  cases tree.glob pattern with
  | nil => rfl
  | cons path paths => exact meets_foldlM (meets_mergeFile tree) (path :: paths) settings

/-- Reading the file of variables and merging them goes wrong by what is wrong with the file. -/
theorem meets_mergeFileVariables (sources : Sources α) (settings : Settings κ α) :
    Meets (sources.fileVariables readers >>= fun rows => mergeAll sources.lead settings rows)
      (sources.variableProblems readers) := by
  unfold variableProblems
  cases sources.fileVariables readers with
  | error e => rfl
  | ok rows => exact meets_mergeAll sources.lead settings rows

/-- **Loading** stops with the first problem of the sources. -/
theorem meets_load (sources : Sources α) : Meets (sources.load readers) (sources.problems readers) := by
  apply (meets_foldlM (meets_mergePattern sources.tree) _ _).bind
  intro fromFiles _
  rw [← bind_assoc]
  apply (meets_mergeFileVariables sources fromFiles).bind
  intro fromVariables _
  apply (meets_mergeAll sources.lead fromVariables _).bind
  intro fromEnvironment _
  unfold overrideProblems
  split
  · exact ⟨fromEnvironment, rfl⟩
  · exact meets_merge fromEnvironment _ _

end Sources

/-! ## What is reported -/

namespace Sources

/-- All problems of the sources, and then that with the object which is to give the names. -/
theorem meets_names (sources : Sources α) :
    Meets (sources.names readers)
      (sources.problems readers ++ ((sources.value? readers namesKey).map (nameProblems readers)).getD []) := by
  apply (meets_load sources).bind
  intro settings loaded
  rw [← get?_of_load loaded namesKey]
  exact Settings.meets_names settings

/-- What a reader of files or variables refuses, and in which words. -/
inductive Refused (readers : Readers κ α) (sources : Sources α) : SettingsError → Prop where
  | directory {path : Text} (listed : path ∈ sources.paths) (unread : sources.tree.read? path = none) :
      Refused readers sources (.directory (FileTree.shownPath path))
  | file {path content : Text} {e : SettingsError} (listed : path ∈ sources.paths)
      (there : sources.tree.read? path = some content) (refused : readDocument readers path content = .error e) :
      Refused readers sources e
  | variableFile {content : Text} {e : ReaderError} (there : sources.tree.read? sources.variableFile = some content)
      (refused : readers.bindings sources.environ (Text.unifyNewlines content) = .error e) :
      Refused readers sources (.reader e)
  | binding {rows : List (Text × Option Text)} {key t : Text} {e : SettingsError}
      (read : sources.fileVariables readers = .ok rows) (listed : (key, some t) ∈ rows)
      (refused : readVariable t = .error e) : Refused readers sources e
  | variable {key t : Text} {e : SettingsError} (listed : (key, some t) ∈ sources.environmentVariables)
      (refused : readVariable t = .error e) : Refused readers sources e

/-- What is wrong with a document is reported. -/
theorem isReported_of_mem_documentProblems {source : Text} {document : Object α} {e : SettingsError}
    (h : e ∈ documentProblems readers source document) : e.isReported = true := by
  unfold documentProblems at h
  split at h
  · split at h
    · cases h
    · cases h
    · cases h
    · rw [List.mem_singleton.1 h]
      rfl
  · rw [List.mem_singleton.1 h]
    rfl

/-- A problem of a file that goes through as it is comes from what a reader has refused. -/
theorem refused_of_mem_fileProblems {sources : Sources α} {path : Text} (listed : path ∈ sources.paths)
    {e : SettingsError} (h : e ∈ fileProblems readers sources.tree path) (through : e.isReported = false) :
    Refused readers sources e := by
  unfold fileProblems at h
  cases there : sources.tree.read? path with
  | none =>
    simp only [there, List.mem_singleton] at h
    subst h
    exact .directory listed there
  | some content =>
    simp only [there] at h
    split at h
    · rename_i refused
      rw [List.mem_singleton.1 h]
      exact .file listed there refused
    · split at h
      · cases h
      · rw [isReported_of_mem_documentProblems h] at through
        cases through

omit [DecidableEq κ] in
/-- So does a problem of the variables. -/
theorem refused_of_mem_variableProblems {sources : Sources α} {e : SettingsError}
    (h : e ∈ sources.variableProblems readers) : Refused readers sources e := by
  unfold variableProblems at h
  cases read : sources.fileVariables readers with
  | error fault =>
    simp only [read, List.mem_singleton] at h
    subst h
    unfold fileVariables at read
    split at read
    · rename_i content there
      obtain ⟨fault, refused, rfl⟩ := mapError_eq_error_iff.1 read
      exact .variableFile there refused
    · cases read
  | ok rows =>
    simp only [read, List.mem_flatMap] at h
    obtain ⟨row, listed, h⟩ := h
    obtain ⟨key, t, rfl, refused⟩ := exists_of_mem_bindingProblems h
    exact .binding read listed refused

/-- What goes through is what a reader says. -/
theorem refused_of_mem_problems {sources : Sources α} {e : SettingsError} (h : e ∈ sources.problems readers)
    (through : e.isReported = false) : Refused readers sources e := by
  simp only [problems, List.mem_append, List.mem_flatMap] at h
  rcases h with ⟨pattern, listed, h⟩ | h | ⟨row, listed, h⟩ | h
  · unfold patternProblems at h
    split at h
    · rw [List.mem_singleton.1 h] at through
      cases through
    · obtain ⟨path, found, h⟩ := List.mem_flatMap.1 h
      exact refused_of_mem_fileProblems (List.mem_flatMap.2 ⟨pattern, listed, found⟩) h through
  · exact refused_of_mem_variableProblems h
  · obtain ⟨key, t, rfl, refused⟩ := exists_of_mem_bindingProblems h
    exact .variable listed refused
  · unfold overrideProblems at h
    split at h
    · cases h
    · rw [isReported_of_mem_documentProblems h] at through
      cases through

/-- **What is reported.** Whatever the readers make of the texts, configuration ends with a list of names or reports what
is wrong with it as a problem of its own, exactly when the first problem of the sources is of that kind, if there is any,
and an object that is to give the names does so or can be shown. A problem of the sources that is not of that kind is what
a reader says about a text. -/
theorem reported_iff (readers : Readers κ α) (sources : Sources α) :
    (((∃ names, sources.names readers = .ok names) ∨ ∃ e, sources.names readers = .error e ∧ e.isReported = true) ↔
      (∀ e, (sources.problems readers).head? = some e → e.isReported = true) ∧
        (sources.problems readers = [] → ∀ given, sources.value? readers namesKey = some given →
          (names? readers given).isSome = true ∨ ∃ shown, readers.shownText given = .ok shown)) ∧
      ∀ e ∈ sources.problems readers, e.isReported = false → Refused readers sources e := by
  refine ⟨?_, fun e => refused_of_mem_problems⟩
  rw [(meets_names sources).isReported_iff]
  cases first : sources.problems readers with
  | cons e rest => simp
  | nil =>
    cases value : sources.value? readers namesKey with
    | none => simp
    | some given => simpa using reported_nameProblems_iff given

/-- Configuration ends with an error that is no problem of its own. -/
def Escapes (readers : Readers κ α) (sources : Sources α) : Prop :=
  ∃ e, sources.names readers = .error e ∧ e.isReported = false

theorem escapes_iff (readers : Readers κ α) (sources : Sources α) :
    sources.Escapes readers ↔ (match sources.names readers with
      | .error e => e.isReported
      | .ok _ => true) = false := by
  unfold Escapes
  cases sources.names readers <;> simp

instance (readers : Readers κ α) (sources : Sources α) : Decidable (sources.Escapes readers) :=
  decidable_of_iff _ (escapes_iff readers sources).symm

/-- A single file, by the path that is its pattern. -/
def ofFile (path content : Text) : Sources α where
  tree := .ofFiles [(path, content)]
  patterns := [path]

/-- A single variable of the environment. -/
def ofVariable (t : Text) : Sources α where
  environment := [("TRAILHEAD_ROUTER__X".toList, t)]

/-- One digit more than an integer may have. -/
def tooMany : Text := List.replicate (Number.maxDigits + 1) '1'

/-- A broken file of either kind, an integer of too many digits, brackets that are nested too deep, and an integer in
place of the names that no message can show. -/
theorem escapes_examples :
    (ofFile "a.json".toList "\x7b".toList).Escapes datedReaders ∧ (ofFile "a.yaml".toList "[".toList).Escapes datedReaders ∧
      (ofVariable ('[' :: tooMany ++ [']'])).Escapes datedReaders ∧
      (ofVariable (List.replicate 991 '[')).Escapes datedReaders ∧
      Escapes datedReaders
        { overrides := .value (.map [("router".toList,
            .map [("global_query_params".toList, .int (Number.ofDigits tooMany))])]) } := by
  decide +kernel

end Sources

end TypedRoutes
