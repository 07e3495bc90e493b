import Mathlib.Data.List.Induction
import Mathlib.Data.List.Nodup
import TypedRoutes.Assoc

/-!
# Building ordered maps from pairs

A map that is built from pairs with distinct keys is the list of the pairs (`ofPairs_of_nodup`). In general a key
has the last value that the pairs give it, at the place of its first pair: `get?_update` reads a map after an update by
the last pair of the key, and `keys_ofPairs` lists the keys of a map.

Updating a map with pairs and with the map that they build is the same (`update_ofPairs`), because a key that is set
again keeps its place. Neighbours with distinct keys may be exchanged, up to the order of the keys
(`ofPairs_exchange`).
-/

namespace TypedRoutes.Assoc

set_option autoImplicit false

variable {κ α : Type}

@[simp] theorem keys_nil : keys ([] : List (κ × α)) = [] := rfl

@[simp] theorem keys_cons (entry : κ × α) (rest : List (κ × α)) :
    keys (entry :: rest) = entry.1 :: keys rest := rfl

@[simp] theorem keys_append (entries more : List (κ × α)) :
    keys (entries ++ more) = keys entries ++ keys more := List.map_append

theorem mem_keys_iff {key : κ} {entries : List (κ × α)} : key ∈ keys entries ↔ ∃ v, (key, v) ∈ entries := by
  simp [keys]

/-- Entries that stand under the keys of what they are made from have those keys, in order. -/
theorem keys_filterMap_sublist {β : Type} {key : β → κ} {entryOf? : β → Option (κ × α)}
    (own : ∀ b entry, entryOf? b = some entry → entry.1 = key b) (bs : List β) :
    (keys (bs.filterMap entryOf?)).Sublist (bs.map key) := by
  induction bs with
  | nil => exact .slnil
  | cons b rest ih =>
    cases made : entryOf? b with
    | none =>
      rw [List.filterMap_cons_none made]
      exact ih.cons (key b)
    | some entry =>
      rw [List.filterMap_cons_some made, keys_cons, own b entry made]
      exact ih.cons_cons (key b)

variable [DecidableEq κ]

/-- A new key goes to the end. -/
theorem set_of_notMem {key : κ} (value : α) {entries : List (κ × α)} (h : key ∉ keys entries) :
    set key value entries = entries ++ [(key, value)] := by
  induction entries with
  | nil => rfl
  | cons e rest ih =>
    obtain ⟨k, v⟩ := e
    simp only [keys_cons, List.mem_cons, not_or] at h
    rw [set, if_neg (Ne.symm h.1), ih h.2]
    rfl

theorem mem_keys_set {key k : κ} {value : α} {entries : List (κ × α)} :
    k ∈ keys (set key value entries) ↔ k = key ∨ k ∈ keys entries := by
  induction entries with
  | nil => simp [set]
  | cons e rest ih =>
    by_cases he : e.1 = key
    · simp [set, he]
    · simp only [set, he, if_false, keys_cons, List.mem_cons, ih]
      exact or_left_comm

/-- Distinct keys stay distinct. -/
theorem nodup_keys_set (key : κ) (value : α) {entries : List (κ × α)} (h : (keys entries).Nodup) :
    (keys (set key value entries)).Nodup := by
  induction entries with
  | nil => simp [set]
  | cons e rest ih =>
    rw [keys_cons, List.nodup_cons] at h
    by_cases he : e.1 = key
    · simpa [set, he] using ⟨he ▸ h.1, h.2⟩
    · simp only [set, he, if_false, keys_cons, List.nodup_cons, mem_keys_set, not_or, not_false_eq_true, true_and]
      exact ⟨h.1, ih h.2⟩

theorem nodup_keys_update {entries : List (κ × α)} (h : (keys entries).Nodup) (more : List (κ × α)) :
    (keys (update entries more)).Nodup := by
  induction more generalizing entries with
  | nil => exact h
  | cons e rest ih => exact ih (nodup_keys_set e.1 e.2 h)

theorem nodup_keys_ofPairs (pairs : List (κ × α)) : (keys (ofPairs pairs)).Nodup := by
  have none : (keys ([] : List (κ × α))).Nodup := .nil
  exact nodup_keys_update none pairs

/-- Entries with new and distinct keys are appended. -/
theorem update_of_nodup {entries more : List (κ × α)} (h : (keys (entries ++ more)).Nodup) :
    update entries more = entries ++ more := by
  induction more generalizing entries with
  | nil => simp [update]
  | cons e rest ih =>
    have new : e.1 ∉ keys entries := by
      rw [keys_append, keys_cons] at h
      exact fun he => (List.nodup_append.1 h).2.2 e.1 he e.1 (List.mem_cons_self ..) rfl
    have step : update entries (e :: rest) = update (entries ++ [e]) rest := by
      rw [update, List.foldl_cons, set_of_notMem _ new]
      rfl
    rw [step, ih (by simpa using h)]
    simp

/-- Pairs with distinct keys are a map as they stand. -/
theorem ofPairs_of_nodup {pairs : List (κ × α)} (h : (keys pairs).Nodup) : ofPairs pairs = pairs := by
  have fresh : (keys ([] ++ pairs)).Nodup := h
  rw [ofPairs, update_of_nodup fresh, List.nil_append]

/-- What is found under a key stands in the list. -/
theorem mem_of_get?_eq_some {key : κ} {value : α} {entries : List (κ × α)} (h : get? key entries = some value) :
    (key, value) ∈ entries := by
  induction entries with
  | nil => cases h
  | cons e rest ih =>
    obtain ⟨k, v⟩ := e
    rw [get?] at h
    split at h
    · rename_i hk
      cases h
      rw [hk]
      exact List.mem_cons_self ..
    · exact List.mem_cons_of_mem _ (ih h)

/-- In a map with distinct keys, reading finds exactly the entries. -/
theorem get?_eq_some_iff {entries : List (κ × α)} (h : (keys entries).Nodup) {key : κ} {value : α} :
    get? key entries = some value ↔ (key, value) ∈ entries := by
  induction entries with
  | nil => simp [get?]
  | cons e rest ih =>
    obtain ⟨k, v⟩ := e
    rw [keys_cons, List.nodup_cons] at h
    by_cases hk : k = key
    · subst hk
      have absent : (k, value) ∉ rest := fun hm => h.1 (mem_keys_iff.2 ⟨value, hm⟩)
      simp [get?, absent, eq_comm]
    · rw [get?, if_neg hk, ih h.2]
      simp [Ne.symm hk]

/-- The first of two maps that has a key counts. -/
theorem get?_append (key : κ) (entries more : List (κ × α)) :
    get? key (entries ++ more) = (get? key entries).or (get? key more) := by
  induction entries with
  | nil => rfl
  | cons e rest ih => by_cases he : e.1 = key <;> simp [get?, he, ih]

theorem get?_eq_none_iff {key : κ} {entries : List (κ × α)} : get? key entries = none ↔ key ∉ keys entries := by
  induction entries with
  | nil => simp [get?]
  | cons e rest ih =>
    by_cases he : e.1 = key
    · simp [get?, he]
    · simp [get?, he, Ne.symm he, ih]

/-- The last of the new values of a key counts, and otherwise the old one. -/
theorem get?_update (key : κ) (entries more : List (κ × α)) :
    get? key (update entries more) = (get? key more.reverse).or (get? key entries) := by
  induction more generalizing entries with
  | nil => simp [update, get?]
  | cons e rest ih =>
    have step : update entries (e :: rest) = update (set e.1 e.2 entries) rest := rfl
    rw [step, ih, get?_set, List.reverse_cons, get?_append, Option.or_assoc]
    by_cases he : e.1 = key <;> simp [get?, he]

/-- A key that has one value only has that value. -/
theorem get?_eq_some_of_unique {key : κ} {value : α} {entries : List (κ × α)} (hm : (key, value) ∈ entries)
    (h : ∀ v, (key, v) ∈ entries → v = value) : get? key entries = some value := by
  induction entries with
  | nil => cases hm
  | cons e rest ih =>
    obtain ⟨k, v⟩ := e
    by_cases hk : k = key
    · subst hk
      rw [get?, if_pos rfl, h v (List.mem_cons_self ..)]
    · have later : (key, value) ∈ rest := by
        rcases List.mem_cons.1 hm with hm | hm
        · exact absurd (congrArg Prod.fst hm).symm hk
        · exact hm
      rw [get?, if_neg hk]
      exact ih later fun v hv => h v (List.mem_cons_of_mem _ hv)

/-- A map built from pairs has the last value of each key. -/
theorem get?_ofPairs (key : κ) (pairs : List (κ × α)) : get? key (ofPairs pairs) = get? key pairs.reverse := by
  rw [ofPairs, get?_update]
  exact Option.or_none

/-- The entry that is found is the first one with its key. -/
theorem get?_eq_some_iff_append {key : κ} {value : α} {entries : List (κ × α)} :
    get? key entries = some value ↔
      ∃ before after, entries = before ++ (key, value) :: after ∧ key ∉ keys before := by
  constructor
  · intro found
    induction entries with
    | nil => cases found
    | cons e rest ih =>
      obtain ⟨k, v⟩ := e
      by_cases hk : k = key
      · rw [get?, if_pos hk] at found
        cases found
        exact ⟨[], rest, by rw [hk, List.nil_append], by simp⟩
      · rw [get?, if_neg hk] at found
        obtain ⟨before, after, rfl, absent⟩ := ih found
        exact ⟨(k, v) :: before, after, rfl, by simp [absent, Ne.symm hk]⟩
  · rintro ⟨before, after, rfl, absent⟩
    rw [get?_append, get?_eq_none_iff.2 absent, Option.none_or, get?, if_pos rfl]

/-- The value of a key is that of its last pair. -/
theorem get?_ofPairs_eq_some_iff {key : κ} {value : α} {pairs : List (κ × α)} :
    get? key (ofPairs pairs) = some value ↔
      ∃ before after, pairs = before ++ (key, value) :: after ∧ key ∉ keys after := by
  rw [get?_ofPairs, get?_eq_some_iff_append]
  constructor
  · rintro ⟨before, after, split, absent⟩
    refine ⟨after.reverse, before.reverse, ?_, by simpa [keys] using absent⟩
    simpa using congrArg List.reverse split
  · rintro ⟨before, after, rfl, absent⟩
    exact ⟨after.reverse, before.reverse, by simp, by simpa [keys] using absent⟩

/-- Nothing is found in a map made of pairs exactly when none of them has the key. -/
theorem get?_ofPairs_eq_none_iff {key : κ} {pairs : List (κ × α)} :
    get? key (ofPairs pairs) = none ↔ key ∉ keys pairs := by
  rw [get?_ofPairs, get?_eq_none_iff]
  simp [keys]

/-! ## The order of keys -/

theorem ofPairs_concat (pairs : List (κ × α)) (e : κ × α) :
    ofPairs (pairs ++ [e]) = set e.1 e.2 (ofPairs pairs) := by
  simp [ofPairs, update]

/-- A new key goes to the end, and a known one keeps its place. -/
theorem keys_set (key : κ) (value : α) (entries : List (κ × α)) :
    keys (set key value entries) = if key ∈ keys entries then keys entries else keys entries ++ [key] := by
  by_cases known : key ∈ keys entries
  · rw [if_pos known]
    induction entries with
    | nil => cases known
    | cons e rest ih =>
      by_cases he : e.1 = key
      · simp [set, he]
      · have later : key ∈ keys rest := by simpa [Ne.symm he] using known
        simp [set, he, ih later]
  · rw [if_neg known, set_of_notMem value known, keys_append]
    rfl

/-- The keys of a map stand in the order in which the pairs first name them. -/
theorem keys_ofPairs [BEq κ] [LawfulBEq κ] (pairs : List (κ × α)) : keys (ofPairs pairs) = (keys pairs).eraseDups := by
  induction pairs using List.reverseRecOn with
  | nil => rfl
  | append_singleton pairs e ih =>
    rw [ofPairs_concat, keys_set, ih, keys_append, List.eraseDups_append]
    by_cases known : e.1 ∈ keys pairs
    · simp [List.removeAll, known]
    · simp [List.removeAll, known, List.eraseDups_cons]

/-! ## Updating a map with a map -/

/-- The second of two values that a key is set to counts. -/
theorem set_set (key : κ) (v w : α) (entries : List (κ × α)) :
    set key w (set key v entries) = set key w entries := by
  induction entries with
  | nil => simp [set]
  | cons e rest ih => by_cases he : e.1 = key <;> simp [set, he, ih]

/-- A key that is in the map may be set before another key or after it. -/
theorem set_comm {key other : κ} (v w : α) (apart : key ≠ other) {entries : List (κ × α)}
    (known : key ∈ keys entries) : set key v (set other w entries) = set other w (set key v entries) := by
  induction entries with
  | nil => cases known
  | cons e rest ih =>
    by_cases hk : e.1 = key
    · simp [set, hk, apart]
    · by_cases ho : e.1 = other
      · simp [set, ho, Ne.symm apart]
      · have later : key ∈ keys rest := by simpa [Ne.symm hk] using known
        simp [set, hk, ho, ih later]

/-- Setting a key that is known, and that an update leaves alone, can be done after the update. -/
theorem update_set_of_mem {key : κ} {value : α} {entries more : List (κ × α)} (known : key ∈ keys entries)
    (absent : key ∉ keys more) : update (set key value entries) more = set key value (update entries more) := by
  induction more generalizing entries with
  | nil => rfl
  | cons e rest ih =>
    rw [keys_cons, List.mem_cons, not_or] at absent
    have still : key ∈ keys (set e.1 e.2 entries) := mem_keys_set.2 (.inr known)
    calc update (set key value entries) (e :: rest)
        = update (set e.1 e.2 (set key value entries)) rest := rfl
      _ = update (set key value (set e.1 e.2 entries)) rest := by rw [set_comm _ _ absent.1 known]
      _ = set key value (update entries (e :: rest)) := ih still absent.2

/-- Setting a key of the map to update with sets it last. -/
theorem update_set {key : κ} {value : α} {more : List (κ × α)} (distinct : (keys more).Nodup)
    (entries : List (κ × α)) : update entries (set key value more) = set key value (update entries more) := by
  induction more generalizing entries with
  | nil => rfl
  | cons e rest ih =>
    rw [keys_cons, List.nodup_cons] at distinct
    by_cases he : e.1 = key
    -- the key has its place after the first step, so the later ones cannot move it
    · have known : key ∈ keys (set e.1 e.2 entries) := mem_keys_set.2 (.inl he.symm)
      have again : set key value (set e.1 e.2 entries) = set key value entries := by rw [he, set_set]
      calc update entries (set key value (e :: rest))
          = update (set key value entries) rest := by rw [set, if_pos he, update, List.foldl_cons, he]; rfl
        _ = update (set key value (set e.1 e.2 entries)) rest := by rw [again]
        _ = set key value (update entries (e :: rest)) := update_set_of_mem known (he ▸ distinct.1)
    · rw [set, if_neg he]
      exact ih distinct.2 _

/-- **Updating** with pairs and with the map that they build is the same. -/
theorem update_ofPairs (entries pairs : List (κ × α)) : update entries (ofPairs pairs) = update entries pairs := by
  induction pairs using List.reverseRecOn with
  | nil => rfl
  | append_singleton pairs e ih =>
    rw [ofPairs_concat, update_set (nodup_keys_ofPairs pairs), ih]
    simp [update]

/-- More pairs update the map with the map that they make. -/
theorem ofPairs_append (pairs more : List (κ × α)) :
    ofPairs (pairs ++ more) = update (ofPairs pairs) (ofPairs more) := by
  rw [update_ofPairs]
  exact List.foldl_append

/-! ## Maps that agree -/

/-- Maps in which every key has the same value have the same entries. -/
theorem perm_of_get? {entries others : List (κ × α)} (distinct : (keys entries).Nodup)
    (distinct' : (keys others).Nodup) (same : ∀ key, get? key entries = get? key others) : entries.Perm others := by
  apply (List.perm_ext_iff_of_nodup (.of_map Prod.fst distinct) (.of_map Prod.fst distinct')).2
  rintro ⟨key, value⟩
  rw [← get?_eq_some_iff distinct, ← get?_eq_some_iff distinct', same]

/-- The order of the entries does not matter for what a key has. -/
theorem get?_eq_of_perm {entries others : List (κ × α)} (distinct : (keys entries).Nodup)
    (perm : entries.Perm others) (key : κ) : get? key entries = get? key others := by
  have distinct' : (keys others).Nodup := (perm.map Prod.fst).nodup_iff.1 distinct
  apply Option.ext
  intro value
  rw [get?_eq_some_iff distinct, get?_eq_some_iff distinct', perm.mem_iff]

/-- Neighbours with distinct keys may be exchanged. -/
theorem get?_ofPairs_exchange {e f : κ × α} (apart : e.1 ≠ f.1) (before after : List (κ × α)) (key : κ) :
    get? key (ofPairs (before ++ e :: f :: after)) = get? key (ofPairs (before ++ f :: e :: after)) := by
  have pair : get? key [f, e] = get? key [e, f] := by
    by_cases he : e.1 = key
    · have hf : f.1 ≠ key := fun hf => apart (he.trans hf.symm)
      simp [get?, he, hf]
    · simp [get?, he]
  have split : ∀ a b : κ × α, get? key (ofPairs (before ++ a :: b :: after)) =
      (get? key after.reverse).or ((get? key [b, a]).or (get? key before.reverse)) := by
    intro a b
    rw [get?_ofPairs, ← get?_append, ← get?_append]
    simp
  rw [split, split, pair]

/-- **Exchanging** neighbours with distinct keys changes the order of the keys at most. -/
theorem ofPairs_exchange {e f : κ × α} (apart : e.1 ≠ f.1) (before after : List (κ × α)) :
    (ofPairs (before ++ e :: f :: after)).Perm (ofPairs (before ++ f :: e :: after)) :=
  perm_of_get? (nodup_keys_ofPairs _) (nodup_keys_ofPairs _) (get?_ofPairs_exchange apart before after)

end TypedRoutes.Assoc
