/-!
# Ordered maps

A map is the list of its entries. A key keeps the place where it was first set and the value that it was last set to.
-/

namespace TypedRoutes.Assoc

set_option autoImplicit false

variable {κ α : Type} [DecidableEq κ]

/-- The value at a key. -/
def get? (key : κ) : List (κ × α) → Option α
  | [] => none
  | (k, v) :: rest => if k = key then some v else get? key rest

/-- The map with the value at a key set: in place when the key is there, at the end otherwise. -/
def set (key : κ) (value : α) : List (κ × α) → List (κ × α)
  | [] => [(key, value)]
  | (k, v) :: rest => if k = key then (k, value) :: rest else (k, v) :: set key value rest

/-- The map with the entries of another set one after the other. -/
def update (entries more : List (κ × α)) : List (κ × α) :=
  more.foldl (fun acc entry => set entry.1 entry.2 acc) entries

/-- The map that setting the given pairs one after the other builds. -/
def ofPairs (pairs : List (κ × α)) : List (κ × α) := update [] pairs

/-- The keys in order. -/
def keys (entries : List (κ × α)) : List κ := entries.map Prod.fst

/-- Reading a map after setting a key. -/
theorem get?_set (key k : κ) (value : α) (entries : List (κ × α)) :
    get? k (set key value entries) = if key = k then some value else get? k entries := by
  induction entries with
  | nil => simp [set, get?]
  | cons e rest ih =>
    obtain ⟨k', v'⟩ := e
    by_cases h : k' = key <;> by_cases h2 : key = k <;> simp_all [set, get?]

end TypedRoutes.Assoc
