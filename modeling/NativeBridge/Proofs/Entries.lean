import Mathlib.Data.List.Nodup
import NativeBridge.Entries

/-!
# Lists of entries

* `lookup_insertEntry`, `insertEntry_self`: what an insertion changes.
* `map_fst_insertEntry`: it keeps the places of the keys.
* `find?_of_nodup`: an element is found by its key if no other one has that key.
-/

namespace NativeBridge

variable {κ α : Type} [DecidableEq κ]

theorem lookup_cons_eq_if (key other : κ) (value : α) (entries : List (κ × α)) :
    ((key, value) :: entries).lookup other =
      if other = key then some value else entries.lookup other := by
  rw [List.lookup_cons]
  by_cases same : other = key
  · simp [same]
  · simp [same, beq_false_of_ne same]

theorem lookup_insertEntry (key other : κ) (value : α) (entries : List (κ × α)) :
    (insertEntry key value entries).lookup other =
      if other = key then some value else entries.lookup other := by
  induction entries with
  | nil => exact lookup_cons_eq_if key other value []
  | cons head rest ih =>
      obtain ⟨first, old⟩ := head
      by_cases same : first = key
      · rw [insertEntry, if_pos same, lookup_cons_eq_if, lookup_cons_eq_if, same]
        split <;> rfl
      · rw [insertEntry, if_neg same, lookup_cons_eq_if, lookup_cons_eq_if, ih]
        grind

theorem insertEntry_self {key : κ} {value : α} {entries : List (κ × α)}
    (found : entries.lookup key = some value) : insertEntry key value entries = entries := by
  induction entries with
  | nil => cases found
  | cons head rest ih =>
      obtain ⟨first, old⟩ := head
      rw [lookup_cons_eq_if] at found
      by_cases same : first = key
      · rw [if_pos same.symm, Option.some.injEq] at found
        rw [insertEntry, if_pos same, same, found]
      · rw [if_neg (Ne.symm same)] at found
        rw [insertEntry, if_neg same, ih found]

theorem map_fst_insertEntry (key : κ) (value : α) (entries : List (κ × α)) :
    (insertEntry key value entries).map (·.1) =
      if key ∈ entries.map (·.1) then entries.map (·.1) else entries.map (·.1) ++ [key] := by
  induction entries with
  | nil => rfl
  | cons head rest ih =>
      obtain ⟨first, old⟩ := head
      by_cases same : first = key
      · simp [insertEntry, same]
      · have other : key ≠ first := fun equal => same equal.symm
        simp only [insertEntry, if_neg same, List.map_cons, ih, List.mem_cons, other, false_or]
        split <;> rfl

theorem isSome_lookup_iff {entries : List (κ × α)} {key : κ} :
    (entries.lookup key).isSome ↔ key ∈ entries.map (·.1) := by
  simp only [List.lookup_isSome_iff, List.mem_map, beq_iff_eq]
  exact exists_congr fun pair => and_congr_right' eq_comm

theorem find?_of_nodup (key : α → κ) {items : List α} (distinct : (items.map key).Nodup) {item : α}
    (listed : item ∈ items) : items.find? (key · == key item) = some item := by
  have there : (items.find? (key · == key item)).isSome :=
    List.find?_isSome.mpr ⟨item, listed, beq_self_eq_true _⟩
  obtain ⟨other, found⟩ := Option.isSome_iff_exists.mp there
  have same : key other = key item := by simpa using List.find?_some found
  rw [found, List.inj_on_of_nodup_map distinct (List.mem_of_find?_eq_some found) listed same]

end NativeBridge
