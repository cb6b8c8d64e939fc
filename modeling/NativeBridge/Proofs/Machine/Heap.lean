import NativeBridge.Machine.Heap

/-!
# Released entries

* `get_of_release`: a release takes away other entries or leaves them alone, but it never changes
  what they hold.
* `get_of_releaseAll`: the same of any number of releases.
-/

namespace NativeBridge

namespace Heap

theorem trim_isPrefix (entries : List HeapEntry) : trim entries <+: entries := by
  induction entries with
  | nil => exact List.prefix_rfl
  | cons entry rest ih =>
      rw [trim]
      split
      · split
        · exact List.nil_prefix
        · exact (List.prefix_cons_inj entry).mpr List.nil_prefix
      · rename_i kept trimmed
        exact (List.prefix_cons_inj entry).mpr ih

theorem getElem?_of_prefix {first entries : List HeapEntry} (starts : first <+: entries)
    {index : Nat} {entry : HeapEntry} (found : first[index]? = some entry) :
    entries[index]? = some entry := by
  obtain ⟨rest, rfl⟩ := starts
  obtain ⟨inside, rfl⟩ := List.getElem?_eq_some_iff.mp found
  rw [List.getElem?_append_left inside, List.getElem?_eq_getElem inside]

theorem get_eq_ok_iff {heap : Heap} {index : Nat} {value : Value} :
    heap.get index = .ok value ↔
      ∃ entry, heap.entries[index]? = some entry ∧ entry.value = value := by
  rw [get]
  cases heap.entries[index]? with
  | none => simp
  | some entry => simp

theorem get_push (heap : Heap) (value : Value) :
    (heap.push value).2.get heap.size = .ok value := by
  rw [get_eq_ok_iff]
  exact ⟨{ value }, List.getElem?_concat_length, rfl⟩

theorem get_of_release {heap : Heap} {released index : Nat} {value : Value}
    (other : index ≠ released) (got : (heap.release released).get index = .ok value) :
    heap.get index = .ok value := by
  rw [get_eq_ok_iff] at got ⊢
  obtain ⟨entry, found, rfl⟩ := got
  refine ⟨entry, ?_, rfl⟩
  rw [release] at found
  split at found
  · exact getElem?_of_prefix ((trim_isPrefix _).trans (List.dropLast_prefix _)) found
  · split at found
    · rwa [List.getElem?_set_ne other.symm] at found
    · exact found

def releaseAll (heap : Heap) (released : List Nat) : Heap := released.foldl release heap

theorem releaseAll_append (heap : Heap) (first rest : List Nat) :
    heap.releaseAll (first ++ rest) = (heap.releaseAll first).releaseAll rest :=
  List.foldl_append

theorem get_of_releaseAll {heap : Heap} {released : List Nat} {index : Nat} {value : Value}
    (others : index ∉ released) (got : (heap.releaseAll released).get index = .ok value) :
    heap.get index = .ok value := by
  induction released generalizing heap with
  | nil => exact got
  | cons entry rest ih =>
      rw [List.mem_cons, not_or] at others
      obtain ⟨other, others⟩ := others
      exact get_of_release other (ih others got)

end Heap

end NativeBridge
