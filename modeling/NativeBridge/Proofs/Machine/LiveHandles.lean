import Mathlib.Logic.Function.Basic
import Mathlib.Order.Bounds.Basic
import NativeBridge.Proofs.Machine.Heap

/-!
# Live handles

A heap lays out a finite map from handles to values. A push binds the handle that it answers, a set
binds the handle that it names, and a release removes it.

* `live_push`, `live_set`, `live_release`: what each operation does to the map.
* `Sound`: an entry that is not live holds null, and the topmost entry is live. Every operation
  keeps a heap sound.
* `Sound.ext`: the live handles determine a sound heap, so that releases may come in any order.
* `runOps_refines`: the heap after any run of operations shows the map and nothing else.
-/

namespace NativeBridge

abbrev LiveMap := Nat → Option Value

def HeapEntry.live? (entry : HeapEntry) : Option Value :=
  if entry.released then none else some entry.value

inductive HeapOp where
  | push (value : Value)
  | set (handle : Nat) (value : Value)
  | release (handle : Nat)

def HeapOp.handle? : HeapOp → Option Nat
  | .push _ => none
  | .set handle _ => some handle
  | .release handle => some handle

namespace Heap

def live (heap : Heap) : LiveMap := fun handle => heap.entries[handle]?.bind HeapEntry.live?

def applyOp (state : Heap × LiveMap) : HeapOp → Heap × LiveMap
  | .push value =>
      let (handle, heap) := state.1.push value
      (heap, Function.update state.2 handle (some value))
  | .set handle value =>
      match state.1.set handle value with
      | .ok heap => (heap, Function.update state.2 handle (some value))
      | .error _ => state
  | .release handle => (state.1.release handle, Function.update state.2 handle none)

def runOps (ops : List HeapOp) : Heap × LiveMap := ops.foldl applyOp ({}, fun _ => none)

/-! ## What operations do to live handles -/

theorem live?_trim (entries : List HeapEntry) (index : Nat) :
    (trim entries)[index]?.bind HeapEntry.live? = entries[index]?.bind HeapEntry.live? := by
  induction entries generalizing index with
  | nil => rfl
  | cons entry rest ih =>
      rw [trim]
      split
      · rename_i trimmed
        have dropped (index : Nat) : rest[index]?.bind HeapEntry.live? = none := by
          rw [← ih, trimmed]
          rfl
        cases index with
        | zero => cases released : entry.released <;> simp [HeapEntry.live?, released]
        | succ index => cases entry.released <;> simp [dropped]
      · cases index with
        | zero => rfl
        | succ index => simpa using ih index

theorem live_push (heap : Heap) (value : Value) :
    (heap.push value).2.live = Function.update heap.live heap.size (some value) := by
  funext handle
  rw [Function.update_apply]
  by_cases fresh : handle = heap.size
  · subst fresh
    simp [live, push, size, HeapEntry.live?]
  · rw [if_neg fresh]
    simp only [live, push]
    by_cases inside : handle < heap.size
    · rw [List.getElem?_append_left inside]
    · have above : heap.entries.length < handle := by
        rw [size] at fresh inside
        omega
      rw [List.getElem?_eq_none (by simp; omega), List.getElem?_eq_none (by omega)]

theorem size_lt_of_push {heap : Heap} {value : Value} {bound : Nat}
    (room : (heap.push value).2.size ≤ bound) : heap.size < bound := by
  rw [size, push, List.length_append, List.length_singleton] at room
  exact room

theorem set_eq_ok {heap after : Heap} {handle : Nat} {value : Value}
    (changed : heap.set handle value = .ok after) :
    handle < heap.size ∧ after = { entries := heap.entries.set handle { value } } := by
  rw [set] at changed
  split at changed
  · rename_i inside
    cases changed
    exact ⟨inside, rfl⟩
  · cases changed

theorem live_set_entry {heap : Heap} {handle : Nat} (inside : handle < heap.size)
    (entry : HeapEntry) :
    live { entries := heap.entries.set handle entry } =
      Function.update heap.live handle entry.live? := by
  funext other
  rw [Function.update_apply]
  by_cases same : other = handle
  · subst same
    simp [live, List.getElem?_set_self inside]
  · rw [if_neg same]
    simp only [live]
    rw [List.getElem?_set_ne (Ne.symm same)]

theorem live_set {heap after : Heap} {handle : Nat} {value : Value}
    (changed : heap.set handle value = .ok after) :
    after.live = Function.update heap.live handle (some value) := by
  obtain ⟨inside, rfl⟩ := set_eq_ok changed
  exact live_set_entry inside { value }

theorem live_release (heap : Heap) (handle : Nat) :
    (heap.release handle).live = Function.update heap.live handle none := by
  rw [release]
  split
  · rename_i topmost
    funext other
    rw [Function.update_apply]
    simp only [live]
    rw [live?_trim, List.getElem?_dropLast]
    rw [size] at topmost
    by_cases same : other = handle
    · rw [if_pos same, if_neg (by omega)]
      rfl
    · rw [if_neg same]
      split
      · rfl
      · rw [List.getElem?_eq_none (by omega)]
  · split
    · rename_i inside
      exact live_set_entry inside { value := .null, released := true }
    · rename_i outside
      rw [size, Nat.not_lt] at outside
      refine (Function.update_eq_self_iff.mpr ?_).symm
      rw [live, List.getElem?_eq_none outside]
      rfl

theorem live_releaseAll (heap : Heap) (released : List Nat) (handle : Nat) :
    (heap.releaseAll released).live handle =
      if handle ∈ released then none else heap.live handle := by
  induction released generalizing heap with
  | nil => simp [releaseAll]
  | cons first rest ih =>
      rw [releaseAll, List.foldl_cons]
      refine (ih (heap.release first)).trans ?_
      rw [live_release, Function.update_apply]
      by_cases later : handle ∈ rest
      · rw [if_pos later, if_pos (List.mem_cons_of_mem first later)]
      · by_cases same : handle = first <;> simp [later, same]

/-! ## Sound heaps -/

structure Sound (heap : Heap) : Prop where
  nulled : ∀ entry ∈ heap.entries, entry.released = true → entry.value = .null
  top : ∀ entry, heap.entries.getLast? = some entry → entry.released = false

theorem released_getLast?_trim {entries : List HeapEntry} {entry : HeapEntry}
    (last : (trim entries).getLast? = some entry) : entry.released = false := by
  induction entries with
  | nil => cases last
  | cons first rest ih =>
      rw [trim] at last
      split at last
      · split at last
        · cases last
        · rename_i unreleased
          cases last
          simpa using unreleased
      · rename_i kept trimmed
        apply ih
        rw [List.getLast?_cons] at last
        rw [← last, List.getLast?_eq_some_getLast trimmed]
        rfl

namespace Sound

theorem empty : Sound {} where
  nulled _ member := nomatch member
  top _ last := nomatch last

theorem push {heap : Heap} (sound : heap.Sound) (value : Value) : (heap.push value).2.Sound := by
  constructor
  · intro entry member released
    rcases List.mem_append.mp member with old | new
    · exact sound.nulled entry old released
    · rw [List.mem_singleton.mp new] at released
      cases released
  · intro entry last
    rw [Heap.push, List.getLast?_concat] at last
    cases last
    rfl

theorem set_entry {heap : Heap} (sound : heap.Sound) {handle : Nat} {entry : HeapEntry}
    (nulled : entry.released = true → entry.value = .null)
    (top : handle + 1 = heap.size → entry.released = false) :
    Sound { entries := heap.entries.set handle entry } := by
  constructor
  · intro other member released
    rcases List.mem_or_eq_of_mem_set member with old | rfl
    · exact sound.nulled other old released
    · exact nulled released
  · intro other last
    simp only [List.getLast?_eq_getElem?, List.length_set] at last
    by_cases topmost : handle = heap.entries.length - 1
    · subst topmost
      obtain ⟨inside, same⟩ := List.getElem?_eq_some_iff.mp last
      rw [List.length_set] at inside
      rw [List.getElem_set_self] at same
      rw [← same]
      exact top (by rw [size]; omega)
    · rw [List.getElem?_set_ne topmost] at last
      exact sound.top other (by rw [List.getLast?_eq_getElem?, last])

theorem set {heap after : Heap} (sound : heap.Sound) {handle : Nat} {value : Value}
    (changed : heap.set handle value = .ok after) : after.Sound := by
  obtain ⟨-, rfl⟩ := set_eq_ok changed
  exact sound.set_entry (fun released => nomatch released) (fun _ => rfl)

theorem release {heap : Heap} (sound : heap.Sound) (handle : Nat) :
    (heap.release handle).Sound := by
  rw [Heap.release]
  split
  · constructor
    · intro entry member
      have old := ((trim_isPrefix _).trans (List.dropLast_prefix _)).subset member
      exact sound.nulled entry old
    · intro entry last
      exact released_getLast?_trim last
  · rename_i inner
    split
    · exact sound.set_entry (fun _ => rfl) (fun topmost => absurd topmost inner)
    · exact sound

theorem releaseAll {heap : Heap} (sound : heap.Sound) (released : List Nat) :
    (heap.releaseAll released).Sound := by
  induction released generalizing heap with
  | nil => exact sound
  | cons first rest ih => exact ih (sound.release first)

/-! ## Sound heaps and their live handles -/

variable {heap other : Heap}

theorem getElem?_eq (sound : heap.Sound) (handle : Nat) :
    heap.entries[handle]? = match heap.live handle with
      | some value => some { value }
      | none => if handle < heap.size then some { value := .null, released := true } else none := by
  rw [live]
  cases found : heap.entries[handle]? with
  | none =>
      have outside := List.getElem?_eq_none_iff.mp found
      exact (if_neg (Nat.not_lt.mpr outside)).symm
  | some entry =>
      obtain ⟨inside, -⟩ := List.getElem?_eq_some_iff.mp found
      obtain ⟨value, released⟩ := entry
      cases released with
      | false => rfl
      | true =>
          have null : value = .null := sound.nulled _ (List.mem_of_getElem? found) rfl
          subst null
          exact (if_pos inside).symm

theorem get_eq (sound : heap.Sound) (handle : Nat) :
    heap.get handle = match heap.live handle with
      | some value => .ok value
      | none => if handle < heap.size then .ok .null else .error (.invalidObject handle) := by
  rw [get, sound.getElem?_eq]
  cases heap.live handle with
  | some value => rfl
  | none => by_cases inside : handle < heap.size <;> simp [inside]

theorem inside_of_live {handle : Nat} (bound : heap.live handle ≠ none) : handle < heap.size := by
  by_contra outside
  apply bound
  rw [live, List.getElem?_eq_none (Nat.not_lt.mp outside)]
  rfl

theorem live_top (sound : heap.Sound) (filled : 0 < heap.size) :
    heap.live (heap.size - 1) ≠ none := by
  rw [size] at filled
  have inside : heap.entries.length - 1 < heap.entries.length := by omega
  have found := List.getElem?_eq_getElem inside
  have last : heap.entries.getLast? = some heap.entries[heap.entries.length - 1] := by
    rw [List.getLast?_eq_getElem?, found]
  rw [live, size, found]
  simp [HeapEntry.live?, sound.top _ last]

theorem inside_iff (sound : heap.Sound) (handle : Nat) :
    handle < heap.size ↔ ∃ later, handle ≤ later ∧ heap.live later ≠ none := by
  constructor
  · intro inside
    exact ⟨heap.size - 1, by omega, sound.live_top (by omega)⟩
  · rintro ⟨later, above, bound⟩
    exact Nat.lt_of_le_of_lt above (inside_of_live bound)

theorem ext (sound : heap.Sound) (sound' : other.Sound) (same : heap.live = other.live) :
    heap = other := by
  have entries : heap.entries = other.entries := by
    apply List.ext_getElem?
    intro handle
    have inside : handle < heap.size ↔ handle < other.size := by
      rw [sound.inside_iff, sound'.inside_iff, same]
    rw [sound.getElem?_eq, sound'.getElem?_eq, same]
    simp only [inside]
  cases heap
  cases other
  exact congrArg Heap.mk entries

theorem releaseAll_congr (sound : heap.Sound) {first second : List Nat}
    (same : ∀ handle, handle ∈ first ↔ handle ∈ second) :
    heap.releaseAll first = heap.releaseAll second := by
  apply (sound.releaseAll first).ext (sound.releaseAll second)
  funext handle
  rw [live_releaseAll, live_releaseAll]
  simp only [same]

end Sound

/-! ## Runs of operations -/

/-- A heap shows a map of live handles and nothing else. -/
structure Refines (heap : Heap) (live : LiveMap) : Prop where
  size : (∀ handle, live handle = none) ∧ heap.size = 0 ∨
    ∃ largest, IsGreatest {handle | live handle ≠ none} largest ∧ heap.size = largest + 1
  get : ∀ handle, heap.get handle = match live handle with
    | some value => .ok value
    | none => if handle < heap.size then .ok .null else .error (.invalidObject handle)
  fresh : ∀ value, live (heap.push value).1 = none

theorem live_size (heap : Heap) : heap.live heap.size = none := by
  by_contra bound
  exact Nat.lt_irrefl _ (Sound.inside_of_live bound)

theorem live_push_of_live {heap : Heap} {handle : Nat} (bound : heap.live handle ≠ none)
    (value : Value) : (heap.push value).2.live handle = heap.live handle := by
  rw [live_push, Function.update_of_ne (Nat.ne_of_lt (Sound.inside_of_live bound))]

theorem Sound.refines {heap : Heap} (sound : heap.Sound) : heap.Refines heap.live where
  size := by
    by_cases filled : 0 < heap.size
    · refine .inr ⟨heap.size - 1, ⟨sound.live_top filled, ?_⟩, by omega⟩
      intro handle bound
      exact Nat.le_sub_one_of_lt (inside_of_live bound)
    · have vacant : heap.size = 0 := Nat.eq_zero_of_not_pos filled
      refine .inl ⟨?_, vacant⟩
      intro handle
      by_contra bound
      have inside := inside_of_live bound
      omega
  get := sound.get_eq
  fresh _ := heap.live_size

def Reached (heap : Heap) (live : LiveMap) : Prop := ∃ ops, runOps ops = (heap, live)

def Tracks (state : Heap × LiveMap) : Prop := state.1.Sound ∧ state.2 = state.1.live

theorem Tracks.applyOp {state : Heap × LiveMap} (tracks : Tracks state) (op : HeapOp) :
    Tracks (applyOp state op) := by
  obtain ⟨heap, live⟩ := state
  obtain ⟨sound, same⟩ := tracks
  simp only at sound same
  subst same
  cases op with
  | push value => exact ⟨sound.push value, (live_push heap value).symm⟩
  | set handle value =>
      rw [Heap.applyOp]
      simp only
      cases changed : heap.set handle value with
      | error fault => exact ⟨sound, rfl⟩
      | ok after => exact ⟨sound.set changed, (live_set changed).symm⟩
  | release handle => exact ⟨sound.release handle, (live_release heap handle).symm⟩

theorem Tracks.foldl {state : Heap × LiveMap} (tracks : Tracks state) (ops : List HeapOp) :
    Tracks (ops.foldl Heap.applyOp state) := by
  induction ops generalizing state with
  | nil => exact tracks
  | cons op rest ih => exact ih (tracks.applyOp op)

theorem tracks_runOps (ops : List HeapOp) : Tracks (runOps ops) :=
  Tracks.foldl ⟨.empty, rfl⟩ ops

theorem reached_runOps (ops : List HeapOp) : (runOps ops).1.Reached (runOps ops).1.live :=
  ⟨ops, Prod.ext rfl (tracks_runOps ops).2⟩

theorem Tracks.live_foldl {state : Heap × LiveMap} (tracks : Tracks state) {ops : List HeapOp}
    {handle : Nat} (unnamed : ∀ op ∈ ops, op.handle? ≠ some handle)
    (bound : state.2 handle ≠ none) : (ops.foldl Heap.applyOp state).2 handle = state.2 handle := by
  induction ops generalizing state with
  | nil => rfl
  | cons op rest ih =>
      have named := unnamed op List.mem_cons_self
      have same : (Heap.applyOp state op).2 handle = state.2 handle := by
        cases op with
        | push value =>
            -- A push answers the size of the heap, and no handle of that number is live.
            apply Function.update_of_ne
            rintro rfl
            rw [tracks.2] at bound
            exact bound state.1.live_size
        | set other value =>
            have apart : handle ≠ other := fun same => named (congrArg some same.symm)
            rw [Heap.applyOp]
            cases state.1.set other value with
            | error fault => rfl
            | ok after => exact Function.update_of_ne apart _ _
        | release other =>
            have apart : handle ≠ other := fun same => named (congrArg some same.symm)
            exact Function.update_of_ne apart _ _
      rw [List.foldl_cons, ih (tracks.applyOp op)
        (fun other member => unnamed other (List.mem_cons_of_mem op member)) (same ▸ bound), same]

theorem Reached.tracks {heap : Heap} {live : LiveMap} (reached : heap.Reached live) :
    Tracks (heap, live) := by
  obtain ⟨ops, ran⟩ := reached
  exact ran ▸ tracks_runOps ops

theorem Reached.applyOp {heap : Heap} {live : LiveMap} (reached : heap.Reached live) (op : HeapOp) :
    (Heap.applyOp (heap, live) op).1.Reached (Heap.applyOp (heap, live) op).2 := by
  obtain ⟨ops, ran⟩ := reached
  refine ⟨ops ++ [op], ?_⟩
  rw [runOps, List.foldl_append, ← runOps, ran]
  rfl

theorem Reached.push {heap : Heap} (reached : heap.Reached heap.live) (value : Value) :
    (heap.push value).2.Reached (heap.push value).2.live := by
  rw [live_push]
  exact reached.applyOp (.push value)

theorem Reached.set {heap after : Heap} (reached : heap.Reached heap.live) {handle : Nat}
    {value : Value} (changed : heap.set handle value = .ok after) : after.Reached after.live := by
  have next := reached.applyOp (.set handle value)
  rw [Heap.applyOp] at next
  simp only [changed] at next
  rwa [live_set changed]

theorem Reached.releaseAll {heap : Heap} (reached : heap.Reached heap.live) (released : List Nat) :
    (heap.releaseAll released).Reached (heap.releaseAll released).live := by
  induction released generalizing heap with
  | nil => exact reached
  | cons first rest ih =>
      apply ih
      rw [live_release]
      exact reached.applyOp (.release first)

/-- After any run, the heap is the map of live handles and nothing else: releases commute and may be
repeated, and a null that is live stays until it is released or replaced. -/
theorem runOps_refines (ops : List HeapOp) :
    Refines (runOps ops).1 (runOps ops).2 ∧
      (∀ others, (runOps others).2 = (runOps ops).2 → (runOps others).1 = (runOps ops).1) ∧
      (∀ first second, ((runOps ops).1.release first).release second =
        ((runOps ops).1.release second).release first) ∧
      (∀ handle, ((runOps ops).1.release handle).release handle = (runOps ops).1.release handle) ∧
      ∀ handle more, (runOps ops).2 handle = some .null →
        (∀ op ∈ more, op.handle? ≠ some handle) →
        handle < (runOps (ops ++ more)).1.size ∧ (runOps (ops ++ more)).2 handle = some .null := by
  obtain ⟨sound, same⟩ := tracks_runOps ops
  refine ⟨same ▸ sound.refines, ?_, ?_, ?_, ?_⟩
  · intro others agree
    obtain ⟨sound', same'⟩ := tracks_runOps others
    apply sound'.ext sound
    rw [← same', agree, same]
  · intro first second
    have either (handle : Nat) : handle ∈ [first, second] ↔ handle ∈ [second, first] :=
      List.Perm.mem_iff (.swap second first [])
    exact sound.releaseAll_congr either
  · intro handle
    have either (other : Nat) : other ∈ [handle, handle] ↔ other ∈ [handle] := by simp
    exact sound.releaseAll_congr either
  · intro handle more null unnamed
    have kept : (runOps (ops ++ more)).2 handle = some .null := by
      rw [runOps, List.foldl_append]
      exact ((tracks_runOps ops).live_foldl unnamed (by rw [null]; simp)).trans null
    refine ⟨?_, kept⟩
    apply Sound.inside_of_live
    rw [← (tracks_runOps (ops ++ more)).2, kept]
    simp

end Heap

end NativeBridge
