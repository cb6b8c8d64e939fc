import NativeBridge.Catalogue.IndexedCatalogue
import NativeBridge.Proofs.Entries
import NativeBridge.Proofs.Planning.ModuleNames
import NativeBridge.Proofs.Results

/-!
# Lookups through the index of a catalogue

* `InStep`: a reference is filed at a place exactly if the description there has that reference.
* `push_cases`: all that one addition can do. It keeps the two parts in step.
* `pushAll_inStep`: so does a series of additions, whichever of them are refused.
* `describe?_eq`, `push_eq`, `ofTypes_eq`: a catalogue in step answers as the list alone does.
* `pushAll_describes`: after any additions a lookup gives the accepted description of that
  reference, of which there is at most one.
-/

namespace NativeBridge

theorem getElem?_concat_eq_some_iff {α : Type} {items : List α} {last item : α} {place : Nat} :
    (items ++ [last])[place]? = some item ↔
      items[place]? = some item ∨ place = items.length ∧ last = item := by
  rcases Nat.lt_trichotomy place items.length with inside | rfl | outside
  · rw [List.getElem?_append_left inside]
    simp only [Nat.ne_of_lt inside, false_and, or_false]
  · simp
  · have outside' : (items ++ [last]).length ≤ place := by simpa using Nat.succ_le_of_lt outside
    rw [List.getElem?_eq_none outside', List.getElem?_eq_none outside.le]
    simp only [Nat.ne_of_gt outside, false_and, reduceCtorEq, or_self]

namespace Catalogue

theorem getElem?_references (types : List TypeDescriptor) (place : Nat) :
    (references types)[place]? = types[place]?.map (·.type.reference) := List.getElem?_map

theorem references_concat (types : List TypeDescriptor) (descriptor : TypeDescriptor) :
    references (types ++ [descriptor]) = references types ++ [descriptor.type.reference] :=
  List.map_append

theorem describe_eq_ok_iff {catalogue : Catalogue} {type : TypeRef} {descriptor : TypeDescriptor}
    (distinct : (references catalogue.types).Nodup) :
    catalogue.describe type = .ok descriptor ↔
      descriptor ∈ catalogue.types ∧ descriptor.type.reference = type.reference := by
  constructor
  · intro described
    rw [describe] at described
    split at described
    · rename_i other found
      obtain rfl := Except.ok.inj described
      rw [find?] at found
      exact ⟨List.mem_of_find?_eq_some found, by simpa using List.find?_some found⟩
    · cases described
  · rintro ⟨listed, same⟩
    rw [← describe_of_mem distinct listed, describe, describe, same]

theorem describe_eq_unknownType_iff {catalogue : Catalogue} {type : TypeRef} :
    catalogue.describe type = .error (.catalogue (.unknownType type.reference)) ↔
      type.reference ∉ references catalogue.types := by
  rw [← find?_eq_none_iff, describe]
  cases catalogue.find? type.reference <;> simp

end Catalogue

namespace IndexedCatalogue

open Catalogue (references getElem?_references references_concat)

variable {catalogue next : IndexedCatalogue} {descriptor : TypeDescriptor}

def InStep (catalogue : IndexedCatalogue) : Prop :=
  ∀ reference place, catalogue.index.lookup reference = some place ↔
    (references catalogue.types)[place]? = some reference

theorem inStep_empty : InStep {} := by
  intro reference place
  simp [references]

theorem InStep.nodup (inStep : catalogue.InStep) : (references catalogue.types).Nodup := by
  rw [List.nodup_iff_getElem?_ne_getElem?]
  intro first second before inside same
  have inside' := before.trans inside
  have filed := (inStep _ first).mpr (List.getElem?_eq_getElem inside')
  have filed' := (inStep _ second).mpr (same ▸ List.getElem?_eq_getElem inside')
  have equal : first = second := Option.some.inj (filed.symm.trans filed')
  exact absurd equal (Nat.ne_of_lt before)

theorem InStep.lookup_eq_none_iff (inStep : catalogue.InStep) (reference : String) :
    catalogue.index.lookup reference = none ↔ reference ∉ references catalogue.types := by
  rw [List.mem_iff_getElem?, Option.eq_none_iff_forall_ne_some, not_exists]
  exact forall_congr' fun place => not_congr (inStep reference place)

theorem InStep.add (inStep : catalogue.InStep)
    (absent : descriptor.type.reference ∉ references catalogue.types) :
    (catalogue.add descriptor).InStep := by
  intro reference place
  have length : (references catalogue.types).length = catalogue.types.length := List.length_map _
  rw [IndexedCatalogue.add, lookup_insertEntry, references_concat, getElem?_concat_eq_some_iff,
    length]
  by_cases same : reference = descriptor.type.reference
  · have unlisted : (references catalogue.types)[place]? ≠ some reference :=
      fun found => absent (same ▸ List.mem_of_getElem? found)
    rw [if_pos same, Option.some.injEq, ← same]
    simp only [unlisted, false_or, and_true]
    exact eq_comm
  · rw [if_neg same, inStep reference place]
    simp only [Ne.symm same, and_false, or_false]

/-! ## Additions -/

theorem push_cases (inStep : catalogue.InStep) (descriptor : TypeDescriptor) :
    (descriptor.type.reference ∈ references catalogue.types ∧
        catalogue.push descriptor =
          (.error (.catalogue (.duplicateEntry descriptor.type.reference)), catalogue)) ∨
      (descriptor.type.reference ∉ references catalogue.types ∧
        catalogue.push descriptor = (.ok (), catalogue.add descriptor)) := by
  rw [push]
  cases filed : catalogue.index.lookup descriptor.type.reference with
  | none => exact .inr ⟨(inStep.lookup_eq_none_iff _).mp filed, rfl⟩
  | some place =>
      have present := List.mem_of_getElem? ((inStep _ place).mp filed)
      exact .inl ⟨present, rfl⟩

theorem pushAll_inStep (inStep : catalogue.InStep) (descriptors : List TypeDescriptor) :
    (catalogue.pushAll descriptors).2.InStep ∧
      (catalogue.pushAll descriptors).2.types =
        catalogue.types ++ accepted descriptors (catalogue.pushAll descriptors).1 := by
  induction descriptors generalizing catalogue with
  | nil => exact ⟨inStep, (List.append_nil _).symm⟩
  | cons descriptor rest ih =>
      rw [pushAll]
      rcases push_cases inStep descriptor with ⟨-, pushed⟩ | ⟨absent, pushed⟩
      · rw [pushed]
        exact ih inStep
      · rw [pushed]
        obtain ⟨after, types⟩ := ih (inStep.add absent)
        rw [add, List.append_assoc] at types
        exact ⟨after, types⟩

/-! ## The list alone -/

theorem describe?_eq (inStep : catalogue.InStep) (type : TypeRef) :
    catalogue.describe? type = some (catalogue.toCatalogue.describe type) := by
  rw [describe?]
  split
  · rename_i place filed
    have found := (inStep type.reference place).mp filed
    rw [getElem?_references] at found
    obtain ⟨descriptor, there, same⟩ := Option.map_eq_some_iff.mp found
    have described : catalogue.toCatalogue.describe type = .ok descriptor :=
      (Catalogue.describe_eq_ok_iff inStep.nodup).mpr ⟨List.mem_of_getElem? there, same⟩
    rw [there, described]
    rfl
  · rename_i unfiled
    have absent := (inStep.lookup_eq_none_iff _).mp unfiled
    rw [Catalogue.describe_eq_unknownType_iff.mpr absent]

theorem push_eq (inStep : catalogue.InStep) (descriptor : TypeDescriptor) :
    catalogue.toCatalogue.push descriptor = (catalogue.extend descriptor).map toCatalogue := by
  rcases push_cases inStep descriptor with ⟨present, pushed⟩ | ⟨absent, pushed⟩
  · rw [extend, pushed, Catalogue.push]
    cases found : catalogue.toCatalogue.find? descriptor.type.reference with
    | none => exact absurd present ((Catalogue.find?_eq_none_iff _ _).mp found)
    | some other => rfl
  · rw [extend, pushed]
    exact Catalogue.push_eq_ok_iff.mpr ⟨absent, rfl⟩

theorem foldlM_push_eq (inStep : catalogue.InStep) (descriptors : List TypeDescriptor) :
    descriptors.foldlM Catalogue.push catalogue.toCatalogue =
      (descriptors.foldlM extend catalogue).map toCatalogue := by
  induction descriptors generalizing catalogue with
  | nil => rfl
  | cons descriptor rest ih =>
      rw [List.foldlM_cons, List.foldlM_cons, push_eq inStep]
      rcases push_cases inStep descriptor with ⟨-, pushed⟩ | ⟨absent, pushed⟩
      · rw [extend, pushed]
        rfl
      · rw [extend, pushed]
        exact ih (inStep.add absent)

theorem ofTypes_eq (types : List TypeDescriptor) :
    Catalogue.ofTypes types = (ofTypes types).map toCatalogue :=
  foldlM_push_eq inStep_empty types

theorem ofTypes_eq_ok_iff_nodup (types : List TypeDescriptor) :
    (∃ catalogue, ofTypes types = .ok catalogue) ↔ (references types).Nodup := by
  constructor
  · rintro ⟨catalogue, made⟩
    have plain := ofTypes_eq types
    rw [made] at plain
    exact (Catalogue.ofTypes_eq_ok_iff.mp plain).2
  · intro distinct
    have plain := ofTypes_eq types
    have accepts : Catalogue.ofTypes types = .ok { types } :=
      Catalogue.ofTypes_eq_ok_iff.mpr ⟨rfl, distinct⟩
    rw [accepts] at plain
    cases made : ofTypes types with
    | ok catalogue => exact ⟨catalogue, rfl⟩
    | error fault =>
        rw [made] at plain
        cases plain

theorem foldlM_extend_inStep (inStep : catalogue.InStep) {descriptors : List TypeDescriptor}
    (made : descriptors.foldlM extend catalogue = .ok next) :
    next.InStep ∧ next.types = catalogue.types ++ descriptors := by
  induction descriptors generalizing catalogue with
  | nil =>
      obtain rfl := pure_eq_ok.mp made
      exact ⟨inStep, (List.append_nil _).symm⟩
  | cons descriptor rest ih =>
      obtain ⟨middle, extended, made⟩ := bind_eq_ok.mp made
      rw [extend] at extended
      rcases push_cases inStep descriptor with ⟨-, pushed⟩ | ⟨absent, pushed⟩
      · rw [pushed] at extended
        cases extended
      · rw [pushed] at extended
        obtain rfl := Except.ok.inj extended
        obtain ⟨after, types⟩ := ih (inStep.add absent) made
        rw [add, List.append_assoc] at types
        exact ⟨after, types⟩

/-! ## What a catalogue answers -/

/-- A catalogue answers for exactly these descriptions. -/
structure Serves (catalogue : IndexedCatalogue) (descriptors : List TypeDescriptor) : Prop where
  types : catalogue.types = descriptors
  distinct : (catalogue.listed.map (·.reference)).Nodup
  found : ∀ type descriptor, catalogue.describe? type = some (.ok descriptor) ↔
    descriptor ∈ descriptors ∧ descriptor.type.reference = type.reference
  unknown : ∀ type : TypeRef,
    catalogue.describe? type = some (.error (.catalogue (.unknownType type.reference))) ↔
      ∀ descriptor ∈ descriptors, descriptor.type.reference ≠ type.reference
  inOrder : ∀ (place : Nat) type, catalogue.listed[place]? = some type →
    ∃ descriptor, descriptors[place]? = some descriptor ∧
      catalogue.describe? type = some (.ok descriptor)
  refused : ∀ descriptor fault after, catalogue.push descriptor = (.error fault, after) ↔
    (∃ other ∈ descriptors, other.type.reference = descriptor.type.reference) ∧
      fault = .catalogue (.duplicateEntry descriptor.type.reference) ∧ after = catalogue

theorem InStep.serves (inStep : catalogue.InStep) : catalogue.Serves catalogue.types where
  types := rfl
  distinct := by
    rw [listed, List.map_map]
    exact inStep.nodup
  found type descriptor := by
    rw [describe?_eq inStep, Option.some.injEq]
    exact Catalogue.describe_eq_ok_iff inStep.nodup
  unknown type := by
    rw [describe?_eq inStep, Option.some.injEq, Catalogue.describe_eq_unknownType_iff, references,
      List.mem_map, not_exists]
    exact forall_congr' fun descriptor => not_and
  inOrder place type listed := by
    rw [IndexedCatalogue.listed, List.getElem?_map] at listed
    obtain ⟨descriptor, there, rfl⟩ := Option.map_eq_some_iff.mp listed
    have member : descriptor ∈ catalogue.toCatalogue.types := List.mem_of_getElem? there
    refine ⟨descriptor, there, ?_⟩
    rw [describe?_eq inStep, Catalogue.describe_of_mem inStep.nodup member]
  refused descriptor fault after := by
    have listed : (∃ other ∈ catalogue.types, other.type.reference = descriptor.type.reference) ↔
        descriptor.type.reference ∈ references catalogue.types := List.mem_map.symm
    rw [listed]
    rcases push_cases inStep descriptor with ⟨present, pushed⟩ | ⟨absent, pushed⟩
    · rw [pushed, Prod.mk.injEq, Except.error.injEq]
      constructor
      · rintro ⟨rfl, rfl⟩
        exact ⟨present, rfl, rfl⟩
      · rintro ⟨-, rfl, rfl⟩
        exact ⟨rfl, rfl⟩
    · rw [pushed, Prod.mk.injEq]
      constructor
      · rintro ⟨answered, -⟩
        cases answered
      · rintro ⟨present, -⟩
        exact absurd present absent

/-- After any series of additions the catalogue answers for the accepted ones, as the list of these
descriptions alone does. A whole list is taken exactly if no reference in it occurs twice. -/
theorem pushAll_describes (attempts : List TypeDescriptor) :
    let (answers, kept) := pushAll {} attempts
    kept.Serves (accepted attempts answers) ∧
      (∀ type, kept.describe? type = some (kept.toCatalogue.describe type)) ∧
      (∀ descriptor, kept.toCatalogue.push descriptor = (kept.extend descriptor).map toCatalogue) ∧
      ((∃ catalogue, ofTypes attempts = .ok catalogue) ↔ (references attempts).Nodup) ∧
      (∀ catalogue, ofTypes attempts = .ok catalogue → catalogue.Serves attempts) ∧
      Catalogue.ofTypes attempts = (ofTypes attempts).map toCatalogue := by
  obtain ⟨inStep, types⟩ := pushAll_inStep inStep_empty attempts
  have serves := inStep.serves
  rw [types] at serves
  refine ⟨serves, describe?_eq inStep, push_eq inStep, ofTypes_eq_ok_iff_nodup attempts, ?_,
    ofTypes_eq attempts⟩
  intro catalogue made
  obtain ⟨inStep, types⟩ := foldlM_extend_inStep inStep_empty made
  have serves := inStep.serves
  rw [types] at serves
  exact serves

end IndexedCatalogue

end NativeBridge
