import Mathlib.Data.List.Basic
import NativeBridge.Proofs.Planning.Generations
import NativeBridge.Proofs.Planning.PlanShape

/-!
# Accounts of types and methods

Whatever a catalogue lists can be found again in what is generated from it. Every type is passed
over or has a module, and every method of a module is skipped, has a plan, or has a diagnostic.

* `excludes_iff`: which methods are skipped.
* `ofDescription_accounts`: where the methods of a type go.
* `ofDescriptions_splits`: where the types go.
-/

namespace NativeBridge

/-! ## Lists that are split -/

section Splits

variable {α β γ : Type} {left : α → β → Prop} {right : α → γ → Prop}

/-- Every element of a list has an entry in one of two others, which keep the order. -/
inductive Splits (left : α → β → Prop) (right : α → γ → Prop) : List α → List β → List γ → Prop
  | nil : Splits left right [] [] []
  | left {element : α} {entry : β} {elements : List α} {lefts : List β} {rights : List γ} :
      left element entry → Splits left right elements lefts rights →
        Splits left right (element :: elements) (entry :: lefts) rights
  | right {element : α} {entry : γ} {elements : List α} {lefts : List β} {rights : List γ} :
      right element entry → Splits left right elements lefts rights →
        Splits left right (element :: elements) lefts (entry :: rights)

theorem Splits.length_eq {elements : List α} {lefts : List β} {rights : List γ}
    (splits : Splits left right elements lefts rights) :
    elements.length = lefts.length + rights.length := by
  induction splits with
  | nil => rfl
  | left _ _ ih =>
      simp only [List.length_cons, ih]
      omega
  | right _ _ ih =>
      simp only [List.length_cons, ih]
      omega

theorem Splits.of_filterMap {first : α → Option β} {second : α → Option γ} {elements : List α}
    (each : ∀ element ∈ elements,
      (∃ entry, first element = some entry ∧ second element = none ∧ left element entry) ∨
        ∃ entry, first element = none ∧ second element = some entry ∧ right element entry) :
    Splits left right elements (elements.filterMap first) (elements.filterMap second) := by
  induction elements with
  | nil => exact .nil
  | cons element rest ih =>
      have others := ih fun other member => each other (List.mem_cons_of_mem _ member)
      rcases each element List.mem_cons_self with
        ⟨entry, taken, passed, holds⟩ | ⟨entry, passed, taken, holds⟩
      · rw [List.filterMap_cons_some taken, List.filterMap_cons_none passed]
        exact .left holds others
      · rw [List.filterMap_cons_none passed, List.filterMap_cons_some taken]
        exact .right holds others

end Splits

/-! ## Skipped methods -/

theorem splitFirst_eq_some_iff {mark : Char} {text before after : List Char} :
    splitFirst mark text = some (before, after) ↔
      text = before ++ mark :: after ∧ mark ∉ before := by
  induction text generalizing before with
  | nil => simp [splitFirst]
  | cons c rest ih =>
      rw [splitFirst]
      cases before with
      | nil =>
          split
          · simp_all
          · rename_i other
            simp [other]
      | cons d before =>
          split
          · rename_i same
            subst same
            simp only [Option.some.injEq, Prod.mk.injEq, reduceCtorEq, false_and, false_iff,
              List.cons_append, List.cons.injEq, List.mem_cons, not_and, not_not]
            rintro ⟨rfl, -⟩
            exact .inl rfl
          · rename_i other
            simp only [Option.map_eq_some_iff, Prod.exists, Prod.mk.injEq, List.cons.injEq,
              List.cons_append, List.mem_cons, not_or]
            constructor
            · rintro ⟨_, _, found, ⟨rfl, rfl⟩, rfl⟩
              obtain ⟨rfl, unmarked⟩ := ih.mp found
              exact ⟨⟨rfl, rfl⟩, Ne.symm other, unmarked⟩
            · rintro ⟨⟨rfl, rfl⟩, -, unmarked⟩
              exact ⟨before, after, ih.mpr ⟨rfl, unmarked⟩, ⟨rfl, rfl⟩, rfl⟩

structure Method.IsSpecial (method : Method) (word rest : String) : Prop where
  marked : method.specialName = true
  name : method.name = word ++ "_" ++ rest

theorem Method.specialParts?_eq_some_iff {method : Method} {word rest : String} :
    method.specialParts? = some (word, rest) ↔
      method.IsSpecial word rest ∧ '_' ∉ word.toList := by
  rw [specialParts?]
  split
  · rename_i marked
    simp only [Option.map_eq_some_iff, Prod.exists, Prod.mk.injEq, splitFirst_eq_some_iff]
    constructor
    · rintro ⟨before, after, ⟨name, unmarked⟩, rfl, rfl⟩
      refine ⟨⟨marked, ?_⟩, by simpa using unmarked⟩
      rw [← String.toList_inj, name]
      simp
    · rintro ⟨⟨-, name⟩, unmarked⟩
      refine ⟨word.toList, rest.toList, ⟨?_, unmarked⟩, by simp, by simp⟩
      rw [name]
      simp
  · rename_i unmarked
    simp only [reduceCtorEq, false_iff, not_and]
    intro special
    exact absurd special.marked unmarked

namespace TypeDescriptor

inductive Excludes (descriptor : TypeDescriptor) (method : Method) : Prop
  | hidden : method.visibility ≠ .everyone → Excludes descriptor method
  | generic : 0 < method.genericParams → Excludes descriptor method
  | event {word event : String} :
      word = "add" ∨ word = "remove" → method.IsSpecial word event → Excludes descriptor method
  | property {word name : String} {property : Property} :
      word = "get" ∨ word = "set" → method.IsSpecial word name →
        descriptor.property? name = some property → property.obsolete = true →
          Excludes descriptor method
  | obsolete : method.obsolete = true → Excludes descriptor method

theorem accessorReason?_event {descriptor : TypeDescriptor} {method : Method} {word event : String}
    (prefixed : word = "add" ∨ word = "remove") (special : method.IsSpecial word event) :
    descriptor.accessorReason? method = some .eventAccessor := by
  rcases prefixed with rfl | rfl
  all_goals
    rw [accessorReason?, Method.specialParts?_eq_some_iff.mpr ⟨special, by decide⟩]
    rfl

theorem accessorReason?_property {descriptor : TypeDescriptor} {method : Method}
    {word name : String} (prefixed : word = "get" ∨ word = "set")
    (special : method.IsSpecial word name) :
    descriptor.accessorReason? method =
      if (descriptor.property? name).any (·.obsolete) then some .obsoleteProperty else none := by
  rcases prefixed with rfl | rfl
  all_goals
    rw [accessorReason?, Method.specialParts?_eq_some_iff.mpr ⟨special, by decide⟩]
    rfl

theorem excludes_of_accessorReason? {descriptor : TypeDescriptor} {method : Method}
    {reason : SkipReason} (found : descriptor.accessorReason? method = some reason) :
    descriptor.Excludes method := by
  have event {word event : String} (prefixed : word = "add" ∨ word = "remove")
      (parts : method.specialParts? = some (word, event)) : descriptor.Excludes method :=
    .event prefixed (Method.specialParts?_eq_some_iff.mp parts).1
  have property {word name : String} (prefixed : word = "get" ∨ word = "set")
      (parts : method.specialParts? = some (word, name))
      (found : (if (descriptor.property? name).any (·.obsolete) then
        some SkipReason.obsoleteProperty else none) = some reason) :
      descriptor.Excludes method := by
    split at found
    · rename_i old
      obtain ⟨property, declared, old⟩ := (Option.any_eq_true _ _).mp old
      exact .property prefixed (Method.specialParts?_eq_some_iff.mp parts).1 declared old
    · cases found
  rw [accessorReason?] at found
  split at found
  · exact event (.inl rfl) ‹_›
  · exact event (.inr rfl) ‹_›
  · exact property (.inl rfl) ‹_› found
  · exact property (.inr rfl) ‹_› found
  · cases found

theorem excludes_iff {descriptor : TypeDescriptor} {method : Method} :
    descriptor.Excludes method ↔ (descriptor.skipReason? method).isSome := by
  constructor
  · intro excluded
    rw [skipReason?]
    split
    · rfl
    split
    · rfl
    cases excluded with
    | hidden hidden => contradiction
    | generic generic => contradiction
    | event prefixed special => rw [accessorReason?_event prefixed special]; rfl
    | property prefixed special declared old =>
        rw [accessorReason?_property prefixed special, declared]
        simp [old]
    | obsolete old =>
        cases descriptor.accessorReason? method with
        | some reason => rfl
        | none => simp [old]
  · intro skipped
    rw [skipReason?] at skipped
    split at skipped
    · exact .hidden ‹_›
    split at skipped
    · exact .generic ‹_›
    split at skipped
    · exact excludes_of_accessorReason? ‹_›
    · split at skipped
      · exact .obsolete ‹_›
      · cases skipped

end TypeDescriptor

/-! ## Methods of a module -/

namespace BindingModule

/-- Where the methods of a type go: the excluded ones are skipped, and each of the others has a plan
by its number among them, or else a diagnostic. -/
structure Accounts (descriptor : TypeDescriptor) (bindings : BindingModule) : Prop where
  type : bindings.type = descriptor.type
  reference : bindings.reference = descriptor.type.reference
  methods : ∃ eligible,
    Splits (fun method entry => descriptor.Excludes method ∧ entry.1 = method.name ∧
        descriptor.skipReason? method = some entry.2)
      (fun method kept => ¬descriptor.Excludes method ∧ kept = method)
      descriptor.methods bindings.skipped eligible ∧
    Splits (fun (method, ordinal) plan =>
        Plan.build descriptor.type method ordinal = .ok plan ∧
          plan.signature = method.signature descriptor.type)
      (fun (method, ordinal) diagnostic => ∃ error,
        Plan.build descriptor.type method ordinal = .error error ∧
          diagnostic = ⟨bindings.reference, method.name, error.message⟩)
      eligible.zipIdx bindings.plans bindings.diagnostics

theorem skipped_ofDescription (options : Options) (descriptor : TypeDescriptor) :
    (ofDescription options descriptor).skipped = descriptor.methods.filterMap fun method =>
      (descriptor.skipReason? method).map (method.name, ·) := by
  simp only [ofDescription, ofDescriptor, TypeDescriptor.skipped, List.map_filterMap,
    Option.map_map]
  rfl

theorem ofDescription_accounts (options : Options) (descriptor : TypeDescriptor) :
    (ofDescription options descriptor).Accounts descriptor where
  type := rfl
  reference := rfl
  methods := by
    refine ⟨descriptor.methods.filter fun method => (descriptor.skipReason? method).isNone, ?_, ?_⟩
    · rw [skipped_ofDescription, ← List.filterMap_eq_filter]
      apply Splits.of_filterMap
      intro method _
      rw [TypeDescriptor.excludes_iff]
      cases found : descriptor.skipReason? method with
      | some reason =>
          exact .inl ⟨(method.name, reason), rfl, by simp [Option.guard, found], by simp⟩
      | none => exact .inr ⟨method, rfl, by simp [Option.guard, found], by simp⟩
    · simp only [ofDescription, ofDescriptor, attempts, plansOf, diagnosticsOf, List.filterMap_map]
      apply Splits.of_filterMap
      rintro ⟨method, ordinal⟩ -
      simp only [Function.comp_apply]
      cases attempt : Plan.build descriptor.type method ordinal with
      | ok plan => exact .inl ⟨plan, rfl, rfl, rfl, (Plan.build_built attempt).signature⟩
      | error error => exact .inr ⟨_, rfl, rfl, error, rfl, rfl⟩

end BindingModule

/-! ## Types of a catalogue -/

namespace Generation

theorem ofDescriptions_splits (options : Options) (descriptors : List TypeDescriptor) :
    Splits
      (fun descriptor reference => (options.skipObsoleteTypes = true ∧ descriptor.obsolete = true) ∧
        reference = descriptor.type.reference)
      (fun descriptor self => ¬(options.skipObsoleteTypes = true ∧ descriptor.obsolete = true) ∧
        self.Accounts descriptor)
      descriptors (ofDescriptions options descriptors).skippedTypes
      (ofDescriptions options descriptors).modules := by
  simp only [ofDescriptions, ← List.filterMap_eq_filter, List.map_filterMap]
  apply Splits.of_filterMap
  intro descriptor _
  rw [← Bool.and_eq_true]
  cases obsolete : options.skipObsoleteTypes && descriptor.obsolete with
  | true =>
      have passed : keeps options descriptor = false := by rw [keeps, obsolete, Bool.not_true]
      exact .inl ⟨_, by simp [passed], by simp [passed], rfl, rfl⟩
  | false =>
      have kept : keeps options descriptor = true := by rw [keeps, obsolete, Bool.not_false]
      exact .inr ⟨_, by simp [kept], by simp [kept], fun both => absurd both Bool.false_ne_true,
        BindingModule.ofDescription_accounts options descriptor⟩

end Generation

end NativeBridge
