import Mathlib.Data.List.Nodup
import NativeBridge.Planning.Generation
import NativeBridge.Proofs.Entries
import NativeBridge.Proofs.Naming.Layout

/-!
# Names of modules

When the modules of a catalogue can share a name.

* `ofTypes_eq_ok_iff`: a catalogue is accepted when no two references in it are the same.
* `generate_eq_duplicateModule_iff`: a generation from an accepted catalogue reports a repeated
  module exactly when two module names are the same.
* `duplicateModule_iff_regrouped`: that happens exactly when two of its types are regroupings of
  each other, that is, when they differ only in where their argument lists begin.
-/

namespace NativeBridge

/-! ## Accepted catalogues -/

namespace Catalogue

def references (descriptors : List TypeDescriptor) : List String :=
  descriptors.map (·.type.reference)

theorem find?_eq_none_iff (catalogue : Catalogue) (reference : String) :
    catalogue.find? reference = none ↔ reference ∉ references catalogue.types := by
  simp [find?, references, List.find?_eq_none]

theorem push_eq_ok_iff {catalogue after : Catalogue} {descriptor : TypeDescriptor} :
    catalogue.push descriptor = .ok after ↔
      descriptor.type.reference ∉ references catalogue.types ∧
        after.types = catalogue.types ++ [descriptor] := by
  simp only [push]
  split
  · rename_i other found
    simp only [reduceCtorEq, false_iff, not_and]
    intro absent
    rw [(find?_eq_none_iff _ _).mpr absent] at found
    cases found
  · rename_i found
    have absent := (find?_eq_none_iff _ _).mp found
    simp only [Except.ok.injEq, absent, not_false_eq_true, true_and]
    cases after
    rw [Catalogue.mk.injEq, eq_comm]

theorem nodup_references_concat {types : List TypeDescriptor} {descriptor : TypeDescriptor} :
    (references (types ++ [descriptor])).Nodup ↔
      (references types).Nodup ∧ descriptor.type.reference ∉ references types := by
  simp only [references, List.map_append, List.map_cons, List.map_nil, List.nodup_append,
    List.nodup_cons, List.not_mem_nil, not_false_eq_true, List.nodup_nil, and_self, true_and,
    List.mem_singleton, forall_eq]
  grind

theorem foldlM_push_eq_ok_iff (descriptors : List TypeDescriptor) {before after : Catalogue}
    (distinct : (references before.types).Nodup) :
    descriptors.foldlM push before = .ok after ↔
      after.types = before.types ++ descriptors ∧
        (references (before.types ++ descriptors)).Nodup := by
  induction descriptors generalizing before with
  | nil =>
      rw [List.append_nil, List.foldlM_nil]
      cases before
      cases after
      simp only [pure, Except.pure, Except.ok.injEq, Catalogue.mk.injEq, distinct, and_true]
      exact eq_comm
  | cons descriptor rest ih =>
      rw [List.foldlM_cons, ← List.singleton_append, ← List.append_assoc]
      cases pushed : before.push descriptor with
      | error fault =>
          have repeated : ¬ (references (before.types ++ [descriptor])).Nodup := by
            intro unique
            obtain ⟨-, absent⟩ := nodup_references_concat.mp unique
            rw [push_eq_ok_iff.mpr ⟨absent, rfl⟩] at pushed
            cases pushed
          constructor
          · intro failed
            cases failed
          · rintro ⟨-, unique⟩
            rw [references, List.map_append] at unique
            exact absurd (List.nodup_append.mp unique).1 repeated
      | ok next =>
          obtain ⟨absent, types⟩ := push_eq_ok_iff.mp pushed
          have unique := nodup_references_concat.mpr ⟨distinct, absent⟩
          rw [← types] at unique ⊢
          exact ih unique

theorem ofTypes_eq_ok_iff {descriptors : List TypeDescriptor} {catalogue : Catalogue} :
    ofTypes descriptors = .ok catalogue ↔
      catalogue.types = descriptors ∧ (references descriptors).Nodup := by
  have distinct : (references ({} : Catalogue).types).Nodup := List.nodup_nil
  exact foldlM_push_eq_ok_iff descriptors distinct

theorem describe_of_mem {catalogue : Catalogue} {descriptor : TypeDescriptor}
    (distinct : (references catalogue.types).Nodup) (listed : descriptor ∈ catalogue.types) :
    catalogue.describe descriptor.type = .ok descriptor := by
  have found := find?_of_nodup (fun other : TypeDescriptor => other.type.reference) distinct listed
  rw [describe, find?, found]

end Catalogue

/-! ## Regrouped types -/

namespace TypeRef

/-- Two types with the same segments, the same nesting and the same ends of argument lists, in which
some argument opens a list in the one and continues a list in the other. -/
def Regrouped (t u : TypeRef) : Prop :=
  t.layout.map Mark.blur = u.layout.map Mark.blur ∧ t.layout ≠ u.layout

instance (t u : TypeRef) : Decidable (t.Regrouped u) := instDecidableAnd

theorem regrouped_iff (t u : TypeRef) :
    t.Regrouped u ↔ t.ident = u.ident ∧ t.reference ≠ u.reference := by
  rw [Regrouped, ← ident_eq_iff]
  constructor
  · rintro ⟨same, different⟩
    exact ⟨same, fun equal => different ((reference_eq_iff same).mp equal)⟩
  · rintro ⟨same, different⟩
    exact ⟨same, fun equal => different ((reference_eq_iff same).mpr equal)⟩

theorem bindingIdent_eq_iff (t u : TypeRef) (suffix : String) :
    t.bindingIdent suffix = u.bindingIdent suffix ↔ t.ident = u.ident :=
  String.append_left_inj suffix

end TypeRef

/-! ## Generations of accepted catalogues -/

namespace Generation

def keeps (options : Options) (descriptor : TypeDescriptor) : Bool :=
  !(options.skipObsoleteTypes && descriptor.obsolete)

def moduleNames (options : Options) (descriptors : List TypeDescriptor) : List String :=
  (descriptors.filter (keeps options)).map (·.type.bindingIdent options.suffix)

theorem modulesOf_map_type {catalogue : Catalogue} (options : Options)
    {descriptors : List TypeDescriptor}
    (described : ∀ descriptor ∈ descriptors, catalogue.describe descriptor.type = .ok descriptor) :
    ∃ modules skipped,
      modulesOf catalogue options (descriptors.map (·.type)) = .ok (modules, skipped) ∧
        modules.map (·.ident) = moduleNames options descriptors := by
  induction descriptors with
  | nil => exact ⟨[], [], rfl, rfl⟩
  | cons descriptor rest ih =>
      obtain ⟨modules, skipped, generated, names⟩ :=
        ih fun other member => described other (List.mem_cons_of_mem _ member)
      have here := described descriptor List.mem_cons_self
      simp only [List.map_cons, modulesOf, BindingModule.build, here, generated, moduleNames,
        bind, Except.bind, pure, Except.pure]
      by_cases obsolete : options.skipObsoleteTypes && descriptor.obsolete
      · refine ⟨modules, _, by rw [if_pos obsolete], ?_⟩
        rw [List.filter_cons_of_neg (by simp [keeps, obsolete]), names, moduleNames]
      · refine ⟨_, skipped, by rw [if_neg obsolete], ?_⟩
        have kept : keeps options descriptor = true := by
          rw [keeps, Bool.not_eq_true']
          simpa using obsolete
        rw [List.filter_cons_of_pos kept, List.map_cons, List.map_cons, names, moduleNames]
        rfl

theorem firstRepeated?_eq_none_iff (seen words : List String) :
    firstRepeated? seen words = none ↔ words.Nodup ∧ ∀ word ∈ words, word ∉ seen := by
  induction words generalizing seen with
  | nil => simp [firstRepeated?]
  | cons word rest ih =>
      rw [firstRepeated?]
      by_cases present : word ∈ seen
      · simp [present]
      · rw [if_neg (by simpa using present), ih]
        simp only [List.nodup_cons, List.mem_cons, not_or]
        grind

theorem generate_eq_duplicateModule_iff {descriptors : List TypeDescriptor}
    {catalogue : Catalogue} {options : Options}
    (accepted : Catalogue.ofTypes descriptors = .ok catalogue) (valid : options.validate = .ok ()) :
    (∃ ident, generate catalogue options = .error (.catalogue (.duplicateModule ident))) ↔
      ¬ (moduleNames options descriptors).Nodup := by
  obtain ⟨rfl, distinct⟩ := Catalogue.ofTypes_eq_ok_iff.mp accepted
  obtain ⟨modules, skipped, generated, names⟩ := modulesOf_map_type options
    fun descriptor listed => Catalogue.describe_of_mem distinct listed
  have unique := firstRepeated?_eq_none_iff [] (moduleNames options catalogue.types)
  simp only [List.not_mem_nil, not_false_eq_true, implies_true, and_true] at unique
  simp only [generate, ofListed, Catalogue.listed, valid, generated, names, bind, Except.bind]
  rw [← unique]
  cases repeated : firstRepeated? [] (moduleNames options catalogue.types) with
  | none => simp [pure, Except.pure]
  | some ident => simp [throw, throwThe, MonadExceptOf.throw]

theorem nodup_moduleNames_iff {descriptors : List TypeDescriptor}
    (distinct : (Catalogue.references descriptors).Nodup) (options : Options) :
    (moduleNames options descriptors).Nodup ↔
      ∀ d ∈ descriptors, ∀ e ∈ descriptors, keeps options d → keeps options e →
        ¬ d.type.Regrouped e.type := by
  have references : ((descriptors.filter (keeps options)).map (·.type.reference)).Nodup :=
    distinct.sublist (List.filter_sublist.map _)
  rw [moduleNames, List.nodup_map_iff_inj_on references.of_map]
  simp only [List.mem_filter, TypeRef.bindingIdent_eq_iff, TypeRef.regrouped_iff]
  constructor
  · rintro injective d listed e listed' kept kept' ⟨same, different⟩
    exact different (by rw [injective d ⟨listed, kept⟩ e ⟨listed', kept'⟩ same])
  · intro apart d kept e kept' same
    by_contra different
    refine apart d kept.1 e kept'.1 kept.2 kept'.2 ⟨same, fun equal => different ?_⟩
    exact List.inj_on_of_nodup_map references (List.mem_filter.mpr kept)
      (List.mem_filter.mpr kept') equal

/-- Identifiers clash exactly on regrouped types, and a generation from an accepted catalogue stops
over a repeated module exactly when two of the types that it keeps are regrouped. -/
theorem duplicateModule_iff_regrouped {descriptors : List TypeDescriptor} {catalogue : Catalogue}
    {options : Options} (accepted : Catalogue.ofTypes descriptors = .ok catalogue)
    (valid : options.validate = .ok ()) :
    (∀ t u : TypeRef, ¬ (t.ident = u.ident → t.reference = u.reference) ↔ t.Regrouped u) ∧
      ((∃ ident, generate catalogue options = .error (.catalogue (.duplicateModule ident))) ↔
        ∃ d ∈ descriptors, ∃ e ∈ descriptors, keeps options d ∧ keeps options e ∧
          d.type.Regrouped e.type) := by
  constructor
  · intro t u
    rw [Classical.not_imp, TypeRef.regrouped_iff]
  · obtain ⟨rfl, distinct⟩ := Catalogue.ofTypes_eq_ok_iff.mp accepted
    rw [generate_eq_duplicateModule_iff accepted valid, nodup_moduleNames_iff distinct]
    push Not
    rfl

def mapOfTwo : TypeRef :=
  (TypeRef.ofClass "" "Map`2").withArgs
    [.ofClass "" "A", (TypeRef.ofClass "" "B`1").withArgs [.ofClass "" "C"]]

def mapOfOne : TypeRef :=
  (TypeRef.ofClass "" "Map`1").withArgs
    [(TypeRef.ofClass "" "A`2").withArgs [.ofClass "" "B", .ofClass "" "C"]]

def maps : List TypeDescriptor := [.ofType mapOfTwo, .ofType mapOfOne]

theorem maps_duplicateModule :
    Catalogue.ofTypes maps = .ok { types := maps } ∧ ({} : Options).validate = .ok () ∧
      ∃ ident, generate { types := maps } {} = .error (.catalogue (.duplicateModule ident)) := by
  have accepted : Catalogue.ofTypes maps = .ok { types := maps } :=
    Catalogue.ofTypes_eq_ok_iff.mpr ⟨rfl, by decide⟩
  have valid : ({} : Options).validate = .ok () := by decide
  refine ⟨accepted, valid, (duplicateModule_iff_regrouped accepted valid).2.mpr ?_⟩
  exact ⟨.ofType mapOfTwo, List.mem_cons_self, .ofType mapOfOne, by simp [maps], by decide⟩

theorem not_distinct_moduleNames :
    ¬ (∀ descriptors catalogue options, Catalogue.ofTypes descriptors = .ok catalogue →
        options.validate = .ok () →
        ∀ ident, generate catalogue options ≠ .error (.catalogue (.duplicateModule ident))) ∧
      ¬ (∀ t u : TypeRef, t.ident = u.ident → t.reference = u.reference) := by
  constructor
  · intro never
    have accepted : Catalogue.ofTypes maps = .ok { types := maps } :=
      Catalogue.ofTypes_eq_ok_iff.mpr ⟨rfl, by decide⟩
    exact never maps { types := maps } {} accepted (by decide) "Map_3A_3B_3C_5_5_Binding" rfl
  · intro determined
    exact absurd (determined mapOfTwo mapOfOne (by decide)) (by decide)

end Generation

end NativeBridge
