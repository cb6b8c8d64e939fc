import Mathlib.Data.List.Perm.Basic
import NativeBridge.Demo.Types
import NativeBridge.Proofs.Calls.Registrations
import NativeBridge.Proofs.Planning.Generations
import NativeBridge.Proofs.Planning.PlanShape

/-!
# Catalogues in another order

A module is made from one description alone, and every plan of it belongs to the type of that
description. So the order of a catalogue decides in which order plans are registered, but not which
plan of a signature is the last one.

* `lastPlan?_of_perm`: the last plan of each signature in two orders of the same descriptions.
* `install_of_perm`: fresh registries into which the two generations are installed.
-/

namespace NativeBridge

namespace Generation

def plansFor (options : Options) (descriptor : TypeDescriptor) : List Plan :=
  (BindingModule.ofDescription options descriptor).plans

theorem plans_ofDescriptions (options : Options) (descriptors : List TypeDescriptor) :
    (ofDescriptions options descriptors).plans =
      (descriptors.filter (keeps options)).flatMap (plansFor options) := by
  rw [plans, ofDescriptions, List.flatMap_map]
  rfl

theorem declaring_of_mem_plansFor {options : Options} {descriptor : TypeDescriptor} {plan : Plan}
    (member : plan ∈ plansFor options descriptor) :
    plan.signature.declaring = descriptor.type.reference := by
  obtain ⟨⟨method, attempt⟩, tried, planned⟩ := List.mem_filterMap.mp member
  obtain ⟨⟨_, ordinal⟩, -, made⟩ := List.mem_map.mp tried
  cases made
  cases built : Plan.build descriptor.type method ordinal with
  | error fault => simp [built, Except.toOption] at planned
  | ok other =>
      obtain rfl : other = plan := by simpa [built, Except.toOption] using planned
      rw [(Plan.build_built built).signature]
      rfl

theorem filter_plansFor (options : Options) (descriptor : TypeDescriptor) (reference : String) :
    (plansFor options descriptor).filter (·.signature.declaring == reference) =
      if descriptor.type.reference == reference then plansFor options descriptor else [] := by
  split
  · rename_i named
    rw [List.filter_eq_self]
    intro plan member
    rwa [declaring_of_mem_plansFor member]
  · rename_i other
    rw [List.filter_eq_nil_iff]
    intro plan member
    rwa [declaring_of_mem_plansFor member]

theorem filter_reference_of_perm {descriptors others : List TypeDescriptor}
    (permuted : others.Perm descriptors) (distinct : (Catalogue.references descriptors).Nodup)
    (reference : String) :
    others.filter (·.type.reference == reference) =
      descriptors.filter (·.type.reference == reference) := by
  have pair := permuted.filter (·.type.reference == reference)
  have few : (descriptors.filter (·.type.reference == reference)).length ≤ 1 := by
    rw [← List.countP_eq_length_filter]
    have counted := List.nodup_iff_count_le_one.mp distinct reference
    rwa [Catalogue.references, List.count, List.countP_map] at counted
  cases found : descriptors.filter (·.type.reference == reference) with
  | nil => exact (found ▸ pair).eq_nil
  | cons descriptor rest =>
      obtain rfl : rest = [] := by
        rw [found, List.length_cons] at few
        exact List.eq_nil_of_length_eq_zero (by omega)
      exact List.perm_singleton.mp (found ▸ pair)

theorem plans_of_perm {descriptors others : List TypeDescriptor}
    (permuted : others.Perm descriptors) (options : Options) :
    (ofDescriptions options others).plans.Perm (ofDescriptions options descriptors).plans := by
  rw [plans_ofDescriptions, plans_ofDescriptions]
  exact (permuted.filter _).flatMap_right _

theorem filter_plans_of_perm {descriptors others : List TypeDescriptor}
    (permuted : others.Perm descriptors) (distinct : (Catalogue.references descriptors).Nodup)
    (options : Options) (reference : String) :
    (ofDescriptions options others).plans.filter (·.signature.declaring == reference) =
      (ofDescriptions options descriptors).plans.filter (·.signature.declaring == reference) := by
  have ofType (descriptors : List TypeDescriptor) :
      (ofDescriptions options descriptors).plans.filter (·.signature.declaring == reference) =
        ((descriptors.filter (·.type.reference == reference)).filter (keeps options)).flatMap
          (plansFor options) := by
    rw [plans_ofDescriptions, List.filter_flatMap, List.filter_comm]
    simp only [filter_plansFor]
    induction descriptors.filter (keeps options) with
    | nil => rfl
    | cons descriptor rest ih =>
        rw [List.flatMap_cons, ih, List.filter_cons]
        split <;> simp
  rw [ofType, ofType, filter_reference_of_perm permuted distinct]

theorem lastPlan?_of_perm {descriptors others : List TypeDescriptor}
    (permuted : others.Perm descriptors) (distinct : (Catalogue.references descriptors).Nodup)
    (options : Options) (signature : Signature) :
    Registry.lastPlan? (ofDescriptions options others).plans signature =
      Registry.lastPlan? (ofDescriptions options descriptors).plans signature := by
  -- Only plans of the type that the signature names can have the signature.
  have among (plans : List Plan) : Registry.lastPlan? plans signature =
      Registry.lastPlan? (plans.filter (·.signature.declaring == signature.declaring))
        signature := by
    rw [Registry.lastPlan?, Registry.lastPlan?, ← List.filter_reverse, List.find?_filter]
    congr 1
    funext plan
    by_cases named : plan.signature = signature <;> simp [named]
  rw [among, filter_plans_of_perm permuted distinct, ← among]

end Generation

namespace Registry

variable {τ β : Type}

theorem Records.size_of_perm {registry other : Registry τ} {log log' : List (Signature × τ)}
    (records : registry.Records log) (records' : other.Records log') (permuted : log'.Perm log) :
    other.size = registry.size := by
  rw [records.size_eq, records'.size_eq]
  refine ((List.perm_ext_iff_of_nodup records'.nodup records.nodup).mpr ?_).length_eq
  intro signature
  rw [records.signatures, records'.signatures, List.mem_eraseDups, List.mem_eraseDups]
  exact (permuted.map (·.1)).mem_iff

/-- The order of a legal catalogue has no effect on what is found. Whatever a trampoline is made of
from a plan and its native body, fresh registries have the same for each signature, and the reports
differ only in the order of the signatures without a native body. -/
theorem install_of_perm {catalogue : Catalogue}
    (accepted : Catalogue.ofTypes catalogue.types = .ok catalogue) {others : List TypeDescriptor}
    (permuted : others.Perm catalogue.types) {options : Options}
    {generation generation' : Generation}
    (generated : Generation.generate catalogue options = .ok generation)
    (generated' : Generation.generate ⟨others⟩ options = .ok generation')
    (compile : Plan → β → τ) (natives : Signature → Option β) :
    Catalogue.ofTypes others = .ok ⟨others⟩ ∧
      ∃ report report' registry registry',
        ({} : Registry τ).run (install compile natives generation) = (.ok report, registry) ∧
        ({} : Registry τ).run (install compile natives generation') = (.ok report', registry') ∧
        (∀ signature, registry'.get? signature = registry.get? signature) ∧
        registry'.size = registry.size ∧ report'.registered = report.registered ∧
        report'.missing.Perm report.missing := by
  obtain ⟨-, distinct⟩ := Catalogue.ofTypes_eq_ok_iff.mp accepted
  have accepted' : Catalogue.ofTypes others = .ok ⟨others⟩ :=
    Catalogue.ofTypes_eq_ok_iff.mpr ⟨rfl, (permuted.map _).nodup_iff.mpr distinct⟩
  obtain ⟨-, -, rfl⟩ := (Generation.generate_eq_ok_iff accepted).mp generated
  obtain ⟨-, -, rfl⟩ := (Generation.generate_eq_ok_iff accepted').mp generated'
  have plans := Generation.plans_of_perm permuted options
  have bound := plans.filterMap fun plan => (natives plan.signature).map fun body =>
    (plan.signature, compile plan body)
  refine ⟨accepted', _, _, _, _, install_first compile natives rfl _,
    install_first compile natives rfl _, ?_, ?_, bound.length_eq, ?_⟩
  · intro signature
    rw [get?_registerAll, get?_registerAll, lookup_boundPlans, lookup_boundPlans,
      Generation.lastPlan?_of_perm permuted distinct]
  · exact (Records.empty.begin.registerAll _).size_of_perm (Records.empty.begin.registerAll _) bound
  · exact (plans.filter _).map _

theorem demo_install_backwards :
    ∃ report report' registry registry',
      ({} : Registry (Plan × Unit)).run (install Prod.mk (fun _ => some ())
          (.ofDescriptions {} Demo.catalogue.types)) = (.ok report, registry) ∧
        ({} : Registry (Plan × Unit)).run (install Prod.mk (fun _ => some ())
          (.ofDescriptions {} Demo.catalogue.types.reverse)) = (.ok report', registry') ∧
        report.registered = 6 ∧ report'.registered = 6 ∧
        ∀ signature, registry'.get? signature = registry.get? signature := by
  have accepted : Catalogue.ofTypes Demo.catalogue.types = .ok Demo.catalogue :=
    Catalogue.ofTypes_eq_ok_iff.mpr ⟨rfl, by decide⟩
  have accepted' : Catalogue.ofTypes Demo.catalogue.types.reverse =
      .ok ⟨Demo.catalogue.types.reverse⟩ :=
    Catalogue.ofTypes_eq_ok_iff.mpr ⟨rfl, by decide⟩
  have generated : Generation.generate Demo.catalogue {} =
      .ok (.ofDescriptions {} Demo.catalogue.types) :=
    (Generation.generate_eq_ok_iff accepted).mpr ⟨by decide, by decide, rfl⟩
  have generated' : Generation.generate ⟨Demo.catalogue.types.reverse⟩ {} =
      .ok (.ofDescriptions {} Demo.catalogue.types.reverse) :=
    (Generation.generate_eq_ok_iff accepted').mpr ⟨by decide, by decide, rfl⟩
  obtain ⟨-, report, report', registry, registry', installed, installed', found, -, count, -⟩ :=
    install_of_perm accepted (List.reverse_perm _) generated generated' Prod.mk fun _ => some ()
  have six : report.registered = 6 := by
    rw [install_first _ _ rfl] at installed
    cases installed
    rfl
  exact ⟨report, report', registry, registry', installed, installed', six, count.trans six, found⟩

end Registry

end NativeBridge
