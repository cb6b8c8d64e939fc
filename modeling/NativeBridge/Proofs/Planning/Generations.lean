import NativeBridge.Proofs.Planning.ModuleNames
import NativeBridge.Proofs.Results

/-!
# What a generation holds

A generation from an accepted catalogue is determined by the descriptions and the options: the
modules are those of the descriptions that are kept, in order, each made from its description alone.

* `modulesOf_map`: the modules and the references of the types that are passed over.
* `generate_eq_ok_iff`: when there is a generation, and which one.
-/

namespace NativeBridge

def BindingModule.ofDescription (options : Options) (descriptor : TypeDescriptor) : BindingModule :=
  ofDescriptor descriptor.type descriptor options

namespace Generation

def ofDescriptions (options : Options) (descriptors : List TypeDescriptor) : Generation where
  modules := (descriptors.filter (keeps options)).map (BindingModule.ofDescription options)
  aggregate := { name := options.aggregate, modules := moduleNames options descriptors }
  skippedTypes := (descriptors.filter (!keeps options ·)).map (·.type.reference)

theorem map_ident_ofDescriptions (options : Options) (descriptors : List TypeDescriptor) :
    (ofDescriptions options descriptors).modules.map (·.ident) =
      moduleNames options descriptors := by
  rw [ofDescriptions, List.map_map, moduleNames]
  rfl

theorem modulesOf_map {catalogue : Catalogue} (options : Options)
    {descriptors : List TypeDescriptor}
    (described : ∀ descriptor ∈ descriptors, catalogue.describe descriptor.type = .ok descriptor) :
    modulesOf catalogue options (descriptors.map (·.type)) =
      .ok ((ofDescriptions options descriptors).modules,
        (ofDescriptions options descriptors).skippedTypes) := by
  induction descriptors with
  | nil => rfl
  | cons descriptor rest ih =>
      have inRest := ih fun other member => described other (List.mem_cons_of_mem _ member)
      have here := described descriptor List.mem_cons_self
      rw [List.map_cons, modulesOf, BindingModule.build, here, inRest]
      by_cases obsolete : options.skipObsoleteTypes && descriptor.obsolete
      · have passed : keeps options descriptor = false := by rw [keeps, obsolete, Bool.not_true]
        simp only [bind, Except.bind, pure, Except.pure, if_pos obsolete, ofDescriptions,
          List.filter_cons, passed, Bool.not_false, Bool.false_eq_true, if_false, if_true,
          List.map_cons]
      · have kept : keeps options descriptor = true := by
          rw [keeps, Bool.not_eq_true']
          simpa using obsolete
        simp only [bind, Except.bind, pure, Except.pure, if_neg obsolete, ofDescriptions,
          List.filter_cons, kept, Bool.not_true, Bool.false_eq_true, if_false, if_true,
          List.map_cons]
        rfl

theorem generate_eq_ok_iff {descriptors : List TypeDescriptor} {catalogue : Catalogue}
    {options : Options} {generation : Generation}
    (accepted : Catalogue.ofTypes descriptors = .ok catalogue) :
    generate catalogue options = .ok generation ↔
      options.validate = .ok () ∧ (moduleNames options descriptors).Nodup ∧
        generation = ofDescriptions options descriptors := by
  obtain ⟨rfl, distinct⟩ := Catalogue.ofTypes_eq_ok_iff.mp accepted
  have generated := modulesOf_map options
    fun descriptor listed => Catalogue.describe_of_mem distinct listed
  have unique := firstRepeated?_eq_none_iff [] (moduleNames options catalogue.types)
  simp only [List.not_mem_nil, not_false_eq_true, implies_true, and_true] at unique
  simp only [generate, ofListed, Catalogue.listed, bind_eq_ok, generated, Except.ok.injEq,
    ← unique]
  constructor
  · rintro ⟨⟨⟩, valid, -, rfl, made⟩
    rw [map_ident_ofDescriptions] at made
    refine ⟨valid, ?_⟩
    cases repeated : firstRepeated? [] (moduleNames options catalogue.types) with
    | none =>
        rw [repeated] at made
        exact ⟨rfl, (Except.ok.inj made).symm⟩
    | some ident =>
        rw [repeated] at made
        cases made
  · rintro ⟨valid, noneRepeated, rfl⟩
    refine ⟨(), valid, _, rfl, ?_⟩
    rw [map_ident_ofDescriptions, noneRepeated]
    rfl

end Generation

end NativeBridge
