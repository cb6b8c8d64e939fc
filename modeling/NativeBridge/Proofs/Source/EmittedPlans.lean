import NativeBridge.Proofs.Planning.Accounts
import NativeBridge.Proofs.Source.AggregateFingerprints
import NativeBridge.Proofs.Source.EmittedItems

/-!
# Emitted plans

What becomes of the plans of a generation when it is rendered. Every plan has a function and a
registration in the file of its module, or else a diagnostic, and every module has its place in the
aggregate.

* `Generation.accounts`: where all types and methods of a catalogue go.
-/

namespace NativeBridge

namespace Source

section Grammar

variable [Grammar]

theorem Stub.ofPlan_named {plan : Plan} {stub : Stub} (made : Stub.ofPlan plan = .ok stub) :
    stub.signature = plan.signature ∧ Ident.ofName plan.ident = .ok stub.name := by
  simp only [Stub.ofPlan, bind_eq_ok] at made
  obtain ⟨name, named, reads, -, made⟩ := made
  split at made
  on_goal 1 => split at made
  on_goal 1 => cases made
  all_goals
    simp only [bind_eq_ok] at made
    obtain ⟨owner, -, call, -, receiver, -, made⟩ := made
    split at made
    all_goals
      simp only [bind_eq_ok, pure_eq_ok] at made
      obtain ⟨result, -, writes, -, rfl⟩ := made
      exact ⟨rfl, named⟩

/-- Where the plans of a module go: each has a stub, which the file of the module defines and
registers under the signature of the plan, or else a further diagnostic. -/
structure RenderedModule.Accounts (runtime : List Token) (bindings : BindingModule)
    (rendered : RenderedModule) : Prop where
  ident : rendered.file.ident = bindings.ident
  plans : ∃ stubs further,
    Splits (fun plan stub => Stub.ofPlan plan = .ok stub ∧ stub.signature = plan.signature ∧
        Ident.ofName plan.ident = .ok stub.name)
      (fun plan diagnostic => ∃ fault, Stub.ofPlan plan = .error fault ∧
        diagnostic = ⟨bindings.reference, plan.signature.name, (BindingError.render fault).message⟩)
      bindings.plans stubs further ∧
    functionNames rendered.file.codeFile.body =
      stubs.map (·.name.token) ++ [.word "register"] ∧
    registerCalls runtime rendered.file.codeFile.body =
      stubs.map (fun stub => (stub.signature, stub.name.token)) ∧
    rendered.diagnostics = bindings.diagnostics ++ further
  registrations :
    rendered.registrations = (registerCalls runtime rendered.file.codeFile.body).length

theorem RenderedModule.splits_plans (reference : String) (plans : List Plan) :
    Splits (fun plan stub => Stub.ofPlan plan = .ok stub ∧ stub.signature = plan.signature ∧
        Ident.ofName plan.ident = .ok stub.name)
      (fun plan diagnostic => ∃ fault, Stub.ofPlan plan = .error fault ∧
        diagnostic = ⟨reference, plan.signature.name, (BindingError.render fault).message⟩)
      plans (stubsOf (attempts plans)) (diagnosticsOf reference (attempts plans)) := by
  simp only [attempts, stubsOf, diagnosticsOf, List.filterMap_map]
  apply Splits.of_filterMap
  intro plan _
  simp only [Function.comp_apply]
  cases attempt : Stub.ofPlan plan with
  | ok stub => exact .inl ⟨stub, rfl, rfl, rfl, Stub.ofPlan_named attempt⟩
  | error fault => exact .inr ⟨_, rfl, rfl, fault, rfl, rfl⟩

theorem RenderedModule.ofModule_accounts {runtime : List Token} {name : Token} {more : List Token}
    (begins : runtime = name :: more) (isName : name.IsName) (self : BindingModule) :
    Accounts runtime self (ofModule runtime self) := by
  have path : (ofModule runtime self).file.runtime = name :: more := begins
  have calls := registerCalls_module path isName
  have count := congrArg List.length calls
  rw [List.length_map] at count
  refine ⟨rfl, ?_, count.symm⟩
  exact ⟨_, _, splits_plans self.reference self.plans, functionNames_module _, calls, rfl⟩

theorem RenderedModule.Accounts.conserves {runtime : List Token} {self : BindingModule}
    {rendered : RenderedModule} (accounts : Accounts runtime self rendered) :
    self.registrations + self.diagnostics.length =
      rendered.registrations + rendered.diagnostics.length := by
  obtain ⟨stubs, further, splits, -, calls, diagnostics⟩ := accounts.plans
  rw [accounts.registrations, calls, diagnostics, List.length_map, List.length_append,
    BindingModule.registrations, splits.length_eq]
  omega

end Grammar

structure AggregateFile.Accounts (generation : Generation) (file : AggregateFile) : Prop where
  listed : generation.aggregate.modules = generation.modules.map (·.ident)
  once : generation.aggregate.modules.Nodup
  declared : List.Forall₂
    (fun ident entry => entry.1 = ident ++ ".rs" ∧
      ∃ name, Ident.ofName ident = .ok name ∧ entry.2 = name.token)
    generation.aggregate.modules (declaredModules file.codeFile.body)
  initialized :
    initializedModules file.runtime file.codeFile.body =
      (declaredModules file.codeFile.body).map (·.2)
  functions : functionNames file.codeFile.body = [.word "initialize"]

theorem ofIdents_eq_ok {idents : List String} {entries : List ModuleEntry}
    (named : idents.mapM ModuleEntry.ofIdent = .ok entries) :
    List.Forall₂
      (fun ident entry => entry.1 = ident ++ ".rs" ∧
        ∃ name, Ident.ofName ident = .ok name ∧ entry.2 = name.token)
      idents (entries.map fun entry => (entry.fileIdent ++ ".rs", entry.name.token)) := by
  rw [List.forall₂_map_right_iff]
  refine (mapM_eq_ok.mp named).imp ?_
  intro ident entry made
  obtain ⟨name, spelled, made⟩ := bind_eq_ok.mp made
  obtain rfl := pure_eq_ok.mp made
  cases found : Ident.ofName ident with
  | ok other =>
      rw [found] at spelled
      cases spelled
      exact ⟨rfl, name, rfl, rfl⟩
  | error fault =>
      rw [found] at spelled
      cases spelled

structure Rendering.Accounts [Grammar] (options : Options) (generation : Generation)
    (rendering : Rendering) : Prop where
  runtime : runtimePath options = .ok rendering.aggregate.runtime
  modules : List.Forall₂ (RenderedModule.Accounts rendering.aggregate.runtime)
    generation.modules rendering.modules
  aggregate : rendering.aggregate.Accounts generation
  registrations : rendering.registrations = (rendering.modules.map fun rendered =>
    (registerCalls rendering.aggregate.runtime rendered.file.codeFile.body).length).sum
  conserved : generation.registrations + generation.diagnostics.length =
    rendering.registrations + rendering.diagnostics.length

theorem Rendering.registrations_eq (rendering : Rendering) :
    rendering.registrations = (rendering.modules.map (·.registrations)).sum := by
  rw [registrations, List.sum_eq_foldr, List.foldr_map]

theorem Rendering.conserves [Grammar] {runtime : List Token} {generation : Generation}
    {rendering : Rendering}
    (modules : List.Forall₂ (RenderedModule.Accounts runtime) generation.modules
      rendering.modules) :
    generation.registrations + generation.diagnostics.length =
      rendering.registrations + rendering.diagnostics.length := by
  rw [Generation.registrations, registrations, Generation.diagnostics, diagnostics]
  generalize generation.modules = bound at modules ⊢
  generalize rendering.modules = rendered at modules ⊢
  induction modules with
  | nil => rfl
  | cons accounts _ ih =>
      have conserves := accounts.conserves
      simp only [List.foldr_cons, List.flatMap_cons, List.length_append] at ih ⊢
      omega

theorem Rendering.ofGeneration_accounts [Grammar] {options : Options} {generation : Generation}
    {rendering : Rendering} (rendered : ofGeneration generation options = .ok rendering)
    (listed : generation.aggregate.modules = generation.modules.map (·.ident))
    (once : generation.aggregate.modules.Nodup) :
    Accounts options generation rendering := by
  obtain ⟨runtime, entries, path, named, rfl, -⟩ := ofGeneration_eq_ok_iff.mp rendered
  obtain ⟨name, more, begins, isName⟩ := runtimePath_eq_cons path
  have each := RenderedModule.ofModule_accounts begins isName
  have modules : List.Forall₂ (RenderedModule.Accounts runtime) generation.modules
      (withRuntime runtime generation entries).modules := by
    rw [withRuntime, List.forall₂_map_right_iff, List.forall₂_same]
    exact fun self _ => each self
  refine ⟨path, modules, ⟨listed, once, ?_, ?_, functionNames_aggregate _⟩, ?_, conserves modules⟩
  · rw [declaredModules_aggregate]
    exact ofIdents_eq_ok named
  · rw [initializedModules_aggregate, declaredModules_aggregate, List.map_map]
    rfl
  · rw [registrations_eq]
    simp only [withRuntime, List.map_map]
    exact congrArg List.sum (List.map_congr_left fun self _ => (each self).registrations)

end Source

open Source

/-- Every type that is listed is passed over or has a module, and every method of a module is
skipped, has a plan, or has a diagnostic. When the generation is rendered, every plan has a function
and a registration, or a further diagnostic. -/
theorem Generation.accounts [Grammar] {catalogue : Catalogue} {options : Options}
    {generation : Generation}
    (accepted : Catalogue.ofTypes catalogue.types = .ok catalogue)
    (generated : generate catalogue options = .ok generation) :
    Splits
      (fun descriptor reference => (options.skipObsoleteTypes = true ∧ descriptor.obsolete = true) ∧
        reference = descriptor.type.reference)
      (fun descriptor self => ¬(options.skipObsoleteTypes = true ∧ descriptor.obsolete = true) ∧
        self.Accounts descriptor)
      catalogue.types generation.skippedTypes generation.modules ∧
    ∀ rendering, Rendering.ofGeneration generation options = .ok rendering →
      rendering.Accounts options generation := by
  obtain ⟨-, once, rfl⟩ := (generate_eq_ok_iff accepted).mp generated
  refine ⟨ofDescriptions_splits options catalogue.types, ?_⟩
  intro rendering rendered
  exact Rendering.ofGeneration_accounts rendered (map_ident_ofDescriptions options _).symm once

namespace GeneratorRun

def fateDescriptors : List TypeDescriptor :=
  [(TypeDescriptor.ofType (.ofClass "demo" "Old")).asObsolete,
    (TypeDescriptor.ofType (.ofClass "demo" "Panel"))
      |>.addProperty "Size" true
      |>.addMethod { Method.static "Run" with visibility := .declaringType }
      |>.addMethod (Demo.special (Method.onInstance "add_Clicked"))
      |>.addMethod (Demo.special (Method.onInstance "get_Size"))
      |>.addMethod (Method.static "Run")
      |>.addMethod (Demo.special ((Method.static "op_Modulus").addParam "a" Demo.int false))
      |>.addMethod { Demo.special ((Method.static "get_Item").addParam "key" Demo.int false) with
          result := some .string }]

def fates : GeneratorRun :=
  ofDescriptions fateDescriptors {} [⟨⟨"demo_Panel_Binding", false⟩, "demo_Panel_Binding"⟩]
    (by decide) (by decide) runtimePath_default rfl (by decide +kernel)

theorem fates_accounted :
    fates.generation.skippedTypes = ["demo::Old"] ∧ fates.generation.registrations = 2 ∧
      fates.rendering.registrations = 1 ∧ fates.rendering.diagnostics.length = 2 ∧
      fates.rendering.Accounts fates.options fates.generation := by
  have accounts := Generation.accounts fates.accepted fates.generated
  exact ⟨rfl, by decide +kernel, by decide +kernel, by decide +kernel,
    accounts.2 fates.rendering fates.rendered⟩

end GeneratorRun

end NativeBridge
