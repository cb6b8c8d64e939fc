import NativeBridge.Command.Outcome
import NativeBridge.Proofs.Output.WrittenFiles
import NativeBridge.Proofs.Source.CodeForms
import NativeBridge.Proofs.Source.EmittedPlans
import NativeBridge.Source.Reader

/-!
# Totals that are printed

Inspection and generation read the same files and end with a number of modules and of
registrations. Inspection counts plans, and generation counts the functions that it made of them, so
that the two totals are the same exactly if every plan has a form in code.

* `run_loadOptions`, `run_loadGeneration`: reading the files changes nothing.
* `registerCalls_ofModule`: what a module registers, in terms of its plans.
* `totals_agree_iff`: when the printed totals agree.
-/

namespace NativeBridge

open Source

/-! ## Registrations of a module -/

theorem BindingModule.planned_ofDescriptor {type : TypeRef} {descriptor : TypeDescriptor}
    {options : Options} {plan : Plan}
    (listed : plan ∈ (ofDescriptor type descriptor options).plans) : Planned plan := by
  simp only [ofDescriptor, plansOf, attempts, List.filterMap_map, List.mem_filterMap] at listed
  obtain ⟨⟨method, ordinal⟩, -, attempt⟩ := listed
  simp only [Function.comp_apply] at attempt
  cases built : Plan.build type method ordinal with
  | ok other =>
      rw [built] at attempt
      cases attempt
      exact planned_of_build built
  | error error =>
      rw [built] at attempt
      cases attempt

section Grammar

variable [Grammar]

theorem Source.RenderedModule.map_stubsOf {plans : List Plan}
    (planned : ∀ plan ∈ plans, Planned plan) :
    (stubsOf (attempts plans)).map (fun stub => (stub.signature, stub.name.token)) =
      (plans.filter (·.HasCodeForm)).map fun plan => (plan.signature, .word plan.ident) := by
  simp only [stubsOf, attempts, List.filterMap_map, List.map_filterMap, ← List.filterMap_eq_filter]
  apply List.filterMap_congr
  intro plan listed
  have planned := planned plan listed
  simp only [Function.comp_apply]
  cases made : Stub.ofPlan plan with
  | ok stub =>
      have form := (exists_stub_iff planned).mp ⟨stub, made⟩
      obtain ⟨name, ordinal, ident⟩ := planned.ident
      obtain ⟨signature, named⟩ := Stub.ofPlan_named made
      rw [ident, ofName_trampolineIdent, Except.ok.injEq] at named
      simp [Option.guard, form, signature, ident, ← named, Except.toOption, Ident.token]
  | error fault =>
      have noForm : ¬plan.HasCodeForm := by
        intro form
        obtain ⟨stub, other⟩ := (exists_stub_iff planned).mpr form
        cases made.symm.trans other
      simp [Option.guard, noForm, Except.toOption]

/-- A module registers the plans that have a form in code, in order and under their own names. -/
structure Source.RenderedModule.Registers (runtime : List Token) (bindings : BindingModule)
    (rendered : RenderedModule) : Prop where
  ident : rendered.file.ident = bindings.ident
  calls : registerCalls runtime rendered.file.codeFile.body =
    (bindings.plans.filter (·.HasCodeForm)).map fun plan => (plan.signature, .word plan.ident)
  registrations : rendered.registrations = (bindings.plans.filter (·.HasCodeForm)).length

theorem Source.RenderedModule.registers_ofModule {runtime : List Token} {name : Token}
    {more : List Token} (begins : runtime = name :: more) (isName : name.IsName)
    {bindings : BindingModule} (planned : ∀ plan ∈ bindings.plans, Planned plan) :
    Registers runtime bindings (ofModule runtime bindings) := by
  have path : (ofModule runtime bindings).file.runtime = name :: more := begins
  have stubs := map_stubsOf planned
  have count := congrArg List.length stubs
  rw [List.length_map, List.length_map] at count
  exact ⟨rfl, (registerCalls_module path isName).trans stubs, count⟩

theorem GeneratorRun.registers (run : GeneratorRun) :
    List.Forall₂ (RenderedModule.Registers run.rendering.aggregate.runtime)
      run.generation.modules run.rendering.modules := by
  obtain ⟨runtime, entries, path, -, rendering, -⟩ :=
    Rendering.ofGeneration_eq_ok_iff.mp run.rendered
  obtain ⟨name, more, begins, isName⟩ := runtimePath_eq_cons path
  rw [rendering, Rendering.withRuntime, List.forall₂_map_right_iff, List.forall₂_same]
  intro self member
  apply RenderedModule.registers_ofModule begins isName
  rw [run.generation_eq] at member
  obtain ⟨descriptor, -, rfl⟩ := List.mem_map.mp member
  exact fun plan listed => BindingModule.planned_ofDescriptor listed

theorem registrations_eq_iff {runtime : List Token} {bindings : List BindingModule}
    {rendered : List RenderedModule}
    (each : List.Forall₂ (RenderedModule.Registers runtime) bindings rendered) :
    (rendered.map (·.registrations)).sum ≤ (bindings.map (·.registrations)).sum ∧
      ((bindings.map (·.registrations)).sum = (rendered.map (·.registrations)).sum ↔
        ∀ self ∈ bindings, ∀ plan ∈ self.plans, plan.HasCodeForm) := by
  induction each with
  | nil => simp
  | @cons self file bindings rendered registers _ ih =>
      obtain ⟨below, equal⟩ := ih
      have fewer := List.length_filter_le (·.HasCodeForm) self.plans
      have all : (self.plans.filter (·.HasCodeForm)).length = self.plans.length ↔
          ∀ plan ∈ self.plans, plan.HasCodeForm := by
        simp [List.length_filter_eq_length_iff]
      rw [List.forall_mem_cons, ← equal, ← all]
      simp only [List.map_cons, List.sum_cons, registers.registrations,
        BindingModule.registrations] at below ⊢
      omega

end Grammar

theorem Generation.registrations_eq_sum (generation : Generation) :
    generation.registrations = (generation.modules.map (·.registrations)).sum := by
  rw [registrations, List.sum_eq_foldr, List.foldr_map]

/-! ## Files of a request -/

def FileTree.textOf? (home : List String) (path : String) (tree : FileTree) : Option String :=
  (Path.ofText? path).bind fun path => tree.readPath home path

namespace Command

variable {home : List String} {tree : FileTree}

def optionsIn (home : List String) (tree : FileTree) : Option String → Except Failure Options
  | none => .ok {}
  | some path =>
      match tree.textOf? home path with
      | none => .error (.options path .io)
      | some text => (Options.ofToml text).mapError (.options path)

def catalogueIn (home : List String) (tree : FileTree) (path : String) : Except Failure Catalogue :=
  match tree.textOf? home path with
  | none => .error (.catalogue path .io)
  | some text => (Catalogue.ofText text).mapError (.catalogue path)

theorem mapError_eq_ok {ε δ α : Type} {f : ε → δ} {result : Except ε α} {value : α} :
    result.mapError f = .ok value ↔ result = .ok value := by
  cases result <;> simp [Except.mapError]

def generationIn (home : List String) (tree : FileTree) (catalogue : String) (options : Options) :
    Except Failure Generation := do
  (Generation.generate (← catalogueIn home tree catalogue) options).mapError .binding

theorem run_read (path : String) :
    (liftM ((FileTree.access home).read path) : ExceptT Failure (StateM FileTree) _).run.run tree =
      (.ok (tree.textOf? home path), tree) := rfl

theorem run_orFail {α : Type} (failure : BindingError → Failure) (result : Except BindingError α) :
    (orFail failure result : ExceptT Failure (StateM FileTree) α).run.run tree =
      (result.mapError failure, tree) := rfl

theorem run_loadOptions (config : Option String) :
    (loadOptions (FileTree.access home) config).run.run tree =
      (optionsIn home tree config, tree) := by
  cases config with
  | none => rfl
  | some path =>
      refine (run_bind_eq _ _ tree).trans ?_
      rw [run_read, optionsIn]
      cases tree.textOf? home path <;> rfl

theorem run_loadCatalogue (path : String) :
    (loadCatalogue (FileTree.access home) path).run.run tree =
      (catalogueIn home tree path, tree) := by
  refine (run_bind_eq _ _ tree).trans ?_
  rw [run_read, catalogueIn]
  cases tree.textOf? home path <;> rfl

theorem run_loadGeneration (catalogue : String) (options : Options) :
    (loadGeneration (FileTree.access home) catalogue options).run.run tree =
      (generationIn home tree catalogue options, tree) := by
  refine (run_bind_eq _ _ tree).trans ?_
  rw [run_loadCatalogue, generationIn]
  cases catalogueIn home tree catalogue <;> rfl

theorem exitCode_failed (warnings : String) (failure : Failure) :
    (failed warnings failure).exitCode ≠ 0 := by
  rw [failed]
  split <;> simp

def printed (lines : List String) : String := String.join (lines.map (· ++ "\n"))

theorem run_inspect (catalogue : String) (config : Option String) :
    (inspect (FileTree.access home) catalogue config).run tree =
      (match optionsIn home tree config >>= generationIn home tree catalogue with
        | .error failure => failed "" failure
        | .ok generation => { out := printed (inspectionLines generation) }, tree) := by
  have loaded : (do
      let options ← loadOptions (FileTree.access home) config
      loadGeneration (FileTree.access home) catalogue options :
      ExceptT Failure (StateM FileTree) Generation).run.run tree =
        (optionsIn home tree config >>= generationIn home tree catalogue, tree) := by
    refine (run_bind_eq _ _ tree).trans ?_
    rw [run_loadOptions]
    cases optionsIn home tree config with
    | error failure => rfl
    | ok options => exact run_loadGeneration catalogue options
  rw [inspect, StateT.run_bind, loaded]
  cases optionsIn home tree config >>= generationIn home tree catalogue <;> rfl

theorem inspect_succeeds {catalogue : String} {config : Option String} {outcome : Outcome}
    {left : FileTree}
    (ran : (inspect (FileTree.access home) catalogue config).run tree = (outcome, left))
    (succeeded : outcome.exitCode = 0) :
    left = tree ∧ ∃ options generation, optionsIn home tree config = .ok options ∧
      generationIn home tree catalogue options = .ok generation ∧
        outcome.out = printed (inspectionLines generation) := by
  rw [run_inspect] at ran
  cases loaded : optionsIn home tree config >>= generationIn home tree catalogue with
  | error failure =>
      rw [loaded] at ran
      cases ran
      exact absurd succeeded (exitCode_failed _ _)
  | ok generation =>
      rw [loaded] at ran
      cases ran
      obtain ⟨options, found, made⟩ := bind_eq_ok.mp loaded
      exact ⟨rfl, options, generation, found, made, rfl⟩

def renderingIn [Grammar] (home : List String) (tree : FileTree) (catalogue : String)
    (options : Options) :
    Except Failure (Generation × Rendering) := do
  let generation ← generationIn home tree catalogue options
  let rendering ← (Rendering.ofGeneration generation options).mapError .binding
  return (generation, rendering)

theorem run_generate [Grammar] (catalogue folder : String) (config : Option String) :
    (generate (FileTree.access home) catalogue folder config none none).run tree =
      match optionsIn home tree config >>= renderingIn home tree catalogue with
      | .error failure => (failed "" failure, tree)
      | .ok (generation, rendering) =>
          let warnings := String.join
            (rendering.diagnostics.map fun diagnostic => "warning: " ++ diagnostic.text ++ "\n")
          match tree.run (writeRendering (FileTree.access home) folder rendering) with
          | (.error cause, after) => (failed warnings (.writing folder cause), after)
          | (.ok report, after) =>
              ({ out := printed (reportLines folder generation rendering report), err := warnings },
                after) := by
  have loaded : (do
      let options ← loadOptions (FileTree.access home) config
      let options := overridden options none none
      let generation ← loadGeneration (FileTree.access home) catalogue options
      let rendering ← orFail .binding (Rendering.ofGeneration generation options)
      return (generation, rendering) :
      ExceptT Failure (StateM FileTree) (Generation × Rendering)).run.run tree =
        (optionsIn home tree config >>= renderingIn home tree catalogue, tree) := by
    refine (run_bind_eq _ _ tree).trans ?_
    rw [run_loadOptions]
    cases optionsIn home tree config with
    | error failure => rfl
    | ok options =>
        refine (run_bind_eq (loadGeneration _ catalogue options) _ tree).trans ?_
        rw [run_loadGeneration]
        simp only [renderingIn, bind, Except.bind]
        cases generationIn home tree catalogue options with
        | error failure => rfl
        | ok generation =>
            refine (run_bind_eq (orFail _ (Rendering.ofGeneration generation options)) _
              tree).trans ?_
            simp only [run_orFail]
            cases Rendering.ofGeneration generation options <;> rfl
  rw [generate, StateT.run_bind, loaded]
  cases optionsIn home tree config >>= renderingIn home tree catalogue with
  | error failure => rfl
  | ok made =>
      obtain ⟨generation, rendering⟩ := made
      refine (StateT.run_bind (writeRendering _ folder rendering).run _ tree).trans ?_
      simp only
      unfold FileTree.run
      rcases StateT.run (writeRendering (FileTree.access home) folder rendering).run tree with
        ⟨cause | report, after⟩ <;> rfl

theorem generate_succeeds [Grammar] {catalogue folder : String} {config : Option String}
    {outcome : Outcome} {after : FileTree}
    (ran : (generate (FileTree.access home) catalogue folder config none none).run tree =
      (outcome, after))
    (succeeded : outcome.exitCode = 0) :
    ∃ options generation rendering report, optionsIn home tree config = .ok options ∧
      generationIn home tree catalogue options = .ok generation ∧
      Rendering.ofGeneration generation options = .ok rendering ∧
        outcome.out = printed (reportLines folder generation rendering report) := by
  rw [run_generate] at ran
  cases loaded : optionsIn home tree config >>= renderingIn home tree catalogue with
  | error failure =>
      rw [loaded] at ran
      cases ran
      exact absurd succeeded (exitCode_failed _ _)
  | ok made =>
      obtain ⟨options, found, both⟩ := bind_eq_ok.mp loaded
      obtain ⟨generation, generated, rest⟩ := bind_eq_ok.mp both
      obtain ⟨rendering, rendered, same⟩ := bind_eq_ok.mp rest
      obtain rfl := pure_eq_ok.mp same
      rw [loaded] at ran
      simp only at ran
      split at ran
      · cases ran
        exact absurd succeeded (exitCode_failed _ _)
      · rename_i report _ _
        cases ran
        exact ⟨options, generation, rendering, report, found, generated,
          mapError_eq_ok.mp rendered, rfl⟩

/-! ## Totals -/

/-- The run of the generator that the files of a request describe. -/
structure Describes [Grammar] (home : List String) (tree : FileTree) (catalogue : String)
    (config : Option String) (run : GeneratorRun) : Prop where
  options : optionsIn home tree config = .ok run.options
  catalogue : catalogueIn home tree catalogue = .ok run.catalogue

def inspectedTotals (modules registrations : Nat) : String :=
  toString modules ++ " modules, " ++ toString registrations ++ " registrations"

def generatedTotals (folder : String) (modules registrations : Nat) : String :=
  "Generated " ++ toString modules ++ " modules (" ++ toString registrations ++
    " registrations) in " ++ folder

end Command

theorem Catalogue.accepted_of_ofText {text : String} {catalogue : Catalogue}
    (read : ofText text = .ok catalogue) : ofTypes catalogue.types = .ok catalogue := by
  rw [ofText] at read
  split at read
  · rw [ofJson] at read
    split at read
    · obtain ⟨rfl, -⟩ := ofTypes_eq_ok_iff.mp read
      exact read
    · cases read
  · cases read

namespace Command

variable {home : List String} {tree : FileTree}

theorem exists_describes [Grammar] {catalogue : String} {config : Option String} {options : Options}
    {generation : Generation} {rendering : Rendering}
    (found : optionsIn home tree config = .ok options)
    (generated : generationIn home tree catalogue options = .ok generation)
    (rendered : Rendering.ofGeneration generation options = .ok rendering) :
    ∃ run : GeneratorRun, Describes home tree catalogue config run ∧
      run.generation = generation ∧ run.rendering = rendering := by
  obtain ⟨described, read, made⟩ := bind_eq_ok.mp generated
  have accepted : Catalogue.ofTypes described.types = .ok described := by
    rw [catalogueIn] at read
    split at read
    · cases read
    · exact Catalogue.accepted_of_ofText (mapError_eq_ok.mp read)
  exact ⟨⟨described, options, generation, rendering, accepted, mapError_eq_ok.mp made, rendered⟩,
    ⟨found, read⟩, rfl, rfl⟩

/-- If the files of a request can both be inspected and be made into bindings, both print the same
number of modules. Every module registers those of the members that inspection lists which have a
form in code, and the printed numbers of registrations are the same exactly if all of them do. -/
theorem totals_agree_iff [Grammar] {catalogue folder : String} {config : Option String}
    {shown made : Outcome} {left after : FileTree}
    (inspected : (inspect (FileTree.access home) catalogue config).run tree = (shown, left))
    (showed : shown.exitCode = 0)
    (generated : (generate (FileTree.access home) catalogue folder config none none).run tree =
      (made, after))
    (succeeded : made.exitCode = 0) :
    left = tree ∧ ∃ run : GeneratorRun, Describes home tree catalogue config run ∧
      (∃ skipped, shown.out = printed (run.generation.modules.flatMap moduleLines ++ skipped ++
        [inspectedTotals run.generation.modules.length run.generation.registrations])) ∧
      (∃ details, made.out = printed (generatedTotals folder run.generation.modules.length
        run.rendering.registrations :: details)) ∧
      List.Forall₂ (RenderedModule.Registers run.rendering.aggregate.runtime)
        run.generation.modules run.rendering.modules ∧
      (run.generation.registrations = run.rendering.registrations ↔
        ∀ self ∈ run.generation.modules, ∀ plan ∈ self.plans, plan.HasCodeForm) := by
  obtain ⟨unchanged, options, generation, found, loaded, listed⟩ :=
    inspect_succeeds inspected showed
  obtain ⟨options', generation', rendering, report, found', loaded', rendered, reported⟩ :=
    generate_succeeds generated succeeded
  obtain rfl := Except.ok.inj (found.symm.trans found')
  obtain rfl := Except.ok.inj (loaded.symm.trans loaded')
  obtain ⟨run, describes, rfl, rfl⟩ := exists_describes found loaded rendered
  have registers := run.registers
  refine ⟨unchanged, run, describes, ⟨_, listed⟩,
    ⟨(reportLines folder run.generation run.rendering report).tail, ?_⟩, registers, ?_⟩
  · rw [reported, registers.length_eq]
    rfl
  · rw [Generation.registrations_eq_sum, Rendering.registrations_eq]
    exact (registrations_eq_iff registers).2

def workplace (category : String) : FileTree :=
  .folder [("types.json", .file
    ("\x7b\"types\":[\x7b\"type\":\x7b\"name\":\"Shape\",\"category\":\"" ++ category ++
      "\"\x7d,\"methods\":[\x7b\"name\":\"Area\"\x7d]\x7d]\x7d"))]

def inspection (category : String) : Outcome × FileTree :=
  (inspect (FileTree.access []) "types.json" none).run (workplace category)

def generation (category : String) : Outcome × FileTree :=
  (generate (FileTree.access []) "types.json" "out" none none none).run (workplace category)

def PrintsTotals (category : String) (registrations : Nat) : Prop :=
  (inspection category).1.exitCode = 0 ∧ (generation category).1.exitCode = 0 ∧
    (inspection category).1.out = printed ["Shape_Binding  (Shape)",
      "  Area_0                   Shape::Area()", inspectedTotals 1 1] ∧
    (generation category).1.out = printed [generatedTotals "out" 1 registrations,
      "  2 files written, 0 unchanged, 0 types skipped"]

instance (category : String) (registrations : Nat) :
    Decidable (PrintsTotals category registrations) :=
  inferInstanceAs (Decidable (_ ∧ _))

theorem class_printed : PrintsTotals "Class" 1 := by decide +kernel

theorem interface_printed : PrintsTotals "Interface" 0 := by decide +kernel

theorem class_totals :
    PrintsTotals "Class" 1 ∧
      ∃ run : GeneratorRun, Describes [] (workplace "Class") "types.json" none run ∧
        (run.generation.registrations = run.rendering.registrations ↔
          ∀ self ∈ run.generation.modules, ∀ plan ∈ self.plans, plan.HasCodeForm) := by
  refine ⟨class_printed, ?_⟩
  obtain ⟨showed, succeeded, -, -⟩ := class_printed
  -- The outcomes are named, so that nothing carries the requests out a second time.
  rcases inspected : inspection "Class" with ⟨shown, left⟩
  rcases generated : generation "Class" with ⟨made, after⟩
  rw [inspected] at showed
  rw [generated] at succeeded
  unfold inspection at inspected
  unfold generation at generated
  obtain ⟨-, run, describes, -, -, -, totals⟩ :=
    totals_agree_iff inspected showed generated succeeded
  exact ⟨run, describes, totals⟩

theorem not_totals_agree :
    ¬ ∀ (home : List String) (tree left after : FileTree) (catalogue folder : String)
        (config : Option String) (shown made : Outcome),
        (inspect (FileTree.access home) catalogue config).run tree = (shown, left) →
          shown.exitCode = 0 →
            (generate (FileTree.access home) catalogue folder config none none).run tree =
                (made, after) →
              made.exitCode = 0 →
                ∀ (listing details : List String) (modules registrations others rendered : Nat),
                  shown.out = printed (listing ++ [inspectedTotals modules registrations]) →
                    made.out = printed (generatedTotals folder others rendered :: details) →
                      modules = others ∧ registrations = rendered := by
  intro agree
  have answered := interface_printed
  rw [PrintsTotals] at answered
  rcases inspected : inspection "Interface" with ⟨shown, left⟩
  rcases generated : generation "Interface" with ⟨made, after⟩
  rw [inspected, generated] at answered
  obtain ⟨showed, succeeded, listed, reported⟩ := answered
  unfold inspection at inspected
  unfold generation at generated
  have same := agree _ _ _ _ _ _ _ _ _ inspected showed generated succeeded
    ["Shape_Binding  (Shape)", "  Area_0                   Shape::Area()"]
    ["  2 files written, 0 unchanged, 0 types skipped"] 1 1 1 0 listed reported
  exact absurd same.2 (by decide)

end Command

end NativeBridge
