import Mathlib.Data.List.Induction
import NativeBridge.Proofs.Demo.EmittedStubs
import NativeBridge.Proofs.Output.Headers
import NativeBridge.Proofs.Planning.Fingerprints
import NativeBridge.Proofs.Source.Renderings
import NativeBridge.Proofs.Source.RuntimePaths

/-!
# Fingerprints of aggregates

The fingerprint of an aggregate is made from its name and the names and fingerprints of the modules.
That says which modules there are, and with them the options, of which the text of the aggregate
depends on the path of the runtime. Without any module it says nothing of that path.

* `entries_inj`: the list of modules can be told from their names and fingerprints.
* `text_eq_iff_of_hashed`: when two aggregates that are made from the same bytes are the same.
-/

namespace NativeBridge

open Source

/-! ## The list of modules -/

def entryChars (options : Options) (descriptor : TypeDescriptor) : List Char :=
  (descriptor.type.bindingIdent options.suffix).toList ++
    (digest (fingerprintSource descriptor options)).toList

/-- No two fingerprints of the one and the other modules are the same by accident. -/
def Distinguished (options options' : Options) (descriptors others : List TypeDescriptor) : Prop :=
  ∀ descriptor ∈ descriptors, ∀ other ∈ others,
    digest (fingerprintSource descriptor options) = digest (fingerprintSource other options') →
      fingerprintSource descriptor options = fingerprintSource other options'

theorem entryChars_ne_nil (options : Options) (descriptor : TypeDescriptor) :
    entryChars options descriptor ≠ [] := by
  intro empty
  have length := congrArg List.length empty
  rw [entryChars, List.length_append, length_digest, List.length_nil] at length
  omega

theorem flatMap_entryChars_eq_nil {options : Options} {descriptors : List TypeDescriptor} :
    descriptors.flatMap (entryChars options) = [] ↔ descriptors = [] := by
  rw [List.flatMap_eq_nil_iff]
  constructor
  · intro empty
    refine List.eq_nil_iff_forall_not_mem.mpr ?_
    intro descriptor member
    exact entryChars_ne_nil options descriptor (empty descriptor member)
  · rintro rfl descriptor ⟨⟩

theorem entries_inj {options options' : Options} {descriptors others : List TypeDescriptor}
    (distinguished : Distinguished options options' descriptors others)
    (same : descriptors.flatMap (entryChars options) = others.flatMap (entryChars options')) :
    descriptors = others ∧ (descriptors ≠ [] → options = options') := by
  -- A fingerprint has a known length, so the last one can be taken off, and it says what the name
  -- before it is.
  induction descriptors using List.reverseRecOn generalizing others with
  | nil => exact ⟨(flatMap_entryChars_eq_nil.mp same.symm).symm, fun filled => absurd rfl filled⟩
  | append_singleton rest descriptor ih =>
      rcases List.eq_nil_or_concat' others with rfl | ⟨rest', other, rfl⟩
      · cases List.append_ne_nil_of_right_ne_nil rest (List.cons_ne_nil descriptor [])
          (flatMap_entryChars_eq_nil.mp same)
      · simp only [List.flatMap_append, List.flatMap_cons, List.flatMap_nil, List.append_nil,
          entryChars, ← List.append_assoc] at same
        obtain ⟨before, digests⟩ := List.append_inj' same (by rw [length_digest, length_digest])
        obtain ⟨rfl, rfl⟩ := fingerprintSource_inj
          (distinguished descriptor (by simp) other (by simp) (String.toList_inj.mp digests))
        obtain ⟨rfl, -⟩ := ih
          (fun earlier member later member' => distinguished earlier (by simp [member]) later
            (by simp [member']))
          (List.append_cancel_right before)
        exact ⟨rfl, fun _ => rfl⟩

/-! ## The text of the aggregate -/

namespace Source

theorem line_append {tokens others : List Token} (filled : tokens ≠ []) (filled' : others ≠ []) :
    line (tokens ++ others) = line tokens ++ " " ++ line others := by
  rw [line, List.map_append, String.intercalate_append_of_ne_nil (by simpa using filled)
    (by simpa using filled'), line, line]

theorem line_twice_eq_iff {before between after path other : List Token} (filled : path ≠ [])
    (filled' : other ≠ []) (left : before ≠ []) (middle : between ≠ []) (right : after ≠ []) :
    line (before ++ (path ++ (between ++ (path ++ after)))) =
        line (before ++ (other ++ (between ++ (other ++ after)))) ↔
      line path = line other := by
  have written (path : List Token) (filled : path ≠ []) :
      line (before ++ (path ++ (between ++ (path ++ after)))) =
        line before ++ " " ++ (line path ++ " " ++ (line between ++ " " ++
          (line path ++ " " ++ line after))) := by
    rw [line_append left (by simp [filled]), line_append filled (by simp [middle]),
      line_append middle (by simp [right]), line_append filled right]
  rw [written path filled, written other filled']
  constructor
  · intro same
    have chars := congrArg String.toList same
    simp only [String.toList_append] at chars
    have rest := List.append_cancel_left chars
    have length := congrArg List.length rest
    simp only [List.length_append] at length
    obtain ⟨first, -⟩ := List.append_inj rest (by simp only [List.length_append]; omega)
    exact String.toList_inj.mp (List.append_cancel_right first)
  · intro same
    rw [same]

theorem registryFunction_eq (runtime : List Token) (docs : List String) (name : String)
    (arrow result body : List Token) :
    registryFunction runtime docs name (arrow ++ runtime ++ result) body =
      (docs.flatMap docTokens ++ code "pub fn" ++ [.word name, .mark "("] ++
        code "registry: &mut") ++
      (runtime ++ ((code "::MethodRegistry" ++ [.mark ")"] ++ arrow) ++
        (runtime ++ (result ++ braces body)))) := by
  simp [registryFunction, parens]

theorem line_initializeTokens_eq_iff {runtime other : List Token} (filled : runtime ≠ [])
    (filled' : other ≠ []) (modules : List Ident) :
    line (initializeTokens runtime modules) = line (initializeTokens other modules) ↔
      line runtime = line other := by
  rw [initializeTokens, initializeTokens, registryFunction_eq, registryFunction_eq]
  exact line_twice_eq_iff filled filled' (by simp) (by simp) (by simp [braces])

theorem AggregateFile.text_eq_iff {file other : AggregateFile}
    (fingerprint : file.fingerprint = other.fingerprint) (modules : file.modules = other.modules)
    (filled : file.runtime ≠ []) (filled' : other.runtime ≠ []) :
    file.codeFile.text = other.codeFile.text ↔ line file.runtime = line other.runtime := by
  have text (file : AggregateFile) : file.codeFile.text =
      String.join ((generalHeader file.fingerprint ++ [""] ++
        (file.modules.map moduleTokens).map line).map (· ++ "\n")) ++
        (line (initializeTokens file.runtime (file.modules.map (·.name))) ++ "\n") := by
    simp only [codeFile, CodeFile.text, List.map_append, List.map_cons, List.map_nil,
      ← List.append_assoc, String.join_append, String.join_cons, String.join_nil,
      String.append_empty]
  rw [text file, text other, fingerprint, modules,
    ← line_initializeTokens_eq_iff filled filled' (other.modules.map (·.name))]
  constructor
  · intro same
    have chars := congrArg String.toList same
    simp only [String.toList_append] at chars
    exact String.toList_inj.mp (List.append_cancel_right (List.append_cancel_left chars))
  · intro same
    rw [same]

end Source

/-! ## Runs of the generator -/

/-- A run of the generator: a catalogue that was accepted, what is generated from it, and what that
is rendered to with the same options. -/
structure GeneratorRun [Grammar] where
  catalogue : Catalogue
  options : Options
  generation : Generation
  rendering : Rendering
  accepted : Catalogue.ofTypes catalogue.types = .ok catalogue
  generated : Generation.generate catalogue options = .ok generation
  rendered : Rendering.ofGeneration generation options = .ok rendering

namespace GeneratorRun

section Grammar

variable [Grammar]

def kept (run : GeneratorRun) : List TypeDescriptor :=
  run.catalogue.types.filter (Generation.keeps run.options)

def hashed (run : GeneratorRun) : String :=
  aggregateSource run.generation.aggregate.name run.rendering.modules

theorem generation_eq (run : GeneratorRun) :
    run.generation = .ofDescriptions run.options run.catalogue.types :=
  ((Generation.generate_eq_ok_iff run.accepted).mp run.generated).2.2

theorem modules_eq_nil_iff (run : GeneratorRun) : run.generation.modules = [] ↔ run.kept = [] := by
  rw [generation_eq, Generation.ofDescriptions, List.map_eq_nil_iff, kept]

theorem names_eq (run : GeneratorRun) : run.generation.aggregate.modules =
    run.kept.map (·.type.bindingIdent run.options.suffix) := by
  rw [generation_eq]
  rfl

theorem toList_hashed (run : GeneratorRun) :
    run.hashed.toList =
      run.options.aggregate.toList ++ run.kept.flatMap (entryChars run.options) := by
  obtain ⟨runtime, entries, -, -, rendering, -⟩ :=
    Rendering.ofGeneration_eq_ok_iff.mp run.rendered
  rw [hashed, rendering, generation_eq, aggregateSource, String.toList_append, String.toList_join]
  simp only [Rendering.withRuntime, Generation.ofDescriptions, List.flatMap_map]
  congr 1
  apply List.flatMap_congr
  intro descriptor member
  rw [String.toList_append]
  rfl

theorem fingerprint_eq (run : GeneratorRun) :
    run.rendering.aggregate.fingerprint = digest run.hashed := by
  obtain ⟨runtime, entries, -, -, rendering, -⟩ :=
    Rendering.ofGeneration_eq_ok_iff.mp run.rendered
  rw [hashed, rendering]
  rfl

theorem recorded_eq (run : GeneratorRun) :
    recordedFingerprint? run.rendering.aggregate.codeFile.text =
      some run.rendering.aggregate.fingerprint := by
  have header : run.rendering.aggregate.codeFile.header =
      (fingerprintMark ++ digest run.hashed) :: ["// Generated by stackbind. Do not edit."] := by
    rw [← fingerprint_eq]
    rfl
  rw [fingerprint_eq]
  exact recordedFingerprint?_text header

/-- If the fingerprints of two aggregates of the same name are made from the same bytes, then the
writer takes the file of the one for that of the other. The two are the same exactly if a module is
generated, or the paths of the runtime are written alike. -/
theorem text_eq_iff_of_hashed (run other : GeneratorRun)
    (named : run.options.aggregate = other.options.aggregate)
    (distinguished : Distinguished run.options other.options run.kept other.kept)
    (same : run.hashed.toUTF8 = other.hashed.toUTF8) :
    recordedFingerprint? run.rendering.aggregate.codeFile.text =
        some other.rendering.aggregate.fingerprint ∧
      (run.rendering.aggregate.codeFile.text = other.rendering.aggregate.codeFile.text ↔
        run.generation.modules ≠ [] ∨
          line run.rendering.aggregate.runtime = line other.rendering.aggregate.runtime) := by
  have bytes := String.toByteArray_inj.mp same
  have chars := congrArg String.toList bytes
  rw [toList_hashed, toList_hashed, named] at chars
  obtain ⟨kept, options⟩ := entries_inj distinguished (List.append_cancel_left chars)
  have names : run.generation.aggregate.modules = other.generation.aggregate.modules := by
    rw [names_eq, names_eq, ← kept]
    by_cases empty : run.kept = []
    · rw [empty, List.map_nil, List.map_nil]
    · rw [options empty]
  obtain ⟨runtime, entries, path, listed, rendering, -⟩ :=
    Rendering.ofGeneration_eq_ok_iff.mp run.rendered
  obtain ⟨runtime', entries', path', listed', rendering', -⟩ :=
    Rendering.ofGeneration_eq_ok_iff.mp other.rendered
  obtain rfl := Except.ok.inj (listed.symm.trans (names ▸ listed'))
  have fingerprint : run.rendering.aggregate.fingerprint =
      other.rendering.aggregate.fingerprint := by
    rw [fingerprint_eq, fingerprint_eq, bytes]
  refine ⟨by rw [recorded_eq, fingerprint], ?_⟩
  have text := AggregateFile.text_eq_iff fingerprint (by rw [rendering, rendering']; rfl)
    (by rw [rendering]; exact runtimePath_ne_nil path)
    (by rw [rendering']; exact runtimePath_ne_nil path')
  rw [text, Ne, modules_eq_nil_iff]
  by_cases empty : run.kept = []
  · simp only [empty, not_true, false_or]
  · rw [options empty, path'] at path
    obtain rfl := Except.ok.inj path
    have alike : line run.rendering.aggregate.runtime = line other.rendering.aggregate.runtime := by
      rw [rendering, rendering']
      rfl
    simp only [alike, empty, not_false_eq_true, true_or]

def ofDescriptions (descriptors : List TypeDescriptor) (options : Options) {runtime : List Token}
    (entries : List ModuleEntry) (distinct : (Catalogue.references descriptors).Nodup)
    (unrepeated : (Generation.moduleNames options descriptors).Nodup)
    (path : runtimePath options = .ok runtime)
    (named : (Generation.moduleNames options descriptors).mapM ModuleEntry.ofIdent = .ok entries)
    (accepted : (Rendering.withRuntime runtime (.ofDescriptions options descriptors)
      entries).IsAccepted) :
    GeneratorRun where
  catalogue := ⟨descriptors⟩
  options
  generation := .ofDescriptions options descriptors
  rendering := .withRuntime runtime (.ofDescriptions options descriptors) entries
  accepted := Catalogue.ofTypes_eq_ok_iff.mpr ⟨rfl, distinct⟩
  generated := by
    obtain ⟨⟨⟩, valid, -⟩ := bind_eq_ok.mp path
    exact (Generation.generate_eq_ok_iff (Catalogue.ofTypes_eq_ok_iff.mpr ⟨rfl, distinct⟩)).mpr
      ⟨valid, unrepeated, rfl⟩
  rendered := Rendering.ofGeneration_eq_ok_iff.mpr ⟨runtime, entries, path, named, rfl, accepted⟩

end Grammar

theorem runtimePath_default : runtimePath {} = .ok [.word "stackbind_sdk"] := by
  decide +kernel

theorem runtimePath_elsewhere : runtimePath { runtimeCrate := "engine::sdk" } =
    .ok [.word "engine", .mark "::", .word "sdk"] := by
  decide +kernel

theorem isAccepted_vectors {generation : Generation}
    (modules : generation.modules = [.ofDescription {} Demo.vec2Descriptor]) :
    (Rendering.withRuntime Demo.runtime generation
      [⟨⟨"demo_Vec2_Binding", false⟩, "demo_Vec2_Binding"⟩]).IsAccepted := by
  have aggregate : Grammar.accepts (AggregateFile.codeFile ⟨"", "", Demo.runtime,
      [⟨⟨"demo_Vec2_Binding", false⟩, "demo_Vec2_Binding"⟩]⟩).body.flatten = true := by
    decide +kernel
  refine Rendering.isAccepted_iff.mpr ⟨?_, aggregate⟩
  rw [Rendering.withRuntime, modules, List.map_singleton, List.forall_mem_singleton]
  exact Demo.accepts_modules _ (List.mem_cons_of_mem _ List.mem_cons_self)

def vectors : GeneratorRun :=
  ofDescriptions [Demo.vec2Descriptor] {} [⟨⟨"demo_Vec2_Binding", false⟩, "demo_Vec2_Binding"⟩]
    (by decide) (by decide) runtimePath_default rfl (isAccepted_vectors rfl)

def vectorsBesideObsolete : GeneratorRun :=
  ofDescriptions [Demo.vec2Descriptor, (TypeDescriptor.ofType .any).asObsolete] {}
    [⟨⟨"demo_Vec2_Binding", false⟩, "demo_Vec2_Binding"⟩]
    (by decide) (by decide) runtimePath_default rfl (isAccepted_vectors rfl)

theorem vectors_same_text :
    vectors.hashed.toUTF8 = vectorsBesideObsolete.hashed.toUTF8 ∧
      vectors.rendering.aggregate.codeFile.text =
        vectorsBesideObsolete.rendering.aggregate.codeFile.text := by
  have kept : vectors.kept = [Demo.vec2Descriptor] := rfl
  have kept' : vectorsBesideObsolete.kept = [Demo.vec2Descriptor] := rfl
  have same : vectors.hashed = vectorsBesideObsolete.hashed := by
    rw [← String.toList_inj, toList_hashed, toList_hashed, kept, kept']
    rfl
  have distinguished : Distinguished vectors.options vectorsBesideObsolete.options vectors.kept
      vectorsBesideObsolete.kept := by
    rw [kept, kept']
    intro descriptor member other member' _
    rw [List.mem_singleton.mp member, List.mem_singleton.mp member']
    rfl
  have bytes := congrArg String.toUTF8 same
  refine ⟨bytes, (text_eq_iff_of_hashed vectors vectorsBesideObsolete rfl distinguished bytes).2.mpr
    (.inl ?_)⟩
  rw [Ne, modules_eq_nil_iff, kept]
  exact List.cons_ne_nil _ _

def nothing : GeneratorRun :=
  ofDescriptions [] {} [] List.nodup_nil List.nodup_nil runtimePath_default rfl (by decide +kernel)

def nothingElsewhere : GeneratorRun :=
  ofDescriptions [] { runtimeCrate := "engine::sdk" } [] List.nodup_nil List.nodup_nil
    runtimePath_elsewhere rfl (by decide +kernel)

theorem not_same_text_of_hashed :
    ¬ ∀ run other : GeneratorRun, run.options.aggregate = other.options.aggregate →
        Distinguished run.options other.options run.kept other.kept →
          run.hashed.toUTF8 = other.hashed.toUTF8 →
            run.rendering.aggregate.codeFile.text = other.rendering.aggregate.codeFile.text := by
  intro determined
  -- Each side is evaluated by itself, so that the two runs are not compared as a whole.
  have options : nothing.options = {} := rfl
  have options' : nothingElsewhere.options = { runtimeCrate := "engine::sdk" } := rfl
  have named : nothing.options.aggregate = nothingElsewhere.options.aggregate := by
    rw [options, options']
  have modules : nothing.rendering.aggregate.modules = [] := rfl
  have modules' : nothingElsewhere.rendering.aggregate.modules = [] := rfl
  have kept : nothing.kept = [] := rfl
  have kept' : nothingElsewhere.kept = [] := rfl
  have same : nothing.hashed = nothingElsewhere.hashed := by
    rw [← String.toList_inj, toList_hashed, toList_hashed, named, kept, kept', List.flatMap_nil,
      List.flatMap_nil]
  have distinguished : Distinguished nothing.options nothingElsewhere.options nothing.kept
      nothingElsewhere.kept := by
    intro descriptor member
    rw [kept] at member
    cases member
  have bytes := congrArg String.toUTF8 same
  have text := determined nothing nothingElsewhere named distinguished bytes
  have fingerprint : nothing.rendering.aggregate.fingerprint =
      nothingElsewhere.rendering.aggregate.fingerprint := by
    rw [fingerprint_eq, fingerprint_eq, same]
  have runtime : nothing.rendering.aggregate.runtime = [.word "stackbind_sdk"] := rfl
  have runtime' : nothingElsewhere.rendering.aggregate.runtime =
      [.word "engine", .mark "::", .word "sdk"] := rfl
  have alike := (AggregateFile.text_eq_iff fingerprint (modules.trans modules'.symm)
    (by rw [runtime]; exact nofun) (by rw [runtime']; exact nofun)).mp text
  rw [runtime, runtime'] at alike
  exact absurd alike (by decide)

end GeneratorRun

end NativeBridge
