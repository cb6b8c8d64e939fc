import NativeBridge.Proofs.Naming.Words
import NativeBridge.Proofs.Output.WrittenFiles
import NativeBridge.Proofs.Source.AggregateFingerprints

/-!
# Files of a rendering

A rendering is written as one file for each module and one for the aggregate. The names of the
modules are distinct, but the aggregate may have the name of a module, and its file then replaces
that of the module.

* `write_keeps`: which files carry their fingerprint after a write, and when the next one writes
  nothing.
-/

namespace NativeBridge

/-! ## Last files -/

theorem lastFingerprint?_concat (files : List OutputFile) (file : OutputFile) (name : String)
    (before : Option String) :
    lastFingerprint? (files ++ [file]) name before =
      if name = file.name then some file.fingerprint else lastFingerprint? files name before := by
  rw [lastFingerprint?, List.foldl_append]
  rfl

theorem isSome_lastFingerprint? {files : List OutputFile} {file : OutputFile}
    (listed : file ∈ files) (before : Option String) :
    (lastFingerprint? files file.name before).isSome := by
  induction files using List.reverseRecOn with
  | nil => cases listed
  | append_singleton rest last ih =>
      rw [lastFingerprint?_concat]
      split
      · rfl
      · rename_i different
        rcases List.mem_append.mp listed with earlier | here
        · exact ih earlier
        · exact absurd (congrArg OutputFile.name (List.mem_singleton.mp here)) different

theorem lastFingerprint?_of_mem {files : List OutputFile} (distinct : (files.map (·.name)).Nodup)
    {file : OutputFile} (listed : file ∈ files) (before : Option String) :
    lastFingerprint? files file.name before = some file.fingerprint := by
  induction files using List.reverseRecOn with
  | nil => cases listed
  | append_singleton rest last ih =>
      rw [List.map_append, List.map_singleton] at distinct
      obtain ⟨distinct, -, apart⟩ := List.nodup_append.mp distinct
      rw [lastFingerprint?_concat]
      rcases List.mem_append.mp listed with earlier | here
      · rw [if_neg (apart file.name (List.mem_map_of_mem earlier) last.name (by simp)),
          ih distinct earlier]
      · rw [List.mem_singleton.mp here, if_pos rfl]

/-! ## Names -/

theorem Path.isPlain_file {word : String} (chars : word.toList.all Text.isAsciiWord = true) :
    IsPlain (word ++ ".rs") := by
  have ends (other : String) (short : other.toList.length < 3) : word ++ ".rs" ≠ other := by
    rintro rfl
    simp at short
  refine ⟨?_, by simp, ends "." (by decide), ends ".." (by decide)⟩
  rw [String.toList_append, List.mem_append, not_or]
  exact ⟨fun slash => absurd (List.all_eq_true.mp chars '/' slash) (by decide), by decide⟩

namespace GeneratorRun

section Grammar

variable [Source.Grammar]

theorem validate_eq (run : GeneratorRun) : run.options.validate = .ok () :=
  ((Generation.generate_eq_ok_iff run.accepted).mp run.generated).1

theorem suffix_word (run : GeneratorRun) :
    run.options.suffix.toList.all Text.isAsciiWord = true :=
  Options.suffix_word run.validate_eq

theorem aggregate_word (run : GeneratorRun) :
    run.options.aggregate.toList.all Text.isAsciiWord = true := by
  have valid := run.validate_eq
  rw [Options.validate] at valid
  have identifier : isAsciiIdentifier run.options.aggregate.toList = true := by grind
  cases chars : run.options.aggregate.toList with
  | nil => rfl
  | cons c rest =>
      rw [chars, isAsciiIdentifier, Bool.and_eq_true] at identifier
      exact identifier.2

theorem aggregate_name (run : GeneratorRun) :
    run.rendering.aggregate.name = run.options.aggregate := by
  obtain ⟨runtime, entries, -, -, rendering, -⟩ :=
    Source.Rendering.ofGeneration_eq_ok_iff.mp run.rendered
  rw [rendering, generation_eq]
  rfl

theorem map_ident_eq (run : GeneratorRun) :
    run.rendering.modules.map (·.file.ident) = run.generation.aggregate.modules := by
  obtain ⟨runtime, entries, -, -, rendering, -⟩ :=
    Source.Rendering.ofGeneration_eq_ok_iff.mp run.rendered
  rw [rendering, generation_eq]
  simp only [Source.Rendering.withRuntime, Generation.ofDescriptions, List.map_map]
  rfl

theorem nodup_idents (run : GeneratorRun) :
    (run.rendering.modules.map (·.file.ident)).Nodup := by
  rw [map_ident_eq, generation_eq]
  exact ((Generation.generate_eq_ok_iff run.accepted).mp run.generated).2.1

theorem exists_descriptor (run : GeneratorRun) {rendered : Source.RenderedModule}
    (member : rendered ∈ run.rendering.modules) : ∃ descriptor : TypeDescriptor,
      rendered.file.ident = descriptor.type.bindingIdent run.options.suffix ∧
        rendered.file.fingerprint = digest (fingerprintSource descriptor run.options) := by
  obtain ⟨runtime, entries, -, -, rendering, -⟩ :=
    Source.Rendering.ofGeneration_eq_ok_iff.mp run.rendered
  rw [rendering, generation_eq] at member
  obtain ⟨self, generated, rfl⟩ := List.mem_map.mp member
  obtain ⟨descriptor, -, rfl⟩ := List.mem_map.mp generated
  exact ⟨descriptor, rfl, rfl⟩

theorem isPlain_moduleFile (run : GeneratorRun) {rendered : Source.RenderedModule}
    (member : rendered ∈ run.rendering.modules) : Path.IsPlain (rendered.file.ident ++ ".rs") := by
  obtain ⟨descriptor, ident, -⟩ := run.exists_descriptor member
  rw [ident]
  exact Path.isPlain_file (descriptor.type.all_isAsciiWord_bindingIdent run.suffix_word)

theorem isSound (run : GeneratorRun) {file : OutputFile} (listed : file ∈ run.rendering.files) :
    file.IsSound := by
  rcases List.mem_append.mp listed with inModules | last
  · obtain ⟨rendered, member, rfl⟩ := List.mem_map.mp inModules
    obtain ⟨descriptor, -, fingerprint⟩ := run.exists_descriptor member
    refine ⟨run.isPlain_moduleFile member, ?_⟩
    simp only [fingerprint]
    exact recordedFingerprint?_text
      (by rw [Source.ModuleFile.codeFile, Source.ModuleFile.header, fingerprint])
  · rw [List.mem_singleton.mp last]
    refine ⟨?_, run.recorded_eq⟩
    rw [aggregate_name]
    exact Path.isPlain_file run.aggregate_word

/-- A module that loses its file to the aggregate. -/
def IsOverwritten (run : GeneratorRun) (rendered : Source.RenderedModule) : Prop :=
  rendered.file.ident = run.options.aggregate ∧
    rendered.file.fingerprint ≠ run.rendering.aggregate.fingerprint

theorem nodup_moduleFiles (run : GeneratorRun) :
    (run.rendering.modules.map (·.file.ident ++ ".rs")).Nodup := by
  have distinct := run.nodup_idents.map fun _ _ same => (String.append_left_inj ".rs").mp same
  rwa [List.map_map] at distinct

theorem nodup_names_iff (run : GeneratorRun) : (run.rendering.files.map (·.name)).Nodup ↔
    ∀ rendered ∈ run.rendering.modules, rendered.file.ident ≠ run.options.aggregate := by
  have names : run.rendering.files.map (·.name) =
      run.rendering.modules.map (·.file.ident ++ ".rs") ++ [run.options.aggregate ++ ".rs"] := by
    rw [Source.Rendering.files, List.map_append, List.map_singleton, aggregate_name, List.map_map]
    rfl
  rw [names, List.nodup_append]
  simp [run.nodup_moduleFiles]

theorem lastFingerprint?_files (run : GeneratorRun) {rendered : Source.RenderedModule}
    (member : rendered ∈ run.rendering.modules) (before : Option String) :
    lastFingerprint? run.rendering.files (rendered.file.ident ++ ".rs") before =
      if rendered.file.ident = run.options.aggregate then some run.rendering.aggregate.fingerprint
      else some rendered.file.fingerprint := by
  rw [Source.Rendering.files, lastFingerprint?_concat, aggregate_name]
  simp only [String.append_left_inj]
  split
  · rfl
  · refine lastFingerprint?_of_mem ?_ (List.mem_map_of_mem member) before
    rw [List.map_map]
    exact run.nodup_moduleFiles

/-- After a rendering is written, the file of the aggregate carries its fingerprint, and so does the
file of every module that does not have the name of the aggregate. Exactly if all files do, the next
write leaves them alone. -/
theorem write_keeps (run : GeneratorRun) {home : List String} {folder : String}
    {before after : FileTree} {report : WriteReport}
    (wrote : before.run (writeRendering (FileTree.access home) folder run.rendering) =
      (.ok report, after)) :
    ((run.rendering.files.map (·.name)).Nodup ↔
      ∀ rendered ∈ run.rendering.modules, rendered.file.ident ≠ run.options.aggregate) ∧
    after.recordedIn? home folder (run.options.aggregate ++ ".rs") =
      some run.rendering.aggregate.fingerprint ∧
    (∀ rendered ∈ run.rendering.modules,
      (after.recordedIn? home folder (rendered.file.ident ++ ".rs") =
        some rendered.file.fingerprint ↔ ¬run.IsOverwritten rendered)) ∧
    ∃ again later, after.run (writeRendering (FileTree.access home) folder run.rendering) =
        (.ok again, later) ∧
      (again.written = [] ↔ ∀ rendered ∈ run.rendering.modules, ¬run.IsOverwritten rendered) := by
  have sound : ∀ file ∈ run.rendering.files, file.IsSound := fun _ listed => run.isSound listed
  rw [FileTree.run_writeRendering] at wrote
  split at wrote
  · rename_i middle made
    obtain ⟨ready, recorded⟩ := (FileTree.isReady_makeFolders made).writeFiles sound wrote
    have aggregate : after.recordedIn? home folder (run.options.aggregate ++ ".rs") =
        some run.rendering.aggregate.fingerprint := by
      rw [recorded (Path.isPlain_file run.aggregate_word), Source.Rendering.files,
        lastFingerprint?_concat, aggregate_name, if_pos rfl]
    have modules : ∀ rendered ∈ run.rendering.modules,
        (after.recordedIn? home folder (rendered.file.ident ++ ".rs") =
          some rendered.file.fingerprint ↔ ¬run.IsOverwritten rendered) := by
      intro rendered member
      rw [recorded (run.isPlain_moduleFile member), run.lastFingerprint?_files member,
        IsOverwritten]
      split
      · rename_i same
        simp [same, eq_comm]
      · rename_i different
        simp [different]
    have there : ∀ file ∈ run.rendering.files, (after.textIn? home folder file.name).isSome := by
      intro file listed
      have held := isSome_lastFingerprint? listed (middle.recordedIn? home folder file.name)
      rw [← recorded (sound file listed).plain] at held
      exact Option.isSome_of_isSome_bind held
    -- The second write finds every file, so that the fingerprints alone decide.
    obtain ⟨more, again, later, ran, written, none⟩ := ready.writeFiles_again sound there {}
    refine ⟨run.nodup_names_iff, aggregate, modules, again, later, ?_, ?_⟩
    · rw [FileTree.run_writeRendering, ready.makeFolders]
      exact ran
    · rw [written, List.nil_append, none]
      simp only [Source.Rendering.files, List.forall_mem_append, List.forall_mem_map,
        List.forall_mem_singleton, aggregate_name, aggregate, and_true]
      exact forall₂_congr modules
  · cases wrote

end Grammar

theorem vectors_written :
    (FileTree.empty.run (writeRendering (FileTree.access []) "out" vectors.rendering)).1 =
      .ok { written := ["demo_Vec2_Binding.rs", "bindings.rs"] } := by
  decide +kernel

theorem vectors_apart : ∀ rendered ∈ vectors.rendering.modules,
    ¬vectors.IsOverwritten rendered := by
  have idents : vectors.rendering.modules.map (·.file.ident) = ["demo_Vec2_Binding"] := by
    decide +kernel
  intro rendered member overwritten
  have ident : rendered.file.ident ∈ ["demo_Vec2_Binding"] := idents ▸ List.mem_map_of_mem member
  rw [List.mem_singleton, overwritten.1] at ident
  exact absurd ident (by decide)

theorem vectors_kept :
    (FileTree.empty.run (writeRendering (FileTree.access []) "out" vectors.rendering)).1 =
        .ok { written := ["demo_Vec2_Binding.rs", "bindings.rs"] } ∧
      ∃ again later, (FileTree.empty.run
            (writeRendering (FileTree.access []) "out" vectors.rendering)).2.run
          (writeRendering (FileTree.access []) "out" vectors.rendering) = (.ok again, later) ∧
        again.written = [] := by
  have answered := vectors_written
  -- The outcome is named, so that nothing writes the texts of the files out.
  rcases wrote : FileTree.empty.run
      (writeRendering (FileTree.access []) "out" vectors.rendering) with ⟨answer, after⟩
  rw [wrote] at answered
  simp only at answered ⊢
  subst answered
  obtain ⟨-, -, -, again, later, ran, none⟩ := write_keeps vectors wrote
  exact ⟨rfl, again, later, ran, none.mpr vectors_apart⟩

def clockDescriptors : List TypeDescriptor := [.ofType (.ofClass "demo" "Clock")]

def clockOptions : Options := { aggregate := "demo_Clock_Binding" }

theorem runtimePath_clock : Source.runtimePath clockOptions = .ok [.word "stackbind_sdk"] := by
  decide +kernel

def clock : GeneratorRun :=
  ofDescriptions clockDescriptors clockOptions
    [⟨⟨"demo_Clock_Binding", false⟩, "demo_Clock_Binding"⟩] (by decide) (by decide)
    runtimePath_clock rfl (by decide +kernel)

theorem clock_written : ∃ report after, FileTree.empty.run
    (writeRendering (FileTree.access []) "out" clock.rendering) = (.ok report, after) := by
  have made : ((FileTree.access []).makeFolders "out").run .empty =
      (true, .folder [("out", .empty)]) := rfl
  have found : Path.ofText? "out" = some { steps := ["out"] } := by decide +kernel
  have opens : FileTree.Opens [] { steps := ["out"] } ["out"] (.folder [("out", .empty)]) :=
    ⟨by decide +kernel, rfl, by decide +kernel⟩
  have names : clock.rendering.files.map (·.name) =
      ["demo_Clock_Binding.rs", "demo_Clock_Binding.rs"] := by decide +kernel
  rw [FileTree.run_writeRendering, made]
  refine opens.exists_writeFiles found ?_ {}
  intro file listed
  have name : file.name ∈ ["demo_Clock_Binding.rs", "demo_Clock_Binding.rs"] :=
    names ▸ List.mem_map_of_mem listed
  rw [List.mem_pair, or_self] at name
  refine ⟨(clock.isSound listed).plain, ?_, ?_, ?_⟩
  all_goals
    rw [name]
    decide +kernel

theorem clock_overwritten : ∃ rendered ∈ clock.rendering.modules, clock.IsOverwritten rendered := by
  unfold IsOverwritten
  decide +kernel

theorem not_write_keeps_all :
    ¬ ∀ (run : GeneratorRun) (home : List String) (folder : String) (before after : FileTree)
        (report : WriteReport),
        before.run (writeRendering (FileTree.access home) folder run.rendering) =
            (.ok report, after) →
          (∀ rendered ∈ run.rendering.modules,
            after.recordedIn? home folder (rendered.file.ident ++ ".rs") =
              some rendered.file.fingerprint) ∧
          after.recordedIn? home folder (run.options.aggregate ++ ".rs") =
            some run.rendering.aggregate.fingerprint ∧
          ∃ again later, after.run (writeRendering (FileTree.access home) folder run.rendering) =
              (.ok again, later) ∧
            again.written = [] := by
  intro kept
  obtain ⟨report, after, wrote⟩ := clock_written
  obtain ⟨modules, aggregate, -⟩ := kept clock [] "out" .empty after report wrote
  obtain ⟨rendered, member, ident, different⟩ := clock_overwritten
  have recorded := modules rendered member
  rw [ident, aggregate, Option.some.injEq] at recorded
  exact different recorded.symm

end GeneratorRun

end NativeBridge
