import Mathlib.Data.List.Nodup
import NativeBridge.Proofs.Results
import NativeBridge.Source.Rendering

/-!
# What a rendering holds

* `Rendering.IsAccepted`: the grammar accepts every file of a rendering.
* `ofGeneration_eq_ok_iff`: when a generation is rendered, and into what.
* `singleFile_files`: one file holds the files of all modules, in order.
-/

namespace NativeBridge.Source.Rendering

def withRuntime [Grammar] (runtime : List Token) (generation : Generation)
    (entries : List ModuleEntry) : Rendering :=
  let modules := generation.modules.map (RenderedModule.ofModule runtime)
  { modules
    aggregate := {
      name := generation.aggregate.name
      fingerprint := aggregateFingerprint generation.aggregate modules
      runtime
      modules := entries } }

def codeFiles (rendering : Rendering) : List CodeFile :=
  rendering.modules.map (·.file.codeFile) ++ [rendering.aggregate.codeFile]

def IsAccepted [Grammar] (rendering : Rendering) : Prop :=
  ∀ file ∈ rendering.codeFiles, Grammar.accepts file.body.flatten = true

section Grammar

variable [Grammar]

instance (rendering : Rendering) : Decidable rendering.IsAccepted :=
  inferInstanceAs (Decidable (∀ file ∈ _, _))

theorem isAccepted_iff {rendering : Rendering} : rendering.IsAccepted ↔
    (∀ rendered ∈ rendering.modules,
      Grammar.accepts rendered.file.codeFile.body.flatten = true) ∧
    Grammar.accepts rendering.aggregate.codeFile.body.flatten = true := by
  rw [IsAccepted, codeFiles, List.forall_mem_append, List.forall_mem_map,
    List.forall_mem_singleton]

theorem check_eq_ok_iff {file : CodeFile} {answer : Unit} :
    file.check = .ok answer ↔ Grammar.accepts file.body.flatten = true := by
  rw [CodeFile.check, Grammar.accepts]
  cases Grammar.parses file.body.flatten <;> cases Grammar.prints file.body.flatten <;> simp

theorem emit_eq_ok_iff {runtime : List Token} {self : BindingModule} {rendered : RenderedModule} :
    RenderedModule.emit runtime self = .ok rendered ↔
      rendered = RenderedModule.ofModule runtime self ∧
        Grammar.accepts rendered.file.codeFile.body.flatten = true := by
  simp only [RenderedModule.emit, bind_eq_ok, pure_eq_ok, check_eq_ok_iff]
  constructor
  · rintro ⟨⟨⟩, accepted, rfl⟩
    exact ⟨rfl, accepted⟩
  · rintro ⟨rfl, accepted⟩
    exact ⟨(), accepted, rfl⟩

theorem mapM_emit_eq_ok_iff {runtime : List Token} {modules : List BindingModule}
    {rendered : List RenderedModule} :
    modules.mapM (RenderedModule.emit runtime) = .ok rendered ↔
      rendered = modules.map (RenderedModule.ofModule runtime) ∧
        ∀ each ∈ rendered, Grammar.accepts each.file.codeFile.body.flatten = true := by
  simp only [mapM_eq_ok, emit_eq_ok_iff]
  constructor
  · intro emitted
    have same : rendered = modules.map (RenderedModule.ofModule runtime) := by
      rw [← List.forall₂_eq_eq_eq, List.forall₂_map_right_iff]
      exact emitted.flip.imp fun _ _ made => made.1
    refine ⟨same, fun each listed => ?_⟩
    obtain ⟨self, -, -, accepted⟩ := forall₂_mem emitted listed
    exact accepted
  · rintro ⟨rfl, accepted⟩
    rw [List.forall₂_map_right_iff, List.forall₂_same]
    exact fun self listed => ⟨rfl, accepted _ (List.mem_map_of_mem listed)⟩

theorem ofGeneration_eq_ok_iff {generation : Generation} {options : Options}
    {rendering : Rendering} :
    ofGeneration generation options = .ok rendering ↔
      ∃ runtime entries, runtimePath options = .ok runtime ∧
        generation.aggregate.modules.mapM ModuleEntry.ofIdent = .ok entries ∧
          rendering = withRuntime runtime generation entries ∧ rendering.IsAccepted := by
  simp only [ofGeneration, AggregateFile.ofAggregate, bind_eq_ok, pure_eq_ok, mapM_emit_eq_ok_iff,
    check_eq_ok_iff]
  constructor
  · rintro ⟨runtime, path, _, ⟨rfl, modules⟩, _, ⟨entries, named, ⟨⟩, aggregate, rfl⟩, rfl⟩
    exact ⟨runtime, entries, path, named, rfl, isAccepted_iff.mpr ⟨modules, aggregate⟩⟩
  · rintro ⟨runtime, entries, path, named, rfl, accepted⟩
    obtain ⟨modules, aggregate⟩ := isAccepted_iff.mp accepted
    exact ⟨runtime, path, _, ⟨rfl, modules⟩, _, ⟨entries, named, (), aggregate, rfl⟩, rfl⟩

end Grammar

/-! ## One file -/

theorem inlined_eq_ok {modules : List RenderedModule} {entry : ModuleEntry} {inner : InlineModule}
    (found : inlined modules entry = .ok inner) :
    ∃ rendered ∈ modules, rendered.file.ident = entry.name.text ∧ inner.file = rendered.file := by
  rw [inlined] at found
  split at found
  · cases found
  · rename_i rendered listed
    have named := List.find?_some listed
    split at found
    · cases found
      exact ⟨rendered, List.mem_of_find?_eq_some listed, by simpa using named, rfl⟩
    · cases found

theorem singleFile_files {rendering : Rendering} {file : SingleFile}
    (single : rendering.singleFile = .ok file)
    (named : rendering.aggregate.modules.map (·.name.text) =
      rendering.modules.map (·.file.ident))
    (distinct : (rendering.modules.map (·.file.ident)).Nodup) :
    file.modules.map (·.file) = rendering.modules.map (·.file) := by
  simp only [singleFile, bind_eq_ok, pure_eq_ok, mapM_eq_ok] at single
  obtain ⟨inners, found, rfl⟩ := single
  have idents : inners.map (·.file.ident) = rendering.modules.map (·.file.ident) := by
    rw [← named, ← List.forall₂_eq_eq_eq, List.forall₂_map_left_iff, List.forall₂_map_right_iff]
    refine found.flip.imp ?_
    intro inner entry found
    obtain ⟨rendered, -, ident, file⟩ := inlined_eq_ok found
    rw [file, ident]
  rw [← List.forall₂_eq_eq_eq, List.forall₂_map_left_iff, List.forall₂_map_right_iff] at idents ⊢
  refine List.forall₂_iff_zip.mpr ⟨idents.length_eq, ?_⟩
  intro inner rendered pair
  obtain ⟨member, listed⟩ := List.of_mem_zip pair
  obtain ⟨place, at'⟩ := List.mem_iff_getElem?.mp member
  obtain ⟨entry, -, taken⟩ := forall₂_getElem? found.flip at'
  obtain ⟨other, listed', ident, file⟩ := inlined_eq_ok taken
  have same : other.file.ident = rendered.file.ident := by
    rw [← file]
    exact List.forall₂_zip idents pair
  rw [file, List.inj_on_of_nodup_map distinct listed' listed same]

end NativeBridge.Source.Rendering
