import NativeBridge.Proofs.Output.RenderedFiles
import NativeBridge.Proofs.Source.Renderability

/-!
# Modules in one file

The one file of a rendering holds the items of the aggregate, with the modules themselves in place
of their declarations. A declaration is matched with its module by the name as it is spelled, so it
is not found if the name is spelled as a raw identifier.

* `Source.Rendering.Inlines`: what the one file is to be.
* `GeneratorRun.inlines_iff`: when the modules of a run can be put into one file.
-/

namespace NativeBridge

namespace Source

/-! ## What the one file is to be -/

/-- What stands in the one file in place of an item of the aggregate: for the declaration of a
module, the module with all that its file holds; any other item as it is. -/
inductive InPlaceOf (modules : List RenderedModule) : List Token → List Token → Prop
  | declared {rendered : RenderedModule} {name : Token} {item : List Token}
      (listed : rendered ∈ modules)
      (declares : declaredModule? item = some (rendered.file.ident ++ ".rs", name)) :
      InPlaceOf modules item
        (code "pub mod" ++ [name] ++ braces rendered.file.codeFile.body.flatten)
  | kept {item : List Token} (declares : declaredModule? item = none) : InPlaceOf modules item item

def pathMark : List Token := [.mark "#", .mark "[", .word "path"]

structure Rendering.Inlines (rendering : Rendering) (file : SingleFile) : Prop where
  items : List.Forall₂ (InPlaceOf rendering.modules) rendering.aggregate.codeFile.body
    file.codeFile.body
  noPath : ∀ item ∈ file.codeFile.body, ¬pathMark <+: item

def ModuleEntry.plain (ident : String) : ModuleEntry :=
  { name := { name := ident }, fileIdent := ident }

theorem ModuleEntry.named_eq_plain {ident : String} (plain : ident ∉ keywords) :
    named ident = .plain ident := by
  rw [named, decide_eq_false plain]
  rfl

def InlineModule.plain (rendered : RenderedModule) : InlineModule where
  name := { name := rendered.file.ident }
  file := rendered.file
  attributes := rendered.file.attributes

theorem Rendering.inlines_plain {rendering : Rendering}
    (entries : rendering.aggregate.modules =
      rendering.modules.map fun rendered => .plain rendered.file.ident) :
    rendering.Inlines {
      fingerprint := rendering.aggregate.fingerprint
      runtime := rendering.aggregate.runtime
      modules := rendering.modules.map .plain } := by
  constructor
  · rw [AggregateFile.codeFile, SingleFile.codeFile, entries]
    simp only [List.map_map]
    refine List.rel_append ?_ (.cons (.kept rfl) .nil)
    rw [List.forall₂_map_left_iff, List.forall₂_map_right_iff, List.forall₂_same]
    intro rendered listed
    exact .declared listed rfl
  · intro item member
    rcases List.mem_append.mp member with inModules | last
    · obtain ⟨inner, -, rfl⟩ := List.mem_map.mp inModules
      -- The module begins with `pub`, since the attribute was part of the declaration.
      rintro ⟨rest, same⟩
      cases same
    · rw [List.mem_singleton.mp last]
      simp [pathMark, initializeTokens, registryFunction, docTokens, brackets]

/-! ## Matching declarations -/

/-- The module can be taken into the one file: its name is no keyword and its reference has no
carriage return. -/
def RenderedModule.CanInline (rendered : RenderedModule) : Prop :=
  rendered.file.ident ∉ keywords ∧ '\r' ∉ rendered.file.reference.toList

theorem ModuleFile.readAttributes?_eq {file : ModuleFile}
    (oneLine : '\n' ∉ file.reference.toList) :
    file.readAttributes? =
      if '\r' ∈ file.reference.toList then none else some file.attributes := by
  have whole : '\n' ∉ file.notice.toList := by
    have opening : '\n' ∉ "// Generated by stackbind for ".toList := by decide
    have ending : '\n' ∉ ". Do not edit.".toList := by decide
    unfold notice
    rw [String.toList_append, String.toList_append, List.mem_append, List.mem_append]
    exact not_or.mpr ⟨not_or.mpr ⟨opening, oneLine⟩, ending⟩
  rw [readAttributes?, Text.lines_eq_singleton whole]

namespace Rendering

section Matching

variable {modules : List RenderedModule} {rendered : RenderedModule}

theorem find?_raw (words : ∀ other ∈ modules, other.file.ident.toList.all Text.isAsciiWord = true)
    (ident : String) : modules.find? (·.file.ident == "r#" ++ ident) = none := by
  rw [List.find?_eq_none]
  intro other listed same
  have mark : '#' ∈ other.file.ident.toList := by
    rw [beq_iff_eq.mp same, String.toList_append]
    exact List.mem_append_left _ (by decide)
  exact absurd (List.all_eq_true.mp (words other listed) '#' mark) (by decide)

theorem inlined_named
    (words : ∀ other ∈ modules, other.file.ident.toList.all Text.isAsciiWord = true)
    (distinct : (modules.map (·.file.ident)).Nodup) (listed : rendered ∈ modules)
    (oneLine : '\n' ∉ rendered.file.reference.toList) :
    inlined modules (.named rendered.file.ident) =
      if rendered.file.ident ∈ keywords then
        .error (.render (.unknownModule ("r#" ++ rendered.file.ident)))
      else if '\r' ∈ rendered.file.reference.toList then
        .error (.render (.doesNotParse rendered.file.ident))
      else .ok (.plain rendered) := by
  by_cases keyword : rendered.file.ident ∈ keywords
  · have raw : (ModuleEntry.named rendered.file.ident).name.text =
        "r#" ++ rendered.file.ident := by
      simp [ModuleEntry.named, Ident.text, Ident.token, Token.text, keyword]
    rw [if_pos keyword, inlined, raw, find?_raw words]
  · have found := find?_of_nodup (fun other : RenderedModule => other.file.ident) distinct listed
    rw [if_neg keyword, ModuleEntry.named_eq_plain keyword, inlined, ModuleEntry.plain, Ident.text,
      Ident.token]
    simp only [Bool.false_eq_true, if_false, Token.text, found,
      ModuleFile.readAttributes?_eq oneLine]
    by_cases bare : '\r' ∈ rendered.file.reference.toList
    · simp only [if_pos bare]
    · simp only [if_neg bare]
      rfl

end Matching

theorem singleFile_eq_error {rendering : Rendering} {fault : BindingError}
    (failed : rendering.singleFile = .error fault) :
    ∃ entry ∈ rendering.aggregate.modules, inlined rendering.modules entry = .error fault := by
  rw [singleFile] at failed
  cases inners : rendering.aggregate.modules.mapM (inlined rendering.modules) with
  | error other =>
      rw [inners] at failed
      cases failed
      exact mapM_eq_error inners
  | ok inners' =>
      rw [inners] at failed
      cases failed

end Rendering

end Source

open Source

namespace GeneratorRun

section Grammar

variable [Grammar]

theorem ident_word (run : GeneratorRun) {rendered : RenderedModule}
    (listed : rendered ∈ run.rendering.modules) :
    rendered.file.ident.toList.all Text.isAsciiWord = true := by
  obtain ⟨descriptor, ident, -⟩ := run.exists_descriptor listed
  rw [ident]
  exact descriptor.type.all_isAsciiWord_bindingIdent run.suffix_word

theorem entries_eq (run : GeneratorRun) : run.rendering.aggregate.modules =
    run.rendering.modules.map fun rendered => .named rendered.file.ident := by
  obtain ⟨runtime, entries, -, named, rendering, -⟩ :=
    Rendering.ofGeneration_eq_ok_iff.mp run.rendered
  have idents := run.map_ident_eq
  have made : run.rendering.aggregate.modules = entries := by rw [rendering]; rfl
  rw [← idents, mapM_ofIdent] at named
  · split at named
    · cases named
      rw [made, List.map_map]
      rfl
    · cases named
  · intro ident listed
    obtain ⟨rendered, member, rfl⟩ := List.mem_map.mp listed
    exact run.ident_word member

section OneLine

variable {run : GeneratorRun}
  (oneLine : ∀ rendered ∈ run.rendering.modules, '\n' ∉ rendered.file.reference.toList)
include oneLine

theorem inlined_eq {rendered : RenderedModule} (listed : rendered ∈ run.rendering.modules) :
    Rendering.inlined run.rendering.modules (.named rendered.file.ident) =
      if rendered.file.ident ∈ keywords then
        .error (.render (.unknownModule ("r#" ++ rendered.file.ident)))
      else if '\r' ∈ rendered.file.reference.toList then
        .error (.render (.doesNotParse rendered.file.ident))
      else .ok (.plain rendered) :=
  Rendering.inlined_named (fun _ member => run.ident_word member) run.nodup_idents listed
    (oneLine rendered listed)

theorem canInline_of_singleFile {file : SingleFile} (single : run.rendering.singleFile = .ok file)
    {rendered : RenderedModule} (listed : rendered ∈ run.rendering.modules) :
    rendered.CanInline := by
  obtain ⟨inners, found, -⟩ := bind_eq_ok.mp single
  rw [run.entries_eq, mapM_eq_ok, List.forall₂_map_left_iff] at found
  obtain ⟨place, at'⟩ := List.mem_iff_getElem?.mp listed
  obtain ⟨inner, -, made⟩ := forall₂_getElem? found at'
  rw [inlined_eq oneLine listed] at made
  split at made
  · cases made
  · rename_i notKeyword
    split at made
    · cases made
    · rename_i noReturn
      exact ⟨notKeyword, noReturn⟩

theorem singleFile_inlines (plain : ∀ rendered ∈ run.rendering.modules, rendered.CanInline) :
    ∃ file, run.rendering.singleFile = .ok file ∧ run.rendering.Inlines file := by
  have inners : run.rendering.aggregate.modules.mapM (Rendering.inlined run.rendering.modules) =
      .ok (run.rendering.modules.map .plain) := by
    rw [run.entries_eq, mapM_eq_ok, List.forall₂_map_left_iff, List.forall₂_map_right_iff,
      List.forall₂_same]
    intro rendered listed
    obtain ⟨notKeyword, noReturn⟩ := plain rendered listed
    rw [inlined_eq oneLine listed, if_neg notKeyword, if_neg noReturn]
  refine ⟨_, by rw [Rendering.singleFile, inners]; rfl, Rendering.inlines_plain ?_⟩
  rw [run.entries_eq]
  exact List.map_congr_left fun rendered listed =>
    ModuleEntry.named_eq_plain (plain rendered listed).1

/-- If the references of the modules are of one line each, the one file of a run holds every module
in its place, unless some module has a keyword for a name or a carriage return in its reference.
Such a module stops the making of the file. -/
theorem inlines_iff :
    ((∃ file, run.rendering.singleFile = .ok file ∧ run.rendering.Inlines file) ↔
      ∀ rendered ∈ run.rendering.modules, rendered.CanInline) ∧
    ∀ fault, run.rendering.singleFile = .error fault → ∃ rendered ∈ run.rendering.modules,
      rendered.file.ident ∈ keywords ∧
          fault = .render (.unknownModule ("r#" ++ rendered.file.ident)) ∨
        rendered.file.ident ∉ keywords ∧ '\r' ∈ rendered.file.reference.toList ∧
          fault = .render (.doesNotParse rendered.file.ident) := by
  refine ⟨⟨?_, singleFile_inlines oneLine⟩, ?_⟩
  · rintro ⟨file, single, -⟩ rendered listed
    exact canInline_of_singleFile oneLine single listed
  · intro fault failed
    obtain ⟨entry, member, stopped⟩ := Rendering.singleFile_eq_error failed
    rw [run.entries_eq] at member
    obtain ⟨rendered, listed, rfl⟩ := List.mem_map.mp member
    rw [inlined_eq oneLine listed] at stopped
    refine ⟨rendered, listed, ?_⟩
    split at stopped
    · rename_i keyword
      cases stopped
      exact .inl ⟨keyword, rfl⟩
    · rename_i notKeyword
      split at stopped
      · rename_i bare
        cases stopped
        exact .inr ⟨notKeyword, bare, rfl⟩
      · cases stopped

end OneLine

end Grammar

theorem vectors_inlined :
    ∃ file, vectors.rendering.singleFile = .ok file ∧ vectors.rendering.Inlines file := by
  have oneLine : ∀ rendered ∈ vectors.rendering.modules,
      '\n' ∉ rendered.file.reference.toList := by
    decide +kernel
  have plain : ∀ rendered ∈ vectors.rendering.modules, rendered.CanInline := by
    unfold RenderedModule.CanInline
    decide +kernel
  exact (inlines_iff oneLine).1.mpr plain

def matchers : GeneratorRun :=
  ofDescriptions [.ofType (.ofClass "" "match")] { suffix := "" } [⟨⟨"match", true⟩, "match"⟩]
    (by decide) (by decide) (runtimePath_standard (by decide) rfl) rfl
    (by decide +kernel)

theorem not_always_inlines :
    ¬ ∀ run : GeneratorRun,
        (∀ rendered ∈ run.rendering.modules,
          '\n' ∉ rendered.file.reference.toList ∧ '\r' ∉ rendered.file.reference.toList) →
        ∃ file, run.rendering.singleFile = .ok file ∧ run.rendering.Inlines file := by
  intro inlines
  have oneLine : ∀ rendered ∈ matchers.rendering.modules,
      '\n' ∉ rendered.file.reference.toList ∧ '\r' ∉ rendered.file.reference.toList := by
    decide +kernel
  have keyword : ∃ rendered ∈ matchers.rendering.modules, rendered.file.ident ∈ keywords := by
    decide +kernel
  obtain ⟨file, single, -⟩ := inlines matchers oneLine
  obtain ⟨rendered, listed, raw⟩ := keyword
  exact (canInline_of_singleFile (fun other member => (oneLine other member).1) single listed).1 raw

end GeneratorRun

end NativeBridge
