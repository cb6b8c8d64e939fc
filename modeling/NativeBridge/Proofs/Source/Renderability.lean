import NativeBridge.Proofs.Source.EmittedPlans
import NativeBridge.Proofs.Source.Identifiers

/-!
# Which generations can be rendered

A rendering names every module in the code of the aggregate. The identifier of a type followed by a
suffix is mostly a name that code can hold, but a type without any identifier leaves the suffix by
itself, and a short identifier with a short suffix may be one of the words that are never raw. Such
a module stops the whole rendering, and so does a file that the grammar does not accept. A plan that
has no form in code does not.

* `TypeRef.isWritable_bindingIdent_iff`: which names of modules code can hold.
* `Rendering.ofGeneration_standard_iff`: what stops a generation with the standard runtime.
* `Generation.renders_iff`: when the generation of a catalogue is rendered.
-/

namespace NativeBridge

/-! ## Names of modules -/

theorem TypeRef.ident_start (type : TypeRef) :
    type.ident = "" ∨ ∃ c rest, type.ident.toList = c :: rest ∧ Text.isAsciiDigit c = false := by
  rw [ident, identChars_eq, String.toList_ofList]
  cases type.layout with
  | nil => exact .inl rfl
  | cons mark marks =>
      obtain ⟨c, rest, text, starts⟩ := Mark.ident_start mark
      refine .inr ⟨c, rest ++ Mark.identOf (!mark.isChar) marks, ?_, starts⟩
      rw [Mark.identOf, text]
      rfl

theorem TypeRef.isWritable_bindingIdent_iff (type : TypeRef) {suffix : String}
    (word : suffix.toList.all Text.isAsciiWord = true) :
    Source.IsWritable (type.bindingIdent suffix) ↔
      (type.ident ≠ "" ∨ isAsciiIdentifier suffix.toList = true) ∧
        type.bindingIdent suffix ∉ Source.neverRaw := by
  have chars := type.all_isAsciiWord_bindingIdent word
  rw [Source.IsWritable, and_congr_left_iff]
  intro _
  rw [bindingIdent, String.toList_append] at chars ⊢
  rcases type.ident_start with empty | ⟨c, rest, text, starts⟩
  · rw [empty]
    simp
  · have filled : type.ident ≠ "" := by
      intro empty
      rw [empty] at text
      cases text
    rw [text, List.cons_append] at chars ⊢
    rw [isAsciiIdentifier, starts, chars]
    simp [filled]

namespace Source

/-! ## Entries of the aggregate -/

def ModuleEntry.named (ident : String) : ModuleEntry :=
  { name := { name := ident, isRaw := decide (ident ∈ keywords) }, fileIdent := ident }

theorem ModuleEntry.ofIdent_eq {ident : String}
    (chars : ident.toList.all Text.isAsciiWord = true) :
    ofIdent ident =
      if IsWritable ident then .ok (named ident) else .error (.render (.notIdentifier ident)) := by
  rw [ofIdent, Ident.ofName_eq chars]
  split <;> rfl

theorem mapM_ofIdent {idents : List String}
    (chars : ∀ ident ∈ idents, ident.toList.all Text.isAsciiWord = true) :
    idents.mapM ModuleEntry.ofIdent = match idents.find? (¬IsWritable ·) with
      | none => .ok (idents.map ModuleEntry.named)
      | some ident => .error (.render (.notIdentifier ident)) := by
  induction idents with
  | nil => rfl
  | cons ident rest ih =>
      have inRest := ih fun other member => chars other (List.mem_cons_of_mem _ member)
      rw [List.mapM_cons, ModuleEntry.ofIdent_eq (chars ident List.mem_cons_self), inRest]
      by_cases writable : IsWritable ident
      · rw [if_pos writable, List.find?_cons_of_neg (by simpa using writable)]
        cases rest.find? (¬IsWritable ·) <;> rfl
      · rw [if_neg writable, List.find?_cons_of_pos (by simpa using writable)]
        rfl

/-! ## Renderings with the standard runtime -/

theorem runtimePath_standard {options : Options} (valid : options.validate = .ok ())
    (standard : options.runtimeCrate = "stackbind_sdk") :
    runtimePath options = .ok [.word "stackbind_sdk"] := by
  have path : pathOfText? "stackbind_sdk" = some [.word "stackbind_sdk"] := by decide +kernel
  rw [runtimePath, valid, standard, path]
  rfl

theorem mapM_ofIdent_eq_ok_iff {idents : List String} {entries : List ModuleEntry}
    (chars : ∀ ident ∈ idents, ident.toList.all Text.isAsciiWord = true) :
    idents.mapM ModuleEntry.ofIdent = .ok entries ↔
      (∀ ident ∈ idents, IsWritable ident) ∧ entries = idents.map ModuleEntry.named := by
  rw [mapM_ofIdent chars]
  cases found : idents.find? (¬IsWritable ·) with
  | none =>
      have all : ∀ ident ∈ idents, IsWritable ident := by simpa using List.find?_eq_none.mp found
      rw [Except.ok.injEq, and_iff_right all]
      exact eq_comm
  | some ident =>
      refine iff_of_false nofun ?_
      rintro ⟨all, -⟩
      exact absurd (all ident (List.mem_of_find?_eq_some found))
        (by simpa using List.find?_some found)

section Grammar

variable [Grammar] {options : Options} {generation : Generation}

/-- What a generation with the standard runtime is rendered to, if nothing stops it. -/
def Rendering.standard (generation : Generation) : Rendering :=
  withRuntime [.word "stackbind_sdk"] generation
    (generation.aggregate.modules.map ModuleEntry.named)

theorem Rendering.ofGeneration_standard_iff (valid : options.validate = .ok ())
    (standard : options.runtimeCrate = "stackbind_sdk")
    (chars : ∀ ident ∈ generation.aggregate.modules, ident.toList.all Text.isAsciiWord = true)
    {rendering : Rendering} :
    ofGeneration generation options = .ok rendering ↔ rendering = .standard generation ∧
      (∀ ident ∈ generation.aggregate.modules, IsWritable ident) ∧
        (Rendering.standard generation).IsAccepted := by
  simp only [ofGeneration_eq_ok_iff, runtimePath_standard valid standard, Except.ok.injEq,
    mapM_ofIdent_eq_ok_iff chars]
  constructor
  · rintro ⟨runtime, entries, rfl, ⟨writable, rfl⟩, rfl, accepted⟩
    exact ⟨rfl, writable, accepted⟩
  · rintro ⟨rfl, writable, accepted⟩
    exact ⟨_, _, rfl, ⟨writable, rfl⟩, rfl, accepted⟩

theorem Rendering.ofGeneration_eq_error (valid : options.validate = .ok ())
    (standard : options.runtimeCrate = "stackbind_sdk")
    (chars : ∀ ident ∈ generation.aggregate.modules, ident.toList.all Text.isAsciiWord = true)
    {fault : BindingError} (failed : ofGeneration generation options = .error fault) :
    (∃ ident ∈ generation.aggregate.modules, ¬IsWritable ident ∧
        fault = .render (.notIdentifier ident)) ∨
      ∃ file ∈ (Rendering.standard generation).codeFiles, file.check = .error fault := by
  rw [ofGeneration, runtimePath_standard valid standard] at failed
  rcases bind_eq_error.mp failed with stopped | ⟨runtime, path, failed⟩
  · cases stopped
  obtain rfl := Except.ok.inj path
  rcases bind_eq_error.mp failed with emitted | ⟨modules, emitted, failed⟩
  · obtain ⟨self, listed, stopped⟩ := mapM_eq_error emitted
    refine .inr ⟨_, List.mem_append_left _ ?_, bind_pure_eq_error.mp stopped⟩
    exact List.mem_map_of_mem (List.mem_map_of_mem listed)
  obtain ⟨rfl, -⟩ := mapM_emit_eq_ok_iff.mp emitted
  rcases bind_eq_error.mp (bind_pure_eq_error.mp failed) with unnamed | ⟨entries, named, stopped⟩
  · rw [mapM_ofIdent chars] at unnamed
    split at unnamed
    · cases unnamed
    · rename_i ident found
      cases unnamed
      exact .inl ⟨ident, List.mem_of_find?_eq_some found, by simpa using List.find?_some found, rfl⟩
  · obtain ⟨-, rfl⟩ := (mapM_ofIdent_eq_ok_iff chars).mp named
    refine .inr ⟨_, List.mem_append_right _ ?_, bind_pure_eq_error.mp stopped⟩
    exact List.mem_singleton_self _

end Grammar

end Source

open Source

/-- The type has an identifier or the suffix is one by itself, and the two together are none of the
words that are never raw. -/
def TypeRef.HasModuleName (type : TypeRef) (suffix : String) : Prop :=
  (type.ident ≠ "" ∨ isAsciiIdentifier suffix.toList = true) ∧
    type.bindingIdent suffix ∉ neverRaw

namespace Generation

theorem mem_moduleNames_iff {options : Options} {descriptors : List TypeDescriptor}
    {ident : String} : ident ∈ moduleNames options descriptors ↔
      ∃ descriptor ∈ descriptors, keeps options descriptor = true ∧
        descriptor.type.bindingIdent options.suffix = ident := by
  simp only [moduleNames, List.mem_map, List.mem_filter, and_assoc]

/-- With the standard runtime, a generation is rendered exactly if every type that is kept has a
name for its module and every emitted file is accepted. Every plan then has its function or a
diagnostic of its own. Otherwise a type without such a name stops the rendering, or a file that is
not accepted. -/
theorem renders_iff [Grammar] {catalogue : Catalogue} {options : Options} {generation : Generation}
    (accepted : Catalogue.ofTypes catalogue.types = .ok catalogue)
    (generated : generate catalogue options = .ok generation)
    (standard : options.runtimeCrate = "stackbind_sdk") :
    ((∃ rendering, Rendering.ofGeneration generation options = .ok rendering ∧
        rendering.Accounts options generation) ↔
      (∀ descriptor ∈ catalogue.types, keeps options descriptor = true →
        descriptor.type.HasModuleName options.suffix) ∧
      (Rendering.standard generation).IsAccepted) ∧
    ∀ fault, Rendering.ofGeneration generation options = .error fault →
      (∃ descriptor ∈ catalogue.types, keeps options descriptor = true ∧
        ¬descriptor.type.HasModuleName options.suffix ∧
          fault = .render (.notIdentifier (descriptor.type.bindingIdent options.suffix))) ∨
      ∃ file ∈ (Rendering.standard generation).codeFiles, file.check = .error fault := by
  obtain ⟨valid, distinct, rfl⟩ := (generate_eq_ok_iff accepted).mp generated
  have word := Options.suffix_word valid
  have chars : ∀ ident ∈ moduleNames options catalogue.types,
      ident.toList.all Text.isAsciiWord = true := by
    intro ident listed
    obtain ⟨descriptor, -, -, rfl⟩ := mem_moduleNames_iff.mp listed
    exact descriptor.type.all_isAsciiWord_bindingIdent word
  have writable (type : TypeRef) : IsWritable (type.bindingIdent options.suffix) ↔
      type.HasModuleName options.suffix := type.isWritable_bindingIdent_iff word
  have named : (∀ ident ∈ moduleNames options catalogue.types, IsWritable ident) ↔
      ∀ descriptor ∈ catalogue.types, keeps options descriptor = true →
        descriptor.type.HasModuleName options.suffix := by
    simp only [mem_moduleNames_iff, ← writable]
    grind
  have renders := @Rendering.ofGeneration_standard_iff _ options
    (ofDescriptions options catalogue.types) valid standard chars
  refine ⟨⟨?_, ?_⟩, ?_⟩
  · rintro ⟨rendering, rendered, -⟩
    obtain ⟨-, all, accepted⟩ := renders.mp rendered
    exact ⟨named.mp all, accepted⟩
  · rintro ⟨all, accepted⟩
    have rendered := renders.mpr ⟨rfl, named.mpr all, accepted⟩
    exact ⟨_, rendered,
      Rendering.ofGeneration_accounts rendered (map_ident_ofDescriptions _ _).symm distinct⟩
  · intro fault failed
    refine (Rendering.ofGeneration_eq_error valid standard chars failed).imp_left ?_
    rintro ⟨ident, listed, unwritable, rfl⟩
    obtain ⟨descriptor, member, kept, rfl⟩ := mem_moduleNames_iff.mp listed
    exact ⟨descriptor, member, kept, mt (writable _).mpr unwritable, rfl⟩

theorem fates_renders :
    ∃ rendering, Rendering.ofGeneration GeneratorRun.fates.generation GeneratorRun.fates.options =
        .ok rendering ∧
      rendering.Accounts GeneratorRun.fates.options GeneratorRun.fates.generation ∧
        rendering.diagnostics.length = 2 := by
  have named : ∀ descriptor ∈ GeneratorRun.fates.catalogue.types,
      keeps GeneratorRun.fates.options descriptor = true →
        descriptor.type.HasModuleName GeneratorRun.fates.options.suffix := by
    unfold TypeRef.HasModuleName
    decide +kernel
  have read : (Rendering.standard GeneratorRun.fates.generation).IsAccepted := by
    decide +kernel
  obtain ⟨rendering, rendered, accounts⟩ :=
    (renders_iff GeneratorRun.fates.accepted GeneratorRun.fates.generated rfl).1.mpr ⟨named, read⟩
  have same := rendered
  rw [GeneratorRun.fates.rendered] at same
  cases same
  exact ⟨_, rendered, accounts, by decide +kernel⟩

theorem not_always_renders :
    ¬ ∀ (catalogue : Catalogue) (options : Options) (generation : Generation),
        Catalogue.ofTypes catalogue.types = .ok catalogue →
          generate catalogue options = .ok generation →
            options.runtimeCrate = "stackbind_sdk" →
              ∃ rendering, Rendering.ofGeneration generation options = .ok rendering := by
  intro renders
  let catalogue : Catalogue := { types := [.ofType (.ofClass "" "self")] }
  let options : Options := { suffix := "" }
  have accepted : Catalogue.ofTypes catalogue.types = .ok catalogue :=
    Catalogue.ofTypes_eq_ok_iff.mpr ⟨rfl, by decide⟩
  have generated : generate catalogue options = .ok (ofDescriptions options catalogue.types) :=
    (generate_eq_ok_iff accepted).mpr ⟨by decide, by decide, rfl⟩
  obtain ⟨rendering, rendered⟩ := renders _ _ _ accepted generated rfl
  obtain ⟨runtime, entries, -, named, -⟩ := Rendering.ofGeneration_eq_ok_iff.mp rendered
  have names : moduleNames options catalogue.types = ["self"] := by decide +kernel
  rw [ofDescriptions, names] at named
  cases named

end Generation

end NativeBridge
