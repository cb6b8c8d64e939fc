import NativeBridge.Demo.Types
import NativeBridge.Proofs.Catalogue.Encodings
import NativeBridge.Proofs.Planning.Generations
import NativeBridge.Source.Reader
import NativeBridge.Source.Rendering

/-!
# Fingerprints of modules

What the fingerprint of a module is the digest of says all that the module is made from: two modules
whose fingerprints are made from the same bytes are the same module, rendered in the same way.

* `fingerprintSource_inj`: the description and the options can be told from the text.
* `module_of_fingerprintSource`: the modules of types of two catalogues.
-/

namespace NativeBridge

open Source (RenderedModule)

theorem Options.toJson_injective : Function.Injective Options.toJson := by
  intro options other same
  simp only [toJson, Json.object.injEq, List.cons.injEq, Prod.mk.injEq, Json.string.injEq,
    Json.bool.injEq, true_and, and_true] at same
  cases options
  cases other
  rw [Options.mk.injEq]
  exact same

theorem toList_fingerprintSource (descriptor : TypeDescriptor) (options : Options) :
    (fingerprintSource descriptor options).toList =
      (Document.encodeTypeDescriptor descriptor).compactChars ++
        (options.toJson.compactChars ++ generatorVersion.toList) := by
  simp [fingerprintSource, Json.compact]

theorem fingerprintSource_inj {descriptor other : TypeDescriptor} {options options' : Options}
    (same : fingerprintSource descriptor options = fingerprintSource other options') :
    descriptor = other ∧ options = options' := by
  have chars := congrArg String.toList same
  rw [toList_fingerprintSource, toList_fingerprintSource] at chars
  -- The options begin with a brace, which no number goes on with.
  have ends (options : Options) :
      Json.EndsNumber (options.toJson.compactChars ++ generatorVersion.toList) :=
    Json.endsNumber_cons (by decide) _
  obtain ⟨described, rest⟩ := Json.compactChars_inj (Document.isPlain_encodeTypeDescriptor _)
    (Document.isPlain_encodeTypeDescriptor _) (ends options) (ends options') chars
  have chosen := List.append_cancel_right rest
  rw [← List.append_nil options.toJson.compactChars,
    ← List.append_nil options'.toJson.compactChars] at chosen
  obtain ⟨given, -⟩ := Json.compactChars_inj rfl rfl Json.endsNumber_nil Json.endsNumber_nil chosen
  exact ⟨Document.encodeTypeDescriptor_injective described, Options.toJson_injective given⟩

theorem BindingModule.build_eq_ok {catalogue : Catalogue} {type : TypeRef}
    {descriptor : TypeDescriptor} (described : catalogue.describe type = .ok descriptor)
    (options : Options) :
    build catalogue type options = .ok (ofDescriptor type descriptor options) := by
  rw [build, described]
  rfl

theorem Catalogue.describe_of_listed {descriptors : List TypeDescriptor} {catalogue : Catalogue}
    (accepted : ofTypes descriptors = .ok catalogue) {type : TypeRef}
    (listed : type ∈ catalogue.listed) :
    ∃ descriptor ∈ descriptors, catalogue.describe type = .ok descriptor ∧
      descriptor.type = type := by
  obtain ⟨rfl, distinct⟩ := ofTypes_eq_ok_iff.mp accepted
  obtain ⟨descriptor, member, rfl⟩ := List.mem_map.mp listed
  exact ⟨descriptor, member, describe_of_mem distinct member, rfl⟩

/-- If the fingerprints of two listed types are made from the same bytes, then the descriptions and
the options are the same, and so are the modules and what they are rendered to, whatever else the
catalogues list. -/
theorem module_of_fingerprintSource [Source.Grammar] {descriptors others : List TypeDescriptor}
    {catalogue catalogue' : Catalogue} (accepted : Catalogue.ofTypes descriptors = .ok catalogue)
    (accepted' : Catalogue.ofTypes others = .ok catalogue') {type type' : TypeRef}
    (listed : type ∈ catalogue.listed) (listed' : type' ∈ catalogue'.listed)
    (options options' : Options) :
    ∃ descriptor descriptor', catalogue.describe type = .ok descriptor ∧
      catalogue'.describe type' = .ok descriptor' ∧
        ((fingerprintSource descriptor options).toUTF8 =
            (fingerprintSource descriptor' options').toUTF8 →
          descriptor = descriptor' ∧ options = options' ∧
            ∃ self, BindingModule.build catalogue type options = .ok self ∧
              BindingModule.build catalogue' type' options' = .ok self ∧
                RenderedModule.render self options = RenderedModule.render self options') := by
  obtain ⟨descriptor, -, described, ofType⟩ := Catalogue.describe_of_listed accepted listed
  obtain ⟨descriptor', -, described', ofType'⟩ := Catalogue.describe_of_listed accepted' listed'
  refine ⟨descriptor, descriptor', described, described', ?_⟩
  intro bytes
  obtain ⟨rfl, rfl⟩ := fingerprintSource_inj (String.toByteArray_inj.mp bytes)
  obtain rfl := ofType.symm.trans ofType'
  exact ⟨rfl, rfl, _, BindingModule.build_eq_ok described options,
    BindingModule.build_eq_ok described' options, rfl⟩

theorem vec2_module_beside :
    ∃ self, BindingModule.build Demo.catalogue Demo.vec2 {} = .ok self ∧
      BindingModule.build ⟨[Demo.vec2Descriptor, .ofType .any]⟩ Demo.vec2 {} = .ok self := by
  have accepted : Catalogue.ofTypes Demo.catalogue.types = .ok Demo.catalogue :=
    Catalogue.ofTypes_eq_ok_iff.mpr ⟨rfl, by decide⟩
  have accepted' : Catalogue.ofTypes [Demo.vec2Descriptor, .ofType .any] =
      .ok ⟨[Demo.vec2Descriptor, .ofType .any]⟩ :=
    Catalogue.ofTypes_eq_ok_iff.mpr ⟨rfl, by decide⟩
  have listed : Demo.vec2 ∈ Demo.catalogue.listed := List.mem_cons_of_mem _ List.mem_cons_self
  have listed' : Demo.vec2 ∈ Catalogue.listed ⟨[Demo.vec2Descriptor, .ofType .any]⟩ :=
    List.mem_cons_self
  obtain ⟨descriptor, descriptor', described, described', shared⟩ :=
    module_of_fingerprintSource accepted accepted' listed listed' {} {}
  have found : Demo.catalogue.describe Demo.vec2 = .ok Demo.vec2Descriptor := rfl
  have found' : Catalogue.describe ⟨[Demo.vec2Descriptor, .ofType .any]⟩ Demo.vec2 =
      .ok Demo.vec2Descriptor := rfl
  obtain rfl := Except.ok.inj (found.symm.trans described)
  obtain rfl := Except.ok.inj (found'.symm.trans described')
  obtain ⟨-, -, self, here, there, -⟩ := shared rfl
  exact ⟨self, here, there⟩

end NativeBridge
