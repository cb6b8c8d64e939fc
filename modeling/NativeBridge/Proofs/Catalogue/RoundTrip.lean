import NativeBridge.Catalogue.Catalogue
import NativeBridge.Proofs.Catalogue.Encodings
import NativeBridge.Proofs.Planning.ModuleNames
import NativeBridge.Proofs.Text.JsonPretty

/-!
# Catalogues that are written and read again

A document may leave fields out, order them at will, give a description as the array of its fields
and nest as deep as the levels allow. What a decoder makes of it, it also makes of the encoding, at
the same levels: the encoder nests no deeper, and every field that it leaves out has a default.

* `Document.Rereads`: reading what was read once more, with a lemma for each decoder.
* `Catalogue.ofText_toText`: the text of an accepted catalogue is accepted as the same catalogue.
-/

namespace NativeBridge

namespace Document

/-- What the decoder reads from some value, it reads from the encoding of the result too. -/
def Rereads {α : Type} (decode : Json → Option α) (encode : α → Json) : Prop :=
  ∀ ⦃json a⦄, decode json = some a → decode (encode a) = some a

/-! ## Fields -/

section Fields

variable {α : Type} {decode : Json → Option α} {encode : α → Json} {field : Option Json} {a : α}

theorem Rereads.required (rereads : Rereads decode encode)
    (read : Document.required decode field = some a) :
    Document.required decode (some (encode a)) = some a := by
  cases field with
  | none => cases read
  | some json => exact rereads read

theorem Rereads.optional (rereads : Rereads decode encode) {default : α}
    (missing : decode (encode default) = some default)
    (read : Document.optional default decode field = some a) :
    Document.optional default decode (some (encode a)) = some a := by
  cases field with
  | none =>
      obtain rfl := Option.some.inj read
      exact missing
  | some json => exact rereads read

theorem Rereads.optional_some (rereads : Rereads decode encode) {default : α}
    (read : Document.optional default decode field = some a) (other : a ≠ default) :
    Document.optional default decode (some (encode a)) = some a := by
  cases field with
  | none => exact absurd (Option.some.inj read).symm other
  | some json => exact rereads read

theorem nullable_some {json : Json} (present : json ≠ .null) :
    nullable decode (some json) = (decode json).map some := by
  unfold nullable
  split
  · rename_i absent
    cases absent
    contradiction
  · rename_i absent
    cases absent
  · rename_i other found
    cases found
    rfl

theorem Rereads.nullable (rereads : Rereads decode encode) (present : ∀ a, encode a ≠ .null)
    {found : Option α} (read : Document.nullable decode field = some found) :
    Document.nullable decode (found.map encode) = some found := by
  cases found with
  | none => rfl
  | some a =>
      have decoded : ∃ json, decode json = some a := by
        unfold Document.nullable at read
        split at read
        · cases read
        · cases read
        · obtain ⟨other, decoded, same⟩ := Option.map_eq_some_iff.mp read
          obtain rfl := Option.some.inj same
          exact ⟨_, decoded⟩
      obtain ⟨json, decoded⟩ := decoded
      rw [Option.map_some, nullable_some (present a), rereads decoded]
      rfl

end Fields

theorem rereads_string? : Rereads string? .string := fun _ _ _ => rfl

theorem rereads_bool? : Rereads bool? .bool := fun _ _ _ => rfl

theorem rereads_count? : Rereads count? fun n => .int n := by
  intro json n read
  unfold count? at read
  split at read
  · rename_i i
    obtain ⟨bounds, same⟩ := Option.ite_none_right_eq_some.mp read
    obtain rfl := Option.some.inj same
    have bounds' : 0 ≤ (i.toNat : Int) ∧ (i.toNat : Int) < 0x10000000000000000 := by omega
    rw [count?, if_pos bounds', Int.toNat_natCast]
  · cases read

theorem count?_zero : count? (.int (0 : Nat)) = some 0 := by
  rw [count?, if_pos (by decide), Int.toNat_natCast]

theorem rereads_word? {α : Type} {words : List α} {name : α → String}
    (found : ∀ a, words.find? (name · == name a) = some a) (levels : Nat) :
    Rereads (word? words name levels) fun a => .string (name a) :=
  fun _ a _ => found a

theorem mapM_rereads {α : Type} {decode : Json → Option α} {encode : α → Json}
    (rereads : Rereads decode encode) {items : List Json} {as : List α}
    (read : items.mapM decode = some as) : (as.map encode).mapM decode = some as := by
  induction items generalizing as with
  | nil =>
      obtain rfl := Option.some.inj read
      rfl
  | cons json items ih =>
      rw [List.mapM_cons] at read
      obtain ⟨a, first, read⟩ := Option.bind_eq_some_iff.mp read
      obtain ⟨others, rest, made⟩ := Option.bind_eq_some_iff.mp read
      obtain rfl := Option.some.inj made
      rw [List.map_cons, List.mapM_cons, rereads first, ih rest]
      rfl

theorem rereads_list? {α : Type} {decode : Nat → Json → Option α} {encode : α → Json}
    {levels : Nat} (rereads : Rereads (decode levels) encode) :
    Rereads (list? decode (levels + 1)) fun as => .array (as.map encode) := by
  intro json as read
  cases json with
  | array items => exact mapM_rereads rereads read
  | _ => cases read

/-! ## Type references -/

theorem encodeTypeRefs_eq_map (types : List TypeRef) :
    encodeTypeRefs types = types.map encodeTypeRef := by
  induction types with
  | nil => rfl
  | cons type rest ih => rw [encodeTypeRefs, ih, List.map_cons]

theorem encodeTypeRef_ne_null (type : TypeRef) : encodeTypeRef type ≠ .null := by
  cases type
  exact nofun

theorem fields?_encodeTypeRef (type : TypeRef) :
    fields? typeRefFields (encodeTypeRef type) =
      some [some (.string type.space), some (.string type.name), type.parent.map encodeTypeRef,
        if type.args.isEmpty then none else some (.array (type.args.map encodeTypeRef)),
        some (.string type.category.name), some (.bool type.declaredSealed)] := by
  rw [← encodeTypeRefs_eq_map]
  obtain ⟨space, name, parent, args, category, declaredSealed⟩ := type
  cases parent <;> cases args <;> rfl

theorem typeRef?_succ (levels : Nat) (json : Json) :
    typeRef? (levels + 1) json = (fields? typeRefFields json).bind
      (typeRefOfFields? (typeRef? levels) (list? typeRef? levels) levels) := by
  cases levels with
  | zero => rfl
  | succ below =>
      simp only [typeRef?]
      congr 1
      funext fields
      congr 1
      funext json
      cases json <;> rfl

theorem typeRefOfFields?_reread {nested : Json → Option TypeRef}
    {list : Json → Option (List TypeRef)} {levels : Nat} (parents : Rereads nested encodeTypeRef)
    (lists : Rereads list fun types => .array (types.map encodeTypeRef))
    {fields : List (Option Json)} {type : TypeRef}
    (read : typeRefOfFields? nested list levels fields = some type) :
    typeRefOfFields? nested list levels
      [some (.string type.space), some (.string type.name), type.parent.map encodeTypeRef,
        if type.args.isEmpty then none else some (.array (type.args.map encodeTypeRef)),
        some (.string type.category.name), some (.bool type.declaredSealed)] = some type := by
  unfold typeRefOfFields? at read
  split at read
  · rename_i space name parent args category declaredSealed
    obtain ⟨space, spaceRead, read⟩ := Option.bind_eq_some_iff.mp read
    obtain ⟨name, nameRead, read⟩ := Option.bind_eq_some_iff.mp read
    obtain ⟨parent, parentRead, read⟩ := Option.bind_eq_some_iff.mp read
    obtain ⟨args, argsRead, read⟩ := Option.bind_eq_some_iff.mp read
    obtain ⟨category, categoryRead, read⟩ := Option.bind_eq_some_iff.mp read
    obtain ⟨declaredSealed, sealedRead, made⟩ := Option.bind_eq_some_iff.mp read
    obtain rfl := Option.some.inj made
    have again : optional [] list
        (if args.isEmpty then none else some (.array (args.map encodeTypeRef))) = some args := by
      cases args with
      | nil => rfl
      | cons arg rest => exact lists.optional_some argsRead (List.cons_ne_nil arg rest)
    rw [typeRefOfFields?, rereads_string?.optional rfl spaceRead, rereads_string?.required nameRead,
      parents.nullable encodeTypeRef_ne_null parentRead, again,
      (rereads_word? Category.find?_name levels).required categoryRead,
      rereads_bool?.optional rfl sealedRead]
    rfl
  · cases read

theorem rereads_typeRef? : ∀ levels, Rereads (typeRef? levels) encodeTypeRef
  | 0 => fun _ _ read => nomatch read
  | levels + 1 => by
      intro json type read
      -- An array takes a level of its own, so the arguments are read two levels further down.
      have lists : Rereads (list? typeRef? levels) fun types =>
          .array (types.map encodeTypeRef) := by
        cases levels with
        | zero => exact fun _ _ read => nomatch read
        | succ below => exact rereads_list? (rereads_typeRef? below)
      rw [typeRef?_succ] at read ⊢
      obtain ⟨fields, found, made⟩ := Option.bind_eq_some_iff.mp read
      rw [fields?_encodeTypeRef, Option.bind_some]
      exact typeRefOfFields?_reread (rereads_typeRef? levels) lists made

/-! ## Members -/

theorem rereads_parameter? (levels : Nat) : Rereads (parameter? levels) encodeParameter := by
  intro json param read
  cases levels with
  | zero => cases read
  | succ levels =>
      obtain ⟨fields, found, read⟩ := Option.bind_eq_some_iff.mp read
      split at read
      · obtain ⟨name, nameRead, read⟩ := Option.bind_eq_some_iff.mp read
        obtain ⟨type, typeRead, read⟩ := Option.bind_eq_some_iff.mp read
        obtain ⟨byRef, byRefRead, read⟩ := Option.bind_eq_some_iff.mp read
        obtain ⟨position, positionRead, made⟩ := Option.bind_eq_some_iff.mp read
        obtain rfl := Option.some.inj made
        have written : fields? ["name", "type", "by_ref", "position"]
            (encodeParameter { name, type, byRef, position }) =
          some [some (.string name), some (encodeTypeRef type), some (.bool byRef),
            some (.int position)] := rfl
        rw [parameter?, written]
        simp only [Option.bind_eq_bind, Option.bind_some, rereads_string?.required nameRead,
          (rereads_typeRef? levels).required typeRead, rereads_bool?.optional rfl byRefRead,
          rereads_count?.optional count?_zero positionRead]
      · cases read

theorem fields?_encodeMethod (method : Method) : fields? methodFields (encodeMethod method) =
    some [some (.string method.name), some (.string method.visibility.name),
      some (.bool method.isStatic), some (.int method.genericParams),
      some (.bool method.specialName), some (.bool method.obsolete),
      some (.array (method.params.map encodeParameter)), method.result.map encodeTypeRef] := by
  rw [encodeMethod]
  cases method.result <;> rfl

theorem rereads_method? (levels : Nat) : Rereads (method? (levels + 2)) encodeMethod := by
  -- Two levels, since the array of parameters is written even if the document leaves it out.
  intro json method read
  obtain ⟨fields, found, read⟩ := Option.bind_eq_some_iff.mp read
  split at read
  · obtain ⟨name, nameRead, read⟩ := Option.bind_eq_some_iff.mp read
    obtain ⟨visibility, visibilityRead, read⟩ := Option.bind_eq_some_iff.mp read
    obtain ⟨isStatic, staticRead, read⟩ := Option.bind_eq_some_iff.mp read
    obtain ⟨genericParams, genericRead, read⟩ := Option.bind_eq_some_iff.mp read
    obtain ⟨specialName, specialRead, read⟩ := Option.bind_eq_some_iff.mp read
    obtain ⟨obsolete, obsoleteRead, read⟩ := Option.bind_eq_some_iff.mp read
    obtain ⟨params, paramsRead, read⟩ := Option.bind_eq_some_iff.mp read
    obtain ⟨result, resultRead, made⟩ := Option.bind_eq_some_iff.mp read
    obtain rfl := Option.some.inj made
    have words := rereads_word? Visibility.find?_name (levels + 1)
    have parameters := rereads_list? (rereads_parameter? levels)
    rw [method?, fields?_encodeMethod]
    simp only [Option.bind_eq_bind, Option.bind_some, rereads_string?.required nameRead,
      words.optional rfl visibilityRead, rereads_bool?.optional rfl staticRead,
      rereads_count?.optional count?_zero genericRead, rereads_bool?.optional rfl specialRead,
      rereads_bool?.optional rfl obsoleteRead, parameters.optional rfl paramsRead,
      (rereads_typeRef? (levels + 1)).nullable encodeTypeRef_ne_null resultRead]
  · cases read

theorem rereads_property? (levels : Nat) : Rereads (property? levels) encodeProperty := by
  intro json property read
  cases levels with
  | zero => cases read
  | succ levels =>
      obtain ⟨fields, found, read⟩ := Option.bind_eq_some_iff.mp read
      split at read
      · obtain ⟨name, nameRead, read⟩ := Option.bind_eq_some_iff.mp read
        obtain ⟨obsolete, obsoleteRead, made⟩ := Option.bind_eq_some_iff.mp read
        obtain rfl := Option.some.inj made
        have written : fields? ["name", "obsolete"] (encodeProperty { name, obsolete }) =
          some [some (.string name), some (.bool obsolete)] := rfl
        rw [property?, written]
        simp only [Option.bind_eq_bind, Option.bind_some, rereads_string?.required nameRead,
          rereads_bool?.optional rfl obsoleteRead]
      · cases read

/-! ## Types and catalogues -/

theorem rereads_typeDescriptor? (levels : Nat) :
    Rereads (typeDescriptor? (levels + 4)) encodeTypeDescriptor := by
  intro json descriptor read
  obtain ⟨fields, found, read⟩ := Option.bind_eq_some_iff.mp read
  split at read
  · obtain ⟨type, typeRead, read⟩ := Option.bind_eq_some_iff.mp read
    obtain ⟨methods, methodsRead, read⟩ := Option.bind_eq_some_iff.mp read
    obtain ⟨properties, propertiesRead, read⟩ := Option.bind_eq_some_iff.mp read
    obtain ⟨obsolete, obsoleteRead, made⟩ := Option.bind_eq_some_iff.mp read
    obtain rfl := Option.some.inj made
    have written : fields? ["type", "methods", "properties", "obsolete"]
        (encodeTypeDescriptor { type, methods, properties, obsolete }) =
      some [some (encodeTypeRef type), some (.array (methods.map encodeMethod)),
        some (.array (properties.map encodeProperty)), some (.bool obsolete)] := rfl
    rw [typeDescriptor?, written]
    simp only [Option.bind_eq_bind, Option.bind_some,
      (rereads_typeRef? (levels + 3)).required typeRead,
      (rereads_list? (rereads_method? levels)).optional rfl methodsRead,
      (rereads_list? (rereads_property? (levels + 2))).optional rfl propertiesRead,
      rereads_bool?.optional rfl obsoleteRead]
  · cases read

theorem rereads_types? (levels : Nat) : Rereads (types? (levels + 6)) encodeTypes := by
  intro json types read
  obtain ⟨fields, found, read⟩ := Option.bind_eq_some_iff.mp read
  split at read
  · have descriptors := rereads_list? (rereads_typeDescriptor? levels)
    have written : fields? ["types"] (encodeTypes types) =
      some [some (.array (types.map encodeTypeDescriptor))] := rfl
    rw [types?, written]
    exact descriptors.optional rfl read
  · cases read

theorem isPlain_encodeTypes (types : List TypeDescriptor) : (encodeTypes types).isPlain = true := by
  have descriptors : Json.arePlain (types.map encodeTypeDescriptor) = true := by
    simp [Json.arePlain_iff, isPlain_encodeTypeDescriptor]
  simp [encodeTypes, Json.isPlain, Json.membersPlain, descriptors]

end Document

namespace Catalogue

/-- If a text is accepted as a catalogue, the text of that catalogue is accepted too, as a catalogue
with the same descriptions in the same order, which has the same text once more. -/
theorem ofText_toText {text : String} {catalogue : Catalogue}
    (accepted : ofText text = .ok catalogue) :
    ∃ again, ofText catalogue.toText = .ok again ∧ again.types = catalogue.types ∧
      again.toText = catalogue.toText := by
  have read : Document.types? Document.maxLevels (Document.encodeTypes catalogue.types) =
      some catalogue.types ∧ ofTypes catalogue.types = .ok catalogue := by
    rw [ofText] at accepted
    split at accepted
    · rename_i json parsed
      rw [ofJson] at accepted
      split at accepted
      · rename_i types read
        obtain ⟨rfl, -⟩ := ofTypes_eq_ok_iff.mp accepted
        -- Six of the 127 levels lead down to a parameter.
        exact ⟨Document.rereads_types? 121 read, accepted⟩
      · cases accepted
    · cases accepted
  have parsed : Json.parse catalogue.toText = some (Document.encodeTypes catalogue.types) :=
    Json.parse_pretty (Document.isPlain_encodeTypes catalogue.types)
  refine ⟨catalogue, ?_, rfl, rfl⟩
  rw [ofText, parsed]
  simp only [ofJson, read.1, read.2]

theorem arrays_ofText_toText :
    let document : Json := .array [.array [.array [
      .array [.string "Game", .string "Unit", .null, .array [], .object [("Class", .null)]],
      .array [.array [.string "é\n"]]]]]
    let catalogue : Catalogue :=
      { types := [{ type := .ofClass "Game" "Unit", methods := [{ name := "é\n" }] }] }
    ofText document.compact = .ok catalogue ∧
      ∃ again, ofText catalogue.toText = .ok again ∧ again.types = catalogue.types ∧
        again.toText = catalogue.toText := by
  intro document catalogue
  have accepted : ofText document.compact = .ok catalogue := by
    rw [ofText, Json.parse_compact rfl]
    rfl
  exact ⟨accepted, ofText_toText accepted⟩

end Catalogue

end NativeBridge
