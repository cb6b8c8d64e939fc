import NativeBridge.Machine.Coercion
import NativeBridge.Proofs.Machine.Contents

/-!
# The two forms of an object

A script instance that has an adapter is met in two forms: as itself, and as its adapter. The cell
that keeps it chooses the form, and the type for which it is read chooses one too.

* `Made.paired`: in every store the links of a script instance and its adapter name each other.
* `apply_of_shells`: a coercion looks at the shells of objects only.
* `adapt_eq_ok_iff`: what an object is passed as.
* `apply_storedIn`: a coercion takes the form that a cell keeps as it takes the value itself, except
  for a script instance that is read as a script instance from a cell of native code.
-/

namespace NativeBridge

namespace Objects

variable {objects others : Objects} {id : ObjectId} {value : Value}

/-- A script instance owns an adapter exactly when the adapter stands for it. -/
def Paired (objects : Objects) : Prop :=
  ∀ script adapter, (objects.get script).adapter? = some adapter ↔
    (objects.get adapter).standsFor? = some script

/-- A script instance and its adapter are the same object in two forms. -/
inductive SameObject (objects : Objects) : Value → Value → Prop where
  | refl (value : Value) : SameObject objects value value
  | wrapped {script adapter : ObjectId} : objects.adapter? script = some adapter →
      SameObject objects (.object adapter) (.object script)
  | unwrapped {script adapter : ObjectId} : objects.adapter? script = some adapter →
      SameObject objects (.object script) (.object adapter)

/-! ## Links -/

theorem Paired.of_shells (paired : objects.Paired)
    (same : ∀ id, (others.get id).shell = (objects.get id).shell) : others.Paired := by
  intro script adapter
  rw [← Instance.adapter?_shell, same, Instance.adapter?_shell, ← Instance.standsFor?_shell, same,
    Instance.standsFor?_shell]
  exact paired script adapter

theorem paired_empty : ({} : Objects).Paired := by
  intro script adapter
  rw [get_of_outside (Nat.not_lt_zero script), get_of_outside (Nat.not_lt_zero adapter)]
  exact iff_of_false nofun nofun

theorem get_add (objects : Objects) (content : Instance) (id : ObjectId) :
    (objects.add content).2.get id =
      if id = objects.cells.length then content else objects.get id := by
  by_cases last : id = objects.cells.length
  · subst last
    simp [add, get]
  · rw [if_neg last]
    simp only [add, get]
    by_cases inside : id < objects.cells.length
    · rw [List.getElem?_append_left inside]
    · have outside : objects.cells.length < id :=
        Nat.lt_of_le_of_ne (Nat.le_of_not_lt inside) (Ne.symm last)
      rw [List.getElem?_eq_none (Nat.le_of_not_lt inside),
        List.getElem?_eq_none (List.length_append ▸ outside)]

theorem unlinked_of_outside (outside : objects.cells.length ≤ id) :
    (objects.get id).adapter? = none ∧ (objects.get id).standsFor? = none := by
  rw [get_of_outside (Nat.not_lt.mpr outside)]
  exact ⟨rfl, rfl⟩

theorem Paired.add (paired : objects.Paired) {content : Instance}
    (free : content.adapter? = none ∧ content.standsFor? = none) :
    (objects.add content).2.Paired := by
  intro script adapter
  have here := paired script adapter
  have last := unlinked_of_outside (Nat.le_refl objects.cells.length)
  rw [get_add, get_add]
  grind

theorem Paired.addAdapted (paired : objects.Paired) (typeName : String) (fieldCount : Nat)
    (nativeType : String) (assignableTo : List String) :
    (objects.addAdapted typeName fieldCount nativeType assignableTo).2.Paired := by
  intro script adapter
  have here := paired script adapter
  have first := unlinked_of_outside (Nat.le_refl objects.cells.length)
  have second := unlinked_of_outside (Nat.le_succ objects.cells.length)
  have size (content : Instance) :
      (objects.add content).2.cells.length = objects.cells.length + 1 :=
    List.length_append
  simp only [Objects.addAdapted, get_add, size]
  grind [Instance.adapter?, Instance.standsFor?]

inductive Made : Objects → Prop where
  | none : Made {}
  | script {objects : Objects} (typeName : String) (fieldCount : Nat) :
      Made objects → Made (objects.addScript typeName fieldCount).2
  | adapted {objects : Objects} (typeName : String) (fieldCount : Nat) (nativeType : String)
      (assignableTo : List String) : Made objects →
      Made (objects.addAdapted typeName fieldCount nativeType assignableTo).2
  | native {objects : Objects} {self : NativeInstance} : self.script = .none →
      Made objects → Made (objects.addNative self).2
  | change {objects others : Objects} :
      (∀ id, (others.get id).shell = (objects.get id).shell) → Made objects → Made others

theorem Made.paired (made : objects.Made) : objects.Paired := by
  induction made with
  | none => exact paired_empty
  | script typeName fieldCount _ ih => exact ih.add ⟨rfl, rfl⟩
  | adapted typeName fieldCount nativeType assignableTo _ ih =>
      exact ih.addAdapted typeName fieldCount nativeType assignableTo
  | native free _ ih => exact ih.add ⟨rfl, free⟩
  | change same _ ih => exact ih.of_shells same

theorem script_of_adapter? {adapter : ObjectId} (link : objects.adapter? id = some adapter) :
    (objects.get id).side = .script :=
  Instance.side_of_adapter? ((objects.adapter?_eq id).symm.trans link)

theorem native_of_isInstanceOf {target : String} (fits : objects.isInstanceOf id target = true) :
    (objects.get id).side = .native := by
  rw [isInstanceOf, native?] at fits
  cases content : objects.get id with
  | native self => rfl
  | script self =>
      rw [content] at fits
      cases fits

theorem Paired.native (paired : objects.Paired) {script adapter : ObjectId}
    (link : objects.adapter? script = some adapter) : (objects.get adapter).side = .native := by
  rw [adapter?_eq] at link
  exact Instance.side_of_standsFor? ((paired script adapter).mp link)

theorem Paired.adapter?_of_liveScript? (paired : objects.Paired) {script adapter : ObjectId}
    (live : objects.liveScript? adapter = some script) :
    objects.adapter? script = some adapter := by
  rw [liveScript?_eq, Option.filter_eq_some_iff] at live
  rw [adapter?_eq]
  exact (paired script adapter).mpr live.1

theorem sameObject_storedIn (paired : objects.Paired) (side : Flavor) (value : Value) :
    objects.SameObject (TypeTable.storedIn objects side value) value := by
  cases side with
  | script =>
      rcases objects.unwrapAdapter_cases value with ⟨id, script, rfl, live, same⟩ | ⟨-, same⟩
      · rw [TypeTable.storedIn, same]
        exact .unwrapped (paired.adapter?_of_liveScript? live)
      · rw [TypeTable.storedIn, same]
        exact .refl value
  | native =>
      rcases objects.wrapAdapter_cases value with ⟨id, adapter, rfl, link, same⟩ | ⟨-, same⟩
      · rw [TypeTable.storedIn, same]
        exact .wrapped link
      · rw [TypeTable.storedIn, same]
        exact .refl value

/-! ## Shells -/

section Shells

variable (same : ∀ id, (others.get id).shell = (objects.get id).shell)

include same

theorem typeName_of_shells (id : ObjectId) :
    (others.get id).typeName = (objects.get id).typeName := by
  have shell := congrArg Instance.typeName (same id)
  cases left : others.get id <;> cases right : objects.get id <;> rw [left, right] at shell <;>
    exact shell

theorem describe_of_shells (value : Value) : others.describe value = objects.describe value := by
  cases value with
  | object id => exact typeName_of_shells same id
  | _ => rfl

theorem narrow_of_shells (kind : Kind) (value : Value) :
    others.narrow kind value = objects.narrow kind value := by
  rw [narrow, narrow, describe_of_shells same]

theorem isInstanceOf_of_shells (id : ObjectId) (target : String) :
    others.isInstanceOf id target = objects.isInstanceOf id target := by
  have shell := same id
  rw [isInstanceOf, isInstanceOf, native?, native?]
  cases left : others.get id <;> cases right : objects.get id <;> rw [left, right] at shell <;>
    simp_all [Instance.shell, NativeInstance.isInstanceOf]

end Shells

end Objects

namespace Coercion

variable {objects others : Objects} {coercion : Coercion} {id : ObjectId} {value taken : Value}

theorem adapt_of_shells (same : ∀ id, (others.get id).shell = (objects.get id).shell)
    (id : ObjectId) : coercion.adapt others id = coercion.adapt objects id := by
  have shell := same id
  have refused := Objects.typeName_of_shells same id
  rw [adapt, adapt]
  cases left : others.get id <;> cases right : objects.get id <;> rw [left, right] at shell <;>
    simp_all [Instance.shell, NativeInstance.isInstanceOf, mismatch,
      Objects.isInstanceOf_of_shells same, Objects.describe_of_shells same]

theorem apply_of_shells (same : ∀ id, (others.get id).shell = (objects.get id).shell)
    (value : Value) : coercion.apply others value = coercion.apply objects value := by
  have refused (value : Value) :
      coercion.mismatch others value = coercion.mismatch objects value := by
    rw [mismatch, mismatch, Objects.describe_of_shells same]
  cases mode : coercion.mode <;> cases value <;>
    simp only [apply, mode, refused, adapt_of_shells same]
  case script.object id =>
    have shell := same id
    cases left : others.get id <;> cases right : objects.get id <;> rw [left, right] at shell <;>
      cases shell

def PassedAs (objects : Objects) (target : String) (id native : ObjectId) : Prop :=
  objects.isInstanceOf native target = true ∧ (id = native ∨ objects.adapter? id = some native)

theorem adapt_eq_ok_iff : coercion.adapt objects id = .ok taken ↔
    ∃ native, taken = .object native ∧ PassedAs objects coercion.target id native := by
  constructor
  · intro adapted
    rw [adapt] at adapted
    cases content : objects.get id with
    | native self =>
        simp only [content] at adapted
        split at adapted
        · rename_i fits
          cases adapted
          refine ⟨id, rfl, ?_, .inl rfl⟩
          rwa [Objects.isInstanceOf, Objects.native?, content]
        · cases adapted
    | script self =>
        simp only [content] at adapted
        split at adapted
        · rename_i adapter link
          split at adapted
          · rename_i fits
            cases adapted
            refine ⟨adapter, rfl, fits, .inr ?_⟩
            rwa [Objects.adapter?, content]
          · cases adapted
        · cases adapted
  · rintro ⟨native, rfl, fits, rfl | link⟩
    · rw [Objects.isInstanceOf, Objects.native?] at fits
      rw [adapt]
      cases content : objects.get id with
      | native self =>
          rw [content] at fits
          exact if_pos fits
      | script self =>
          rw [content] at fits
          cases fits
    · rw [Objects.adapter?] at link
      rw [adapt]
      cases content : objects.get id with
      | native self =>
          rw [content] at link
          cases link
      | script self =>
          rw [content] at link
          simp only [show self.adapter = some native from link]
          exact if_pos fits

theorem passedAs_storedIn (paired : objects.Paired) {target : String} {native : ObjectId}
    (passed : PassedAs objects target id native) (side : Flavor) :
    ∃ form, TypeTable.storedIn objects side (.object id) = .object form ∧
      PassedAs objects target form native := by
  obtain ⟨fits, form⟩ := passed
  cases side with
  | script =>
      rcases objects.unwrapAdapter_cases (.object id) with ⟨_, script, ⟨⟩, live, same⟩ | ⟨-, same⟩
      · have link := paired.adapter?_of_liveScript? live
        refine ⟨script, same, fits, .inr ?_⟩
        rcases form with rfl | other
        · exact link
        · cases (paired.native link).symm.trans (Objects.script_of_adapter? other)
      · exact ⟨id, same, fits, form⟩
  | native =>
      rcases objects.wrapAdapter_cases (.object id) with ⟨_, adapter, ⟨⟩, link, same⟩ | ⟨-, same⟩
      · refine ⟨adapter, same, fits, .inl ?_⟩
        rcases form with rfl | other
        · cases (Objects.native_of_isInstanceOf fits).symm.trans (Objects.script_of_adapter? link)
        · exact Option.some.inj (link.symm.trans other)
      · exact ⟨id, same, fits, form⟩

theorem apply_script_eq_ok_iff (mode : coercion.mode = .script) :
    coercion.apply objects (.object id) = .ok taken ↔
      taken = .object id ∧ (objects.get id).side = .script := by
  simp only [apply, mode]
  cases content : objects.get id with
  | script self => simp [Instance.side, eq_comm]
  | native self => simp [Instance.side, mismatch]

theorem unwrapAdapter_script (script : (objects.get id).side = .script) :
    objects.unwrapAdapter (.object id) = .object id := by
  rw [Objects.unwrapAdapter, Objects.liveScript?_eq, Instance.standsFor?_of_script script]
  rfl

/-- A coercion that takes a value takes the form that a cell keeps of it, and gives the same. Only
the universal type lets the form show, and only the type of script instances minds it. -/
theorem apply_storedIn (paired : objects.Paired)
    (accepted : coercion.apply objects value = .ok taken) (side : Flavor)
    (kept : coercion.mode = .script → side = .native → objects.Fits .native value) :
    ∃ read, coercion.apply objects (TypeTable.storedIn objects side value) = .ok read ∧
      objects.SameObject read taken ∧ (coercion.mode ≠ .any → read = taken) := by
  by_cases plain : value.objectId? = none
  · rw [objects.storedIn_plain side plain]
    exact ⟨taken, accepted, .refl taken, fun _ => rfl⟩
  obtain ⟨id, named⟩ := Option.ne_none_iff_exists'.mp plain
  obtain rfl : value = .object id := by
    cases value <;> cases named
    rfl
  cases mode : coercion.mode with
  | any =>
      simp only [apply, mode] at accepted ⊢
      cases accepted
      exact ⟨_, rfl, Objects.sameObject_storedIn paired side _, fun other => absurd rfl other⟩
  | script =>
      obtain ⟨rfl, script⟩ := (apply_script_eq_ok_iff mode).mp accepted
      have same : TypeTable.storedIn objects side (.object id) = .object id := by
        cases side with
        | script => exact unwrapAdapter_script script
        | native =>
            rw [TypeTable.storedIn, Objects.wrapAdapter, kept mode rfl id rfl]
            rfl
      rw [same]
      exact ⟨_, accepted, .refl _, fun _ => rfl⟩
  | string =>
      simp only [apply, mode] at accepted
      cases accepted
  | classType | struct =>
      simp only [apply, mode] at accepted
      obtain ⟨native, rfl, passed⟩ := adapt_eq_ok_iff.mp accepted
      obtain ⟨form, same, passed⟩ := passedAs_storedIn paired passed side
      rw [same]
      simp only [apply, mode]
      exact ⟨_, adapt_eq_ok_iff.mpr ⟨native, rfl, passed⟩, .refl _, fun _ => rfl⟩

theorem apply_storedIn_script (paired : objects.Paired) (mode : coercion.mode = .script)
    {script adapter : ObjectId} (link : objects.adapter? script = some adapter) :
    coercion.apply objects (TypeTable.storedIn objects .native (.object script)) =
      .error (.typeMismatch coercion.target (objects.get adapter).typeName) := by
  have native := paired.native link
  rw [TypeTable.storedIn, Objects.wrapAdapter, link]
  simp only [Option.getD_some, apply, mode]
  cases content : objects.get adapter with
  | native self => rw [mismatch, Objects.describe, content]
  | script self =>
      rw [content] at native
      cases native

end Coercion

end NativeBridge
