import NativeBridge.Machine.Statics
import NativeBridge.Proofs.Machine.Objects
import NativeBridge.Proofs.Results

/-!
# The two sides of the store

A cell belongs to the interpreter or to native code. A cell of the interpreter should hold the script
instance instead of its adapter, and a cell of native code the adapter.

* `Fits`: a value is on the side to which it belongs.
* `fits_storedIn`: what a cell of a side stores fits that side.
* `Keeps.fits`: a change that neither relinks objects nor brings one back to life leaves every value
  on its side.
* `setField_cases`: a write of a field is such a change.
* `setField_eq_ok_iff`, `setStatic_eq_ok_iff`: when a field or a static is written, and what that
  leaves behind.
-/

namespace NativeBridge

namespace Instance

def side : Instance → Flavor
  | .script _ => .script
  | .native _ => .native

def shell : Instance → Instance
  | .script self => .script { self with fields := [] }
  | .native self => .native { self with fields := [], payload := .nothing }

def adapter? : Instance → Option ObjectId
  | .script self => self.adapter
  | .native _ => none

def standsFor? : Instance → Option ObjectId
  | .script _ => none
  | .native self => self.script

theorem side_shell (self : Instance) : self.shell.side = self.side := by
  cases self <;> rfl

theorem adapter?_shell (self : Instance) : self.shell.adapter? = self.adapter? := by
  cases self <;> rfl

theorem standsFor?_shell (self : Instance) : self.shell.standsFor? = self.standsFor? := by
  cases self <;> rfl

section Links

variable {self : Instance} {id : ObjectId}

theorem side_of_adapter? (link : self.adapter? = some id) : self.side = .script := by
  cases self with
  | script self => rfl
  | native self => cases link

theorem side_of_standsFor? (link : self.standsFor? = some id) : self.side = .native := by
  cases self with
  | script self => cases link
  | native self => rfl

theorem standsFor?_of_script (script : self.side = .script) : self.standsFor? = none := by
  cases self with
  | script self => rfl
  | native self => cases script

theorem adapter?_of_native (native : self.side = .native) : self.adapter? = none := by
  cases self with
  | script self => cases native
  | native self => rfl

end Links

theorem shell_withFields (self : Instance) (fields : List Value) :
    (self.withFields fields).shell = self.shell := by
  cases self <;> rfl

theorem fields_withFields (self : Instance) (fields : List Value) :
    (self.withFields fields).fields = fields := by
  cases self <;> rfl

end Instance

namespace Objects

variable {objects before after : Objects} {id : ObjectId} {side : Flavor} {value : Value}

/-! ## Links -/

theorem adapter?_eq (objects : Objects) (id : ObjectId) :
    objects.adapter? id = (objects.get id).adapter? := by
  rw [adapter?]
  cases objects.get id <;> rfl

theorem liveScript?_eq (objects : Objects) (id : ObjectId) :
    objects.liveScript? id = (objects.get id).standsFor?.filter objects.isLive := by
  rw [liveScript?]
  cases objects.get id <;> rfl

structure Linked (objects : Objects) : Prop where
  adapter : ∀ id adapter, (objects.get id).adapter? = some adapter →
    (objects.get adapter).side = .native
  script : ∀ id script, (objects.get id).standsFor? = some script →
    script < objects.cells.length ∧ (objects.get script).side = .script

theorem get_of_outside (outside : ¬ id < objects.cells.length) : objects.get id = default := by
  rw [get, List.getElem?_eq_none (Nat.le_of_not_lt outside)]

theorem inside_of_isLive (live : objects.isLive id = true) : id < objects.cells.length := by
  by_contra outside
  rw [isLive, List.getElem?_eq_none (Nat.le_of_not_lt outside)] at live
  cases live

theorem inside_of_native (native : (objects.get id).side = .native) :
    id < objects.cells.length := by
  by_contra outside
  rw [get_of_outside outside] at native
  cases native

/-! ## Values on their side -/

/-- A value that a cell of a side may hold: no adapter whose script instance is still there in a
cell of the interpreter, and no script instance that has an adapter in a cell of native code. -/
def Fits (objects : Objects) (side : Flavor) (value : Value) : Prop :=
  ∀ id, value = .object id → match side with
    | .script => objects.liveScript? id = none
    | .native => objects.adapter? id = none

def Has (objects : Objects) (value : Value) : Prop :=
  ∀ id, value = .object id → id < objects.cells.length

theorem Has.of_number (plain : value.objectId? = none) : objects.Has value := by
  rintro id rfl
  cases plain

theorem Has.getD {values : List Value} (has : ∀ value ∈ values, objects.Has value) (index : Nat) :
    objects.Has (values.getD index .null) := by
  rw [List.getD_eq_getElem?_getD]
  cases found : values[index]? with
  | none => exact .of_number rfl
  | some value => exact has value (List.mem_of_getElem? found)

theorem Fits.of_number (plain : value.objectId? = none) : objects.Fits side value := by
  rintro id rfl
  cases plain

theorem unwrapAdapter_cases (objects : Objects) (value : Value) :
    (∃ id script, value = .object id ∧ objects.liveScript? id = some script ∧
      objects.unwrapAdapter value = .object script) ∨
    objects.Fits .script value ∧ objects.unwrapAdapter value = value := by
  cases value with
  | object id =>
      rw [unwrapAdapter]
      cases linked : objects.liveScript? id with
      | some script => exact .inl ⟨id, script, rfl, linked, rfl⟩
      | none =>
          refine .inr ⟨?_, rfl⟩
          rintro other ⟨⟩
          exact linked
  | _ => exact .inr ⟨.of_number rfl, rfl⟩

theorem wrapAdapter_cases (objects : Objects) (value : Value) :
    (∃ id adapter, value = .object id ∧ objects.adapter? id = some adapter ∧
      objects.wrapAdapter value = .object adapter) ∨
    objects.Fits .native value ∧ objects.wrapAdapter value = value := by
  cases value with
  | object id =>
      rw [wrapAdapter]
      cases linked : objects.adapter? id with
      | some adapter => exact .inl ⟨id, adapter, rfl, linked, rfl⟩
      | none =>
          refine .inr ⟨?_, rfl⟩
          rintro other ⟨⟩
          exact linked
  | _ => exact .inr ⟨.of_number rfl, rfl⟩

theorem fits_storedIn (linked : objects.Linked) (side : Flavor) (value : Value) :
    objects.Fits side (TypeTable.storedIn objects side value) := by
  cases side with
  | script =>
      rcases objects.unwrapAdapter_cases value with ⟨id, script, rfl, live, same⟩ | ⟨fits, same⟩
      · rw [TypeTable.storedIn, same]
        rintro other ⟨⟩
        rw [liveScript?_eq, Option.filter_eq_some_iff] at live
        obtain ⟨-, own⟩ := linked.script id script live.1
        -- What an adapter stands for is no adapter itself.
        simp only [liveScript?_eq, Instance.standsFor?_of_script own, Option.filter_none]
      · rw [TypeTable.storedIn, same]
        exact fits
  | native =>
      rcases objects.wrapAdapter_cases value with ⟨id, adapter, rfl, has, same⟩ | ⟨fits, same⟩
      · rw [TypeTable.storedIn, same]
        rintro other ⟨⟩
        rw [adapter?_eq] at has
        have own := linked.adapter id adapter has
        simp only [adapter?_eq, Instance.adapter?_of_native own]
      · rw [TypeTable.storedIn, same]
        exact fits

theorem has_storedIn (linked : objects.Linked) (side : Flavor) (has : objects.Has value) :
    objects.Has (TypeTable.storedIn objects side value) := by
  cases side with
  | script =>
      rcases objects.unwrapAdapter_cases value with ⟨id, script, rfl, live, same⟩ | ⟨-, same⟩
      · rw [TypeTable.storedIn, same]
        rintro other ⟨⟩
        rw [liveScript?_eq, Option.filter_eq_some_iff] at live
        exact (linked.script id script live.1).1
      · rwa [TypeTable.storedIn, same]
  | native =>
      rcases objects.wrapAdapter_cases value with ⟨id, adapter, rfl, link, same⟩ | ⟨-, same⟩
      · rw [TypeTable.storedIn, same]
        rintro other ⟨⟩
        rw [adapter?_eq] at link
        exact inside_of_native (linked.adapter id adapter link)
      · rwa [TypeTable.storedIn, same]

/-! ## Changes of the store -/

/-- Every object keeps its links, and none comes back to life. -/
structure Keeps (before after : Objects) : Prop where
  size : before.cells.length ≤ after.cells.length
  shell : ∀ id, id < before.cells.length → (after.get id).shell = (before.get id).shell
  ended : ∀ id, id < before.cells.length → after.isLive id = true → before.isLive id = true

namespace Keeps

theorem refl (objects : Objects) : Keeps objects objects :=
  ⟨Nat.le_refl _, fun _ _ => rfl, fun _ _ live => live⟩

theorem trans {middle : Objects} (first : Keeps before middle) (second : Keeps middle after) :
    Keeps before after where
  size := Nat.le_trans first.size second.size
  shell id inside := by
    rw [second.shell id (Nat.lt_of_lt_of_le inside first.size), first.shell id inside]
  ended id inside live :=
    first.ended id inside (second.ended id (Nat.lt_of_lt_of_le inside first.size) live)

theorem has (keeps : Keeps before after) (has : before.Has value) : after.Has value :=
  fun id same => Nat.lt_of_lt_of_le (has id same) keeps.size

theorem fits (keeps : Keeps before after) (linked : before.Linked) (has : before.Has value)
    (fits : before.Fits side value) : after.Fits side value := by
  rintro id rfl
  have inside := has id rfl
  have fits := fits id rfl
  have shell := keeps.shell id inside
  cases side with
  | script =>
      rw [liveScript?_eq, Option.filter_eq_none_iff] at fits ⊢
      rw [← Instance.standsFor?_shell, shell, Instance.standsFor?_shell]
      intro script link live
      exact fits script link (keeps.ended script (linked.script id script link).1 live)
  | native =>
      rwa [adapter?_eq, ← Instance.adapter?_shell, shell, Instance.adapter?_shell, ← adapter?_eq]

theorem linked (keeps : Keeps before after) (same : after.cells.length = before.cells.length)
    (linked : before.Linked) : after.Linked := by
  have shell (id : ObjectId) : (after.get id).shell = (before.get id).shell := by
    by_cases inside : id < before.cells.length
    · exact keeps.shell id inside
    · rw [get_of_outside inside, get_of_outside (same ▸ inside)]
  constructor
  · intro id adapter link
    rw [← Instance.adapter?_shell, shell, Instance.adapter?_shell] at link
    rw [← Instance.side_shell, shell, Instance.side_shell]
    exact linked.adapter id adapter link
  · intro id script link
    rw [← Instance.standsFor?_shell, shell, Instance.standsFor?_shell] at link
    obtain ⟨inside, own⟩ := linked.script id script link
    rw [← Instance.side_shell, shell, Instance.side_shell]
    exact ⟨same ▸ inside, own⟩

end Keeps

structure LeavesFields (before after : Objects) : Prop extends Keeps before after where
  linked : after.Linked
  fields : ∀ id, id < before.cells.length → (after.get id).fields = (before.get id).fields
  fresh : ∀ id, before.cells.length ≤ id → ∀ value ∈ (after.get id).fields,
    value.objectId? = none

structure Ended (before after : Objects) : Prop where
  contents : after.contents = before.contents
  ended : ∀ id, after.isLive id = true → before.isLive id = true

namespace Ended

theorem get (ended : Ended before after) (id : ObjectId) : after.get id = before.get id :=
  get_of_contents ended.contents id

theorem size (ended : Ended before after) : after.cells.length = before.cells.length := by
  rw [← length_contents, ended.contents, length_contents]

theorem keeps (ended : Ended before after) : Keeps before after where
  size := Nat.le_of_eq ended.size.symm
  shell id _ := by rw [ended.get]
  ended id _ := ended.ended id

theorem leavesFields (ended : Ended before after) (linked : before.Linked) :
    LeavesFields before after where
  toKeeps := ended.keeps
  linked := ended.keeps.linked ended.size linked
  fields id _ := by rw [ended.get]
  fresh id outside value member := by
    rw [ended.get, get_of_outside (Nat.not_lt.mpr outside)] at member
    cases member

end Ended

theorem ended_collect (objects : Objects) (handles : List ObjectId) :
    Ended objects (objects.collect handles) :=
  ⟨collect_contents handles objects, fun _ => isLive_of_collect⟩

/-! ## Writes of fields -/

theorem length_put (objects : Objects) (id : ObjectId) (content : Instance) :
    (objects.put id content).cells.length = objects.cells.length :=
  List.length_modify _ _ _

theorem isLive_put (objects : Objects) (id : ObjectId) (content : Instance) (other : ObjectId) :
    (objects.put id content).isLive other = objects.isLive other := by
  simp only [isLive, put, List.getElem?_modify]
  cases objects.cells[other]? with
  | none => rfl
  | some cell =>
      by_cases same : id = other
      · simp [same]
      · simp [same]

theorem get_put_ne {other : ObjectId} (apart : id ≠ other) (content : Instance) :
    (objects.put id content).get other = objects.get other := by
  simp only [get, put, List.getElem?_modify, if_neg apart]
  cases objects.cells[other]? <;> rfl

theorem get_put_self (inside : id < objects.cells.length) (content : Instance) :
    (objects.put id content).get id = content := by
  simp [get, put, List.getElem?_eq_getElem inside]

theorem storedIn_eq (objects : Objects) (owner : Instance) (value : Value) :
    objects.storedIn owner value = TypeTable.storedIn objects owner.side value := by
  cases owner <;> rfl

theorem setField_eq_ok_iff {index : Nat} : before.setField id index value = .ok after ↔
    index < (before.get id).fields.length ∧
      after = before.put id ((before.get id).withFields ((before.get id).fields.set index
        (TypeTable.storedIn before (before.get id).side value))) := by
  rw [setField, storedIn_eq]
  by_cases named : index < (before.get id).fields.length
  · rw [if_pos named]
    simp [named, eq_comm]
  · rw [if_neg named]
    simp [named]

section Fields

variable {index : Nat} (written : before.setField id index value = .ok after)

include written

theorem get_of_setField : index < (before.get id).fields.length ∧
    after.get id = (before.get id).withFields ((before.get id).fields.set index
      (TypeTable.storedIn before (before.get id).side value)) := by
  obtain ⟨named, rfl⟩ := setField_eq_ok_iff.mp written
  have inside : id < before.cells.length := by
    by_contra outside
    rw [get_of_outside outside] at named
    cases named
  exact ⟨named, get_put_self inside _⟩

theorem get_of_setField_ne {other : ObjectId} (apart : id ≠ other) :
    after.get other = before.get other := by
  obtain ⟨-, rfl⟩ := setField_eq_ok_iff.mp written
  exact get_put_ne apart _

theorem isLive_of_setField (other : ObjectId) : after.isLive other = before.isLive other := by
  obtain ⟨-, rfl⟩ := setField_eq_ok_iff.mp written
  exact isLive_put before id _ other

theorem setField_cases :
    Keeps before after ∧ after.cells.length = before.cells.length ∧
      (∀ other, other ≠ id → after.get other = before.get other) ∧
      (after.get id).side = (before.get id).side ∧
      (after.get id).fields = (before.get id).fields.set index
        (TypeTable.storedIn before (before.get id).side value) := by
  have self := (get_of_setField written).2
  have length : after.cells.length = before.cells.length := by
    obtain ⟨-, rfl⟩ := setField_eq_ok_iff.mp written
    exact length_put before id _
  refine ⟨⟨Nat.le_of_eq length.symm, ?_, ?_⟩, length, ?_, ?_, ?_⟩
  · intro other _
    by_cases same : id = other
    · subst same
      rw [self, Instance.shell_withFields]
    · rw [get_of_setField_ne written same]
  · intro other _ live
    rwa [isLive_of_setField written] at live
  · intro other apart
    exact get_of_setField_ne written apart.symm
  · rw [self, ← Instance.side_shell, Instance.shell_withFields, Instance.side_shell]
  · rw [self, Instance.fields_withFields]

end Fields

end Objects

/-! ## Writes of statics -/

namespace TypeTable

variable {table types : TypeTable} {objects : Objects} {typeId index : Nat} {value : Value}

theorem get_eq_ok_iff {type : RuntimeType} :
    table.get typeId = .ok type ↔ table.types[typeId]? = some type := by
  rw [get]
  cases table.types[typeId]? with
  | none => simp
  | some found => simp

theorem setStatic_eq_ok_iff : table.setStatic objects typeId index value = .ok types ↔
    ∃ type, table.get typeId = .ok type ∧ index < type.statics.length ∧
      types = { types := table.types.set typeId { type with
        statics := type.statics.set index (storedIn objects type.flavor value) } } := by
  rw [setStatic]
  cases found : table.get typeId with
  | error fault => simp [bind, Except.bind]
  | ok type =>
      by_cases named : index < type.statics.length
      · simp [bind, Except.bind, named, pure, Except.pure, eq_comm]
      · simp [bind, Except.bind, named, throw, throwThe, MonadExceptOf.throw]

end TypeTable

end NativeBridge
