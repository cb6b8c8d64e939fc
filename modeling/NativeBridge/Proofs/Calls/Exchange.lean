import NativeBridge.Proofs.Calls.KindChecks
import NativeBridge.Proofs.Calls.ReadBack

/-!
# Numbers that change places

Two slots lead to numbers, and each number is stored where the other one was. The second store
looks its location up again, after the first one may have replaced the very slot that leads there.
Whatever the two slots lead to, also if it is one cell, each location then holds the other number.

* `ChangesWithin`: what a series of stores may change.
* `Contains.unchanged`: a number stays in its cell when another cell changes.
* `resolve_again`: the first store redirects the other slot only if both numbers are the same.
* `exchange`: so both stores succeed, and the numbers have changed places.
-/

namespace NativeBridge

namespace EvalStack

variable {stack : EvalStack} {index place : StackPtr} {slot : Slot}

theorem resolve_set_ne (apart : place ≠ index) (inside : place < stack.capacity) :
    ({ slots := stack.slots.set place slot } : EvalStack).resolve index = stack.resolve index := by
  simp only [resolve, get_set_ne apart]
  cases stack.get index with
  | error fault => rfl
  | ok found =>
      simp only [bind, Except.bind]
      by_cases same : place = found.index
      · obtain ⟨target, there⟩ : ∃ target, stack.get found.index = .ok target :=
          ⟨_, get_eq_ok_iff.mpr (List.getElem?_eq_getElem (same ▸ inside))⟩
        have written : ({ slots := stack.slots.set place slot } : EvalStack).get found.index =
          .ok slot := same ▸ get_set_self inside
        rw [there, written]
      · rw [get_set_ne same]

end EvalStack

namespace TypeTable

theorem static_eq_ok_iff {table : TypeTable} {typeId field : Nat} {value : Value} :
    table.static typeId field = .ok value ↔
      ∃ type, table.get typeId = .ok type ∧ type.statics[field]? = some value := by
  rw [static, bind_eq_ok]
  refine exists_congr fun type => and_congr_right' ?_
  cases type.statics[field]? with
  | none =>
      constructor
      · intro read
        cases read
      · intro stands
        cases stands
  | some found => exact pure_eq_ok.trans (Option.some.injEq _ _).symm.to_iff

end TypeTable

namespace Machine

variable {machine before middle after : Machine} {kind : Kind} {coercion : Option Coercion}
  {location other : Location} {value x y : Value} {index p q : StackPtr}

/-! ## Slots that lead to numbers -/

def Leads (machine : Machine) (index : StackPtr) (location : Location) (kind : Kind)
    (value : Value) : Prop :=
  machine.stack.resolve index = .ok location ∧ machine.load location kind none = .ok value

theorem loadSlot_eq_ok_iff : machine.loadSlot true index kind none = .ok value ↔
    ∃ location, machine.Leads index location kind value :=
  bind_eq_ok

theorem valueAt_slot_eq_ok_iff : machine.valueAt kind (.slot index) = .ok value ↔
    ∃ slot, machine.stack.get index = .ok slot ∧ machine.slotValue kind slot = .ok value :=
  bind_eq_ok

theorem load_of_resolve (resolved : machine.stack.resolve index = .ok location)
    (loaded : machine.load (.slot index) kind coercion = .ok value) :
    machine.load location kind coercion = .ok value := by
  rw [load_eq] at loaded
  obtain ⟨stored, stands, converted⟩ := bind_eq_ok.mp loaded
  obtain ⟨slot, found, behind⟩ := valueAt_slot_eq_ok_iff.mp stands
  have same : machine.valueAt kind location = machine.valueAt kind (.slot index) := by
    rw [stands]
    simp only [EvalStack.resolve, found, bind, Except.bind] at resolved
    rw [slotValue] at behind
    split at resolved
    case h_1 tag =>
      rw [tag] at behind
      cases behind
    case h_2 tag =>
      obtain rfl := Except.ok.inj resolved
      rw [tag] at behind
      exact behind
    case h_3 tag =>
      obtain rfl := Except.ok.inj resolved
      rw [tag] at behind
      exact behind
    case h_4 =>
      obtain rfl := Except.ok.inj resolved
      exact stands
  rw [load_eq, same, stands]
  exact converted

theorem fieldValue_eq_ok_iff {object field : Nat} : machine.fieldValue object field = .ok value ↔
    ∃ id, machine.heap.get object = .ok (.object id) ∧
      (machine.objects.get id).fields[field]? = some value := by
  rw [fieldValue, bind_eq_ok]
  constructor
  · rintro ⟨owner, found, held⟩
    cases owner with
    | object id =>
        refine ⟨id, found, ?_⟩
        simp only [Objects.field] at held
        split at held
        · rename_i listed
          rw [listed, Except.ok.inj held]
        · cases held
    | _ => cases held
  · rintro ⟨id, found, held⟩
    refine ⟨.object id, found, ?_⟩
    simp only [Objects.field, held]

theorem hasCell_of_load (loaded : machine.load location kind coercion = .ok value) :
    machine.HasCell location := by
  rw [load_eq] at loaded
  obtain ⟨stored, stands, -⟩ := bind_eq_ok.mp loaded
  cases location with
  | slot index =>
      obtain ⟨slot, found, -⟩ := valueAt_slot_eq_ok_iff.mp stands
      exact .slot (EvalStack.inside_of_get found)
  | field object field =>
      obtain ⟨id, found, held⟩ := fieldValue_eq_ok_iff.mp stands
      exact .field found (List.getElem?_eq_some_iff.mp held).1
  | static typeId field =>
      obtain ⟨type, found, held⟩ := TypeTable.static_eq_ok_iff.mp stands
      exact .static found (List.getElem?_eq_some_iff.mp held).1

/-! ## Cells that change -/

theorem length_of_outline {self other : Instance} (same : self.outline = other.outline) :
    self.fields.length = other.fields.length := by
  have fields := congrArg (·.fields.length) same
  simpa only [Instance.outline, Instance.fields_withFields, List.length_replicate] using fields

theorem HasCell.unchanged (cell : before.HasCell location)
    (only : ChangesOnly other before after) : after.HasCell location := by
  cases cell with
  | slot inside => exact .slot (only.capacity ▸ inside)
  | @field object field id found named =>
      exact .field (only.heap ▸ found) (length_of_outline (only.objects id) ▸ named)
  | @static typeId field type found named =>
      have listed := TypeTable.get_eq_ok_iff.mp found
      have outlines := congrArg (·[typeId]?) only.types
      simp only [List.getElem?_map, listed, Option.map_some] at outlines
      obtain ⟨other, listed', same⟩ := Option.map_eq_some_iff.mp outlines
      have length := congrArg (·.statics.length) same
      simp only [RuntimeType.outline, List.length_replicate] at length
      exact .static (TypeTable.get_eq_ok_iff.mpr listed') (length ▸ named)

inductive SameCell (machine : Machine) : Location → Location → Prop where
  | refl (location : Location) : SameCell machine location location
  | field {object other field : Nat} {id : ObjectId} :
      machine.heap.get object = .ok (.object id) → machine.heap.get other = .ok (.object id) →
      SameCell machine (.field object field) (.field other field)

theorem SameCell.load_eq (same : machine.SameCell location other) :
    machine.load location kind coercion = machine.load other kind coercion := by
  cases same with
  | refl => rfl
  | field found found' => simp only [load, fieldValue, found, found', bind, Except.bind]

theorem SameCell.of_heap (same : machine.SameCell location other)
    (heap : after.heap = machine.heap) : after.SameCell location other := by
  cases same with
  | refl => exact .refl _
  | field found found' => exact .field (heap ▸ found) (heap ▸ found')

inductive Contains (machine : Machine) (kind : Kind) (value : Value) : Location → Prop where
  | slot {index : StackPtr} {slot : Slot} : machine.stack.get index = .ok slot →
      kind.encode? value = some slot → Contains machine kind value (.slot index)
  | field {object field : Nat} {id : ObjectId} : machine.heap.get object = .ok (.object id) →
      (machine.objects.get id).fields[field]? = some value →
      Contains machine kind value (.field object field)
  | static {typeId field : Nat} : machine.types.static typeId field = .ok value →
      Contains machine kind value (.static typeId field)

theorem Contains.load (contains : machine.Contains kind value location)
    (known : Kind.ofValue? value = some kind) : machine.load location kind none = .ok value := by
  have has : machine.HasNumber kind value location := by
    cases contains with
    | slot found encoded => exact .direct found (Objects.encode_eq_ok_iff.mpr encoded)
    | field found held => exact .field found held
    | static held =>
        obtain ⟨type, found, listed⟩ := TypeTable.static_eq_ok_iff.mp held
        exact .static found listed
  obtain ⟨slot, encoded⟩ := Kind.encode?_isSome known
  rw [has.load known encoded (Kind.isNumeric_of_ofValue? known)]
  exact Kind.decode_eq_ok_iff.mpr (Kind.ofBits?_of_encode? encoded)

theorem Contains.unchanged (contains : before.Contains kind value location)
    (only : ChangesOnly other before after) (apart : ¬ before.SameCell location other) :
    after.Contains kind value location := by
  cases contains with
  | slot found encoded =>
      exact .slot ((only.slots _ fun same => apart (same ▸ .refl _)).trans found) encoded
  | @field object field id found held =>
      refine .field (only.heap ▸ found) ((only.fields id field ?_).trans held)
      rintro ⟨object', rfl, found'⟩
      exact apart (.field found found')
  | static held =>
      exact .static ((only.statics _ _ fun same => apart (same ▸ .refl _)).trans held)

theorem Stored.contains (stored : Stored kind value before location after)
    (known : Kind.ofValue? value = some kind) : after.Contains kind value location := by
  have kept (side : Flavor) : TypeTable.storedIn before.objects side value = value :=
    before.objects.storedIn_plain side (Kind.objectId?_of_ofValue? known)
  cases stored with
  | entry object | fresh object => cases (Kind.isNumeric_of_ofValue? known).symm.trans object
  | number _ encoded inside => exact .slot (EvalStack.get_set_self inside) encoded
  | field found written =>
      exact .field found ((Objects.fields_of_setField written).trans (congrArg some (kept _)))
  | static written =>
      obtain ⟨type, -, named, found⟩ := TypeTable.get_of_setStatic written
      refine .static (TypeTable.static_eq_ok_iff.mpr ⟨_, found, ?_⟩)
      exact (List.getElem?_set_self named).trans (congrArg some (kept _))

/-! ## Slots that are overwritten -/

section Overwritten

variable (numeric : kind.isNumeric = true)

include numeric

theorem Stored.resolve_ne (stored : Stored kind value before location after)
    (apart : location ≠ .slot index) :
    after.stack.resolve index = before.stack.resolve index := by
  cases stored with
  | entry object | fresh object => cases numeric.symm.trans object
  | number _ _ inside =>
      exact EvalStack.resolve_set_ne (fun same => apart (congrArg Location.slot same)) inside
  | field | static => rfl

theorem Stored.resolve_self (stored : Stored kind value before (.slot index) after) :
    after.stack.resolve index = .ok (.slot index) := by
  cases stored with
  | entry object | fresh object => cases numeric.symm.trans object
  | number _ encoded inside =>
      exact EvalStack.resolve_of_not_isReference (EvalStack.get_set_self inside)
        (Kind.encode?_plain encoded)

theorem Stored.load_ne (stored : Stored kind value before (.slot index) after)
    (apart : location ≠ .slot index) :
    after.load location kind coercion = before.load location kind coercion := by
  cases stored with
  | entry object | fresh object => cases numeric.symm.trans object
  | @number _ slot _ _ inside =>
      cases location with
      | field | static => rfl
      | slot other =>
          have kept := @EvalStack.get_set_ne before.stack index other slot fun same =>
            apart (congrArg Location.slot same.symm)
          simp only [Machine.load, kept]
          rfl

/-- The store of one number where the other one was redirects the slot of the first number only if
it overwrites that slot, and then the numbers are the same. -/
theorem Stored.resolve_again (stored : Stored kind x before other middle)
    (first : before.Leads p location kind x) (second : before.load other kind none = .ok y) :
    middle.stack.resolve p = .ok location ∨
      (other = .slot p ∧ middle.stack.resolve p = .ok other ∧ x = y) := by
  by_cases overwritten : other = .slot p
  · subst overwritten
    have same := first.2.symm.trans (load_of_resolve first.1 second)
    exact .inr ⟨rfl, stored.resolve_self numeric, Except.ok.inj same⟩
  · exact .inl ((stored.resolve_ne numeric overwritten).trans first.1)

end Overwritten

/-! ## Two stores -/

structure ChangesWithin (cells : List Location) (before after : Machine) : Prop where
  capacity : after.stack.capacity = before.stack.capacity
  slots : ∀ index, .slot index ∉ cells → after.stack.get index = before.stack.get index
  heap : after.heap = before.heap
  objects : ∀ id, (after.objects.get id).outline = (before.objects.get id).outline
  fields : ∀ id field, (∀ location ∈ cells, ¬ before.Names location id field) →
    (after.objects.get id).fields[field]? = (before.objects.get id).fields[field]?
  live : ∀ id, after.objects.isLive id = before.objects.isLive id
  types : after.types.types.map RuntimeType.outline = before.types.types.map RuntimeType.outline
  statics : ∀ typeId field, .static typeId field ∉ cells →
    after.types.static typeId field = before.types.static typeId field
  pinned : after.pinned = before.pinned
  entered : after.entered = before.entered

theorem Names.of_heap {id : ObjectId} {field : Nat} (named : machine.Names location id field)
    (heap : after.heap = machine.heap) : after.Names location id field := by
  obtain ⟨object, rfl, found⟩ := named
  exact ⟨object, rfl, heap ▸ found⟩

theorem ChangesOnly.within {cells : List Location} (first : ChangesOnly location before middle)
    (second : ChangesOnly other middle after) (listed : location ∈ cells)
    (listed' : other ∈ cells) : ChangesWithin cells before after where
  capacity := second.capacity.trans first.capacity
  slots index unlisted :=
    (second.slots index fun same => unlisted (same ▸ listed')).trans
      (first.slots index fun same => unlisted (same ▸ listed))
  heap := second.heap.trans first.heap
  objects id := (second.objects id).trans (first.objects id)
  fields id field unnamed := by
    refine (second.fields id field ?_).trans (first.fields id field (unnamed location listed))
    exact fun named => unnamed other listed' (named.of_heap first.heap.symm)
  live id := (second.live id).trans (first.live id)
  types := second.types.trans first.types
  statics typeId field unlisted :=
    (second.statics typeId field fun same => unlisted (same ▸ listed')).trans
      (first.statics typeId field fun same => unlisted (same ▸ listed))
  pinned := second.pinned.trans first.pinned
  entered := second.entered.trans first.entered

/-- The two numbers have changed places. They are read at the locations where the slots led before,
and where they lead now. -/
structure Exchanged (p q : StackPtr) (location other : Location) (kind : Kind) (x y : Value)
    (before after : Machine) : Prop where
  first : after.load location kind none = .ok y
  second : after.load other kind none = .ok x
  first' : after.loadSlot true p kind none = .ok y
  second' : after.loadSlot true q kind none = .ok x
  within : ChangesWithin [location, other] before after

section Exchange

variable (known : Kind.ofValue? x = some kind) (first : before.Leads p location kind x)

include known first

theorem exchanged_kept (known' : Kind.ofValue? y = some kind)
    (second : before.Leads q other kind y) (stored : Stored kind x before other middle)
    (led : middle.stack.resolve p = .ok location) (stored' : Stored kind y middle location after) :
    Exchanged p q location other kind x y before after := by
  have numeric := Kind.isNumeric_of_ofValue? known
  have only := stored.changesOnly numeric
  have only' := stored'.changesOnly numeric
  have loaded : after.load location kind none = .ok y := (stored'.contains known').load known'
  have loaded' : after.load other kind none = .ok x := by
    by_cases same : middle.SameCell other location
    · -- In one cell both numbers were the same.
      have equal : before.load other kind none = before.load location kind none :=
        (same.of_heap only.heap.symm).load_eq
      rw [first.2, second.2] at equal
      rw [(same.of_heap only'.heap).load_eq, loaded, equal]
    · exact ((stored.contains known).unchanged only' same).load known
  refine ⟨loaded, loaded', ?_, ?_, only.within only' (by simp) (by simp)⟩
  · rw [loadSlot_of_resolve (stored'.resolve led), loaded]
  · have led' := stored.resolve second.1
    by_cases overwritten : location = .slot q
    · subst overwritten
      have equal := second.2.symm.trans (load_of_resolve second.1 first.2)
      rw [loadSlot_of_resolve (stored'.resolve_self numeric), loaded, equal]
    · rw [loadSlot_of_resolve ((stored'.resolve_ne numeric overwritten).trans led'), loaded']

theorem exchanged_redirected (second : before.Leads q (.slot p) kind x)
    (stored : Stored kind x before (.slot p) middle)
    (stored' : Stored kind x middle (.slot p) after) :
    Exchanged p q location (.slot p) kind x x before after := by
  have numeric := Kind.isNumeric_of_ofValue? known
  have only := stored.changesOnly numeric
  have only' := stored'.changesOnly numeric
  have loaded : after.load (.slot p) kind none = .ok x := (stored'.contains known).load known
  refine ⟨?_, loaded, ?_, ?_, only.within only' (by simp) (by simp)⟩
  · by_cases itself : location = .slot p
    · rw [itself, loaded]
    · rw [stored'.load_ne numeric itself, stored.load_ne numeric itself, first.2]
  · rw [loadSlot_of_resolve (stored'.resolve_self numeric), loaded]
  · rw [loadSlot_of_resolve (stored'.resolve (stored.resolve second.1)), loaded]

theorem exchange (known' : Kind.ofValue? y = some kind) (second : before.Leads q other kind y) :
    ∃ middle place after, Stored kind x before other middle ∧
      middle.stack.resolve p = .ok place ∧ Stored kind y middle place after ∧
      Exchanged p q location other kind x y before after := by
  have numeric := Kind.isNumeric_of_ofValue? known
  have cell := hasCell_of_load first.2
  have cell' := hasCell_of_load second.2
  obtain ⟨middle, stored⟩ := (stored_iff numeric).mpr ⟨cell', fun _ _ => known⟩
  have only := stored.changesOnly numeric
  -- The first store may replace the very slot that leads to the first number. The second store then
  -- meets the slot itself.
  rcases stored.resolve_again numeric first second.2 with led | ⟨rfl, led, rfl⟩
  · obtain ⟨after, stored'⟩ := (stored_iff numeric).mpr ⟨cell.unchanged only, fun _ _ => known'⟩
    exact ⟨middle, location, after, stored, led, stored',
      exchanged_kept known first known' second stored led stored'⟩
  · obtain ⟨after, stored'⟩ := (stored_iff numeric).mpr ⟨cell'.unchanged only, fun _ _ => known'⟩
    exact ⟨middle, .slot p, after, stored, led, stored',
      exchanged_redirected known first second stored stored'⟩

end Exchange

end Machine

end NativeBridge
