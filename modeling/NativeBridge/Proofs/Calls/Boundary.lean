import Mathlib.Logic.Relation
import NativeBridge.Proofs.Calls.Exits
import NativeBridge.Proofs.Machine.Sides

/-!
# The boundary between interpreter and native code

The interpreter never meets the adapter of an object of its own, and no cell of native code holds a
script instance in place of its adapter.

* `Holds`: the cells of a machine, each with the side that owns it.
* `Stored.holds`: a store puts the value into one cell, as the side that owns the cell stores it.
* `Plan.execute_apart`: a call keeps the sides apart when its body writes no field and no static and
  answers no adapter for a sealed type.
* `steps_keep_apart`: the sides stay apart over any sequence of operations, calls, ends of objects
  and new objects.
-/

namespace NativeBridge

namespace Machine

/-- The values that cells hold, with the side that owns the cell. An object that has ended has no
cells any more. -/
inductive Holds (machine : Machine) : Flavor → Value → Prop where
  | entry {entry : HeapEntry} : entry ∈ machine.heap.entries → Holds machine .script entry.value
  | field {id : ObjectId} {value : Value} : machine.objects.isLive id = true →
      value ∈ (machine.objects.get id).fields → Holds machine (machine.objects.get id).side value
  | static {type : RuntimeType} {value : Value} : type ∈ machine.types.types →
      value ∈ type.statics → Holds machine type.flavor value

structure Sound (machine : Machine) : Prop where
  linked : machine.objects.Linked
  has : ∀ side value, machine.Holds side value → machine.objects.Has value

def Apart (machine : Machine) : Prop :=
  ∀ side value, machine.Holds side value → machine.objects.Fits side value

variable {machine before after : Machine} {side : Flavor} {value held : Value}

theorem apart_of_held (keeps : Objects.Keeps before.objects after.objects)
    (linked : after.objects.Linked)
    (origin : ∀ side held, after.Holds side held → before.Holds side held ∨
      before.objects.Has held ∧ before.objects.Fits side held)
    (sound : before.Sound) (apart : before.Apart) : after.Sound ∧ after.Apart := by
  have fitted (side : Flavor) (held : Value) (holds : after.Holds side held) :
      before.objects.Has held ∧ before.objects.Fits side held := by
    rcases origin side held holds with earlier | fitted
    · exact ⟨sound.has side held earlier, apart side held earlier⟩
    · exact fitted
  refine ⟨⟨linked, ?_⟩, ?_⟩
  · intro side held holds
    exact keeps.has (fitted side held holds).1
  · intro side held holds
    obtain ⟨has, fits⟩ := fitted side held holds
    exact keeps.fits sound.linked has fits

theorem apart_of_leavesFields (leaves : Objects.LeavesFields before.objects after.objects)
    (heap : after.heap = before.heap) (types : after.types = before.types)
    (sound : before.Sound) (apart : before.Apart) : after.Sound ∧ after.Apart := by
  refine apart_of_held leaves.toKeeps leaves.linked ?_ sound apart
  intro side held holds
  cases holds with
  | entry member => exact .inl (.entry (heap ▸ member))
  | static type member => exact .inl (.static (types ▸ type) member)
  | @field id _ live member =>
      by_cases inside : id < before.objects.cells.length
      · rw [leaves.fields id inside] at member
        rw [← Instance.side_shell, leaves.shell id inside, Instance.side_shell]
        exact .inl (.field (leaves.ended id inside live) member)
      · have plain := leaves.fresh id (Nat.le_of_not_lt inside) held member
        exact .inr ⟨.of_number plain, .of_number plain⟩

theorem apart_of_collect (held : List Value) (sound : before.Sound) (apart : before.Apart) :
    (before.collect held).Sound ∧ (before.collect held).Apart :=
  apart_of_leavesFields ((Objects.ended_collect _ _).leavesFields sound.linked) rfl rfl sound apart

end Machine

/-! ## Entries that are given up -/

namespace Heap

theorem mem_release {heap : Heap} {index : Nat} {entry : HeapEntry}
    (member : entry ∈ (heap.release index).entries) :
    entry ∈ heap.entries ∨ entry.value = .null := by
  rw [release] at member
  split at member
  · exact .inl (List.dropLast_subset _ ((trim_isPrefix _).subset member))
  · split at member
    · rcases List.mem_or_eq_of_mem_set member with kept | rfl
      · exact .inl kept
      · exact .inr rfl
    · exact .inl member

theorem mem_releaseAll {heap : Heap} {released : List Nat} {entry : HeapEntry}
    (member : entry ∈ (heap.releaseAll released).entries) :
    entry ∈ heap.entries ∨ entry.value = .null := by
  induction released generalizing heap with
  | nil => exact .inl member
  | cons index rest ih =>
      rcases ih member with kept | null
      · exact mem_release kept
      · exact .inr null

end Heap

namespace Machine

variable {machine before after : Machine} {side : Flavor} {value held : Value}

theorem apart_of_giveUp (released : List Nat) (sound : before.Sound) (apart : before.Apart) :
    (before.giveUp released).Sound ∧ (before.giveUp released).Apart := by
  refine apart_of_held (Objects.Keeps.refl before.objects) sound.linked ?_ sound apart
  intro side held holds
  cases holds with
  | entry member =>
      rcases Heap.mem_releaseAll member with kept | null
      · exact .inl (.entry kept)
      · rw [null]
        exact .inr ⟨.of_number rfl, .of_number rfl⟩
  | static type member => exact .inl (.static type member)
  | field live member => exact .inl (.field live member)

theorem run_free_apart (index : StackPtr) (sound : before.Sound) (apart : before.Apart) :
    (before.run (free index)).2.Sound ∧ (before.run (free index)).2.Apart := by
  cases found : before.stack.get index with
  | ok slot =>
      rw [run_free found]
      exact apart_of_giveUp _ sound apart
  | error fault =>
      simp only [free, run_update, found, bind, Except.bind]
      exact ⟨sound, apart⟩

/-! ## Stores -/

theorem setStatic_cases {table types : TypeTable} {objects : Objects} {typeId index : Nat}
    (written : table.setStatic objects typeId index value = .ok types) :
    ∃ type ∈ table.types, types.types = table.types.set typeId { type with
      statics := type.statics.set index (TypeTable.storedIn objects type.flavor value) } := by
  obtain ⟨type, found, -, rfl⟩ := TypeTable.setStatic_eq_ok_iff.mp written
  exact ⟨type, List.mem_of_getElem? (TypeTable.get_eq_ok_iff.mp found), rfl⟩

namespace Stored

variable {kind : Kind} {location : Location}

theorem keeps (stored : Stored kind value before location after) :
    Objects.Keeps before.objects after.objects ∧
      after.objects.cells.length = before.objects.cells.length := by
  cases stored with
  | field found written =>
      obtain ⟨keeps, size, -⟩ := Objects.setField_cases written
      exact ⟨keeps, size⟩
  | _ => exact ⟨.refl _, rfl⟩

theorem holds (stored : Stored kind value before location after) (holds : after.Holds side held) :
    before.Holds side held ∨ held = TypeTable.storedIn before.objects side value := by
  cases holds with
  | @entry entry member =>
      cases stored with
      | entry =>
          rcases List.mem_or_eq_of_mem_set member with kept | rfl
          · exact .inl (.entry kept)
          · exact .inr rfl
      | fresh =>
          rcases List.mem_append.mp member with kept | added
          · exact .inl (.entry kept)
          · obtain rfl := List.mem_singleton.mp added
            exact .inr rfl
      | _ => exact .inl (.entry member)
  | @field id _ live member =>
      cases stored with
      | @field _ _ owner objects found written =>
          obtain ⟨keeps, size, others, side, fields⟩ := Objects.setField_cases written
          simp only at live member ⊢
          have live := keeps.ended id (size ▸ Objects.inside_of_isLive live) live
          by_cases same : id = owner
          · subst same
            rw [fields] at member
            rw [side]
            rcases List.mem_or_eq_of_mem_set member with kept | rfl
            · exact .inl (.field live kept)
            · exact .inr rfl
          · rw [others id same] at member ⊢
            exact .inl (.field live member)
      | _ => exact .inl (.field live member)
  | @static type _ listed member =>
      cases stored with
      | static written =>
          obtain ⟨owner, known, types⟩ := setStatic_cases written
          simp only [types] at listed
          rcases List.mem_or_eq_of_mem_set listed with kept | rfl
          · exact .inl (.static kept member)
          · rcases List.mem_or_eq_of_mem_set member with kept | rfl
            · have earlier : before.Holds owner.flavor held := .static known kept
              exact .inl earlier
            · exact .inr rfl
      | _ => exact .inl (.static listed member)

theorem apart (stored : Stored kind value before location after) (given : before.objects.Has value)
    (sound : before.Sound) (apart : before.Apart) : after.Sound ∧ after.Apart := by
  obtain ⟨keeps, size⟩ := stored.keeps
  refine apart_of_held keeps (keeps.linked size sound.linked) ?_ sound apart
  intro side held holds
  rcases stored.holds holds with earlier | rfl
  · exact .inl earlier
  · exact .inr ⟨Objects.has_storedIn sound.linked side given,
      Objects.fits_storedIn sound.linked side value⟩

end Stored

theorem run_store_apart (location : Location) (kind : Kind) (given : before.objects.Has value)
    (sound : before.Sound) (apart : before.Apart) :
    (before.run (store location kind value)).2.Sound ∧
      (before.run (store location kind value)).2.Apart := by
  rcases run_store before location kind value with ⟨after, stored, ran⟩ | ⟨fault, ran⟩
  · rw [ran]
    exact stored.apart given sound apart
  · rw [ran]
    exact ⟨sound, apart⟩

/-! ## Results -/

theorem apart_of_stack (stack : EvalStack) (sound : before.Sound) (apart : before.Apart) :
    ({ before with stack } : Machine).Sound ∧ ({ before with stack } : Machine).Apart := by
  refine apart_of_held (Objects.Keeps.refl before.objects) sound.linked ?_ sound apart
  intro side held holds
  cases holds with
  | entry member => exact .inl (.entry member)
  | static type member => exact .inl (.static type member)
  | field live member => exact .inl (.field live member)

theorem apart_of_pushHeap (has : before.objects.Has value)
    (fits : before.objects.Fits .script value) (sound : before.Sound) (apart : before.Apart) :
    ({ before with heap := (before.heap.push value).2 } : Machine).Sound ∧
      ({ before with heap := (before.heap.push value).2 } : Machine).Apart := by
  refine apart_of_held (Objects.Keeps.refl before.objects) sound.linked ?_ sound apart
  intro side held holds
  cases holds with
  | entry member =>
      rcases List.mem_append.mp member with kept | added
      · exact .inl (.entry kept)
      · obtain rfl := List.mem_singleton.mp added
        exact .inr ⟨has, fits⟩
  | static type member => exact .inl (.static type member)
  | field live member => exact .inl (.field live member)

theorem run_pushSlot_apart (top : StackPtr) (slot : Slot) (sound : before.Sound)
    (apart : before.Apart) :
    (before.run (pushSlot top slot)).2.Sound ∧ (before.run (pushSlot top slot)).2.Apart := by
  simp only [pushSlot, run_bind, run_setSlot]
  cases before.stack.set top slot with
  | error fault => exact ⟨sound, apart⟩
  | ok stack => exact apart_of_stack stack sound apart

theorem run_pushValue_apart (top : StackPtr) (kind : Kind) (value : Value) (sound : before.Sound)
    (apart : before.Apart) :
    (before.run (pushValue top kind value)).2.Sound ∧
      (before.run (pushValue top kind value)).2.Apart := by
  simp only [pushValue, run_bind, run_get, run_lift]
  cases before.objects.encode kind value with
  | error fault => exact ⟨sound, apart⟩
  | ok slot => exact run_pushSlot_apart top slot sound apart

theorem run_pushObject_apart (top : StackPtr) (unwrap : Bool) (given : before.objects.Has value)
    (fits : unwrap = false → before.objects.Fits .script value) (sound : before.Sound)
    (apart : before.Apart) :
    (before.run (pushObject top value unwrap)).2.Sound ∧
      (before.run (pushObject top value unwrap)).2.Apart := by
  simp only [pushObject, run_bind, run_get, run_pushHeap]
  have pushed : before.objects.Has (if unwrap then before.objects.unwrapAdapter value else value) ∧
      before.objects.Fits .script
        (if unwrap then before.objects.unwrapAdapter value else value) := by
    cases unwrap with
    | false => exact ⟨given, fits rfl⟩
    | true => exact ⟨Objects.has_storedIn sound.linked .script given,
        Objects.fits_storedIn sound.linked .script value⟩
  -- The entry is on the heap even if there is no slot for it.
  obtain ⟨sound, apart⟩ := apart_of_pushHeap pushed.1 pushed.2 sound apart
  exact run_pushSlot_apart top _ sound apart

end Machine

/-! ## Calls -/

namespace Plan

/-- A reply of a native body that writes no field of an object and no static, and answers no adapter
for a sealed type. -/
structure Respects (method : Method) (met : Objects) (types : TypeTable) (reply : NativeReply) :
    Prop where
  leaves : Objects.LeavesFields met reply.objects
  statics : reply.types = types
  args : ∀ value ∈ reply.args, reply.objects.Has value
  result : ∀ value, reply.result = .ok value → reply.objects.Has value
  exact : ∀ value, reply.result = .ok value → method.resultType.isSealed = true →
    reply.objects.Fits .script value

variable {before after : Machine}

theorem replied_apart {call : NativeCall} {reply : NativeReply}
    (leaves : Objects.LeavesFields before.objects reply.objects)
    (statics : reply.types = before.types) (sound : before.Sound) (apart : before.Apart) :
    (before.replied call reply).Sound ∧ (before.replied call reply).Apart :=
  Machine.apart_of_leavesFields leaves rfl statics sound apart

theorem writeBack_apart {top : StackPtr} {args held : List Value} {steps : List WriteBack}
    {written : Except Fault Unit}
    (ran : before.run (writeBack top args held steps) = (written, after))
    (given : ∀ value ∈ args, before.objects.Has value) (sound : before.Sound)
    (apart : before.Apart) :
    Objects.Keeps before.objects after.objects ∧ after.Sound ∧ after.Apart := by
  refine writeBack_keeps (fun machine => Objects.Keeps before.objects machine.objects ∧
    machine.Sound ∧ machine.Apart) ?_ ?_ ⟨.refl _, sound, apart⟩ ran
  · rintro machine ⟨keeps, sound, apart⟩
    exact ⟨keeps.trans (Objects.ended_collect _ _).keeps,
      Machine.apart_of_collect held sound apart⟩
  · rintro machine stored location step - ⟨keeps, sound, apart⟩ - change
    exact ⟨keeps.trans change.keeps.1,
      change.apart (keeps.has (.getD given step.index)) sound apart⟩

theorem finish_apart {declaring : TypeRef} {method : Method} {step : ReturnStep}
    (asked : returnStep declaring method = .ok step) (ret : StackPtr) {value : Value}
    (given : before.objects.Has value)
    (exact : method.resultType.isSealed = true → before.objects.Fits .script value)
    (sound : before.Sound) (apart : before.Apart) :
    (before.run (finish ret value step)).2.Sound ∧
      (before.run (finish ret value step)).2.Apart := by
  rw [returnStep_eq_ok] at asked
  split at asked
  · subst asked
    exact ⟨sound, apart⟩
  · obtain ⟨kind, -, rfl⟩ := asked
    cases kind.isNumeric with
    | true => exact Machine.run_pushValue_apart ret kind value sound apart
    | false =>
        refine Machine.run_pushObject_apart ret _ given ?_ sound apart
        intro taken
        exact exact (by simpa using taken)

theorem conclude_apart {declaring : TypeRef} {method : Method} {plan : Plan} {top ret : StackPtr}
    {args held : List Value} {value : Value} {result : Except Fault StackPtr}
    (asked : returnStep declaring method = .ok plan.ret)
    (ran : (before.collect held).run (plan.conclude top ret args held value) = (result, after))
    (givenArgs : ∀ value ∈ args, before.objects.Has value) (given : before.objects.Has value)
    (exact : method.resultType.isSealed = true → before.objects.Fits .script value)
    (sound : before.Sound) (apart : before.Apart) : after.Sound ∧ after.Apart := by
  rw [conclude, Machine.run_bind] at ran
  have ends : Objects.Keeps before.objects (before.collect held).objects :=
    (Objects.ended_collect _ _).keeps
  obtain ⟨collected, apart'⟩ := Machine.apart_of_collect held sound apart
  cases wrote : (before.collect held).run (writeBack top args held plan.writeBacks) with
  | mk written middle =>
      obtain ⟨keeps, sound', apart'⟩ := writeBack_apart wrote
        (fun arg member => ends.has (givenArgs arg member)) collected apart'
      have keeps := ends.trans keeps
      rw [wrote] at ran
      cases written with
      | error fault =>
          obtain ⟨-, rfl⟩ := Prod.mk.inj ran
          exact ⟨sound', apart'⟩
      | ok done =>
          have finished := finish_apart asked ret (keeps.has given)
            (fun isSealed => keeps.fits sound.linked given (exact isSealed)) sound' apart'
          simp only at ran
          rwa [ran] at finished

theorem execute_apart {declaring : TypeRef} {method : Method} {ordinal : Nat} {plan : Plan}
    {body : NativeBody} {top : StackPtr} {result : Except Fault StackPtr}
    (built : build declaring method ordinal = .ok plan)
    (ran : before.run (plan.execute body top) = (result, after))
    (respects : ∀ entry, after.entered = before.entered ++ [entry] →
      Respects method entry.objects entry.types (body entry.call entry.objects entry.types))
    (sound : before.Sound) (apart : before.Apart) : after.Sound ∧ after.Apart := by
  cases execute_ends ran with
  | underflow => exact ⟨sound, apart⟩
  | unread fits stops =>
      obtain ⟨reached, read, others, values, -, taken, -⟩ := stops
      rw [taken.after_eq]
      exact Machine.apart_of_giveUp _ sound apart
  | refused enters replied answer =>
      obtain ⟨held, rfl⟩ := enters.met_eq
      obtain ⟨sound, apart⟩ := Machine.apart_of_giveUp _ sound apart
      obtain ⟨sound, apart⟩ := Machine.apart_of_collect held sound apart
      subst replied
      exact replied_apart (respects _ rfl).leaves (respects _ rfl).statics sound apart
  | @answered call met after reply value result enters replied answer concluded =>
      have entered := entered_of_conclude concluded
      obtain ⟨held, rfl⟩ := enters.met_eq
      have respects := respects _ entered
      obtain ⟨sound, apart⟩ := Machine.apart_of_giveUp _ sound apart
      obtain ⟨sound, apart⟩ := Machine.apart_of_collect held sound apart
      simp only [replied] at respects
      obtain ⟨sound, apart⟩ := replied_apart respects.leaves respects.statics sound apart
      exact conclude_apart (build_built built).ret concluded respects.args
        (respects.result value answer) (respects.exact value answer) sound apart

end Plan

/-! ## Sequences of operations -/

namespace Machine

inductive Operation where
  | load (location : Location) (kind : Kind) (coercion : Option Coercion)
  | free (index : StackPtr)
  | store (location : Location) (kind : Kind) (value : Value)
  | pushValue (top : StackPtr) (kind : Kind) (value : Value)
  | pushObject (top : StackPtr) (value : Value)

namespace Operation

def act : Operation → MachineM Unit
  | .load location kind coercion => do
      let _ ← (← get).load location kind coercion
      return ()
  | .free index => Machine.free index
  | .store location kind value => Machine.store location kind value
  | .pushValue top kind value => do
      let _ ← Machine.pushValue top kind value
      return ()
  | .pushObject top value => do
      let _ ← Machine.pushObject top value true
      return ()

def given? : Operation → Option Value
  | .load .. | .free _ => none
  | .store _ _ value | .pushValue _ _ value | .pushObject _ value => some value

end Operation

/-- What can happen to a machine: an operation is carried out, objects end or are made, or a plan is
carried out with a body that writes no field and no static. Operations and plans may fail. -/
inductive Step (before : Machine) : Machine → Prop where
  | operate (operation : Operation) :
      (∀ value ∈ operation.given?, before.objects.Has value) →
      Step before (before.run operation.act).2
  | turnOver {objects : Objects} : Objects.LeavesFields before.objects objects →
      Step before { before with objects }
  | execute {declaring : TypeRef} {method : Method} {ordinal : Nat} {plan : Plan}
      {body : NativeBody} {top : StackPtr} {result : Except Fault StackPtr} {after : Machine} :
      Plan.build declaring method ordinal = .ok plan →
      before.run (plan.execute body top) = (result, after) →
      (∀ entry, after.entered = before.entered ++ [entry] →
        Plan.Respects method entry.objects entry.types (body entry.call entry.objects entry.types)) →
      Step before after

variable {before after : Machine}

theorem run_discard_snd {α : Type} (machine : Machine) (action : MachineM α) :
    (machine.run (do
      let _ ← action
      return ())).2 = (machine.run action).2 := by
  rw [run_bind]
  rcases machine.run action with ⟨_ | a, after⟩ <;> rfl

theorem operate_apart (operation : Operation)
    (given : ∀ value ∈ operation.given?, before.objects.Has value) (sound : before.Sound)
    (apart : before.Apart) :
    (before.run operation.act).2.Sound ∧ (before.run operation.act).2.Apart := by
  cases operation with
  | load location kind coercion =>
      simp only [Operation.act, run_bind, run_get, run_lift]
      cases before.load location kind coercion <;> exact ⟨sound, apart⟩
  | free index => exact run_free_apart index sound apart
  | store location kind value => exact run_store_apart location kind (given value rfl) sound apart
  | pushValue top kind value =>
      rw [Operation.act, run_discard_snd]
      exact run_pushValue_apart top kind value sound apart
  | pushObject top value =>
      rw [Operation.act, run_discard_snd]
      exact run_pushObject_apart top true (given value rfl) nofun sound apart

theorem Step.apart (step : Step before after) (sound : before.Sound) (apart : before.Apart) :
    after.Sound ∧ after.Apart := by
  cases step with
  | operate operation given => exact operate_apart operation given sound apart
  | turnOver leaves => exact apart_of_leavesFields leaves rfl rfl sound apart
  | execute built ran respects => exact Plan.execute_apart built ran respects sound apart

/-- Over any sequence of operations, calls, ends of objects and new objects, no cell of the interpreter
comes to hold an adapter of an object that is there, and no cell of native code a script instance
that has an adapter. -/
theorem steps_keep_apart (steps : Relation.ReflTransGen Step before after)
    (sound : before.Sound) (apart : before.Apart) : after.Sound ∧ after.Apart := by
  induction steps with
  | refl => exact ⟨sound, apart⟩
  | tail _ step ih => exact step.apart ih.1 ih.2

def find : Method := { Method.static "find" with result := some Plan.figure }

def findPlan : Plan :=
  match Plan.build Plan.figure find 0 with
  | .ok plan => plan
  | .error _ => default

def adapted : Machine where
  stack := { slots := [.object 0, {}] }
  heap := { entries := [{ value := .object 0 }] }
  objects := (({} : Objects).addAdapted "Square" 1 "Figure" []).2
  types := (({} : TypeTable).register "Registry" .native 1).2

theorem linked_adapted : adapted.objects.Linked := by
  constructor
  · intro id adapter link
    match id with
    | 0 =>
        cases link
        rfl
    | 1 => cases link
    | other + 2 => cases link
  · intro id script link
    match id with
    | 0 => cases link
    | 1 =>
        cases link
        exact ⟨by decide, rfl⟩
    | other + 2 => cases link

theorem holds_adapted {side : Flavor} {value : Value} (holds : adapted.Holds side value) :
    value = .null ∨ side = .script ∧ value = .object 0 := by
  cases holds with
  | entry member =>
      obtain rfl := List.mem_singleton.mp member
      exact .inr ⟨rfl, rfl⟩
  | @field id _ live member =>
      match id with
      | 0 => exact .inl (List.mem_singleton.mp member)
      | 1 => cases member
      | other + 2 => cases member
  | static type member =>
      obtain rfl := List.mem_singleton.mp type
      exact .inl (List.mem_singleton.mp member)

theorem sound_adapted : adapted.Sound := by
  refine ⟨linked_adapted, ?_⟩
  intro side value holds
  rcases holds_adapted holds with rfl | ⟨-, rfl⟩
  · exact .of_number rfl
  · rintro id ⟨⟩
    decide

theorem apart_adapted : adapted.Apart := by
  intro side value holds
  rcases holds_adapted holds with rfl | ⟨rfl, rfl⟩
  · exact .of_number rfl
  · rintro id ⟨⟩
    rfl

def enroll : Operation := .store (.static 0 0) .object (.object 0)

def answerAdapter : NativeBody := fun call objects types =>
  { result := .ok (.object 1), args := call.args, objects, types }

theorem respects_answerAdapter (call : NativeCall) (args : call.args = []) (types : TypeTable) :
    Plan.Respects find adapted.objects types (answerAdapter call adapted.objects types) := by
  refine ⟨⟨.refl _, linked_adapted, fun id inside => rfl, ?_⟩, rfl, ?_, ?_, nofun⟩
  · intro id outside value member
    rw [answerAdapter, Objects.get_of_outside (Nat.not_lt.mpr outside)] at member
    cases member
  · intro value member
    rw [answerAdapter, args] at member
    cases member
  · rintro value ⟨⟩ id ⟨⟩
    exact Nat.one_lt_two

theorem adapted_kept_apart : ∃ after, adapted.Sound ∧ adapted.Apart ∧
    Relation.ReflTransGen Step adapted after ∧ after.Sound ∧ after.Apart ∧
    after.types.values = [.object 1] ∧ after.heap.values = [.object 0, .object 0] := by
  have built : Plan.build Plan.figure find 0 = .ok findPlan := rfl
  have stored : Step adapted (adapted.run enroll.act).2 := by
    refine .operate enroll ?_
    rintro value ⟨⟩ id ⟨⟩
    decide
  have ran : (adapted.run enroll.act).2.run (findPlan.execute answerAdapter 1) =
      (.ok 2, ((adapted.run enroll.act).2.run (findPlan.execute answerAdapter 1)).2) := rfl
  have called := Step.execute built ran (by
    intro entry entered
    obtain rfl : (⟨{ method := find.signature Plan.figure }, adapted.objects,
        (adapted.run enroll.act).2.types⟩ : Entered) = entry := (List.cons.inj entered).1
    exact respects_answerAdapter _ rfl _)
  have steps := (Relation.ReflTransGen.single stored).tail called
  obtain ⟨sound, apart⟩ := steps_keep_apart steps sound_adapted apart_adapted
  exact ⟨_, sound_adapted, apart_adapted, steps, sound, apart, rfl, rfl⟩

end Machine

end NativeBridge
