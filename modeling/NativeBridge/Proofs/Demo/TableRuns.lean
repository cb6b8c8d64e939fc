import NativeBridge.Proofs.Calls.FreshHandles
import NativeBridge.Proofs.Calls.Registrations
import NativeBridge.Proofs.Demo.Backends
import NativeBridge.Session

/-!
# The table of the demo over runs of calls

A table is assigned to and looked up by calls through the registry. Each call pushes its receiver
and its strings on the heap and points a window of the stack at them, wherever that is, and any
number of objects may carry tables.

* `call_stub`: once the demo is initialized, every signature reaches its stub.
* `invoke_step`: what one call answers, and what it leaves of the machine.
* `table_runs`: after any calls, a lookup finds the value most recently set for its key on its
  table.
-/

namespace NativeBridge

theorem Table.get?_insert (t : Table) (key value other : String) :
    (t.insert key value).get? other = if other = key then some value else t.get? other :=
  lookup_insertEntry key other value t.entries

namespace Demo

open Source

/-! ## Tables among objects -/

def CarriesTable (objects : Objects) (id : ObjectId) (t : Table) : Prop :=
  ∃ self, objects.get id = .native self ∧ self.isInstanceOf table.reference = true ∧
    self.payload = .table t

def table? (objects : Objects) (id : ObjectId) : Option Table :=
  match objects.native? id with
  | some self => match self.payload with
      | .table t => some t
      | _ => none
  | none => none

def stored? (objects : Objects) (id : ObjectId) (key : String) : Option String :=
  (table? objects id).bind (·.get? key)

theorem stored?_congr {objects others : Objects} {id : ObjectId}
    (same : objects.get id = others.get id) (key : String) :
    stored? objects id key = stored? others id key := by
  simp only [stored?, table?, Objects.native?, same]

namespace CarriesTable

variable {objects : Objects} {id : ObjectId} {t : Table}

theorem stored?_eq (carried : CarriesTable objects id t) (key : String) :
    stored? objects id key = t.get? key := by
  obtain ⟨self, known, -, payload⟩ := carried
  simp only [stored?, table?, Objects.native?, known, payload]
  rfl

theorem congr {others : Objects} (carried : CarriesTable objects id t)
    (same : others.get id = objects.get id) : CarriesTable others id t := by
  rwa [CarriesTable, same]

theorem coerced (carried : CarriesTable objects id t) :
    Coercion.apply { target := table.reference, mode := .classType } objects (.object id) =
      .ok (.object id) := by
  obtain ⟨self, known, passed, -⟩ := carried
  simp only [Coercion.apply, Coercion.adapt, known, passed, if_true]

theorem borrowed (carried : CarriesTable objects id t) :
    borrow api objects (.object id) tableType table.reference = .ok (.table t) := by
  obtain ⟨self, known, -, payload⟩ := carried
  rw [borrow_table]
  simp only [Objects.unbox, Objects.nativeId, Objects.native?, known, payload, bind, Except.bind]
  rfl

theorem inside (carried : CarriesTable objects id t) : id < objects.cells.length := by
  obtain ⟨self, known, -⟩ := carried
  by_contra outside
  rw [Objects.get, List.getElem?_eq_none (Nat.not_lt.mp outside)] at known
  cases known

theorem giveBack_eq (carried : CarriesTable objects id t) (other : Table) :
    ∃ self, objects.get id = .native self ∧ self.isInstanceOf table.reference = true ∧
      giveBack objects (.object id) (.payload (.table other)) =
        objects.put id (.native { self with payload := .table other }) := by
  obtain ⟨self, known, passed, -⟩ := carried
  refine ⟨self, known, passed, ?_⟩
  simp only [giveBack, Objects.putPayload, Objects.native?, known]

theorem giveBack_self (carried : CarriesTable objects id t) (other : Table) :
    CarriesTable (giveBack objects (.object id) (.payload (.table other))) id other := by
  obtain ⟨self, -, passed, back⟩ := carried.giveBack_eq other
  rw [back]
  exact ⟨_, Objects.get_put_self carried.inside _, passed, rfl⟩

theorem giveBack_ne (carried : CarriesTable objects id t) (other : Table) {id' : ObjectId}
    (apart : id' ≠ id) :
    (giveBack objects (.object id) (.payload (.table other))).get id' = objects.get id' := by
  obtain ⟨self, -, -, back⟩ := carried.giveBack_eq other
  rw [back, Objects.get_put_ne apart.symm]

theorem giveBack_same (carried : CarriesTable objects id t) (other : ObjectId) :
    (giveBack objects (.object id) (.payload (.table t))).get other = objects.get other := by
  obtain ⟨self, known, -, payload⟩ := carried
  have native : objects.native? id = some self := by rw [Objects.native?, known]
  rw [← payload]
  exact Objects.get_of_contents (Objects.putPayload_self native) other

end CarriesTable

/-! ## Calls on a table -/

section Stubs

variable {machine : Machine} {top : StackPtr} {offset handle : Nat} {id : ObjectId} {t : Table}

theorem run_textParam {text : String}
    (holds : machine.HoldsAt (top - offset) handle (.str text)) (below : offset ≤ top)
    (name : String) :
    machine.run ((textParam name offset).run api top) =
      (.ok (name, .value (.str text)), machine.giveUp [handle]) := by
  have read : machine.read top (textParam name offset).slotRead = .ok (.str text) :=
    Machine.HoldsAt.read holds below rfl rfl rfl rfl rfl
  have released : (textParam name offset).slotRead.released machine.stack top = [handle] :=
    congrArg Option.toList holds.owned?
  rw [run_read, read, released]
  rfl

theorem run_tableRead (holds : machine.HoldsAt (top - offset) handle (.object id))
    (below : offset ≤ top) (carried : CarriesTable machine.objects id t) (method : Signature) :
    machine.run ((tableRead offset).run api top method) =
      (.ok (.borrowed (.object id) tableType table.reference), machine.giveUp [handle]) := by
  have read : machine.read top ((tableRead offset).slotRead method) = .ok (.object id) :=
    Machine.HoldsAt.read holds below rfl rfl rfl
      carried.coerced rfl
  have released : ((tableRead offset).slotRead method).released machine.stack top = [handle] :=
    congrArg Option.toList holds.owned?
  rw [run_self, read, released]
  rfl

theorem run_onTable {stub : Stub} {bottom : StackPtr} {locals : Locals} {released : List Nat}
    (receiver : stub.receiver = some (tableRead stub.window))
    (reads : machine.run (readLocals api (bottom + stub.window) stub.reads []) =
      (.ok locals, machine.giveUp released))
    (self : machine.HoldsAt bottom handle (.object id)) (other : handle ∉ released)
    (carried : CarriesTable machine.objects id t) (method : Signature) :
    machine.run (stub.run api (bottom + stub.window) method) =
      stub.proceed (machine.giveUp (released ++ [handle])) (bottom + stub.window) bottom method
        (stub.call.run api machine.objects locals
          (.borrowed (.object id) tableType table.reference)) := by
  have below : StackPtr.minus (bottom + stub.window) stub.window = .ok bottom := by
    rw [StackPtr.minus, if_pos (Nat.le_add_left _ _), Nat.add_sub_cancel]
  have held : (machine.giveUp released).HoldsAt (bottom + stub.window - stub.window) handle
      (.object id) := by
    rw [Nat.add_sub_cancel]
    exact self.giveUp other
  rw [Stub.run, Machine.run_bind, Machine.run_lift, below]
  simp only
  rw [Machine.run_bind, reads]
  refine (run_perform_some receiver _ _ _ method locals).trans ?_
  rw [run_tableRead held (Nat.le_add_left _ _) carried]
  simp only
  rw [Machine.giveUp_giveUp]
  rfl

variable {bottom : StackPtr} {key value : String} {keyHandle valueHandle : Nat}

theorem run_setItemStub (self : machine.HoldsAt bottom handle (.object id))
    (named : machine.HoldsAt (bottom + 1) keyHandle (.str key))
    (given : machine.HoldsAt (bottom + 2) valueHandle (.str value))
    (apart : keyHandle ≠ valueHandle) (other : handle ∉ [valueHandle, keyHandle])
    (carried : CarriesTable machine.objects id t) (method : Signature) :
    machine.run (setItemStub.run api (bottom + 3) method) =
      (.ok bottom, { machine.giveUp [valueHandle, keyHandle, handle] with
        objects := giveBack machine.objects (.object id)
          (.payload (.table (t.insert key value))) }) := by
  have given : machine.HoldsAt (bottom + 3 - 1) valueHandle (.str value) := given
  have named : (machine.giveUp [valueHandle]).HoldsAt (bottom + 3 - 2) keyHandle (.str key) :=
    named.giveUp (by simpa using apart)
  have reads : machine.run (readLocals api (bottom + 3) setItemStub.reads []) =
      (.ok [("value_1", .value (.str value)), ("key_0", .value (.str key))],
        machine.giveUp [valueHandle, keyHandle]) := by
    simp only [setItemStub, readLocals, Machine.run_bind,
      run_textParam given (Nat.le_add_left _ _), run_textParam named (by omega),
      Machine.giveUp_giveUp]
    rfl
  have performed : api.perform (setItemStub.call.host
      [("value_1", .value (.str value)), ("key_0", .value (.str key))] (.payload (.table t))) =
      .ok { self := .payload (.table (t.insert key value)) } := by
    simp only [setItemStub, Call.host, api]
    simp [get_first, get_second, perform]
  have receiver : setItemStub.receiver = some (tableRead setItemStub.window) := rfl
  refine (run_onTable receiver reads self other carried method).trans ?_
  rw [run_borrowed carried.borrowed performed rfl]
  rfl

theorem run_getItemStub (self : machine.HoldsAt bottom handle (.object id))
    (named : machine.HoldsAt (bottom + 1) keyHandle (.str key)) (other : handle ≠ keyHandle)
    (carried : CarriesTable machine.objects id t) (method : Signature) :
    machine.run (getItemStub.run api (bottom + 2) method) =
      getItemStub.proceed (machine.giveUp [keyHandle, handle]) (bottom + 2) bottom method
        ((tableEntry t key).map fun found =>
          (.value (.str found), [("key_0", .value (.str key))],
            giveBack machine.objects (.object id) (.payload (.table t)))) := by
  have named : machine.HoldsAt (bottom + 2 - 1) keyHandle (.str key) := named
  have reads : machine.run (readLocals api (bottom + 2) getItemStub.reads []) =
      (.ok [("key_0", .value (.str key))], machine.giveUp [keyHandle]) := by
    simp only [getItemStub, readLocals, Machine.run_bind,
      run_textParam named (Nat.le_add_left _ _)]
    rfl
  have performed : api.perform (getItemStub.call.host [("key_0", .value (.str key))]
      (.payload (.table t))) = (tableEntry t key).map fun found =>
        { result := .value (.str found), self := .payload (.table t) } := by
    simp only [getItemStub, Call.host, api, get_first, perform]
    cases tableEntry t key <;> rfl
  have receiver : getItemStub.receiver = some (tableRead getItemStub.window) := rfl
  refine (run_onTable receiver reads self (by simpa using other) carried method).trans ?_
  cases entry : tableEntry t key with
  | ok found =>
      rw [entry] at performed
      rw [run_borrowed carried.borrowed performed rfl]
      rfl
  | error failure =>
      rw [entry] at performed
      rw [run_unperformed carried.borrowed performed]
      rfl

theorem proceed_found (inside : bottom < machine.stack.capacity) (locals : Locals)
    (objects : Objects) (found : String) (method : Signature) :
    getItemStub.proceed machine (bottom + 2) bottom method
        (.ok (.value (.str found), locals, objects)) =
      (.ok (bottom + 1),
        ({ machine with objects } : Machine).withPointed bottom (.str found)) := by
  have inside : bottom < ({ machine with objects } : Machine).stack.capacity := inside
  exact Machine.run_pushObject_pointed inside (.str found)

end Stubs

/-! ## Registered calls -/

inductive TableRequest where
  | getItem (key : String)
  | setItem (key value : String)
  deriving DecidableEq, Repr

namespace TableRequest

def stub : TableRequest → Stub
  | .getItem _ => getItemStub
  | .setItem _ _ => setItemStub

def signature (request : TableRequest) : Signature := request.stub.signature

def window (id : ObjectId) (bottom : StackPtr) : TableRequest → List (StackPtr × Value)
  | .getItem key => [(bottom, .object id), (bottom + 1, .str key)]
  | .setItem key value => [(bottom, .object id), (bottom + 1, .str key), (bottom + 2, .str value)]

theorem lt_of_mem_window {request : TableRequest} {id : ObjectId} {bottom : StackPtr}
    {push : StackPtr × Value} (member : push ∈ request.window id bottom) :
    push.1 < bottom + request.stub.window := by
  cases request with
  | getItem key =>
      simp only [window, List.mem_cons, List.not_mem_nil, or_false] at member
      rcases member with rfl | rfl <;> simp [stub, getItemStub]
  | setItem key value =>
      simp only [window, List.mem_cons, List.not_mem_nil, or_false] at member
      rcases member with rfl | rfl | rfl <;> simp [stub, setItemStub]

end TableRequest

def registered {τ : Type} (bind : Stub → τ) (file : SingleFile) : List (Signature × τ) :=
  (file.modules.flatMap (·.file.stubs)).map fun stub => (stub.signature, bind stub)

theorem initialize_eq {τ : Type} {file : SingleFile} {bind : Stub → τ} {before : Registry τ}
    (unbegun : before.initialized = false) :
    before.run (file.initializer bind) =
      (.ok (), ({ before with initialized := true } : Registry τ).registerAll
        (registered bind file)) := by
  rw [SingleFile.initializer, Registry.run_bind, Registry.run_begin, if_neg (by simp [unbegun])]
  simp only [registered]
  generalize ({ before with initialized := true } : Registry τ) = begun
  induction file.modules generalizing begun with
  | nil => rfl
  | cons aliased rest ih =>
      rw [List.forM, Registry.run_bind, ModuleFile.register, Registry.run_forM_enter _ _
        fun stub => (stub.signature, bind stub), List.flatMap_cons, List.map_append,
        Registry.registerAll_append]
      exact ih _

theorem initializeDemo_eq {file : SingleFile} (made : bindings = .ok file) {host : Session}
    (unbegun : host.registry.initialized = false) :
    host.initializeDemo = .ok { host with
      registry := ({ host.registry with initialized := true } : Registry _).registerAll
        (registered Redirection.emitted file) } := by
  -- Unfolding by an equation would carry the generation of the bindings out.
  delta Session.initializeDemo
  rw [made]
  simp only [initialize_eq unbegun]
  rfl

theorem unbegun_of_initializeDemo {host session : Session}
    (begun : host.initializeDemo = .ok session) : host.registry.initialized = false := by
  obtain ⟨file, made⟩ := exists_bindings
  cases again : host.registry.initialized with
  | false => rfl
  | true =>
      delta Session.initializeDemo at begun
      rw [made] at begun
      simp only [SingleFile.initializer, Registry.run_bind, Registry.run_begin, again] at begun
      cases begun

theorem initializes {host : Session} (unbegun : host.registry.initialized = false) :
    ∃ session, host.initializeDemo = .ok session := by
  obtain ⟨file, made⟩ := exists_bindings
  exact ⟨_, initializeDemo_eq made unbegun⟩

def stubs : List Stub := [addStub, swapStub, plusStub, lengthStub, getItemStub, setItemStub]

theorem call_stub {host session : Session} (begun : host.initializeDemo = .ok session) {stub : Stub}
    (listed : stub ∈ stubs) (top : StackPtr) :
    session.call stub.signature top = stub.run api top stub.signature := by
  obtain ⟨file, made⟩ := exists_bindings
  rw [initializeDemo_eq made (unbegun_of_initializeDemo begun)] at begun
  cases begun
  have emitted : file.modules.flatMap (·.file.stubs) = stubs := by
    rw [List.flatMap_def, bindings_stubs made]
    rfl
  simp only [Session.call, Registry.get?_registerAll, registered, emitted]
  simp only [stubs, List.mem_cons, List.not_mem_nil, or_false] at listed
  rcases listed with rfl | rfl | rfl | rfl | rfl | rfl <;> rfl

theorem call_eq {host session : Session} (begun : host.initializeDemo = .ok session)
    (request : TableRequest) (top : StackPtr) :
    session.call request.signature top = request.stub.run api top request.signature := by
  refine call_stub begun ?_ top
  cases request <;> simp [stubs, TableRequest.stub]

/-- A call on a table: the object, what is asked of it, the lowest slot of the window, and the
pushes for the slots of the window in the order in which they are made. -/
structure TableCall where
  table : ObjectId
  request : TableRequest
  bottom : StackPtr
  pushes : List (StackPtr × Value)
  each : pushes.Perm (request.window table bottom)

namespace TableCall

def ordered (table : ObjectId) (request : TableRequest) (bottom : StackPtr) : TableCall :=
  { table, request, bottom, pushes := request.window table bottom, each := .refl _ }

def top (call : TableCall) : StackPtr := call.bottom + call.request.stub.window

def invoke (session : Session) (call : TableCall) : MachineM StackPtr := do
  Machine.pointAll call.pushes
  session.call call.request.signature call.top

def sets? (call : TableCall) (id : ObjectId) (key : String) : Option String :=
  match call.request with
  | .getItem _ => none
  | .setItem named value => if call.table = id ∧ named = key then some value else none

end TableCall

def noEntry (key : String) : Fault :=
  .native (.aborted
    (getItemPlan.signature.text ++ ": " ++ ("no entry for key " ++ Text.quoted key)))

inductive Answered (held : ObjectId → String → Option String) (call : TableCall)
    (met after : Machine) : Except Fault StackPtr → Prop where
  | set {key value : String} : call.request = .setItem key value → after.heap = met.heap →
      Answered held call met after (.ok call.bottom)
  | got {key value : String} : call.request = .getItem key → held call.table key = some value →
      after.heap = (met.heap.push (.str value)).2 →
      after.stack.get call.bottom = .ok (.object (.ofNat met.heap.size)) →
      Answered held call met after (.ok (call.bottom + 1))
  | absent {key : String} : call.request = .getItem key → held call.table key = none →
      after.heap = met.heap → Answered held call met after (.error (noEntry key))

structure Leaves (call : TableCall) (met after : Machine) : Prop where
  capacity : after.stack.capacity = met.stack.capacity
  others : ∀ id, id ≠ call.table → after.objects.get id = met.objects.get id
  carries : ∃ t, CarriesTable after.objects call.table t
  entries : ∀ id key, stored? after.objects id key =
    (call.sets? id key).or (stored? met.objects id key)

/-! ## One call -/

section Steps

variable {before pushed : Machine} {call : TableCall} {t : Table} {handle : StackPtr → Nat}

theorem pushed_window (sound : before.heap.Sound) (fits : call.top ≤ before.stack.capacity)
    (room : before.heap.size + 3 ≤ UInt64.size) :
    ∃ handle pushed, before.run (Machine.pointAll call.pushes) = (.ok (), pushed) ∧
      Machine.Pointed before (call.request.window call.table call.bottom) handle pushed := by
  have once : (call.pushes.map (·.1)).Nodup := by
    rw [(call.each.map _).nodup_iff]
    cases call.request <;> simp [TableRequest.window]
  have inside : ∀ push ∈ call.pushes, push.1 < before.stack.capacity := by
    intro push member
    have below := TableRequest.lt_of_mem_window (call.each.mem_iff.mp member)
    exact Nat.lt_of_lt_of_le below fits
  have few : call.pushes.length ≤ 3 := by
    rw [call.each.length_eq]
    cases call.request <;> simp [TableRequest.window]
  obtain ⟨handle, pushed, ran, pointed, -⟩ :=
    Machine.pointed_pointAll sound once inside (by omega)
  exact ⟨handle, pushed, ran, pointed.perm call.each⟩

theorem stored?_giveBack {objects : Objects} {id : ObjectId} (carried : CarriesTable objects id t)
    (other : Table) (id' : ObjectId) (key : String) :
    stored? (giveBack objects (.object id) (.payload (.table other))) id' key =
      if id' = id then other.get? key else stored? objects id' key := by
  by_cases same : id' = id
  · rw [if_pos same, same, (carried.giveBack_self other).stored?_eq]
  · rw [if_neg same, stored?_congr (carried.giveBack_ne other same)]

theorem leaves_set {key value : String} (request : call.request = .setItem key value)
    (carried : CarriesTable before.objects call.table t) {after : Machine}
    (capacity : after.stack.capacity = before.stack.capacity)
    (objects : after.objects =
      giveBack before.objects (.object call.table) (.payload (.table (t.insert key value)))) :
    Leaves call before after where
  capacity := capacity
  others id apart := by rw [objects, carried.giveBack_ne _ apart]
  carries := ⟨t.insert key value, objects ▸ carried.giveBack_self _⟩
  entries id other := by
    rw [objects, stored?_giveBack carried, Table.get?_insert, TableCall.sets?, request]
    by_cases here : id = call.table
    · rw [if_pos here, here, carried.stored?_eq]
      by_cases same : other = key
      · simp [same]
      · simp [same, Ne.symm same]
    · simp [here, Ne.symm here]

theorem leaves_get {key : String} (request : call.request = .getItem key)
    (carried : CarriesTable before.objects call.table t) {after : Machine}
    (capacity : after.stack.capacity = before.stack.capacity)
    (same : ∀ id, after.objects.get id = before.objects.get id) : Leaves call before after where
  capacity := capacity
  others id _ := same id
  carries := ⟨t, carried.congr (same _)⟩
  entries id other := by
    rw [stored?_congr (same id), TableCall.sets?, request]
    rfl

theorem set_step {key value : String} (request : call.request = .setItem key value)
    (sound : before.heap.Sound)
    (pointed : Machine.Pointed before (call.request.window call.table call.bottom) handle pushed)
    (carried : CarriesTable before.objects call.table t) (method : Signature) :
    ∃ after, pushed.run (setItemStub.run api (call.bottom + 3) method) = (.ok call.bottom, after) ∧
      after.heap = before.heap ∧ Leaves call before after := by
  rw [request, TableRequest.window] at pointed
  have self : pushed.HoldsAt call.bottom (handle call.bottom) (.object call.table) :=
    pointed.holds (call.bottom, _) (by simp)
  have named : pushed.HoldsAt (call.bottom + 1) (handle (call.bottom + 1)) (.str key) :=
    pointed.holds (call.bottom + 1, _) (by simp)
  have given : pushed.HoldsAt (call.bottom + 2) (handle (call.bottom + 2)) (.str value) :=
    pointed.holds (call.bottom + 2, _) (by simp)
  have apart : handle (call.bottom + 1) ≠ handle (call.bottom + 2) :=
    pointed.handle_ne (by simp) (by simp) (by simp)
  have first : handle call.bottom ≠ handle (call.bottom + 1) :=
    pointed.handle_ne (by simp) (by simp) (by simp)
  have second : handle call.bottom ≠ handle (call.bottom + 2) :=
    pointed.handle_ne (by simp) (by simp) (by simp)
  have borrowed := pointed.objects.symm ▸ carried
  -- The stub reads its window from the top down, and gives the handles up in that order.
  refine ⟨_, run_setItemStub self named given apart (by simp [first, second]) borrowed method,
    pointed.giveUp_eq sound (List.reverse_perm
      [handle call.bottom, handle (call.bottom + 1), handle (call.bottom + 2)]),
    leaves_set request carried pointed.capacity ?_⟩
  rw [pointed.objects]

theorem answered_found {middle : Machine} {held : ObjectId → String → Option String}
    {key value : String} (request : call.request = .getItem key)
    (found : held call.table key = some value) (heap : middle.heap = before.heap)
    (inside : call.bottom < middle.stack.capacity) :
    Answered held call before (middle.withPointed call.bottom (.str value))
      (.ok (call.bottom + 1)) := by
  refine .got request found ?_ ?_
  · rw [← heap]
    rfl
  · rw [← heap]
    exact EvalStack.get_eq_ok_iff.mpr (Machine.slot_withPointed inside _)

theorem get_step {key : String} (request : call.request = .getItem key)
    (sound : before.heap.Sound) (fits : call.bottom < before.stack.capacity)
    (pointed : Machine.Pointed before (call.request.window call.table call.bottom) handle pushed)
    (carried : CarriesTable before.objects call.table t) :
    ∃ answer after,
      pushed.run (getItemStub.run api (call.bottom + 2) getItemPlan.signature) = (answer, after) ∧
      Answered (stored? before.objects) call before after answer ∧ Leaves call before after := by
  rw [request, TableRequest.window] at pointed
  have self : pushed.HoldsAt call.bottom (handle call.bottom) (.object call.table) :=
    pointed.holds (call.bottom, _) (by simp)
  have named : pushed.HoldsAt (call.bottom + 1) (handle (call.bottom + 1)) (.str key) :=
    pointed.holds (call.bottom + 1, _) (by simp)
  have apart : handle call.bottom ≠ handle (call.bottom + 1) :=
    pointed.handle_ne (by simp) (by simp) (by simp)
  have restored : (pushed.giveUp [handle (call.bottom + 1), handle call.bottom]).heap =
      before.heap :=
    pointed.giveUp_eq sound (List.reverse_perm [handle call.bottom, handle (call.bottom + 1)])
  have held := carried.stored?_eq key
  rw [run_getItemStub self named apart (pointed.objects.symm ▸ carried), tableEntry]
  cases found : t.get? key with
  | none =>
      refine ⟨_, _, rfl, .absent request (held.trans found) restored, ?_⟩
      refine leaves_get request carried pointed.capacity fun id => ?_
      exact congrArg (Objects.get · id) pointed.objects
  | some value =>
      -- Once it is named, the machine after the reads is not looked into any more.
      generalize reading : pushed.giveUp [handle (call.bottom + 1), handle call.bottom] = read
        at restored
      have stack : read.stack = pushed.stack := by rw [← reading]; rfl
      have capacity : read.stack.capacity = before.stack.capacity :=
        (congrArg EvalStack.capacity stack).trans pointed.capacity
      have inside : call.bottom < read.stack.capacity := capacity.symm ▸ fits
      refine ⟨_, _, proceed_found inside _ _ _ _, ?_, ?_⟩
      · refine answered_found request (held.trans found) ?_ ?_
        · exact restored
        · exact inside
      · apply leaves_get request carried
        · exact (Machine.capacity_withPointed _ _ _).trans capacity
        · intro id
          refine Eq.trans ?_ (carried.giveBack_same id)
          exact congrArg (fun objects => (giveBack objects _ _).get id) pointed.objects

theorem invoke_step {host session : Session} (begun : host.initializeDemo = .ok session)
    (sound : before.heap.Sound) (carried : CarriesTable before.objects call.table t)
    (fits : call.top ≤ before.stack.capacity) (room : before.heap.size + 3 ≤ UInt64.size) :
    ∃ answer after, before.run (call.invoke session) = (answer, after) ∧
      Answered (stored? before.objects) call before after answer ∧ Leaves call before after := by
  obtain ⟨handle, pushed, ran, pointed⟩ := pushed_window sound fits room
  rw [TableCall.invoke, Machine.run_bind, ran]
  simp only
  rw [call_eq begun, TableCall.top]
  cases request : call.request with
  | getItem key =>
      have inside : call.bottom < before.stack.capacity := by
        rw [TableCall.top, request] at fits
        exact Nat.lt_of_lt_of_le (Nat.lt_add_of_pos_right Nat.two_pos) fits
      exact get_step request sound inside pointed carried
  | setItem key value =>
      obtain ⟨after, ran, heap, leaves⟩ := set_step request sound pointed carried _
      exact ⟨_, after, ran, .set request heap, leaves⟩

end Steps

/-! ## Runs of calls -/

def runAll (session : Session) (before : Machine) (calls : List TableCall) : Machine :=
  calls.foldl (fun machine call => (machine.run (call.invoke session)).2) before

def lastSet? (calls : List TableCall) (id : ObjectId) (key : String) : Option String :=
  calls.reverse.findSome? (·.sets? id key)

/-- What is held under a key of a table after some calls: the value most recently set, or else the
entry that was there before all of them. -/
def storedAfter? (before : Machine) (calls : List TableCall) (id : ObjectId) (key : String) :
    Option String :=
  (lastSet? calls id key).or (stored? before.objects id key)

theorem storedAfter?_concat (before : Machine) (calls : List TableCall) (call : TableCall)
    (id : ObjectId) (key : String) :
    storedAfter? before (calls ++ [call]) id key =
      (call.sets? id key).or (storedAfter? before calls id key) := by
  rw [storedAfter?, storedAfter?, lastSet?, lastSet?, List.reverse_append, List.reverse_singleton,
    List.singleton_append, List.findSome?_cons]
  cases call.sets? id key <;> rfl

structure Ran (before : Machine) (calls : List TableCall) (after : Machine) : Prop where
  sound : after.heap.Sound
  size : after.heap.size ≤ before.heap.size + calls.length
  capacity : after.stack.capacity = before.stack.capacity
  carries : ∀ id, (∃ t, CarriesTable before.objects id t) → ∃ t, CarriesTable after.objects id t
  entries : stored? after.objects = storedAfter? before calls

theorem Answered.sound {held : ObjectId → String → Option String} {call : TableCall}
    {met after : Machine} {answer : Except Fault StackPtr}
    (answered : Answered held call met after answer) (sound : met.heap.Sound) :
    after.heap.Sound := by
  cases answered with
  | set _ heap | absent _ _ heap => exact heap ▸ sound
  | got _ _ heap _ => exact heap ▸ sound.push _

theorem Answered.size_le {held : ObjectId → String → Option String} {call : TableCall}
    {met after : Machine} {answer : Except Fault StackPtr}
    (answered : Answered held call met after answer) :
    after.heap.size ≤ met.heap.size + 1 := by
  cases answered with
  | set _ heap | absent _ _ heap =>
      rw [heap]
      exact Nat.le_succ _
  | got _ _ heap _ =>
      rw [heap]
      exact List.length_append.le

theorem Ran.step {before met after : Machine} {calls : List TableCall} {call : TableCall}
    {answer : Except Fault StackPtr} (ran : Ran before calls met)
    (answered : Answered (stored? met.objects) call met after answer)
    (leaves : Leaves call met after) : Ran before (calls ++ [call]) after where
  sound := answered.sound ran.sound
  size := by
    have grown := answered.size_le
    have size := ran.size
    rw [List.length_append, List.length_singleton]
    omega
  capacity := leaves.capacity.trans ran.capacity
  carries id carried := by
    obtain ⟨t, carried⟩ := ran.carries id carried
    by_cases same : id = call.table
    · exact same ▸ leaves.carries
    · exact ⟨t, carried.congr (leaves.others id same)⟩
  entries := by
    funext id key
    rw [leaves.entries, ran.entries, storedAfter?_concat]

section Runs

variable {host session : Session} {before : Machine} {calls : List TableCall}

theorem ran_runAll (begun : host.initializeDemo = .ok session) (sound : before.heap.Sound)
    (tables : ∀ call ∈ calls, ∃ t, CarriesTable before.objects call.table t)
    (fits : ∀ call ∈ calls, call.top ≤ before.stack.capacity)
    (room : before.heap.size + calls.length + 2 ≤ UInt64.size) :
    Ran before calls (runAll session before calls) := by
  -- From the end, so that the last call meets the machine that the others leave.
  induction calls using List.reverseRecOn with
  | nil =>
      exact ⟨sound, Nat.le_refl _, rfl, fun _ carried => carried, rfl⟩
  | append_singleton rest call ih =>
      rw [List.length_append, List.length_singleton] at room
      have ran := ih (fun call member => tables call (List.mem_append_left _ member))
        (fun call member => fits call (List.mem_append_left _ member)) (by omega)
      obtain ⟨t, carried⟩ := ran.carries call.table (tables call List.mem_concat_self)
      have inside : call.top ≤ (runAll session before rest).stack.capacity :=
        ran.capacity.symm ▸ fits call List.mem_concat_self
      have size := ran.size
      obtain ⟨answer, after, invoked, answered, leaves⟩ :=
        invoke_step begun ran.sound carried inside (by omega)
      have last : runAll session before (rest ++ [call]) = after := by
        rw [runAll, List.foldl_concat, ← runAll, invoked]
      exact last ▸ ran.step answered leaves

/-- In any run of calls on tables, from any heap that operations reach, each call finds what was
most recently set: an assignment answers the top below its window and leaves the heap as it was
before the pushes, and a lookup pushes the value most recently set for its key on its table, or
fails with an abort and leaves the heap as it was before the pushes. No other object changes. -/
theorem table_runs (begun : host.initializeDemo = .ok session) {live : LiveMap}
    (reached : before.heap.Reached live) {call : TableCall}
    (tables : ∀ each ∈ calls ++ [call], ∃ t, CarriesTable before.objects each.table t)
    (fits : ∀ each ∈ calls ++ [call], each.top ≤ before.stack.capacity)
    (room : before.heap.size + calls.length + 3 ≤ UInt64.size) :
    ∃ answer after, (runAll session before calls).run (call.invoke session) = (answer, after) ∧
      Answered (storedAfter? before calls) call (runAll session before calls) after answer ∧
      (∀ id, id ≠ call.table →
        after.objects.get id = (runAll session before calls).objects.get id) ∧
      stored? after.objects = storedAfter? before (calls ++ [call]) := by
  have sound : before.heap.Sound := reached.tracks.1
  have ran := ran_runAll begun sound
    (fun call member => tables call (List.mem_append_left _ member))
    (fun call member => fits call (List.mem_append_left _ member)) (by omega)
  obtain ⟨t, carried⟩ := ran.carries call.table (tables call List.mem_concat_self)
  have inside : call.top ≤ (runAll session before calls).stack.capacity :=
    ran.capacity.symm ▸ fits call List.mem_concat_self
  have size := ran.size
  obtain ⟨answer, after, invoked, answered, leaves⟩ :=
    invoke_step begun ran.sound carried inside (by omega)
  refine ⟨answer, after, invoked, ran.entries ▸ answered, leaves.others, ?_⟩
  exact (ran.step answered leaves).entries

end Runs

def twoTables : Machine where
  stack := .ofCapacity 3
  objects.cells := List.replicate 2
    { content := .native { typeName := table.reference, payload := .table {} } }

theorem table_runs_twoTables :
    let calls : List TableCall :=
      [.ordered 0 (.setItem "a1" "seven") 0, .ordered 1 (.setItem "a1" "eight") 0]
    ∃ session, (Session.ofCapacity 3).initializeDemo = .ok session ∧
      ∃ after, (runAll session twoTables calls).run
          (TableCall.invoke session (.ordered 0 (.getItem "a1") 1)) = (.ok 2, after) ∧
        after.heap = ((runAll session twoTables calls).heap.push (.str "seven")).2 := by
  intro calls
  have unbegun : (Session.ofCapacity 3).registry.initialized = false := rfl
  obtain ⟨session, begun⟩ := initializes unbegun
  have carries (id : ObjectId) (known : id < 2) : ∃ t, CarriesTable twoTables.objects id t := by
    refine ⟨{}, { typeName := table.reference, payload := .table {} }, ?_, ?_, rfl⟩
    · rw [Objects.get, twoTables, List.getElem?_replicate_of_lt known]
    · simp [NativeInstance.isInstanceOf]
  have reached : twoTables.heap.Reached twoTables.heap.live := Heap.reached_runOps []
  have tables : ∀ each ∈ calls ++ [.ordered 0 (.getItem "a1") 1],
      ∃ t, CarriesTable twoTables.objects each.table t := by
    simp [calls, TableCall.ordered, carries]
  obtain ⟨answer, after, ran, answered, -⟩ :=
    table_runs begun reached tables (by decide) (by decide)
  have kept : storedAfter? twoTables calls 0 "a1" = some "seven" := rfl
  refine ⟨session, begun, after, ?_⟩
  cases answered with
  | set request _ => cases request
  | got request found heap _ =>
      cases request
      cases kept.symm.trans found
      exact ⟨ran, heap⟩
  | absent request missing _ =>
      cases request
      cases kept.symm.trans missing

end Demo

end NativeBridge
