import NativeBridge.Proofs.Demo.EmittedStubs
import NativeBridge.Proofs.Source.Stubs

/-!
# The demo carried out in two ways

A method of the demo can be called through emitted code, or by carrying out its plan with a native
body. The bodies here take their arguments from the call by the same conversions and call the same
functions.

* `bodies`: the native bodies, by signature.
* `carries_add` to `carries_setItem`: each body does what the call of its stub does.
* `backends_agree`: for every plan of the demo, emitted code and the plan agree on every machine.
-/

namespace NativeBridge.Demo

open Source

/-! ## Native bodies -/

def typed (run : NativeCall → Objects → Except NativeFailure (Value × List Value × Objects)) :
    NativeBody := fun call objects types =>
  match run call objects with
  | .ok (result, args, objects) => { result := .ok result, args, objects, types }
  | .error failure => { result := .error failure, args := call.args, objects, types }

def argument {α : Type} (call : NativeCall) (index : Nat) (take : Value → Except NativeFault α) :
    Except NativeFailure α :=
  ((call.arg index).bind take).mapError .fault

def self {α : Type} (call : NativeCall) (take : Value → Except NativeFault α) :
    Except NativeFailure α :=
  (call.self.bind take).mapError .fault

def float64 (objects : Objects) : Value → Except NativeFault UInt64
  | .f64 bits => .ok bits
  | value => .error (objects.expected "f64" value)

def text (objects : Objects) : Value → Except NativeFault String
  | .str text => .ok text
  | value => .error (objects.expected "String" value)

def vector (objects : Objects) (value : Value) : Except NativeFault Vec2 := do
  match ← objects.unbox .vector value vec2.reference with
  | .vector v => return v
  | _ => throw (objects.expected vec2.reference value)

def strings (objects : Objects) (value : Value) : Except NativeFault Table := do
  match ← objects.unbox .table value table.reference with
  | .table t => return t
  | _ => throw (objects.expected table.reference value)

def add : NativeBody := typed fun call objects => do
  let a ← argument call 0 objects.int32
  let b ← argument call 1 objects.int32
  return (.i32 (mathAdd a b), call.args, objects)

def swap : NativeBody := typed fun call objects => do
  let a ← argument call 0 (float64 objects)
  let b ← argument call 1 (float64 objects)
  return (.null, (call.args.set 0 (.f64 b)).set 1 (.f64 a), objects)

def plus : NativeBody := typed fun call objects => do
  let a ← argument call 0 (vector objects)
  let b ← argument call 1 (vector objects)
  let (sum, objects) := objects.box vec2.reference (.vector (vecAdd a b))
  return (sum, call.args, objects)

def length : NativeBody := typed fun call objects => do
  let v ← self call (vector objects)
  return (.f32 (vecLength v), call.args, objects)

def getItem : NativeBody := typed fun call objects => do
  let t ← self call (strings objects)
  let key ← argument call 0 (text objects)
  return (.str (← tableEntry t key), call.args, objects)

def setItem : NativeBody := typed fun call objects => do
  let t ← self call (strings objects)
  let id ← self call fun value => objects.nativeId value table.reference
  let key ← argument call 0 (text objects)
  let value ← argument call 1 (text objects)
  return (.null, call.args, objects.putPayload id (.table (t.insert key value)))

def bodies : List (String × NativeBody) :=
  [("demo::Math::Add(i32, i32)", add),
   ("demo::Math::Swap(&mut f64, &mut f64)", swap),
   ("demo::Vec2::op_Addition(demo::Vec2, demo::Vec2)", plus),
   ("demo::Vec2::Length()", length),
   ("demo::collections::Table<String>::get_Item(String)", getItem),
   ("demo::collections::Table<String>::set_Item(String, String)", setItem)]

/-! ## Conversions -/

/-- Two conversions of one value fail alike, or succeed and give the same in two forms. -/
def Converts {ε ε' α β : Type} (form : α → β) (typed : Except ε α) (emitted : Except ε' β) : Prop :=
  (∃ a, typed = .ok a ∧ emitted = .ok (form a)) ∨
    (∃ fault, typed = .error fault) ∧ ∃ fault, emitted = .error fault

theorem converts_int32 (met objects : Objects) (value : Value) :
    Converts (fun n => .value (.i32 n)) (met.int32 value)
      ((NativeForm.number .int32).take api objects value) := by
  cases value with
  | i32 n => exact .inl ⟨n, rfl, rfl⟩
  | _ => exact .inr ⟨⟨_, rfl⟩, _, rfl⟩

theorem converts_float64 (met objects : Objects) (value : Value) :
    Converts (fun bits => .value (.f64 bits)) (float64 met value)
      ((NativeForm.number .float64).take api objects value) := by
  cases value with
  | f64 bits => exact .inl ⟨bits, rfl, rfl⟩
  | _ => exact .inr ⟨⟨_, rfl⟩, _, rfl⟩

theorem converts_text (met objects : Objects) (value : Value) :
    Converts (fun text => .value (.str text)) (text met value)
      (NativeForm.string.take api objects value) := by
  cases value with
  | str text => exact .inl ⟨text, rfl, rfl⟩
  | _ => exact .inr ⟨⟨_, rfl⟩, _, rfl⟩

theorem payloadType?_vec2 : api.payloadType? vec2Type = some .vector := rfl

theorem payloadType?_table : api.payloadType? tableType = some .table := rfl

theorem borrow_vec2 (objects : Objects) (value : Value) :
    borrow api objects value vec2Type vec2.reference =
      objects.unbox .vector value vec2.reference := by
  simp only [borrow, payloadType?_vec2]

theorem borrow_table (objects : Objects) (value : Value) :
    borrow api objects value tableType table.reference =
      objects.unbox .table value table.reference := by
  simp only [borrow, payloadType?_table]

section SameContents

variable {met objects : Objects} (same : met.contents = objects.contents)

include same

theorem converts_vector (value : Value) :
    Converts Payload.vector (vector met value)
      (borrow api objects value vec2Type vec2.reference) := by
  rw [borrow_vec2, vector, Objects.unbox_of_contents same]
  cases taken : objects.unbox .vector value vec2.reference with
  | error fault => exact .inr ⟨⟨_, rfl⟩, _, rfl⟩
  | ok payload =>
      obtain ⟨-, -, -, -, -, -, typed⟩ := Objects.unbox_eq_ok taken
      cases payload with
      | vector v => exact .inl ⟨v, rfl, rfl⟩
      | _ => cases typed

theorem converts_strings (value : Value) :
    Converts Payload.table (strings met value)
      (borrow api objects value tableType table.reference) := by
  rw [borrow_table, strings, Objects.unbox_of_contents same]
  cases taken : objects.unbox .table value table.reference with
  | error fault => exact .inr ⟨⟨_, rfl⟩, _, rfl⟩
  | ok payload =>
      obtain ⟨-, -, -, -, -, -, typed⟩ := Objects.unbox_eq_ok taken
      cases payload with
      | table t => exact .inl ⟨t, rfl, rfl⟩
      | _ => cases typed

theorem converts_struct (value : Value) :
    Converts (fun v => .payload (.vector v)) (vector met value)
      (vec2Form.take api objects value) := by
  have borrowed : vec2Form.take api objects value =
      (borrow api objects value vec2Type vec2.reference).map .payload := by
    simp only [vec2Form, NativeForm.take, borrow, payloadType?_vec2]
    cases objects.unbox .vector value vec2.reference <;> rfl
  rw [borrowed]
  rcases converts_vector same value with ⟨v, took, borrowed⟩ | ⟨failed, fault, borrowed⟩
  · exact .inl ⟨v, took, by rw [borrowed]; rfl⟩
  · exact .inr ⟨failed, fault, by rw [borrowed]; rfl⟩

end SameContents

section Arguments

variable {α β : Type} {call : NativeCall} {value : Value} {take : Value → Except NativeFault α}
  {form : α → β} {emitted : Except NativeFault β}

theorem converts_argument {index : Nat} (found : call.args[index]? = some value)
    (converts : Converts form (take value) emitted) :
    Converts form (argument call index take) emitted := by
  have passed : call.arg index = .ok value := by rw [NativeCall.arg, found]
  rcases converts with ⟨a, took, emitted⟩ | ⟨⟨fault, failed⟩, emitted⟩
  · exact .inl ⟨a, by rw [argument, passed, Except.bind, took]; rfl, emitted⟩
  · exact .inr ⟨⟨.fault fault, by rw [argument, passed, Except.bind, failed]; rfl⟩, emitted⟩

theorem converts_self (found : call.receiver = some value)
    (converts : Converts form (take value) emitted) : Converts form (self call take) emitted := by
  have passed : call.self = .ok value := by rw [NativeCall.self, found]
  rcases converts with ⟨a, took, emitted⟩ | ⟨⟨fault, failed⟩, emitted⟩
  · exact .inl ⟨a, by rw [self, passed, Except.bind, took]; rfl, emitted⟩
  · exact .inr ⟨⟨.fault fault, by rw [self, passed, Except.bind, failed]; rfl⟩, emitted⟩

end Arguments

theorem takes_two {α β : Type} {objects : Objects} {form : α → HostData} {form' : β → HostData}
    {first second : Read} {left : Except NativeFailure α} {right : Except NativeFailure β}
    {a b : Value} (converts : Converts form left (second.form.take api objects a))
    (converts' : Converts form' right (first.form.take api objects b)) :
    (∃ x y, left = .ok x ∧ right = .ok y ∧ takeAll api objects [first, second] [b, a] =
      .ok [(first.variableName, form' y), (second.variableName, form x)]) ∨
    ((∃ failure, left = .error failure) ∨ ∃ x failure, left = .ok x ∧ right = .error failure) ∧
      ∃ fault, takeAll api objects [first, second] [b, a] = .error fault := by
  rcases converts' with ⟨y, right, taken⟩ | ⟨⟨failure, right⟩, fault, taken⟩
  · rcases converts with ⟨x, left, taken'⟩ | ⟨failed, fault, taken'⟩
    · refine .inl ⟨x, y, left, right, ?_⟩
      simp only [takeAll, taken, taken']
      rfl
    · refine .inr ⟨.inl failed, fault, ?_⟩
      simp only [takeAll, taken, taken']
      rfl
  · refine .inr ⟨?_, fault, ?_⟩
    · rcases converts with ⟨x, left, -⟩ | ⟨failed, -⟩
      · exact .inr ⟨x, failure, left, right⟩
      · exact .inl failed
    · simp only [takeAll, taken]
      rfl

/-! ## Replies -/

section Replies

variable {plan : Plan} {stub : Stub} {other : NativeFailure} {call : NativeCall} {met : Objects}
  {types : TypeTable}
  {run : NativeCall → Objects → Except NativeFailure (Value × List Value × Objects)}

theorem typed_fails {failure : NativeFailure} (failed : run call met = .error failure) :
    Matches plan stub types (typed run call met types) (.error other) :=
  .fails (by rw [typed, failed])

theorem typed_answers {value : Value} {args : List Value} {left after : Objects} {result : HostData}
    {locals : Locals} (answered : run call met = .ok (value, args, left))
    (unwritten : stub.writes = []) (plain : plan.ret ≠ .object true)
    (gives : ∀ objects, (stub.result.getD .unit).give objects result = (value, objects))
    (contents : left.contents = after.contents) :
    Matches plan stub types (typed run call met types) (.ok (result, locals, after)) := by
  rw [typed, answered]
  refine .answers rfl ?_ gives contents rfl fun boxed => absurd boxed plain
  rw [unwritten]
  intro pair member
  cases member

end Replies

/-! ## Static methods -/

theorem carries_two {α β : Type} {plan : Plan} {stub : Stub} {first second : Read}
    {take : Objects → Value → Except NativeFault α} {take' : Objects → Value → Except NativeFault β}
    {form : α → HostData} {form' : β → HostData}
    {next : α → β → NativeCall → Objects → Except NativeFailure (Value × List Value × Objects)}
    (reads : stub.reads = [first, second]) (count : plan.params.length = 2)
    (static : plan.receiver = none)
    (args : ∀ a b, (plan.callWith [b, a] none).args = [a, b])
    (converts : ∀ met objects : Objects, met.contents = objects.contents → ∀ value,
      Converts form (take met value) (second.form.take api objects value))
    (converts' : ∀ met objects : Objects, met.contents = objects.contents → ∀ value,
      Converts form' (take' met value) (first.form.take api objects value))
    (carried : ∀ (met objects : Objects) types a b x y, met.contents = objects.contents →
      Matches plan stub types (typed (next x y) (plan.callWith [b, a] none) met types)
        (stub.call.run api objects
          [(first.variableName, form' y), (second.variableName, form x)] .none)) :
    Carries api plan stub (typed fun call objects => do
      let x ← argument call 0 (take objects)
      let y ← argument call 1 (take' objects)
      next x y call objects) := by
  intro met objects types values receiver same length present
  obtain ⟨b, a, rfl⟩ := List.length_eq_two.mp (length.trans count)
  obtain rfl : receiver = none := by
    rw [static] at present
    exact Option.not_isSome_iff_eq_none.mp (by simp [present])
  have left : Converts form (argument (plan.callWith [b, a] none) 0 (take met)) _ :=
    converts_argument (by rw [args]; rfl) (converts met objects same a)
  have right : Converts form' (argument (plan.callWith [b, a] none) 1 (take' met)) _ :=
    converts_argument (by rw [args]; rfl) (converts' met objects same b)
  rcases takes_two left right with ⟨x, y, left, right, taken⟩ | ⟨failed, fault, untaken⟩
  · rw [outcome_called (reads ▸ taken) (stub.takeSelf_none api objects)]
    have body : typed (fun call objects => do
        let x ← argument call 0 (take objects)
        let y ← argument call 1 (take' objects)
        next x y call objects) (plan.callWith [b, a] none) met types =
        typed (next x y) (plan.callWith [b, a] none) met types := by
      simp only [typed, left, right]
      rfl
    rw [body]
    exact carried met objects types a b x y same
  · rw [outcome_untaken (reads ▸ untaken)]
    rcases failed with ⟨failure, left⟩ | ⟨x, failure, left, right⟩
    · apply typed_fails
      simp only [left]
      rfl
    · apply typed_fails
      simp only [left, right]
      rfl

theorem mathTokens : mathType.tokens = code "demo::Math" := rfl

theorem get_first (name : String) (data : HostData) (rest : Locals) :
    Locals.get ((name, data) :: rest) name = data := by
  rw [Locals.get, List.lookup_cons_self, Option.getD_some]

theorem get_second {name other : String} (apart : name ≠ other) (data : HostData) (rest : Locals) :
    Locals.get ((other, data) :: rest) name = Locals.get rest name := by
  have unlike : (name == other) = false := beq_eq_false_iff_ne.mpr apart
  rw [Locals.get, List.lookup_cons, unlike, Locals.get]

theorem carries_add : Carries api addPlan addStub add := by
  refine carries_two rfl rfl rfl (fun a b => rfl)
    (fun met objects same => converts_int32 met objects)
    (fun met objects same => converts_int32 met objects) ?_
  intro met objects types a b m n same
  simp only [param]
  have performed : api.perform (addStub.call.host
      [("b_1", .value (.i32 n)), ("a_0", .value (.i32 m))] (.value .null)) =
      .ok {
        result := .value (.i32 (mathAdd m n))
        args := [.value (.i32 m), .value (.i32 n)] } := by
    simp only [addStub, Call.host, api, perform, mathTokens, if_true, List.map, get_first]
    simp [get_first, get_second]
  rw [run_static performed]
  have ret : addPlan.ret = .value .int32 := rfl
  exact typed_answers rfl rfl (by rw [ret]; exact nofun) (fun _ => rfl) same

theorem run_swapCall (objects : Objects) (m n : UInt64) :
    swapStub.call.run api objects [("b_1", .value (.f64 n)), ("a_0", .value (.f64 m))] .none =
      .ok (.value .null, [("b_1", .value (.f64 m)), ("a_0", .value (.f64 n))], objects) := by
  have performed : api.perform (swapStub.call.host
      [("b_1", .value (.f64 n)), ("a_0", .value (.f64 m))] (.value .null)) =
      .ok { args := [.value (.f64 n), .value (.f64 m)] } := by
    simp only [swapStub, Call.host, api, perform, mathTokens, if_true, List.map]
    simp [get_first, get_second]
  have left : Locals.takeBack [("b_1", .value (.f64 n)), ("a_0", .value (.f64 m))]
      (swapStub.call.args.zip [.value (.f64 n), .value (.f64 m)]) =
      [("b_1", .value (.f64 m)), ("a_0", .value (.f64 n))] := by
    simp [swapStub, Call.args, Locals.takeBack, Locals.set]
  rw [run_static performed, left]

theorem carries_swap : Carries api swapPlan swapStub swap := by
  refine carries_two rfl rfl rfl (fun a b => rfl)
    (fun met objects same => converts_float64 met objects)
    (fun met objects same => converts_float64 met objects) ?_
  intro met objects types a b m n same
  simp only [param]
  rw [run_swapCall]
  have ret : swapPlan.ret = .void := rfl
  refine .answers rfl ?_ (fun _ => rfl) same rfl (by rw [ret]; exact nofun)
  have pairs : swapStub.writes.zip swapPlan.writeBacks =
      [({ offset := 1, kind := .float64, variableName := "b_1", form := .number .float64 },
        { index := 1, offset := 1, kind := .float64 }),
       ({ offset := 2, kind := .float64, variableName := "a_0", form := .number .float64 },
        { index := 0, offset := 2, kind := .float64 })] := rfl
  rw [pairs]
  simp only [List.forall_mem_cons, List.not_mem_nil, IsEmpty.forall_iff, implies_true, and_true]
  refine ⟨⟨rfl, ?_⟩, rfl, ?_⟩
  · intro objects
    rw [get_first]
    rfl
  · intro objects
    rw [get_second (by decide), get_first]
    rfl

theorem carries_plus : Carries api plusPlan plusStub plus := by
  refine carries_two rfl rfl rfl (fun a b => rfl) (fun met objects same => converts_struct same)
    (fun met objects same => converts_struct same) ?_
  intro met objects types a b v w same
  simp only [param]
  have performed : api.perform (plusStub.call.host
      [("b_1", .payload (.vector w)), ("a_0", .payload (.vector v))] (.value .null)) =
      .ok { result := .payload (.vector (vecAdd v w)) } := by
    simp only [plusStub, Call.host, api]
    simp [get_first, get_second, perform]
  rw [run_static performed]
  obtain ⟨named, contents⟩ := Objects.box_of_contents same vec2.reference (.vector (vecAdd v w))
  have gives : (plusStub.result.getD .unit).give objects (.payload (.vector (vecAdd v w))) =
      ((met.box vec2.reference (.vector (vecAdd v w))).1,
        (objects.box vec2.reference (.vector (vecAdd v w))).2) := by
    rw [named]
    rfl
  exact .boxes rfl rfl rfl gives contents rfl

/-! ## Methods of an object -/

theorem giveBack_borrowed {objects : Objects} {wanted : PayloadType} {value : Value}
    {typeName : String} {payload : Payload}
    (taken : objects.unbox wanted value typeName = .ok payload) :
    (giveBack objects value (.payload payload)).contents = objects.contents := by
  obtain ⟨id, self, rfl, -, known, rfl, -⟩ := Objects.unbox_eq_ok taken
  exact Objects.putPayload_self known

theorem carries_length : Carries api lengthPlan lengthStub length := by
  intro met objects types values receiver same count present
  obtain rfl := List.length_eq_zero_iff.mp (count : values.length = 0)
  obtain ⟨value, rfl⟩ := Option.isSome_iff_exists.mp present
  have held : lengthStub.takeSelf api objects (some value) =
    .ok (.borrowed value vec2Type vec2.reference) := rfl
  rw [outcome_called rfl held]
  have borrows : Converts _ (self (lengthPlan.callWith [] (some value)) (vector met)) _ :=
    converts_self rfl (converts_vector same value)
  rcases borrows with ⟨v, took, borrowed⟩ | ⟨⟨failure, failed⟩, fault, unborrowed⟩
  · have performed : api.perform (lengthStub.call.host [] (.payload (.vector v))) =
        .ok { result := .value (.f32 (vecLength v)), self := .payload (.vector v) } := rfl
    rw [run_borrowed borrowed performed rfl]
    rw [borrow_vec2] at borrowed
    have ret : lengthPlan.ret = .value .float32 := rfl
    exact typed_answers (by simp only [took]; rfl) rfl (by rw [ret]; exact nofun) (fun _ => rfl)
      (same.trans (giveBack_borrowed borrowed).symm)
  · rw [run_unborrowed unborrowed]
    apply typed_fails
    simp only [failed]
    rfl

theorem takes_key {objects : Objects} {key : Value} {taken : Except NativeFault HostData}
    (took : NativeForm.string.take api objects key = taken) :
    takeAll api objects getItemStub.reads [key] = taken.map fun data => [("key_0", data)] := by
  simp only [getItemStub, textParam, param, takeAll, took]
  cases taken <;> rfl

theorem carries_getItem : Carries api getItemPlan getItemStub getItem := by
  intro met objects types values receiver same count present
  obtain ⟨key, rfl⟩ := List.length_eq_one_iff.mp (count : values.length = 1)
  obtain ⟨value, rfl⟩ := Option.isSome_iff_exists.mp present
  have held : getItemStub.takeSelf api objects (some value) =
    .ok (.borrowed value tableType table.reference) := rfl
  have keyed : Converts _ (argument (getItemPlan.callWith [key] (some value)) 0 (text met)) _ :=
    converts_argument rfl (converts_text met objects key)
  have borrows : Converts _ (self (getItemPlan.callWith [key] (some value)) (strings met)) _ :=
    converts_self rfl (converts_strings same value)
  rcases keyed with ⟨k, named, taken⟩ | ⟨⟨failure, unnamed⟩, fault, untaken⟩
  · rw [outcome_called (takes_key taken) held]
    rcases borrows with ⟨t, took, borrowed⟩ | ⟨⟨failure, failed⟩, fault, unborrowed⟩
    · have performed : api.perform (getItemStub.call.host [("key_0", .value (.str k))]
          (.payload (.table t))) = (tableEntry t k).map fun found =>
            { result := .value (.str found), self := .payload (.table t) } := by
        simp only [getItemStub, Call.host, api, get_first, perform]
        cases tableEntry t k <;> rfl
      cases entry : tableEntry t k with
      | ok found =>
          rw [entry] at performed
          rw [run_borrowed borrowed performed rfl]
          rw [borrow_table] at borrowed
          have ret : getItemPlan.ret = .object false := rfl
          exact typed_answers (by simp only [took, named, bind, Except.bind, entry]; rfl) rfl
            (by rw [ret]; exact nofun) (fun _ => rfl)
            (same.trans (giveBack_borrowed borrowed).symm)
      | error failure =>
          rw [entry] at performed
          rw [run_unperformed borrowed performed]
          apply typed_fails
          simp only [took, named, bind, Except.bind, entry]
          rfl
    · rw [run_unborrowed unborrowed]
      apply typed_fails
      simp only [failed]
      rfl
  · rw [outcome_untaken (takes_key untaken)]
    rcases borrows with ⟨t, took, -⟩ | ⟨⟨failure', failed⟩, -⟩
    · apply typed_fails
      simp only [took, unnamed]
      rfl
    · apply typed_fails
      simp only [failed]
      rfl

theorem self_nativeId {met objects : Objects} (same : met.contents = objects.contents)
    {wanted : PayloadType} {value : Value} {typeName : String} {payload : Payload}
    (taken : objects.unbox wanted value typeName = .ok payload) {call : NativeCall}
    (passed : call.receiver = some value) :
    ∃ id, value = .object id ∧ self call (fun value => met.nativeId value typeName) = .ok id := by
  obtain ⟨id, -, object, named, -⟩ := Objects.unbox_eq_ok taken
  have found : call.self = .ok value := by rw [NativeCall.self, passed]
  refine ⟨id, object, ?_⟩
  rw [self, found, Except.bind, Objects.nativeId_of_contents same, named]
  rfl

theorem carries_setItem : Carries api setItemPlan setItemStub setItem := by
  intro met objects types values receiver same count present
  obtain ⟨b, a, rfl⟩ := List.length_eq_two.mp (count : values.length = 2)
  obtain ⟨value, rfl⟩ := Option.isSome_iff_exists.mp present
  have held : setItemStub.takeSelf api objects (some value) =
    .ok (.borrowed value tableType table.reference) := rfl
  have reads : setItemStub.reads = [textParam "value_1" 1, textParam "key_0" 2] := rfl
  have first : Converts _ (argument (setItemPlan.callWith [b, a] (some value)) 0 (text met))
      ((textParam "key_0" 2).form.take api objects a) :=
    converts_argument rfl (converts_text met objects a)
  have second : Converts _ (argument (setItemPlan.callWith [b, a] (some value)) 1 (text met))
      ((textParam "value_1" 1).form.take api objects b) :=
    converts_argument rfl (converts_text met objects b)
  have borrows : Converts _ (self (setItemPlan.callWith [b, a] (some value)) (strings met)) _ :=
    converts_self rfl (converts_strings same value)
  rcases takes_two first second with ⟨k, v, left, right, taken⟩ | ⟨unnamed, fault, untaken⟩
  · rw [outcome_called (reads ▸ taken) held]
    rcases borrows with ⟨t, took, borrowed⟩ | ⟨⟨failure, failed⟩, fault, unborrowed⟩
    · have performed : api.perform (setItemStub.call.host
          [("value_1", .value (.str v)), ("key_0", .value (.str k))] (.payload (.table t))) =
          .ok { self := .payload (.table (t.insert k v)) } := by
        simp only [setItemStub, Call.host, api]
        simp [get_first, get_second, perform]
      simp only [textParam, param]
      rw [run_borrowed borrowed performed rfl]
      rw [borrow_table] at borrowed
      obtain ⟨id, rfl, reached⟩ := self_nativeId same borrowed (rfl :
        (setItemPlan.callWith [b, a] (some value)).receiver = some value)
      have ret : setItemPlan.ret = .void := rfl
      exact typed_answers (by simp only [took, reached, left, right, bind, Except.bind]; rfl) rfl
        (by rw [ret]; exact nofun) (fun _ => rfl) (Objects.putPayload_of_contents same id _)
    · rw [run_unborrowed unborrowed]
      apply typed_fails
      simp only [failed]
      rfl
  · rw [outcome_untaken (reads ▸ untaken)]
    rcases borrows with ⟨t, took, borrowed⟩ | ⟨⟨failure, failed⟩, -⟩
    · rw [borrow_table] at borrowed
      obtain ⟨id, rfl, reached⟩ := self_nativeId same borrowed (rfl :
        (setItemPlan.callWith [b, a] (some value)).receiver = some value)
      rcases unnamed with ⟨failure, left⟩ | ⟨k, failure, left, right⟩
      · apply typed_fails
        simp only [took, reached, left]
        rfl
      · apply typed_fails
        simp only [took, reached, left, right]
        rfl
    · apply typed_fails
      simp only [failed]
      rfl

/-! ## The demo as emitted code -/

theorem exists_bindings : ∃ file, bindings = .ok file := by
  have rendered : Rendering.ofGeneration generation {} =
      .ok (.withRuntime runtime generation entries) :=
    Rendering.ofGeneration_eq_ok_iff.mpr
      ⟨runtime, entries, by decide +kernel, rfl, rfl, isAccepted_generation⟩
  have present : (Rendering.withRuntime runtime generation
      entries).singleFile.toOption.isSome = true := by
    decide +kernel
  rw [bindings, generate_eq]
  simp only [bind, Except.bind, rendered]
  cases single : (Rendering.withRuntime runtime generation entries).singleFile with
  | ok file => exact ⟨file, rfl⟩
  | error fault =>
      rw [single] at present
      cases present

theorem bindings_stubs {file : SingleFile} (made : bindings = .ok file) :
    file.modules.map (·.file.stubs) =
      [[addStub, swapStub], [plusStub, lengthStub], [getItemStub, setItemStub]] := by
  rw [bindings, bind_eq_ok] at made
  obtain ⟨other, generated, made⟩ := made
  obtain rfl := Except.ok.inj (generate_eq.symm.trans generated)
  obtain ⟨rendering, rendered, single⟩ := bind_eq_ok.mp made
  obtain ⟨runtime, entries, -, named, rfl, -⟩ := Rendering.ofGeneration_eq_ok_iff.mp rendered
  have idents : (Rendering.withRuntime runtime generation entries).modules.map (·.file.ident) =
      generation.modules.map (·.ident) := by
    rw [Rendering.withRuntime, List.map_map]
    rfl
  have texts : entries.map (·.name.text) = generation.modules.map (·.ident) := by
    have computed : generation.aggregate.modules.mapM ModuleEntry.ofIdent = .ok Demo.entries := rfl
    obtain rfl := Except.ok.inj (computed.symm.trans named)
    rw [Demo.entries, List.map_map]
    rfl
  have files := Rendering.singleFile_files single (texts.trans idents.symm)
    (by rw [idents]; decide)
  have stubs := congrArg (List.map (·.stubs)) files
  rw [List.map_map, List.map_map] at stubs
  refine stubs.trans ?_
  have made := congrArg (List.map Prod.snd) map_stubsOf
  rw [List.map_map] at made
  rw [Rendering.withRuntime, List.map_map]
  exact made

/-- A plan, the stub that is emitted for it and the native body of its signature: wherever the stub
can be called, calling it agrees with carrying the plan out. -/
structure Backed (plan : Plan) (stub : Stub) : Prop where
  emitted : Stub.ofPlan plan = .ok stub
  agree : ∃ body, bodies.lookup plan.signature.text = some body ∧
    ∀ (before : Machine) (top : StackPtr) (method : Signature),
      Agree (before.run (plan.execute body top)) (before.run (stub.run api top method))

theorem backed {plan : Plan} {stub : Stub} {body : NativeBody}
    (emitted : Stub.ofPlan plan = .ok stub) (listed : bodies.lookup plan.signature.text = some body)
    (carries : Carries api plan stub body) : Backed plan stub :=
  ⟨emitted, body, listed, Stub.agrees (ofPlan_emitted emitted) carries⟩

/-- The demo is generated and emitted with one stub for each of the six signatures, and each of them
agrees with its plan. -/
theorem backends_agree :
    ∃ generation file, Generation.generate catalogue {} = .ok generation ∧ bindings = .ok file ∧
      (generation.modules.flatMap (·.plans)).map (·.signature.text) = bodies.map (·.1) ∧
        List.Forall₂ Backed (generation.modules.flatMap (·.plans))
          (file.modules.flatMap (·.file.stubs)) := by
  obtain ⟨file, made⟩ := exists_bindings
  refine ⟨generation, file, generate_eq, made, ?_⟩
  rw [List.flatMap_def, List.flatMap_def, map_plans, bindings_stubs made]
  refine ⟨rfl, ?_⟩
  obtain ⟨add, swap, plus, length, getItem, setItem⟩ := stubs_made
  exact .cons (backed add rfl carries_add) (.cons (backed swap rfl carries_swap)
    (.cons (backed plus rfl carries_plus) (.cons (backed length rfl carries_length)
      (.cons (backed getItem rfl carries_getItem)
        (.cons (backed setItem rfl carries_setItem) .nil)))))

end NativeBridge.Demo
