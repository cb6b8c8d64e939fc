import NativeBridge.Calls.Conversion
import NativeBridge.Calls.Execute
import NativeBridge.Source.File

/-!
# Running emitted code

What a stub does when it is called. The native side is given by what it offers: the payload that
belongs to each type, and the outcome of each call. A stub converts every value as soon as it has
read it, keeps it in a local variable, and makes its call inside the guard.
-/

namespace NativeBridge.Source

/-! ## The native side -/

inductive HostData where
  | value (value : Value)
  | payload (payload : Payload)
  deriving DecidableEq, Repr, Inhabited

inductive HostCall where
  | static (owner : CodeType) (method : Ident) (args : List HostData)
  | onSelf (self : HostData) (method : Ident) (args : List HostData)
  | entry (self key : HostData)
  | setEntry (self key value : HostData)
  | negation (operand : HostData)
  | binary (op : Operator) (left right : HostData)
  deriving DecidableEq, Repr, Inhabited

structure HostReply where
  result : HostData := .value .null
  self : HostData := .value .null
  args : List HostData := []
  deriving DecidableEq, Repr, Inhabited

structure NativeApi where
  payloadType? : CodeType → Option PayloadType
  perform : HostCall → Except NativeFailure HostReply

/-! ## Conversions -/

abbrev Locals := List (String × HostData)

namespace Locals

def get (locals : Locals) (name : String) : HostData := (locals.lookup name).getD (.value .null)

def set (locals : Locals) (name : String) (data : HostData) : Locals :=
  locals.map fun entry => if entry.1 = name then (name, data) else entry

def takeBack (locals : Locals) : List (Argument × HostData) → Locals
  | [] => locals
  | (arg, data) :: rest =>
      takeBack (if arg.byRef then locals.set arg.variableName data else locals) rest

end Locals

namespace NativeForm

def hostType : NativeForm → HostType
  | .number kind => .number kind
  | .string => .string
  | .unit | .struct _ _ | .handle => .value

def take (api : NativeApi) (objects : Objects) (value : Value) :
    NativeForm → Except NativeFault HostData
  | .struct type reference =>
      match api.payloadType? type with
      | some wanted => do return .payload (← objects.unbox wanted value reference)
      | none => .error (.unbound reference)
  | form => do return .value (← objects.fromNative form.hostType value)

def give (objects : Objects) (data : HostData) (form : NativeForm) : Value × Objects :=
  match form, data with
  | .struct _ reference, .payload payload => objects.box reference payload
  | _, .value value => (value, objects)
  | _, .payload _ => (.null, objects)

end NativeForm

/-! ## Calls -/

namespace Call

def host (locals : Locals) (self : HostData) : Call → HostCall
  | .static owner method args => .static owner method (args.map (locals.get ·.variableName))
  | .onSelf method args => .onSelf self method (args.map (locals.get ·.variableName))
  | .entry key => .entry self (locals.get key)
  | .setEntry key value => .setEntry self (locals.get key) (locals.get value)
  | .negation operand => .negation (locals.get operand)
  | .binary op left right => .binary op (locals.get left) (locals.get right)

def args : Call → List Argument
  | .static _ _ args | .onSelf _ args => args
  | _ => []

end Call

def borrow (api : NativeApi) (objects : Objects) (value : Value) (type : CodeType)
    (reference : String) : Except NativeFault Payload :=
  match api.payloadType? type with
  | some wanted => objects.unbox wanted value reference
  | none => .error (.unbound reference)

def giveBack (objects : Objects) (value : Value) : HostData → Objects
  | .payload payload =>
      match value with
      | .object id => objects.putPayload id payload
      | _ => objects
  | .value _ => objects

inductive SelfData where
  | none
  | converted (data : HostData)
  | borrowed (value : Value) (type : CodeType) (reference : String)
  deriving DecidableEq, Repr, Inhabited

def Call.run (api : NativeApi) (call : Call) (objects : Objects) (locals : Locals)
    (self : SelfData) : Except NativeFailure (HostData × Locals × Objects) := do
  let data ← match self with
    | .none => pure (.value .null)
    | .converted data => pure data
    | .borrowed value type reference =>
        match borrow api objects value type reference with
        | .ok payload => pure (.payload payload)
        | .error fault => throw (.fault fault)
  let reply ← api.perform (call.host locals data)
  let locals := locals.takeBack (call.args.zip reply.args)
  let objects := match self with
    | .borrowed value _ _ => giveBack objects value reply.self
    | _ => objects
  return (reply.result, locals, objects)

/-! ## Stubs -/

def takeLoaded (api : NativeApi) (form : NativeForm) (value : Value) : MachineM HostData := do
  let objects := (← get).objects
  match form.take api objects value with
  | .ok data => return data
  | .error fault => throw (.native fault)

def Read.run (api : NativeApi) (top : StackPtr) (read : Read) : MachineM (String × HostData) := do
  let index ← top.minus read.offset
  let location ← Plan.locate read.byRef index
  let machine ← get
  let value ← machine.load location read.kind read.coercion
  if read.free then Machine.free index
  return (read.variableName, ← takeLoaded api read.form value)

/-- Reads parameters in the order of the stub. -/
def readLocals (api : NativeApi) (top : StackPtr) : List Read → Locals → MachineM Locals
  | [], locals => return locals
  | read :: rest, locals => do
      let entry ← read.run api top
      readLocals api top rest (locals ++ [entry])

def SelfRead.run (api : NativeApi) (top : StackPtr) (method : Signature) (read : SelfRead) :
    MachineM SelfData := do
  let index ← top.minus read.offset
  let location ← Plan.locate read.resolve index
  let machine ← get
  let value ← machine.load location read.kind read.coercion
  if value.isNull then throw (.nullReference ("receiver of " ++ method.text))
  if read.free then Machine.free index
  match read.use with
  | .borrowed type reference => return .borrowed value type reference
  | .converted form => return .converted (← takeLoaded api form value)

def guarded (api : NativeApi) (call : Call) (method : Signature) (locals : Locals)
    (self : SelfData) : MachineM (HostData × Locals) := do
  let machine ← get
  match call.run api machine.objects locals self with
  | .ok (result, locals, objects) =>
      let after : Machine := { machine with objects }
      set after
      return (result, locals)
  | .error failure => throw (.native (failure.toFault method))

def giveValue (form : NativeForm) (data : HostData) : MachineM Value := do
  let machine ← get
  let (value, objects) := form.give machine.objects data
  let after : Machine := { machine with objects }
  set after
  return value

def writeLocals (top : StackPtr) (locals : Locals) : List Write → MachineM Unit
  | [] => return ()
  | write :: rest => do
      let index ← top.minus write.offset
      let location ← Plan.locate true index
      let value ← giveValue write.form (locals.get write.variableName)
      Machine.store location write.kind value
      writeLocals top locals rest

def finishStub (ret : StackPtr) (form : Option NativeForm) (result : HostData) :
    ReturnStep → MachineM StackPtr
  | .void => return ret
  | step => do
      let value ← giveValue (form.getD .unit) result
      Plan.finish ret value step

/-- Runs a stub: a call of the method whose window ends at the top of the stack. -/
def Stub.run (api : NativeApi) (stub : Stub) : Trampoline := fun top method => do
  let ret ← top.minus stub.window
  let locals ← readLocals api top stub.reads []
  let self ← match stub.receiver with
    | some read => read.run api top method
    | none => pure .none
  let (result, locals) ← guarded api stub.call method locals self
  writeLocals top locals stub.writes
  finishStub ret stub.result result stub.ret

/-! ## Registering emitted code -/

variable {τ : Type}

def ModuleFile.register (bind : Stub → τ) (file : ModuleFile) : RegistryM τ Unit :=
  file.stubs.forM fun stub => Registry.enter stub.signature (bind stub)

def SingleFile.initializer (bind : Stub → τ) (file : SingleFile) : RegistryM τ Unit := do
  Registry.begin
  file.modules.forM (·.file.register bind)

end NativeBridge.Source
