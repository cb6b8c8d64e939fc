import NativeBridge.Calls.Machine
import NativeBridge.Calls.Registry
import NativeBridge.Planning.Generation

/-!
# Carrying out plans

A plan is carried out with a native body on the machine. Every argument and the receiver are read
before the body is entered, so that a value that does not fit leaves nothing written. References are
followed anew when a parameter is written back.
-/

namespace NativeBridge

abbrev Trampoline := StackPtr → Signature → MachineM StackPtr

namespace Plan

def locate (resolve : Bool) (index : StackPtr) : MachineM Location := do
  let machine ← get
  if resolve then machine.stack.resolve index else return .slot index

def readParam (top : StackPtr) (step : ParamStep) : MachineM Value := do
  let index ← top.minus step.offset
  let location ← locate step.byRef index
  let machine ← get
  let value ← machine.load location step.kind step.coercion
  if step.free then Machine.free index
  return value

/-- Reads parameters in the order of the steps; each value goes to its place among the arguments. -/
def readParams (top : StackPtr) : List ParamStep → List Value → MachineM (List Value)
  | [], args => return args
  | step :: rest, args => do
      let value ← readParam top step
      readParams top rest (args.set step.index value)

def readReceiver (top : StackPtr) (signature : Signature) (step : ReceiverStep) :
    MachineM Value := do
  let index ← top.minus step.offset
  let location ← locate step.resolve index
  let machine ← get
  let value ← machine.load location step.kind step.coercion
  if value.isNull then throw (.nullReference ("receiver of " ++ signature.text))
  if step.free then Machine.free index
  return value

def enter (body : NativeBody) (call : NativeCall) : MachineM (Value × List Value) := do
  modify (Machine.collect (call.receiver.toList ++ call.args))
  let machine ← get
  let reply := body call machine.objects machine.types
  let after : Machine := { machine with
    objects := reply.objects
    types := reply.types
    entered := machine.entered ++ [{ call, objects := machine.objects, types := machine.types }] }
  set after
  match reply.result with
  | .ok result => return (result, reply.args)
  | .error failure => throw (.native (failure.toFault call.method))

/-- Writes parameters back in the order of the steps. -/
def writeBack (top : StackPtr) (args : List Value) (held : List Value) :
    List WriteBack → MachineM Unit
  | [] => return ()
  | step :: rest => do
      let index ← top.minus step.offset
      let location ← locate true index
      Machine.store location step.kind (args.getD step.index .null)
      modify (Machine.collect held)
      writeBack top args held rest

def finish (ret : StackPtr) (result : Value) : ReturnStep → MachineM StackPtr
  | .void => return ret
  | .value kind => Machine.pushValue ret kind result
  | .object unwrapAdapter => Machine.pushObject ret result unwrapAdapter

/-- Carries out a plan with a native body. -/
def execute (plan : Plan) (body : NativeBody) (top : StackPtr) : MachineM StackPtr := do
  let ret ← top.minus plan.window
  let args ← readParams top plan.params (List.replicate plan.params.length .null)
  let receiver ← plan.receiver.mapM (readReceiver top plan.signature)
  let (result, after) ← enter body { method := plan.signature, receiver, args }
  let held := result :: receiver.toList ++ after
  modify (Machine.collect held)
  writeBack top after held plan.writeBacks
  finish ret result plan.ret

def trampoline (plan : Plan) (body : NativeBody) : Trampoline := fun top _ => plan.execute body top

end Plan

/-! ## Installing generations -/

structure InstallReport where
  registered : Nat := 0
  missing : List String := []
  deriving DecidableEq, Repr, Inhabited

namespace Registry

variable {τ β : Type}

def installPlans (bind : Plan → β → τ) (natives : Signature → Option β) :
    List Plan → InstallReport → RegistryM τ InstallReport
  | [], report => return report
  | plan :: rest, report => do
      match natives plan.signature with
      | some body =>
          enter plan.signature (bind plan body)
          installPlans bind natives rest { report with registered := report.registered + 1 }
      | none =>
          installPlans bind natives rest
            { report with missing := report.missing ++ [plan.signature.text] }

def install (bind : Plan → β → τ) (natives : Signature → Option β) (generation : Generation) :
    RegistryM τ InstallReport := do
  begin
  installPlans bind natives (generation.modules.flatMap (·.plans)) {}

end Registry

end NativeBridge
