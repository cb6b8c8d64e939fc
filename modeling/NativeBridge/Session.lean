import NativeBridge.Calls.Execute
import NativeBridge.Calls.Routine
import NativeBridge.Demo.Api
import NativeBridge.Machine.Listing

/-!
# Sessions

A session is a machine together with the host around it: the objects that the host knows by name,
the native bodies it offers, what is registered for calls, and the last generation. Whatever
happens, an object that neither the host nor the machine holds any more ends with the step that let
it go.
-/

namespace NativeBridge

inductive Redirection where
  | constant (n : Int32)
  | planned (plan : Plan) (routine : Routine)
  | emitted (stub : Source.Stub)
  deriving Repr, Inhabited

namespace Redirection

def trampoline (names : ObjectNames) : Redirection → Trampoline
  | .constant n => fun top method => do
      let ret ← top.minus method.params.length
      Machine.pushValue ret .int32 (.i32 n)
  | .planned plan routine => plan.trampoline (routine.body names)
  | .emitted stub => stub.run Demo.api

end Redirection

/-- The registry with its bindings begun. A fault leaves a registry as it was, so that a host that
gets none keeps the one it has. -/
def Registry.beginBindings (registry : Registry Redirection) :
    Except Fault (Registry Redirection) := do
  let (begun, registry) := registry.run begin
  begun
  return registry

structure Session where
  machine : Machine := {}
  names : ObjectNames := []
  registry : Registry Redirection := {}
  natives : List (Signature × Routine) := []
  generation : Option Generation := none

namespace Session

def ofCapacity (capacity : Nat) : Session :=
  { machine := { stack := .ofCapacity capacity } }

/-! ## Named objects -/

def objectNamed? (session : Session) (name : String) : Option ObjectId :=
  session.names.lookup name

def nameOf? (session : Session) (id : ObjectId) : Option String :=
  (session.names.find? (·.2 == id)).map (·.1)

def withName (session : Session) (name : String) (id : ObjectId) : Session :=
  { session with names := session.names.filter (·.1 != name) ++ [(name, id)] }

def forget (session : Session) (name : String) : Session :=
  { session with names := session.names.filter (·.1 != name) }

/-! ## The end of a step -/

/-- The objects that the host holds: those that it knows by name. A native body that mentions an
object does not hold it. -/
def pinned (session : Session) : List ObjectId := session.names.map (·.2)

def settle (session : Session) : Session :=
  { session with machine := { session.machine with pinned := session.pinned }.collect [] }

/-! ## Registered calls -/

def bind (session : Session) (signature : Signature) (routine : Routine) : Session :=
  { session with natives := insertEntry signature routine session.natives }

def register (session : Session) (signature : Signature) (entry : Redirection) : Session :=
  { session with registry := (session.registry.register signature entry).2 }

def install (session : Session) : Except Fault (InstallReport × Session) := do
  let (result, registry) := session.registry.run
    (Registry.install Redirection.planned (session.natives.lookup ·)
      (session.generation.getD default))
  return (← result, { session with registry })

def initializeDemo (session : Session) : Except Fault Session :=
  match Demo.bindings with
  | .ok file => do
      let (result, registry) := session.registry.run (file.initializer Redirection.emitted)
      result
      return { session with registry }
  | .error _ => .ok session

def perform {α : Type} (session : Session) (action : MachineM α) : Except Fault α × Session :=
  let pins : Machine := { session.machine with pinned := session.pinned }
  let (result, machine) := action.run.run pins
  (result, { session with machine })

def call (session : Session) (signature : Signature) (top : StackPtr) : MachineM StackPtr :=
  match session.registry.get? signature with
  | some entry => entry.trampoline session.names top signature
  | none => throw (.native (.unbound signature.text))

def invoke (session : Session) (signature : Signature) (top : StackPtr) :
    Except Fault StackPtr × List Entered × Session :=
  let (result, after) := session.perform (session.call signature top)
  let entered := after.machine.entered.drop session.machine.entered.length
  (result, entered, after)

/-! ## Listings -/

def registryListing (session : Session) : String :=
  record "MethodRegistry" [("count", toString session.registry.size),
    ("bindings_initialized", flagText session.registry.initialized)]

def nativesListing (session : Session) : String :=
  record "NativeMethods" [("count", toString session.natives.length)]

end Session

end NativeBridge
