import NativeBridge.Calls.Signature
import NativeBridge.Entries
import NativeBridge.Machine.Fault

/-!
# Registries

A registry finds what is registered for a signature. The signatures keep the order of their first
registration; registering one again replaces what it finds. The initial bindings are installed at
most once. What was done to a registry before a fault stays done.
-/

namespace NativeBridge

structure Registry (τ : Type) where
  entries : List (Signature × τ) := []
  order : List Signature := []
  initialized : Bool := false

abbrev RegistryM (τ : Type) := ExceptT Fault (StateM (Registry τ))

namespace Registry

variable {τ : Type}

/-- What an action answers on a registry, and the registry that it leaves behind. -/
def run {α : Type} (registry : Registry τ) (action : RegistryM τ α) : Except Fault α × Registry τ :=
  StateT.run (ExceptT.run action) registry

def get? (registry : Registry τ) (signature : Signature) : Option τ :=
  registry.entries.lookup signature

def contains (registry : Registry τ) (signature : Signature) : Bool :=
  (registry.get? signature).isSome

def signatures (registry : Registry τ) : List Signature := registry.order

def size (registry : Registry τ) : Nat := registry.entries.length

def isEmpty (registry : Registry τ) : Bool := registry.entries.isEmpty

def register (registry : Registry τ) (signature : Signature) (entry : τ) : Bool × Registry τ :=
  let replaced := registry.contains signature
  (replaced, { registry with
    entries := insertEntry signature entry registry.entries
    order := if replaced then registry.order else registry.order ++ [signature] })

def enter (signature : Signature) (entry : τ) : RegistryM τ Unit :=
  modify fun registry => (registry.register signature entry).2

/-- Marks that the bindings are being installed, which can happen only once. -/
def begin : RegistryM τ Unit := do
  if (← get).initialized then throw .alreadyInitialized
  modify ({ · with initialized := true })

end Registry

end NativeBridge
