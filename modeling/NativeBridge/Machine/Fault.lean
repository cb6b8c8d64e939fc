/-!
# Faults

What can go wrong while a value crosses the boundary, as causes; the wording is in `message` alone.
-/

namespace NativeBridge

inductive NativeFault where
  | argument (text : String)
  | aborted (text : String)
  | unbound (method : String)
  deriving DecidableEq, Repr, Inhabited

inductive Fault where
  | stackUnderflow (window top : Nat)
  | nullReference (what : String)
  | typeMismatch (expected got : String)
  | invalidReference (slot : Nat)
  | invalidObject (index : Nat)
  | invalidField (owner : String) (field : Nat)
  | unknownType (id : Nat)
  | native (fault : NativeFault)
  | alreadyInitialized
  deriving DecidableEq, Repr, Inhabited

def NativeFault.message : NativeFault → String
  | .argument text => "Argument error: " ++ text
  | .aborted text => "Native method aborted: " ++ text
  | .unbound method => "No native entry for " ++ method

def Fault.message : Fault → String
  | .stackUnderflow window top =>
      "Stack underflow: window of " ++ toString window ++ " slots at stack top " ++ toString top
  | .nullReference what => "Null reference: " ++ what
  | .typeMismatch expected got => "Type mismatch: expected " ++ expected ++ ", got " ++ got
  | .invalidReference slot => "Invalid stack reference: slot " ++ toString slot
  | .invalidObject index => "Invalid heap object index: " ++ toString index
  | .invalidField owner field => "Invalid field " ++ toString field ++ " on " ++ owner
  | .unknownType id => "Unknown type id: " ++ toString id
  | .native fault => "Native call failed: " ++ fault.message
  | .alreadyInitialized => "Bindings already initialized for this registry"

end NativeBridge
