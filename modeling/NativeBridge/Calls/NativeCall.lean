import NativeBridge.Machine.Statics
import NativeBridge.Calls.Signature

/-!
# Calls of native bodies

A native body is a function of the call it receives and of the objects and the statics at that
moment. It answers with a result or a failure, and with the arguments, the objects and the statics
as it left them. It cannot reach the stack or the heap.
-/

namespace NativeBridge

structure NativeCall where
  method : Signature
  receiver : Option Value := none
  args : List Value := []
  deriving DecidableEq, Repr, Inhabited

inductive NativeFailure where
  | fault (cause : NativeFault)
  | panic (text : Option String)
  deriving DecidableEq, Repr, Inhabited

/-- What a native body leaves behind. -/
structure NativeReply where
  result : Except NativeFailure Value
  args : List Value
  objects : Objects
  types : TypeTable

abbrev NativeBody := NativeCall → Objects → TypeTable → NativeReply

def NativeFailure.toFault (method : Signature) : NativeFailure → NativeFault
  | .fault cause => cause
  | .panic text => .aborted (method.text ++ ": " ++ text.getD "unknown panic")

namespace NativeCall

def missing (call : NativeCall) (index : Nat) : NativeFault :=
  .argument (call.method.text ++ ": missing argument " ++ toString index)

def arg (call : NativeCall) (index : Nat) : Except NativeFault Value :=
  match call.args[index]? with
  | some value => .ok value
  | none => .error (call.missing index)

def setArg (call : NativeCall) (index : Nat) (value : Value) : Except NativeFault NativeCall :=
  if index < call.args.length then .ok { call with args := call.args.set index value }
  else .error (call.missing index)

def self (call : NativeCall) : Except NativeFault Value :=
  match call.receiver with
  | some value => .ok value
  | none => .error (.argument (call.method.text ++ ": no receiver"))

end NativeCall

end NativeBridge
