import NativeBridge.Calls.Conversion

/-!
# Routines

A native body given as a list of instructions, which are carried out in order. An instruction that
fails ends the routine; what was done before it stays done. A routine mentions objects by the names
that the host has for them when it runs, so it keeps none of them.
-/

namespace NativeBridge

abbrev ObjectNames := List (String × ObjectId)

inductive Operand where
  | value (value : Value)
  | object (name : String)
  | adapter (name : String)
  deriving DecidableEq, Repr, Inhabited

/-- The value that is mentioned. A name that nothing has any more stands for null. -/
def Operand.get (names : ObjectNames) (objects : Objects) : Operand → Value
  | .value v => v
  | .object name => ((names.lookup name).map Value.object).getD .null
  | .adapter name => (((names.lookup name).bind objects.adapter?).map Value.object).getD .null

inductive Instruction where
  | ret (value : Operand)
  | retArg (index : Nat)
  | retReceiver
  | setArg (index : Nat) (value : Operand)
  | copyArg (target source : Nat)
  | truncateArgs (count : Nat)
  | add (left right : Nat)
  | setField (object : Operand) (index : Nat) (value : Operand)
  | payloadAdd (typeName : String) (n : Int32)
  | fail (cause : NativeFault)
  | panic (text : Option String)
  deriving DecidableEq, Repr, Inhabited

abbrev Routine := List Instruction

structure RoutineState where
  names : ObjectNames
  call : NativeCall
  objects : Objects
  types : TypeTable
  result : Value := .null
  deriving Repr, Inhabited

def RoutineState.get (s : RoutineState) (operand : Operand) : Value :=
  operand.get s.names s.objects

def RoutineState.reply (s : RoutineState) (result : Except NativeFailure Value) : NativeReply :=
  { result, args := s.call.args, objects := s.objects, types := s.types }

namespace Instruction

def step (s : RoutineState) : Instruction → Except NativeFailure RoutineState
  | .ret value => .ok { s with result := s.get value }
  | .retArg index => do
      let value ← (s.call.arg index).mapError .fault
      return { s with result := value }
  | .retReceiver => do
      let value ← s.call.self.mapError .fault
      return { s with result := value }
  | .setArg index value => do
      let call ← (s.call.setArg index (s.get value)).mapError .fault
      return { s with call }
  | .copyArg target source => do
      let value ← (s.call.arg source).mapError .fault
      let call ← (s.call.setArg target value).mapError .fault
      return { s with call }
  | .truncateArgs count => .ok { s with call := { s.call with args := s.call.args.take count } }
  | .add left right => do
      let a ← ((s.call.arg left).bind s.objects.int32).mapError .fault
      let b ← ((s.call.arg right).bind s.objects.int32).mapError .fault
      return { s with result := .i32 (a + b) }
  | .setField object index value =>
      match s.get object with
      | .object id =>
          match s.objects.setField id index (s.get value) with
          | .ok objects => .ok { s with objects }
          | .error fault => .error (.fault (.argument fault.message))
      | other => .error (.fault (.argument ("no object but " ++ s.objects.describe other)))
  | .payloadAdd typeName n => do
      let self ← s.call.self.mapError .fault
      let (sum, objects) ← (s.objects.addToPayload self typeName n).mapError .fault
      return { s with objects, result := .i32 sum }
  | .fail cause => .error (.fault cause)
  | .panic text => .error (.panic text)

end Instruction

namespace Routine

def run (s : RoutineState) : Routine → NativeReply
  | [] => s.reply (.ok s.result)
  | instruction :: rest =>
      match instruction.step s with
      | .ok next => run next rest
      | .error failure => s.reply (.error failure)

def body (names : ObjectNames) (routine : Routine) : NativeBody :=
  fun call objects types => run { names, call, objects, types } routine

end Routine

end NativeBridge
