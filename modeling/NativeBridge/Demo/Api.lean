import NativeBridge.Demo.SinglePrecision
import NativeBridge.Demo.Types
import NativeBridge.Source.Execution
import NativeBridge.Source.Reader
import NativeBridge.Source.Rendering

/-!
# The native side of the demo

The functions behind the types of the demo, and the emitted code that reaches them.
-/

namespace NativeBridge.Demo

open Source

/-! ## Functions -/

def mathAdd (a b : Int32) : Int32 := a + b

def vecAdd (a b : Vec2) : Vec2 :=
  { x := SinglePrecision.add a.x b.x, y := SinglePrecision.add a.y b.y }

def vecLength (v : Vec2) : UInt32 :=
  SinglePrecision.sqrt
    (SinglePrecision.add (SinglePrecision.mul v.x v.x) (SinglePrecision.mul v.y v.y))

def tableEntry (t : Table) (key : String) : Except NativeFailure String :=
  match t.get? key with
  | some value => .ok value
  | none => .error (.panic (some ("no entry for key " ++ Text.quoted key)))

/-! ## The demo as emitted code finds it -/

def payloadType? (type : CodeType) : Option PayloadType :=
  if type.tokens = code "demo::Vec2" then some .vector
  else if type.tokens = code "demo::collections::Table<String>" then some .table
  else none

def unknown (name : String) : Except NativeFailure HostReply := .error (.fault (.unbound name))

def perform : HostCall → Except NativeFailure HostReply
  | .static owner method args =>
      if owner.tokens = code "demo::Math" then
        match method.name, args with
        | "Add", [.value (.i32 a), .value (.i32 b)] =>
            .ok { result := .value (.i32 (mathAdd a b)), args }
        | "Swap", [a, b] => .ok { args := [b, a] }
        | name, _ => unknown name
      else unknown method.name
  | .onSelf self method args =>
      match self, method.name with
      | .payload (.vector v), "Length" => .ok { result := .value (.f32 (vecLength v)), self, args }
      | _, name => unknown name
  | .entry self key =>
      match self, key with
      | .payload (.table t), .value (.str k) => do
          let value ← tableEntry t k
          return { result := .value (.str value), self }
      | _, _ => unknown "index"
  | .setEntry self key value =>
      match self, key, value with
      | .payload (.table t), .value (.str k), .value (.str v) =>
          .ok { self := .payload (.table (t.insert k v)) }
      | _, _, _ => unknown "index"
  | .binary .addition (.payload (.vector a)) (.payload (.vector b)) =>
      .ok { result := .payload (.vector (vecAdd a b)) }
  | .binary op _ _ => unknown op.symbol
  | .negation _ => unknown "-"

def api : NativeApi := { payloadType?, perform }

/-! ## Emitted code -/

def bindings : Except BindingError SingleFile := do
  let options : Options := {}
  let generation ← Generation.generate catalogue options
  (← Rendering.ofGeneration generation options).singleFile

end NativeBridge.Demo
