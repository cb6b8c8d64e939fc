import NativeBridge.Calls.NativeCall

/-!
# Conversions of typed native code

Typed native code takes numbers and strings by their exact type, and reaches the payload of a native
object by the type of the payload. Nothing is narrowed or coerced here.
-/

namespace NativeBridge

inductive HostType where
  | number (kind : Kind)
  | string
  | value
  deriving DecidableEq, Repr, Inhabited

def HostType.name : HostType → String
  | .number kind => kind.typeName
  | .string => "String"
  | .value => "NativeValue"

inductive PayloadType where
  | nothing
  | int
  | text
  | vector
  | table
  deriving DecidableEq, Repr, Inhabited

def Payload.type : Payload → PayloadType
  | .nothing => .nothing
  | .int _ => .int
  | .text _ => .text
  | .vector _ => .vector
  | .table _ => .table

namespace Objects

def expected (objects : Objects) (typeName : String) (value : Value) : NativeFault :=
  .argument ("expected " ++ typeName ++ ", got " ++ objects.describe value)

def hasType : HostType → Value → Bool
  | .number kind, value => (kind.encode? value).isSome
  | .string, .str _ => true
  | .string, _ => false
  | .value, _ => true

def fromNative (objects : Objects) (type : HostType) (value : Value) : Except NativeFault Value :=
  if hasType type value then .ok value else .error (objects.expected type.name value)

def fromNative? (objects : Objects) (type : HostType) (value : Value) : Except NativeFault Value :=
  if value.isNull then .ok .null else objects.fromNative type value

def nativeId (objects : Objects) (value : Value) (typeName : String) : Except NativeFault ObjectId :=
  match value with
  | .object id =>
      match objects.get id with
      | .native _ => .ok id
      | .script _ => .error (objects.expected typeName value)
  | .null => .error (.argument ("null " ++ typeName))
  | _ => .error (objects.expected typeName value)

def unbox (objects : Objects) (wanted : PayloadType) (value : Value) (typeName : String) :
    Except NativeFault Payload := do
  let id ← objects.nativeId value typeName
  match objects.native? id with
  | some self =>
      if self.payload.type = wanted then return self.payload
      else throw (objects.expected typeName value)
  | none => throw (objects.expected typeName value)

def putPayload (objects : Objects) (id : ObjectId) (payload : Payload) : Objects :=
  match objects.native? id with
  | some self => objects.put id (.native { self with payload })
  | none => objects

def box (objects : Objects) (typeName : String) (payload : Payload) : Value × Objects :=
  let (id, objects) := objects.addNative { typeName, payload }
  (.object id, objects)

def int32 (objects : Objects) (value : Value) : Except NativeFault Int32 :=
  match value with
  | .i32 n => .ok n
  | value => .error (objects.expected "i32" value)

def addToPayload (objects : Objects) (value : Value) (typeName : String) (n : Int32) :
    Except NativeFault (Int32 × Objects) := do
  let id ← objects.nativeId value typeName
  match ← objects.unbox .int value typeName with
  | .int m => return (m + n, objects.putPayload id (.int (m + n)))
  | _ => throw (objects.expected typeName value)

end Objects

end NativeBridge
