/-!
# Values of native code

What a native method receives and returns. Floating-point numbers are their bits, so that every
payload of a NaN is kept. An object is known by its number in the store of objects.
-/

namespace NativeBridge

abbrev ObjectId := Nat

inductive Value where
  | null
  | bool (b : Bool)
  | char (c : Char)
  | i8 (n : Int8)
  | u8 (n : UInt8)
  | i16 (n : Int16)
  | u16 (n : UInt16)
  | i32 (n : Int32)
  | u32 (n : UInt32)
  | i64 (n : Int64)
  | u64 (n : UInt64)
  | f32 (bits : UInt32)
  | f64 (bits : UInt64)
  | str (text : String)
  | object (id : ObjectId)
  deriving DecidableEq, Repr, Inhabited

/-! ## Comparison of floating-point bits -/

def sameFloat32 (a b : UInt32) : Bool :=
  let magnitude (bits : UInt32) : UInt32 := bits &&& 0x7fffffff
  if magnitude a > 0x7f800000 || magnitude b > 0x7f800000 then false
  else if magnitude a == 0 && magnitude b == 0 then true
  else a == b

def sameFloat64 (a b : UInt64) : Bool :=
  let magnitude (bits : UInt64) : UInt64 := bits &&& 0x7fffffffffffffff
  if magnitude a > 0x7ff0000000000000 || magnitude b > 0x7ff0000000000000 then false
  else if magnitude a == 0 && magnitude b == 0 then true
  else a == b

namespace Value

def isNull : Value → Bool
  | .null => true
  | _ => false

def objectId? : Value → Option ObjectId
  | .object id => some id
  | _ => none

def same : Value → Value → Bool
  | .f32 a, .f32 b => sameFloat32 a b
  | .f64 a, .f64 b => sameFloat64 a b
  | a, b => a == b

def referents (values : List Value) : List ObjectId := values.filterMap objectId?

end Value

end NativeBridge
