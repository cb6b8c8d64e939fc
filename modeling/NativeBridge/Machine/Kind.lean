import NativeBridge.Text.Hex
import NativeBridge.Machine.Slot
import NativeBridge.Machine.Value
import NativeBridge.Machine.Fault

/-!
# Kinds of values

A declared type is marshalled as one of twelve numeric kinds or as an object. A numeric kind fixes
the tag of the slot that holds it and the bits of its word:

- `encode?` writes a value of exactly that kind as a slot; narrow integers are extended to 32 bits;
- `decode` reads a slot with the kind's tag and drops the bits the kind has no room for;
- `narrow` reads a value of another kind as if it had gone through a slot.
-/

namespace NativeBridge

inductive Kind where
  | int32
  | int64
  | int16
  | bool
  | uint16
  | float32
  | float64
  | byte
  | sbyte
  | uint32
  | char
  | uint64
  | object
  deriving DecidableEq, Repr, Inhabited

namespace Kind

def numeric : List Kind :=
  [.int32, .int64, .int16, .bool, .uint16, .float32, .float64, .byte, .sbyte, .uint32, .char,
    .uint64]

def isNumeric : Kind → Bool
  | .object => false
  | _ => true

def typeName : Kind → String
  | .int32 => "i32"
  | .int64 => "i64"
  | .int16 => "i16"
  | .bool => "bool"
  | .uint16 => "u16"
  | .float32 => "f32"
  | .float64 => "f64"
  | .byte => "u8"
  | .sbyte => "i8"
  | .uint32 => "u32"
  | .char => "char"
  | .uint64 => "u64"
  | .object => "object"

def name : Kind → String
  | .int32 => "Int32"
  | .int64 => "Int64"
  | .int16 => "Int16"
  | .bool => "Bool"
  | .uint16 => "UInt16"
  | .float32 => "Float32"
  | .float64 => "Float64"
  | .byte => "Byte"
  | .sbyte => "SByte"
  | .uint32 => "UInt32"
  | .char => "Char"
  | .uint64 => "UInt64"
  | .object => "Object"

def tag? : Kind → Option Tag
  | .int64 | .uint64 => some .long
  | .float32 => some .float
  | .float64 => some .double
  | .object => none
  | _ => some .integer

/-! ## Writing and reading slots -/

def encode? : Kind → Value → Option Slot
  | .int32, .i32 n => some (.integer n)
  | .int64, .i64 n => some (.long n)
  | .int16, .i16 n => some (.integer n.toInt32)
  | .bool, .bool b => some (.integer (if b then 1 else 0))
  | .uint16, .u16 n => some (.integer n.toUInt32.toInt32)
  | .float32, .f32 bits => some (.float bits)
  | .float64, .f64 bits => some (.double bits)
  | .byte, .u8 n => some (.integer n.toUInt32.toInt32)
  | .sbyte, .i8 n => some (.integer n.toInt32)
  | .uint32, .u32 n => some (.integer n.toInt32)
  | .char, .char c => some (.integer c.val.toInt32)
  | .uint64, .u64 n => some (.long n.toInt64)
  | _, _ => none

/-- The character with the given code point, unless the code point is a surrogate or too large. -/
def charOfBits? (bits : UInt32) : Option Char :=
  if valid : bits.isValidChar then some ⟨bits, valid⟩ else none

/-- The bits of a slot as a value of the kind, whatever the tag; a character needs a valid code
point, and no object has bits. -/
def ofBits? (kind : Kind) (slot : Slot) : Option Value :=
  let low := slot.word.toUInt32
  match kind with
  | .int32 => some (.i32 slot.intBits)
  | .int64 => some (.i64 slot.longBits)
  | .int16 => some (.i16 slot.intBits.toInt16)
  | .bool => some (.bool (slot.intBits == 1))
  | .uint16 => some (.u16 low.toUInt16)
  | .float32 => some (.f32 slot.floatBits)
  | .float64 => some (.f64 slot.doubleBits)
  | .byte => some (.u8 low.toUInt8)
  | .sbyte => some (.i8 slot.intBits.toInt8)
  | .uint32 => some (.u32 low)
  | .char => (charOfBits? low).map .char
  | .uint64 => some (.u64 slot.word)
  | .object => none

def decode (kind : Kind) (slot : Slot) : Except Fault Value :=
  match kind.tag? with
  | none => .error (.typeMismatch "numeric kind" kind.typeName)
  | some tag =>
      if slot.tag ≠ tag then .error (.typeMismatch kind.typeName (slot.tag.name ++ " slot"))
      else match kind.ofBits? slot with
        | some value => .ok value
        | none =>
            let bits := String.ofList (Text.hexDigits slot.word.toUInt32.toNat)
            .error (.typeMismatch kind.typeName ("invalid scalar value 0x" ++ bits))

def ofValue? : Value → Option Kind
  | .bool _ => some .bool
  | .char _ => some .char
  | .i8 _ => some .sbyte
  | .u8 _ => some .byte
  | .i16 _ => some .int16
  | .u16 _ => some .uint16
  | .i32 _ => some .int32
  | .u32 _ => some .uint32
  | .i64 _ => some .int64
  | .u64 _ => some .uint64
  | .f32 _ => some .float32
  | .f64 _ => some .float64
  | .null | .str _ | .object _ => none

def boxSlot? (slot : Slot) : Option Value :=
  match slot.tag with
  | .integer => some (.i32 slot.intBits)
  | .long => some (.i64 slot.longBits)
  | .float => some (.f32 slot.floatBits)
  | .double => some (.f64 slot.doubleBits)
  | _ => none

def slotOf? (value : Value) : Option Slot := (ofValue? value).bind (·.encode? value)

end Kind

end NativeBridge
