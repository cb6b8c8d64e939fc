import NativeBridge.Machine.Objects
import NativeBridge.Machine.EvalStack
import NativeBridge.Text.JsonForms

/-!
# Snapshots as JSON

Slots, values, payloads and locations as JSON. A value is an object with one member whose key is its
type; how an object is written is up to the reader of the snapshot.
-/

namespace NativeBridge

def Slot.snapshot (slot : Slot) : Json :=
  .array [.string slot.tag.name, .wide slot.word.toNat, .int slot.low.toInt]

def Value.snapshot (object : ObjectId → Json) : Value → Json
  | .null => .null
  | .bool b => .single "bool" (.bool b)
  | .char c => .single "char" (.ofNat c.toNat)
  | .i8 n => .single "i8" (.int n.toInt)
  | .u8 n => .single "u8" (.ofNat n.toNat)
  | .i16 n => .single "i16" (.int n.toInt)
  | .u16 n => .single "u16" (.ofNat n.toNat)
  | .i32 n => .single "i32" (.int n.toInt)
  | .u32 n => .single "u32" (.ofNat n.toNat)
  | .i64 n => .single "i64" (.wide n.toInt)
  | .u64 n => .single "u64" (.wide n.toNat)
  | .f32 bits => .single "f32" (.bits 8 bits.toNat)
  | .f64 bits => .single "f64" (.bits 16 bits.toNat)
  | .str text => .single "str" (.string text)
  | .object id => object id

def Vec2.snapshot (v : Vec2) : Json := .array [.bits 8 v.x.toNat, .bits 8 v.y.toNat]

def Payload.snapshot? : Payload → Option Json
  | .int n => some (.single "i32" (.int n.toInt))
  | .text s => some (.single "str" (.string s))
  | .vector v => some (.single "vec2" v.snapshot)
  | .nothing | .table _ => none

def Instance.snapshot : Instance → Json
  | .script self => .single "script" (.string self.typeName)
  | .native self =>
      .object ([("native", .string self.typeName), ("is_adapter", .bool self.isAdapter)] ++
        (self.payload.snapshot?.map fun payload => ("payload", payload)).toList)

def Location.snapshot : Location → Json
  | .slot index => .single "slot" (.wide index)
  | .field object index => .single "field" (.array [.wide object, .wide index])
  | .static typeId index => .single "static" (.array [.wide typeId, .wide index])

end NativeBridge
