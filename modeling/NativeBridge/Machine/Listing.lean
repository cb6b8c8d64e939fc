import NativeBridge.Machine.Objects
import NativeBridge.Text.Quoted
import NativeBridge.Text.ShortestDecimal

/-!
# Listings of values and objects

How values and objects are shown to a person who looks for a mistake.
-/

namespace NativeBridge

def quotedCharacter (c : Char) : String :=
  let inner := match c with
    | '"' => ['"']
    | '\'' => ['\\', '\'']
    | c => Text.quotedChar c
  "'" ++ String.ofList inner ++ "'"

def bracketed (items : List String) : String := "[" ++ ", ".intercalate items ++ "]"

def record (name : String) (parts : List (String × String)) : String :=
  name ++ " \x7b " ++ ", ".intercalate (parts.map fun part => part.1 ++ ": " ++ part.2) ++ " \x7d"

def flagText (b : Bool) : String := if b then "true" else "false"

namespace Objects

def listing (objects : Objects) (id : ObjectId) : String :=
  match objects.get id with
  | .script self => "Script(" ++ self.typeName ++ ")"
  | .native self => "Native(" ++ self.typeName ++ ")"

def valueListing (objects : Objects) : Value → String
  | .null => "Null"
  | .bool b => "Bool(" ++ flagText b ++ ")"
  | .char c => "Char(" ++ quotedCharacter c ++ ")"
  | .i8 n => "I8(" ++ toString n.toInt ++ ")"
  | .u8 n => "U8(" ++ toString n.toNat ++ ")"
  | .i16 n => "I16(" ++ toString n.toInt ++ ")"
  | .u16 n => "U16(" ++ toString n.toNat ++ ")"
  | .i32 n => "I32(" ++ toString n.toInt ++ ")"
  | .u32 n => "U32(" ++ toString n.toNat ++ ")"
  | .i64 n => "I64(" ++ toString n.toInt ++ ")"
  | .u64 n => "U64(" ++ toString n.toNat ++ ")"
  | .f32 bits => "F32(" ++ Text.float32Text bits ++ ")"
  | .f64 bits => "F64(" ++ Text.float64Text bits ++ ")"
  | .str text => "Str(" ++ Text.quoted text ++ ")"
  | .object id => "Object(" ++ objects.listing id ++ ")"

def detail (objects : Objects) (id : ObjectId) : String :=
  match objects.get id with
  | .script self =>
      record "ScriptInstance"
        [("type_name", Text.quoted self.typeName),
          ("fields", bracketed (self.fields.map objects.valueListing)),
          ("has_adapter", flagText self.adapter.isSome)]
  | .native self =>
      record "NativeInstance"
        [("type_name", Text.quoted self.typeName),
          ("assignable_to", bracketed (self.assignableTo.map Text.quoted)),
          ("is_adapter", flagText self.isAdapter)]

end Objects

end NativeBridge
