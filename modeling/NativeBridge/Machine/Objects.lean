import NativeBridge.Machine.Kind
import NativeBridge.Machine.Payload

/-!
# The store of objects

Objects come in two flavours. A script instance belongs to the interpreter; a native instance
belongs to native code and carries a payload. A script instance whose type derives from a native
type owns an *adapter*, a native instance that stands for it; the adapter points back, but does not
keep its script instance.

- A value that moves into a cell of the interpreter is unwrapped (an adapter becomes its script
  instance); one that moves into a cell of native code is wrapped.
- An object is live as long as something holds it. `collect` ends the life of every object that
  nothing holds; objects that hold each other in a ring stay.
-/

namespace NativeBridge

structure ScriptInstance where
  typeName : String
  fields : List Value := []
  adapter : Option ObjectId := none
  deriving DecidableEq, Repr, Inhabited

structure NativeInstance where
  typeName : String
  assignableTo : List String := []
  fields : List Value := []
  payload : Payload := .nothing
  script : Option ObjectId := none
  deriving DecidableEq, Repr, Inhabited

namespace NativeInstance

def isAdapter (native : NativeInstance) : Bool := native.script.isSome

def isInstanceOf (native : NativeInstance) (target : String) : Bool :=
  native.typeName == target || native.assignableTo.contains target

end NativeInstance

inductive Instance where
  | script (self : ScriptInstance)
  | native (self : NativeInstance)
  deriving DecidableEq, Repr

instance : Inhabited Instance := ⟨.script { typeName := "" }⟩

namespace Instance

def typeName : Instance → String
  | .script self => self.typeName
  | .native self => self.typeName

def fields : Instance → List Value
  | .script self => self.fields
  | .native self => self.fields

def withFields (fields : List Value) : Instance → Instance
  | .script self => .script { self with fields }
  | .native self => .native { self with fields }

def held : Instance → List ObjectId
  | .script self => self.adapter.toList ++ Value.referents self.fields
  | .native self => Value.referents self.fields

end Instance

structure ObjectCell where
  content : Instance
  live : Bool := true
  deriving DecidableEq, Repr, Inhabited

structure Objects where
  cells : List ObjectCell := []
  deriving DecidableEq, Repr, Inhabited

namespace Objects

/-! ## Reading -/

def get (objects : Objects) (id : ObjectId) : Instance :=
  match objects.cells[id]? with
  | some cell => cell.content
  | none => default

def isLive (objects : Objects) (id : ObjectId) : Bool :=
  match objects.cells[id]? with
  | some cell => cell.live
  | none => false

def describe (objects : Objects) : Value → String
  | .null => "null"
  | .bool _ => "bool"
  | .char _ => "char"
  | .i8 _ => "i8"
  | .u8 _ => "u8"
  | .i16 _ => "i16"
  | .u16 _ => "u16"
  | .i32 _ => "i32"
  | .u32 _ => "u32"
  | .i64 _ => "i64"
  | .u64 _ => "u64"
  | .f32 _ => "f32"
  | .f64 _ => "f64"
  | .str _ => "String"
  | .object id => (objects.get id).typeName

def native? (objects : Objects) (id : ObjectId) : Option NativeInstance :=
  match objects.get id with
  | .native self => some self
  | .script _ => none

def adapter? (objects : Objects) (id : ObjectId) : Option ObjectId :=
  match objects.get id with
  | .script self => self.adapter
  | .native _ => none

def liveScript? (objects : Objects) (id : ObjectId) : Option ObjectId :=
  match objects.get id with
  | .script _ => none
  | .native self => self.script.filter objects.isLive

def isInstanceOf (objects : Objects) (id : ObjectId) (target : String) : Bool :=
  match objects.native? id with
  | some self => self.isInstanceOf target
  | none => false

/-! ## Crossing the boundary -/

def unwrapAdapter (objects : Objects) : Value → Value
  | .object id => .object ((objects.liveScript? id).getD id)
  | value => value

def wrapAdapter (objects : Objects) : Value → Value
  | .object id => .object ((objects.adapter? id).getD id)
  | value => value

/-! ## Numbers -/

def encode (objects : Objects) (kind : Kind) (value : Value) : Except Fault Slot :=
  match kind.encode? value with
  | some slot => .ok slot
  | none => .error (.typeMismatch kind.typeName (objects.describe value))

def narrow (objects : Objects) (kind : Kind) (value : Value) : Except Fault Value :=
  match Kind.slotOf? value with
  | some slot => kind.decode slot
  | none => .error (.typeMismatch kind.typeName (objects.describe value))

/-! ## Fields -/

def field (objects : Objects) (id : ObjectId) (index : Nat) : Except Fault Value :=
  match (objects.get id).fields[index]? with
  | some value => .ok value
  | none => .error (.invalidField (objects.get id).typeName index)

def put (objects : Objects) (id : ObjectId) (content : Instance) : Objects :=
  { cells := objects.cells.modify id fun cell => { cell with content } }

/-- The value as an object of the given flavour stores it. -/
def storedIn (objects : Objects) (owner : Instance) (value : Value) : Value :=
  match owner with
  | .script _ => objects.unwrapAdapter value
  | .native _ => objects.wrapAdapter value

def setField (objects : Objects) (id : ObjectId) (index : Nat) (value : Value) :
    Except Fault Objects :=
  let owner := objects.get id
  if index < owner.fields.length then
    .ok (objects.put id (owner.withFields (owner.fields.set index (objects.storedIn owner value))))
  else .error (.invalidField owner.typeName index)

/-! ## Making objects -/

def add (objects : Objects) (content : Instance) : ObjectId × Objects :=
  (objects.cells.length, { cells := objects.cells ++ [{ content }] })

def addScript (objects : Objects) (typeName : String) (fieldCount : Nat) : ObjectId × Objects :=
  objects.add (.script { typeName, fields := List.replicate fieldCount .null })

def addAdapted (objects : Objects) (typeName : String) (fieldCount : Nat) (nativeType : String)
    (assignableTo : List String) : ObjectId × Objects :=
  let id := objects.cells.length
  let script : ScriptInstance :=
    { typeName, fields := List.replicate fieldCount .null, adapter := some (id + 1) }
  let (_, objects) := objects.add (.script script)
  let (_, objects) := objects.add
    (.native { typeName := nativeType, assignableTo, script := some id })
  (id, objects)

def addNative (objects : Objects) (self : NativeInstance) : ObjectId × Objects :=
  objects.add (.native self)

/-! ## The end of objects -/

def heldByLive (objects : Objects) : List ObjectId :=
  objects.cells.flatMap fun cell => if cell.live then cell.content.held else []

def sweep (handles : List ObjectId) (objects : Objects) : Objects :=
  let kept := handles ++ objects.heldByLive
  { cells := objects.cells.mapIdx fun id cell =>
      { cell with live := cell.live && kept.contains id } }

def liveCount (objects : Objects) : Nat := objects.cells.countP (·.live)

def collectRounds (handles : List ObjectId) : Nat → Objects → Objects
  | 0, objects => objects
  | rounds + 1, objects =>
      let swept := objects.sweep handles
      if swept.liveCount = objects.liveCount then swept else collectRounds handles rounds swept

/-- Ends the life of every object that the handles and the live objects no longer keep. Each round
but the last ends at least one life, so as many rounds as objects are enough. -/
def collect (handles : List ObjectId) (objects : Objects) : Objects :=
  objects.collectRounds handles (objects.cells.length + 1)

end Objects

end NativeBridge
