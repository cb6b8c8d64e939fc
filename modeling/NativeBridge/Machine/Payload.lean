import NativeBridge.Entries

/-!
# Payloads

The native value inside a native object. Single-precision coordinates are their bits.
-/

namespace NativeBridge

structure Vec2 where
  x : UInt32
  y : UInt32
  deriving DecidableEq, Repr, Inhabited

structure Table where
  entries : List (String × String) := []
  deriving DecidableEq, Repr, Inhabited

namespace Table

def get? (table : Table) (key : String) : Option String := table.entries.lookup key

def size (table : Table) : Nat := table.entries.length

def isEmpty (table : Table) : Bool := table.entries.isEmpty

def insert (table : Table) (key value : String) : Table :=
  { entries := insertEntry key value table.entries }

end Table

inductive Payload where
  | nothing
  | int (n : Int32)
  | text (s : String)
  | vector (v : Vec2)
  | table (t : Table)
  deriving DecidableEq, Repr, Inhabited

end NativeBridge
