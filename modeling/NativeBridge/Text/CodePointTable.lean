/-!
# Tables of code points

A property of characters as a list of closed ranges, in ascending order.
-/

namespace NativeBridge.Text

abbrev CodePointTable := List (Nat × Nat)

def CodePointTable.mem (table : CodePointTable) (c : Char) : Bool :=
  table.any fun range => range.1 ≤ c.toNat && c.toNat ≤ range.2

end NativeBridge.Text
