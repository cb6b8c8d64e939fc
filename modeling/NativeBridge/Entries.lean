/-!
# Lists of entries

An entry is a value under a key. The entries of a table, a registry or a folder are kept in a list,
in which no key occurs twice.
-/

namespace NativeBridge

variable {κ α : Type} [DecidableEq κ]

def insertEntry (key : κ) (value : α) : List (κ × α) → List (κ × α)
  | [] => [(key, value)]
  | entry :: rest =>
      if entry.1 = key then (key, value) :: rest else entry :: insertEntry key value rest

end NativeBridge
