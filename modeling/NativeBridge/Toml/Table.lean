/-!
# Tables of a TOML document

A table maps keys to nodes in order of their definition. TOML lets a table be defined piece by
piece, but only in certain ways, so a table remembers how it came about: by its own header, as part
of the path of another header, or by dotted keys.
-/

namespace NativeBridge.Toml

inductive Value where
  | text (s : String)
  | flag (b : Bool)
  | integer
  | float
  | date
  | array
  | inlineTable
  deriving DecidableEq, Repr, Inhabited

inductive Origin where
  | header
  | path
  | dotted
  deriving DecidableEq, Repr, Inhabited

inductive Node where
  | value (v : Value)
  | table (origin : Origin) (entries : List (String × Node))
  | tables (closed : List (List (String × Node))) (last : List (String × Node))
  deriving Repr, Inhabited

abbrev Entries := List (String × Node)

namespace Entries

def get? (entries : Entries) (key : String) : Option Node := entries.lookup key

def put (key : String) (node : Node) : Entries → Entries
  | [] => [(key, node)]
  | entry :: rest => if entry.1 = key then (key, node) :: rest else entry :: put key node rest

def alter (origin : Origin) (change : Entries → Option Entries) :
    List String → Entries → Option Entries
  | [], entries => change entries
  | key :: rest, entries =>
      match entries.get? key with
      | none => do
          let child ← alter origin change rest []
          some (entries.put key (.table origin child))
      | some (.value _) => none
      | some (.table made child) =>
          if origin = .dotted ∧ made = .header then none
          else do
            let child ← alter origin change rest child
            some (entries.put key (.table made child))
      | some (.tables closed last) => do
          let last ← alter origin change rest last
          some (entries.put key (.tables closed last))

def originAt? : List String → Origin → Entries → Option Origin
  | [], origin, _ => some origin
  | key :: rest, _, entries =>
      match entries.get? key with
      | some (.table made child) => originAt? rest made child
      | some (.tables _ last) => originAt? rest .header last
      | _ => none

/-- Adds a value under a dotted key. The table that gets it is the one of the key's last part: made
by dotted keys if there are parts before it, and otherwise the table at hand. -/
def define (path : List String) (key : String) (value : Value) (entries : Entries) :
    Option Entries :=
  let free := match originAt? path .dotted entries with
    | some origin => decide (origin = .dotted)
    | none => true
  if !free then none
  else alter .dotted (fun entries =>
    match entries.get? key with
    | some _ => none
    | none => some (entries.put key (.value value))) path entries

/-- Opens a table by its header. It must be new, or have come about in the path of another header
only. -/
def openTable (path : List String) (key : String) (entries : Entries) : Option Entries :=
  alter .path (fun entries =>
    match entries.get? key with
    | none => some (entries.put key (.table .header []))
    | some (.table .path child) => some (entries.put key (.table .header child))
    | some _ => none) path entries

def openArray (path : List String) (key : String) (entries : Entries) : Option Entries :=
  alter .path (fun entries =>
    match entries.get? key with
    | none => some (entries.put key (.tables [] []))
    | some (.tables closed last) => some (entries.put key (.tables (closed ++ [last]) []))
    | some _ => none) path entries

def defineIn (opened path : List String) (key : String) (value : Value) (entries : Entries) :
    Option Entries :=
  alter .path (define path key value) opened entries

end Entries

end NativeBridge.Toml
