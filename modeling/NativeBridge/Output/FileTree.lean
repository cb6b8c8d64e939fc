import NativeBridge.Entries
import NativeBridge.Output.Path

/-!
# Files and folders

What the program needs of a file system, and a tree of files and folders that provides it as a
value. A place in the tree is the list of names that lead to it from the root. Writing a file
replaces a file of the same name, but no folder, and makes no folder on the way.
-/

namespace NativeBridge

structure FileAccess (m : Type → Type) where
  read : String → m (Option String)
  makeFolders : String → m Bool
  write : String → String → m Bool

inductive FileTree where
  | file (text : String)
  | folder (entries : List (String × FileTree))
  deriving Repr, Inhabited

inductive Obstacle where
  | missing
  | blocked
  deriving DecidableEq, Repr

namespace FileTree

def empty : FileTree := .folder []

/-! ## Places -/

def find? : List String → FileTree → Option FileTree
  | [], tree => some tree
  | name :: rest, .folder entries => (entries.lookup name).bind (find? rest)
  | _ :: _, .file _ => none

def textAt? (place : List String) (tree : FileTree) : Option String :=
  match tree.find? place with
  | some (.file text) => some text
  | _ => none

def isFolderAt (place : List String) (tree : FileTree) : Bool :=
  match tree.find? place with
  | some (.folder _) => true
  | _ => false

def withFolders : List String → FileTree → Option FileTree
  | [], .folder entries => some (.folder entries)
  | name :: rest, .folder entries =>
      if Path.maxNameBytes < name.utf8ByteSize then none
      else (withFolders rest ((entries.lookup name).getD empty)).map fun inner =>
        .folder (insertEntry name inner entries)
  | _, .file _ => none

def withFile (text : String) : List String → FileTree → Option FileTree
  | [name], .folder entries =>
      if Path.maxNameBytes < name.utf8ByteSize then none
      else match entries.lookup name with
        | some (.folder _) => none
        | _ => some (.folder (insertEntry name (.file text) entries))
  | name :: rest, .folder entries =>
      (entries.lookup name).bind fun inner =>
        (withFile text rest inner).map fun inner => .folder (insertEntry name inner entries)
  | _, _ => none

/-! ## Following paths -/

/-- The place that steps lead to from another place. A step can only be taken in a folder, and there
is nothing above the root. -/
def walk (tree : FileTree) : List String → List String → Except Obstacle (List String)
  | [], place => .ok place
  | step :: rest, place =>
      if !tree.isFolderAt place then .error .blocked
      else if step = "." then tree.walk rest place
      else if step = ".." then tree.walk rest place.dropLast
      else if Path.maxNameBytes < step.utf8ByteSize then .error .blocked
      else if (tree.find? (place ++ [step])).isNone then .error .missing
      else tree.walk rest (place ++ [step])

def start (home : List String) (path : Path) : List String := if path.fromRoot then [] else home

def readPath (home : List String) (path : Path) (tree : FileTree) : Option String :=
  match tree.walk path.steps (start home path) with
  | .ok place => if path.toFolder then none else tree.textAt? place
  | .error _ => none

def parent (home : List String) (path : Path) (tree : FileTree) :
    Except Obstacle (List String × Option String) := do
  let place ← tree.walk path.steps.dropLast (start home path)
  if tree.isFolderAt place then
    return (place, path.steps.getLast?.filter fun name => name != "." && name != "..")
  else throw .blocked

def writePath (home : List String) (path : Path) (text : String) (tree : FileTree) :
    Option FileTree :=
  match tree.parent home path with
  | .ok (place, some name) =>
      if path.toFolder then none else tree.withFile text (place ++ [name])
  | _ => none

def makeFolder (home : List String) (path : Path) (tree : FileTree) : Except Obstacle FileTree := do
  match ← tree.parent home path with
  | (_, none) => return tree
  | (place, some name) =>
      match tree.withFolders (place ++ [name]) with
      | some tree => return tree
      | none => throw .blocked

/-- Makes the folder of the first path. If a folder on the way is missing, those of the other paths,
each of which is above the one before it, are made first. Answers whether the folder is there, and
what is in the tree then. -/
def makeChain (home : List String) : List Path → FileTree → Bool × FileTree
  | [], tree => (true, tree)
  | path :: above, tree =>
      match tree.makeFolder home path with
      | .ok tree => (true, tree)
      | .error .blocked => (false, tree)
      | .error .missing =>
          let (made, tree) := tree.makeChain home above
          match made, tree.makeFolder home path with
          | true, .ok tree => (true, tree)
          | _, _ => (false, tree)

/-! ## Operations -/

def access (home : List String) : FileAccess (StateM FileTree) where
  read text := do
    let tree ← get
    return (Path.ofText? text).bind fun path => tree.readPath home path
  makeFolders text := modifyGet fun tree =>
    match Path.ofText? text with
    | some path => tree.makeChain home (path :: path.above)
    | none => (false, tree)
  write text content := modifyGet fun tree =>
    match (Path.ofText? text).bind fun path => tree.writePath home path content with
    | some tree => (true, tree)
    | none => (false, tree)

end FileTree

end NativeBridge
