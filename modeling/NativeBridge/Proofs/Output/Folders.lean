import NativeBridge.Output.Writing
import NativeBridge.Proofs.Output.Places

/-!
# Files of a folder

A folder that a path leads to stays where it is while files are written into it. The files are then
found by their names.

* `opens_makeFolder`, `Opens.makeFolder`: a folder that was made is there, and need not be made
  again.
* `Opens.readPath_eq_some_iff`, `Opens.writePath_eq`: a file of the folder is read and written at
  its place.
-/

namespace NativeBridge

/-! ## Paths of files -/

structure Path.IsPlain (name : String) : Prop where
  unslashed : '/' ∉ name.toList
  filled : name.toList ≠ []
  notHere : name ≠ "."
  notUp : name ≠ ".."

variable {folder name : String}

theorem Path.namesOf_append (text rest : List Char) :
    namesOf (text ++ '/' :: rest) = namesOf text ++ namesOf rest := by
  simp only [namesOf, List.splitOn_append_cons_self, List.filter_append, List.map_append]

theorem Path.namesOf_plain (plain : IsPlain name) : namesOf name.toList = [name] := by
  have whole := List.splitOn_eq_singleton plain.unslashed
  have filled : (!name.toList.isEmpty) = true := by simpa using plain.filled
  rw [namesOf, whole, List.filter_singleton, filled]
  simp

theorem toList_pathIn (folder name : String) :
    ∃ front, (pathIn folder name).toList = front ++ name.toList ∧
      Path.namesOf front = Path.namesOf folder.toList ∧
      (front = [] ∨ ∃ before, front = before ++ ['/']) ∧
      front.head? = folder.toList.head? := by
  rw [pathIn]
  split
  · rename_i empty
    have empty := List.getLast?_eq_none_iff.mp empty
    exact ⟨[], by simp [empty], by rw [empty], .inl rfl, by rw [empty]⟩
  · rename_i last
    obtain ⟨before, slashed⟩ := List.getLast?_eq_some_iff.mp last
    exact ⟨folder.toList, by simp, rfl, .inr ⟨before, slashed⟩, rfl⟩
  · rename_i c _ last
    obtain ⟨before, ends⟩ := List.getLast?_eq_some_iff.mp last
    refine ⟨folder.toList ++ ['/'], by simp, ?_, .inr ⟨_, rfl⟩, by simp [ends]⟩
    rw [Path.namesOf_append]
    exact List.append_nil _

theorem Path.ofText?_pathIn {path : Path} (found : ofText? folder = some path)
    (plain : IsPlain name) :
    ofText? (pathIn folder name) =
      if maxBytes < (pathIn folder name).utf8ByteSize then none
      else some { path with steps := path.steps ++ [name], toFolder := false } := by
  obtain ⟨front, chars, names, slashed, head⟩ := toList_pathIn folder name
  have path : path = ⟨folder.toList.head? == some '/', namesOf folder.toList,
      folder.toList.getLast? == some '/'⟩ := by
    rw [ofText?] at found
    split at found
    · cases found
    · exact (Option.some.inj found).symm
  have steps : namesOf (front ++ name.toList) = namesOf folder.toList ++ [name] := by
    rw [← names]
    rcases slashed with rfl | ⟨before, rfl⟩
    · exact namesOf_plain plain
    · rw [List.append_assoc, List.singleton_append, namesOf_append, namesOf_append,
        namesOf_plain plain]
      exact congrArg (· ++ [name]) (List.append_nil _).symm
  have fromRoot :
      ((front ++ name.toList).head? == some '/') = (folder.toList.head? == some '/') := by
    rw [← head, List.head?_append]
    cases front with
    | nil => simpa using fun first => plain.unslashed (List.mem_of_mem_head? first)
    | cons c rest => rfl
  have toFolder : ((front ++ name.toList).getLast? == some '/') = false := by
    rw [List.getLast?_append_of_ne_nil _ plain.filled]
    simpa using fun last => plain.unslashed (List.mem_of_mem_getLast? last)
  rw [ofText?, chars, steps, fromRoot, toFolder, path]

/-! ## Folders that are there -/

namespace FileTree

variable {home place : List String} {path : Path} {tree after : FileTree} {text : String}

def lastName? (path : Path) : Option String :=
  path.steps.getLast?.filter fun name => name != "." && name != ".."

structure Opens (home : List String) (path : Path) (place : List String) (tree : FileTree) :
    Prop where
  reached : tree.walk path.steps (start home path) = .ok place
  folder : tree.viewAt? place = some .folder
  short : (lastName? path).isSome → ∀ name ∈ place, name.utf8ByteSize ≤ Path.maxNameBytes

theorem parent_eq_ok {last : Option String} : tree.parent home path = .ok (place, last) ↔
    tree.walk path.steps.dropLast (start home path) = .ok place ∧
      tree.viewAt? place = some .folder ∧ last = lastName? path := by
  rw [parent, bind_eq_ok, ← isFolderAt_iff]
  constructor
  · rintro ⟨reached, walked, found⟩
    split at found
    · obtain ⟨rfl, rfl⟩ := Prod.mk.inj (pure_eq_ok.mp found)
      exact ⟨walked, ‹_›, rfl⟩
    · cases found
  · rintro ⟨walked, folder, rfl⟩
    exact ⟨place, walked, by rw [if_pos folder]; rfl⟩

theorem makeFolder_eq_ok : tree.makeFolder home path = .ok after ↔
    ∃ place, tree.walk path.steps.dropLast (start home path) = .ok place ∧
      tree.viewAt? place = some .folder ∧
        match lastName? path with
        | none => after = tree
        | some name => tree.withFolders (place ++ [name]) = some after := by
  rw [makeFolder, bind_eq_ok]
  constructor
  · rintro ⟨⟨place, last⟩, found, made⟩
    obtain ⟨walked, folder, rfl⟩ := parent_eq_ok.mp found
    refine ⟨place, walked, folder, ?_⟩
    cases last : lastName? path with
    | none =>
        rw [last] at made
        exact (pure_eq_ok.mp made).symm
    | some name =>
        rw [last] at made
        simp only at made ⊢
        split at made
        · rename_i made'
          rw [made', pure_eq_ok.mp made]
        · cases made
  · rintro ⟨place, walked, folder, made⟩
    refine ⟨(place, lastName? path), parent_eq_ok.mpr ⟨walked, folder, rfl⟩, ?_⟩
    cases last : lastName? path with
    | none =>
        rw [last] at made
        exact pure_eq_ok.mpr made.symm
    | some name =>
        rw [last] at made
        simp only at made ⊢
        rw [made]
        rfl

theorem Opens.mono (opens : Opens home path place tree) (grows : tree.Grows after) :
    Opens home path place after where
  reached := walk_mono grows opens.reached
  folder := grows.folder opens.folder
  short := opens.short

theorem lastName?_cases (path : Path) :
    (path.steps = [] ∧ lastName? path = none) ∨
    (∃ steps last, path.steps = steps ++ [last] ∧ (last = "." ∨ last = "..") ∧
      lastName? path = none) ∨
    ∃ steps last, path.steps = steps ++ [last] ∧ last ≠ "." ∧ last ≠ ".." ∧
      lastName? path = some last := by
  rcases List.eq_nil_or_concat' path.steps with empty | ⟨steps, last, ends⟩
  · exact .inl ⟨empty, by rw [lastName?, empty]; rfl⟩
  · have named : lastName? path =
        if (last != "." && last != "..") = true then some last else none := by
      rw [lastName?, ends, List.getLast?_concat, Option.filter_some]
    by_cases name : last ≠ "." ∧ last ≠ ".."
    · rw [if_pos (by simpa using name)] at named
      exact .inr (.inr ⟨steps, last, ends, name.1, name.2, named⟩)
    · rw [if_neg (by simpa using name)] at named
      exact .inr (.inl ⟨steps, last, ends, by grind, named⟩)

theorem opens_makeFolder (made : tree.makeFolder home path = .ok after) :
    ∃ place, Opens home path place after := by
  obtain ⟨place, walked, folder, made⟩ := makeFolder_eq_ok.mp made
  rcases lastName?_cases path with
    ⟨empty, unnamed⟩ | ⟨steps, last, ends, moves, unnamed⟩ |
      ⟨steps, last, ends, notHere, notUp, named⟩
  · rw [unnamed] at made
    rw [empty, List.dropLast_nil] at walked
    subst made
    exact ⟨place, by rw [empty]; exact walked, folder, by simp [unnamed]⟩
  · rw [unnamed] at made
    rw [ends, List.dropLast_concat] at walked
    subst made
    rcases moves with rfl | rfl
    · refine ⟨place, ?_, folder, by simp [unnamed]⟩
      rw [ends, walk_append, walked]
      exact walk_singleton_eq_ok.mpr ⟨folder, .inl ⟨rfl, rfl⟩⟩
    · refine ⟨place.dropLast, ?_, viewAt?_dropLast folder, by simp [unnamed]⟩
      rw [ends, walk_append, walked]
      exact walk_singleton_eq_ok.mpr ⟨folder, .inr (.inl ⟨rfl, rfl⟩)⟩
  · rw [named] at made
    rw [ends, List.dropLast_concat] at walked
    have grows := grows_withFolders made
    have there : after.viewAt? (place ++ [last]) = some .folder := by
      rw [viewAt?_withFolders made, if_pos List.prefix_rfl]
    have short := short_of_withFolders made
    refine ⟨place ++ [last], ?_, there, fun _ => short⟩
    rw [ends, walk_append, walk_mono grows walked]
    refine walk_singleton_eq_ok.mpr ⟨grows.folder folder, .inr (.inr ?_)⟩
    exact ⟨notHere, notUp, short last (by simp), by rw [there]; rfl, rfl⟩

theorem Opens.makeFolder (opens : Opens home path place tree) :
    tree.makeFolder home path = .ok tree := by
  rw [makeFolder_eq_ok]
  have reached := opens.reached
  rcases lastName?_cases path with
    ⟨empty, unnamed⟩ | ⟨steps, last, ends, moves, unnamed⟩ |
      ⟨steps, last, ends, notHere, notUp, named⟩
  · rw [empty] at reached ⊢
    exact ⟨place, reached, opens.folder, by rw [unnamed]⟩
  all_goals
    rw [ends, walk_append, bind_eq_ok] at reached
    obtain ⟨before, walked, moved⟩ := reached
    obtain ⟨folder, moved⟩ := walk_singleton_eq_ok.mp moved
    rw [ends, List.dropLast_concat]
    refine ⟨before, walked, folder, ?_⟩
  · rw [unnamed]
  · obtain ⟨same, -⟩ | ⟨same, -⟩ | ⟨-, -, -, -, rfl⟩ := moved
    · cases notHere same
    · cases notUp same
    · rw [named]
      exact withFolders_self (isFolderAt_iff.mpr opens.folder) (opens.short (by rw [named]; rfl))

theorem opens_makeChain {above : List Path}
    (made : tree.makeChain home (path :: above) = (true, after)) :
    ∃ place, Opens home path place after := by
  rw [FileTree.makeChain] at made
  split at made
  · rename_i made'
    obtain ⟨-, rfl⟩ := Prod.mk.inj made
    exact opens_makeFolder made'
  · cases made
  · simp only at made
    split at made
    · rename_i made'
      obtain ⟨-, rfl⟩ := Prod.mk.inj made
      exact opens_makeFolder made'
    · cases made

theorem Opens.makeChain (opens : Opens home path place tree) (above : List Path) :
    tree.makeChain home (path :: above) = (true, tree) := by
  rw [FileTree.makeChain, opens.makeFolder]

/-! ## Files in a folder -/

def inFolder (path : Path) (name : String) : Path :=
  { path with steps := path.steps ++ [name], toFolder := false }

theorem Opens.readPath_eq_some_iff (opens : Opens home path place tree) {name : String}
    (plain : Path.IsPlain name) : tree.readPath home (inFolder path name) = some text ↔
      name.utf8ByteSize ≤ Path.maxNameBytes ∧
        tree.viewAt? (place ++ [name]) = some (.text text) := by
  have walked : tree.walk (inFolder path name).steps (start home (inFolder path name)) =
      tree.walk [name] place := by
    rw [inFolder, walk_append]
    exact congrArg (· >>= tree.walk [name]) opens.reached
  have taken {other : List String} : tree.walk [name] place = .ok other ↔
      name.utf8ByteSize ≤ Path.maxNameBytes ∧ (tree.viewAt? (place ++ [name])).isSome ∧
        other = place ++ [name] := by
    rw [walk_singleton_eq_ok]
    simp only [opens.folder, plain.notHere, plain.notUp, false_and, false_or, ne_eq,
      not_false_eq_true, true_and]
  have notFolder : (inFolder path name).toFolder = false := rfl
  rw [readPath, walked, notFolder]
  constructor
  · intro read
    split at read
    · rename_i found
      obtain ⟨short, -, rfl⟩ := taken.mp found
      exact ⟨short, textAt?_eq_some_iff.mp read⟩
    · cases read
  · rintro ⟨short, there⟩
    rw [taken.mpr ⟨short, by rw [there]; rfl, rfl⟩]
    exact textAt?_eq_some_iff.mpr there

theorem Opens.writePath_eq (opens : Opens home path place tree) {name : String}
    (plain : Path.IsPlain name) (text : String) :
    tree.writePath home (inFolder path name) text = tree.withFile text (place ++ [name]) := by
  have last : lastName? (inFolder path name) = some name := by
    have named : (name != "." && name != "..") = true := by simp [plain.notHere, plain.notUp]
    rw [lastName?, inFolder, List.getLast?_concat, Option.filter_some, if_pos named]
  have walked : tree.walk (inFolder path name).steps.dropLast (start home (inFolder path name)) =
      .ok place := by
    rw [inFolder, List.dropLast_concat]
    exact opens.reached
  rw [writePath, parent_eq_ok.mpr ⟨walked, opens.folder, last.symm⟩]
  rfl

def textIn? (home : List String) (folder name : String) (tree : FileTree) : Option String :=
  (Path.ofText? (pathIn folder name)).bind fun path => tree.readPath home path

def putIn? (home : List String) (folder name text : String) (tree : FileTree) : Option FileTree :=
  (Path.ofText? (pathIn folder name)).bind fun path => tree.writePath home path text

def IsReady (home : List String) (folder : String) (tree : FileTree) : Prop :=
  ∃ path place, Path.ofText? folder = some path ∧ Opens home path place tree

section Ready

variable {folder name : String}

theorem ofText?_pathIn_eq_some_iff (found : Path.ofText? folder = some path)
    (plain : Path.IsPlain name) {other : Path} : Path.ofText? (pathIn folder name) = some other ↔
      (pathIn folder name).utf8ByteSize ≤ Path.maxBytes ∧ other = inFolder path name := by
  rw [Path.ofText?_pathIn found plain]
  split
  · rename_i long
    simp [Nat.not_le.mpr long]
  · rename_i short
    simp [Nat.le_of_not_lt short, inFolder, eq_comm]

theorem Opens.textIn?_eq_some_iff (opens : Opens home path place tree)
    (found : Path.ofText? folder = some path) (plain : Path.IsPlain name) :
    tree.textIn? home folder name = some text ↔
      (pathIn folder name).utf8ByteSize ≤ Path.maxBytes ∧
        name.utf8ByteSize ≤ Path.maxNameBytes ∧
          tree.viewAt? (place ++ [name]) = some (.text text) := by
  simp only [textIn?, Option.bind_eq_some_iff, ofText?_pathIn_eq_some_iff found plain, and_assoc,
    exists_and_left, exists_eq_left, opens.readPath_eq_some_iff plain]

theorem Opens.putIn?_eq_some_iff (opens : Opens home path place tree)
    (found : Path.ofText? folder = some path) (plain : Path.IsPlain name) :
    tree.putIn? home folder name text = some after ↔
      (pathIn folder name).utf8ByteSize ≤ Path.maxBytes ∧
        tree.withFile text (place ++ [name]) = some after := by
  simp only [putIn?, Option.bind_eq_some_iff, ofText?_pathIn_eq_some_iff found plain, and_assoc,
    exists_and_left, exists_eq_left, opens.writePath_eq plain]

theorem isReady_makeFolders
    (made : ((access home).makeFolders folder).run tree = (true, after)) :
    IsReady home folder after := by
  simp only [access, modifyGet, MonadStateOf.modifyGet, StateT.modifyGet, StateT.run] at made
  cases found : Path.ofText? folder with
  | none =>
      rw [found] at made
      cases made
  | some path =>
      rw [found] at made
      obtain ⟨place, opens⟩ := opens_makeChain made
      exact ⟨path, place, found, opens⟩

namespace IsReady

theorem makeFolders (ready : IsReady home folder tree) :
    ((access home).makeFolders folder).run tree = (true, tree) := by
  obtain ⟨path, place, found, opens⟩ := ready
  simp only [access, modifyGet, MonadStateOf.modifyGet, StateT.modifyGet, StateT.run, found]
  exact opens.makeChain path.above

theorem putIn? (ready : IsReady home folder tree) (plain : Path.IsPlain name)
    (put : tree.putIn? home folder name text = some after) :
    IsReady home folder after ∧ after.textIn? home folder name = some text ∧
      ∀ {other}, Path.IsPlain other → other ≠ name →
        after.textIn? home folder other = tree.textIn? home folder other := by
  obtain ⟨path, place, found, opens⟩ := ready
  obtain ⟨fits, written⟩ := (opens.putIn?_eq_some_iff found plain).mp put
  obtain ⟨short, free⟩ := withFile_place written
  have opens' := opens.mono (grows_withFile written free)
  refine ⟨⟨path, place, found, opens'⟩, ?_, ?_⟩
  · rw [opens'.textIn?_eq_some_iff found plain, viewAt?_withFile written, if_pos rfl]
    exact ⟨fits, short, rfl⟩
  · intro other plain' different
    have elsewhere : place ++ [other] ≠ place ++ [name] := by simpa using different
    ext content
    rw [opens'.textIn?_eq_some_iff found plain', opens.textIn?_eq_some_iff found plain',
      viewAt?_withFile written, if_neg elsewhere]

theorem exists_putIn? (ready : IsReady home folder tree) (plain : Path.IsPlain name)
    {old : String} (there : tree.textIn? home folder name = some old) (text : String) :
    ∃ after, tree.putIn? home folder name text = some after := by
  obtain ⟨path, place, found, opens⟩ := ready
  obtain ⟨fits, short, seen⟩ := (opens.textIn?_eq_some_iff found plain).mp there
  obtain ⟨after, written⟩ := exists_withFile opens.folder (by rw [seen]; nofun) short text
  exact ⟨after, (opens.putIn?_eq_some_iff found plain).mpr ⟨fits, written⟩⟩

end IsReady

end Ready

end FileTree

end NativeBridge
