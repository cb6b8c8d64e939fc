import NativeBridge.Output.FileTree
import NativeBridge.Proofs.Entries
import NativeBridge.Proofs.Results

/-!
# Places of a file tree

A tree is known by what is seen at each of its places: nothing, a folder, or the text of a file.

* `viewAt?_withFile`, `viewAt?_withFolders`: what writing a file and making a folder change.
* `walk_mono`: a walk leads to the same place in a tree that has grown.
-/

namespace NativeBridge.FileTree

/-- What is seen of a file or a folder without looking inside. -/
inductive View where
  | folder
  | text (content : String)
  deriving DecidableEq, Repr

def view : FileTree → View
  | .file text => .text text
  | .folder _ => .folder

def viewAt? (tree : FileTree) (place : List String) : Option View := (tree.find? place).map view

variable {tree after : FileTree} {place other : List String} {name text : String}

theorem isFolderAt_iff : tree.isFolderAt place = true ↔ tree.viewAt? place = some .folder := by
  rw [isFolderAt, viewAt?]
  rcases tree.find? place with _ | (_ | _) <;> simp [view]

theorem textAt?_eq_some_iff : tree.textAt? place = some text ↔
    tree.viewAt? place = some (.text text) := by
  rw [textAt?, viewAt?]
  rcases tree.find? place with _ | (_ | _) <;> simp [view]

theorem isNone_find? : (tree.find? place).isNone = !(tree.viewAt? place).isSome := by
  rw [viewAt?, Option.isSome_map, Option.not_isSome]

/-! ## Writing files -/

theorem viewAt?_cons_folder (name : String) (place : List String)
    (entries : List (String × FileTree)) :
    (folder entries).viewAt? (name :: place) = (entries.lookup name).bind (viewAt? · place) := by
  rw [viewAt?, find?]
  cases entries.lookup name <;> rfl

theorem viewAt?_cons_file (name : String) (place : List String) (text : String) :
    (file text).viewAt? (name :: place) = none := rfl

theorem viewAt?_insertEntry (name : String) (inner : FileTree) (entries : List (String × FileTree))
    (other : String) (place : List String) :
    (folder (insertEntry name inner entries)).viewAt? (other :: place) =
      if other = name then inner.viewAt? place else (folder entries).viewAt? (other :: place) := by
  rw [viewAt?_cons_folder, lookup_insertEntry, viewAt?_cons_folder]
  split <;> rfl

theorem viewAt?_withFile (written : tree.withFile text place = some after) (other : List String) :
    after.viewAt? other = if other = place then some (.text text) else tree.viewAt? other := by
  fun_induction withFile text place tree generalizing after other with
  | case1 | case2 | case5 => cases written
  | case3 name entries short free =>
      obtain rfl := Option.some.inj written
      cases other with
      | nil => rw [if_neg (List.cons_ne_nil _ _).symm]; rfl
      | cons first others =>
          rw [viewAt?_insertEntry]
          by_cases same : first = name
          · subst same
            cases others with
            | nil => rw [if_pos rfl, if_pos rfl]; rfl
            | cons second others =>
                -- Nothing is below a file, whether it was there before or not.
                rw [if_pos rfl, if_neg (by simp), viewAt?_cons_file, viewAt?_cons_folder]
                rcases found : entries.lookup first with _ | (_ | inner)
                · rfl
                · rfl
                · cases free _ found
          · rw [if_neg same, if_neg (by simp [same])]
  | case4 name rest entries nested ih =>
      obtain ⟨inner, found, written⟩ := Option.bind_eq_some_iff.mp written
      obtain ⟨changed, put, rfl⟩ := Option.map_eq_some_iff.mp written
      cases other with
      | nil => rw [if_neg (List.cons_ne_nil _ _).symm]; rfl
      | cons first others =>
          rw [viewAt?_insertEntry]
          by_cases same : first = name
          · subst same
            rw [if_pos rfl, ih inner put, viewAt?_cons_folder, found]
            simp
          · rw [if_neg same, if_neg (by simp [same])]

theorem viewAt?_above {rest : List String} (there : (tree.viewAt? (place ++ rest)).isSome)
    (below : rest ≠ []) : tree.viewAt? place = some .folder := by
  induction place generalizing tree with
  | nil =>
      cases tree with
      | folder entries => rfl
      | file text =>
          obtain ⟨first, others, rfl⟩ := List.exists_cons_of_ne_nil below
          cases there
  | cons name place ih =>
      cases tree with
      | file text => cases there
      | folder entries =>
          rw [List.cons_append, viewAt?_cons_folder] at there
          rw [viewAt?_cons_folder]
          cases found : entries.lookup name with
          | none =>
              rw [found] at there
              cases there
          | some inner =>
              rw [found] at there
              exact ih there

theorem viewAt?_dropLast (folder : tree.viewAt? place = some .folder) :
    tree.viewAt? place.dropLast = some .folder := by
  rcases List.eq_nil_or_concat' place with rfl | ⟨before, last, rfl⟩
  · exact folder
  · rw [List.dropLast_concat]
    exact viewAt?_above (by rw [folder]; rfl) (List.cons_ne_nil last [])

theorem withFile_place (written : tree.withFile text (place ++ [name]) = some after) :
    name.utf8ByteSize ≤ Path.maxNameBytes ∧ tree.viewAt? (place ++ [name]) ≠ some .folder := by
  induction place generalizing tree after with
  | nil =>
      cases tree with
      | file old => cases written
      | folder entries =>
          rw [List.nil_append, withFile] at written
          split at written
          · cases written
          · rename_i short
            refine ⟨Nat.le_of_not_lt short, ?_⟩
            rw [List.nil_append, viewAt?_cons_folder]
            split at written
            · cases written
            · rename_i free
              intro seen
              obtain ⟨inner, found, seen⟩ := Option.bind_eq_some_iff.mp seen
              cases inner with
              | file old => cases seen
              | folder entries => exact free entries found
  | cons first rest ih =>
      cases tree with
      | file old => simp [withFile] at written
      | folder entries =>
          rw [List.cons_append, withFile] at written
          · obtain ⟨inner, found, written⟩ := Option.bind_eq_some_iff.mp written
            obtain ⟨changed, put, -⟩ := Option.map_eq_some_iff.mp written
            rw [List.cons_append, viewAt?_cons_folder, found]
            exact ih put
          · simp

theorem exists_withFile (folder : tree.viewAt? place = some .folder)
    (free : tree.viewAt? (place ++ [name]) ≠ some .folder)
    (short : name.utf8ByteSize ≤ Path.maxNameBytes) (text : String) :
    ∃ after, tree.withFile text (place ++ [name]) = some after := by
  induction place generalizing tree with
  | nil =>
      cases tree with
      | file text => cases folder
      | folder entries =>
          rw [List.nil_append, withFile, if_neg (Nat.not_lt.mpr short)]
          split
          · rename_i inner found
            exact absurd (by rw [List.nil_append, viewAt?_cons_folder, found]; rfl) free
          · exact ⟨_, rfl⟩
  | cons first rest ih =>
      cases tree with
      | file text => cases folder
      | folder entries =>
          rw [viewAt?_cons_folder] at folder
          obtain ⟨inner, found, folder⟩ := Option.bind_eq_some_iff.mp folder
          rw [List.cons_append, viewAt?_cons_folder, found] at free
          obtain ⟨changed, written⟩ := ih folder free
          rw [List.cons_append, withFile, found, Option.bind_some, written]
          · exact ⟨_, rfl⟩
          · simp

/-! ## Making folders -/

theorem viewAt?_withFolders (made : tree.withFolders place = some after) (other : List String) :
    after.viewAt? other = if other <+: place then some .folder else tree.viewAt? other := by
  fun_induction withFolders place tree generalizing after other with
  | case1 entries =>
      obtain rfl := Option.some.inj made
      cases other with
      | nil => rfl
      | cons first others => rw [if_neg (by simp)]
  | case2 | case4 => cases made
  | case3 name rest entries short ih =>
      obtain ⟨inner, nested, rfl⟩ := Option.map_eq_some_iff.mp made
      cases other with
      | nil => rfl
      | cons first others =>
          rw [viewAt?_insertEntry]
          by_cases same : first = name
          · subst same
            rw [if_pos rfl, ih nested, viewAt?_cons_folder]
            simp only [List.cons_prefix_cons, true_and]
            cases found : entries.lookup first with
            | some inner => rfl
            | none =>
                cases others with
                | nil => rfl
                | cons second others => rfl
          · rw [if_neg same, if_neg (by simp [same])]

theorem withFolders_self (there : tree.isFolderAt place = true)
    (short : ∀ name ∈ place, name.utf8ByteSize ≤ Path.maxNameBytes) :
    tree.withFolders place = some tree := by
  rw [isFolderAt_iff] at there
  induction place generalizing tree with
  | nil =>
      cases tree with
      | file text => cases there
      | folder entries => rfl
  | cons name rest ih =>
      cases tree with
      | file text => cases there
      | folder entries =>
          rw [viewAt?_cons_folder] at there
          obtain ⟨inner, found, seen⟩ := Option.bind_eq_some_iff.mp there
          have made := ih seen fun part member => short part (List.mem_cons_of_mem _ member)
          rw [withFolders, if_neg (Nat.not_lt.mpr (short name List.mem_cons_self)), found,
            Option.getD_some, made, Option.map_some, insertEntry_self found]

theorem short_of_withFolders (made : tree.withFolders place = some after) :
    ∀ name ∈ place, name.utf8ByteSize ≤ Path.maxNameBytes := by
  fun_induction withFolders place tree generalizing after with
  | case1 => nofun
  | case2 | case4 => cases made
  | case3 name rest entries short ih =>
      obtain ⟨inner, nested, -⟩ := Option.map_eq_some_iff.mp made
      intro part member
      rcases List.mem_cons.mp member with rfl | member
      · exact Nat.le_of_not_lt short
      · exact ih nested part member

/-! ## Walks -/

/-- A tree grows when nothing disappears from it and no folder becomes a file. -/
structure Grows (tree after : FileTree) : Prop where
  folder : ∀ {place}, tree.viewAt? place = some .folder → after.viewAt? place = some .folder
  there : ∀ {place}, (tree.viewAt? place).isSome → (after.viewAt? place).isSome

theorem grows_withFile (written : tree.withFile text place = some after)
    (free : tree.viewAt? place ≠ some .folder) : tree.Grows after where
  folder := by
    intro other seen
    rw [viewAt?_withFile written]
    split
    · rename_i same
      exact absurd (same ▸ seen) free
    · exact seen
  there := by
    intro other seen
    rw [viewAt?_withFile written]
    split
    · rfl
    · exact seen

theorem grows_withFolders (made : tree.withFolders place = some after) : tree.Grows after where
  folder := by
    intro other seen
    rw [viewAt?_withFolders made]
    split
    · rfl
    · exact seen
  there := by
    intro other seen
    rw [viewAt?_withFolders made]
    split
    · rfl
    · exact seen

theorem walk_cons (tree : FileTree) (step : String) (rest place : List String) :
    tree.walk (step :: rest) place = tree.walk [step] place >>= tree.walk rest := by
  simp only [walk]
  split_ifs <;> rfl

theorem walk_append (tree : FileTree) (steps more place : List String) :
    tree.walk (steps ++ more) place = tree.walk steps place >>= tree.walk more := by
  induction steps generalizing place with
  | nil => rfl
  | cons step rest ih =>
      rw [List.cons_append, walk_cons, tree.walk_cons step rest]
      cases tree.walk [step] place with
      | error obstacle => rfl
      | ok next => exact ih next

theorem walk_singleton_eq_ok {step : String} {start : List String} :
    tree.walk [step] start = .ok place ↔ tree.viewAt? start = some .folder ∧
      (step = "." ∧ place = start ∨ step = ".." ∧ place = start.dropLast ∨
        step ≠ "." ∧ step ≠ ".." ∧ step.utf8ByteSize ≤ Path.maxNameBytes ∧
          (tree.viewAt? (start ++ [step])).isSome ∧ place = start ++ [step]) := by
  simp only [walk, Bool.not_eq_true', ← Bool.not_eq_true, isFolderAt_iff, isNone_find?]
  split_ifs <;> grind

theorem walk_mono (grows : tree.Grows after) {steps start : List String}
    (reached : tree.walk steps start = .ok place) : after.walk steps start = .ok place := by
  induction steps generalizing start with
  | nil => exact reached
  | cons step rest ih =>
      rw [walk_cons, bind_eq_ok] at reached ⊢
      obtain ⟨next, taken, reached⟩ := reached
      refine ⟨next, ?_, ih reached⟩
      rw [walk_singleton_eq_ok] at taken ⊢
      obtain ⟨folder, taken⟩ := taken
      refine ⟨grows.folder folder, taken.imp_right fun taken => taken.imp_right ?_⟩
      rintro ⟨notHere, notUp, short, there, rfl⟩
      exact ⟨notHere, notUp, short, grows.there there, rfl⟩

end NativeBridge.FileTree
