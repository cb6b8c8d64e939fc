import NativeBridge.Proofs.Output.Folders

/-!
# Files that are written

Files are written into a folder one after the other, and each is left alone if it carries the
fingerprint already. Two files of one name get into each other's way: the last one stays.

* `FileTree.IsReady.writeFiles`: which fingerprints the files of the folder carry afterwards.
* `FileTree.IsReady.writeFiles_again`: what is written when the same files are written again.
-/

namespace NativeBridge

variable {home : List String} {folder : String} {tree after : FileTree}

structure OutputFile.IsSound (file : OutputFile) : Prop where
  plain : Path.IsPlain file.name
  carries : recordedFingerprint? file.text = some file.fingerprint

def FileTree.recordedIn? (home : List String) (folder name : String) (tree : FileTree) :
    Option String :=
  (tree.textIn? home folder name).bind recordedFingerprint?

def FileTree.run {α : Type} (tree : FileTree) (action : ExceptT BindingError (StateM FileTree) α) :
    Except BindingError α × FileTree :=
  StateT.run (ExceptT.run action) tree

theorem FileTree.run_bind {α β : Type} (tree : FileTree)
    (action : ExceptT BindingError (StateM FileTree) α)
    (next : α → ExceptT BindingError (StateM FileTree) β) :
    tree.run (action >>= next) = match tree.run action with
      | (.ok value, after) => after.run (next value)
      | (.error fault, after) => (.error fault, after) := by
  refine (run_bind_eq action next tree).trans ?_
  rw [run]
  rcases StateT.run (ExceptT.run action) tree with ⟨_ | value, after⟩ <;> rfl

theorem FileTree.run_write (tree : FileTree) (name text : String) :
    tree.run (liftM ((access home).write (pathIn folder name) text)) =
      match tree.putIn? home folder name text with
      | some after => (.ok true, after)
      | none => (.ok false, tree) := by
  have answered : tree.run (liftM ((access home).write (pathIn folder name) text)) =
      let answer := match tree.putIn? home folder name text with
        | some after => (true, after)
        | none => (false, tree)
      (.ok answer.1, answer.2) := rfl
  rw [answered]
  cases tree.putIn? home folder name text <;> rfl

theorem FileTree.run_writeFile (tree : FileTree) (report : WriteReport) (file : OutputFile) :
    tree.run (writeFile (access home) folder report file) =
      if tree.recordedIn? home folder file.name = some file.fingerprint then
        (.ok { report with unchanged := report.unchanged ++ [file.name] }, tree)
      else match tree.putIn? home folder file.name file.text with
        | some after => (.ok { report with written := report.written ++ [file.name] }, after)
        | none => (.error .io, tree) := by
  have existing : tree.run (liftM (existingFingerprint (access home) (pathIn folder file.name))) =
      (.ok (tree.recordedIn? home folder file.name), tree) := rfl
  rw [writeFile]
  simp only [run_bind, existing]
  split
  · rfl
  · simp only [run_bind, run_write]
    cases tree.putIn? home folder file.name file.text <;> rfl

theorem FileTree.run_writeRendering (tree : FileTree) (rendering : Source.Rendering) :
    tree.run (writeRendering (access home) folder rendering) =
      match ((access home).makeFolders folder).run tree with
      | (true, after) => after.run (writeFiles (access home) folder rendering.files {})
      | (false, after) => (.error .io, after) := by
  have made : tree.run (liftM ((access home).makeFolders folder)) =
      (.ok (((access home).makeFolders folder).run tree).1,
        (((access home).makeFolders folder).run tree).2) := rfl
  rw [writeRendering, run_bind, made]
  rcases ((access home).makeFolders folder).run tree with ⟨_ | _, after⟩ <;> rfl

section Runs

variable {report : WriteReport} {file : OutputFile} {files : List OutputFile}

theorem FileTree.IsReady.writeFile (ready : IsReady home folder tree) (sound : file.IsSound)
    {result : WriteReport}
    (wrote : tree.run (writeFile (access home) folder report file) = (.ok result, after)) :
    IsReady home folder after ∧ ∀ {name}, Path.IsPlain name →
      after.recordedIn? home folder name =
        if name = file.name then some file.fingerprint else tree.recordedIn? home folder name := by
  rw [run_writeFile] at wrote
  split at wrote
  · rename_i recorded
    obtain ⟨-, rfl⟩ := Prod.mk.inj wrote
    refine ⟨ready, ?_⟩
    intro name _
    split
    · rename_i same
      rw [same, recorded]
    · rfl
  · split at wrote
    · rename_i put
      obtain ⟨-, rfl⟩ := Prod.mk.inj wrote
      obtain ⟨ready', here, elsewhere⟩ := ready.putIn? sound.plain put
      refine ⟨ready', ?_⟩
      intro name plain
      split
      · rename_i same
        rw [same, recordedIn?, here]
        exact sound.carries
      · rename_i different
        rw [recordedIn?, elsewhere plain different, recordedIn?]
    · cases wrote

/-- The fingerprint that a name has after the last file of the name. -/
def lastFingerprint? (files : List OutputFile) (name : String) (before : Option String) :
    Option String :=
  files.foldl (fun held file => if name = file.name then some file.fingerprint else held) before

theorem FileTree.IsReady.writeFiles (ready : IsReady home folder tree)
    (sound : ∀ file ∈ files, file.IsSound) {result : WriteReport}
    (wrote : tree.run (writeFiles (access home) folder files report) = (.ok result, after)) :
    IsReady home folder after ∧ ∀ {name}, Path.IsPlain name →
      after.recordedIn? home folder name =
        lastFingerprint? files name (tree.recordedIn? home folder name) := by
  induction files generalizing tree report with
  | nil =>
      obtain ⟨-, rfl⟩ := Prod.mk.inj wrote
      exact ⟨ready, fun _ => rfl⟩
  | cons file rest ih =>
      rw [NativeBridge.writeFiles, run_bind] at wrote
      split at wrote
      · rename_i middle first
        obtain ⟨ready', recorded⟩ := ready.writeFile (sound file List.mem_cons_self) first
        obtain ⟨ready'', recorded'⟩ :=
          ih ready' (fun other member => sound other (List.mem_cons_of_mem _ member)) wrote
        refine ⟨ready'', ?_⟩
        intro name plain
        rw [recorded' plain, recorded plain]
        rfl
      · cases wrote

theorem FileTree.IsReady.writeFiles_again (ready : IsReady home folder tree)
    (sound : ∀ file ∈ files, file.IsSound)
    (there : ∀ file ∈ files, (tree.textIn? home folder file.name).isSome) (report : WriteReport) :
    ∃ more result after, tree.run (NativeBridge.writeFiles (access home) folder files report) =
        (.ok result, after) ∧ result.written = report.written ++ more ∧
      (more = [] ↔
        ∀ file ∈ files, tree.recordedIn? home folder file.name = some file.fingerprint) := by
  induction files generalizing tree report with
  | nil => exact ⟨[], report, tree, rfl, by simp, by simp⟩
  | cons file rest ih =>
      have sound' := fun other member => sound other (List.mem_cons_of_mem file member)
      have there' := fun other member => there other (List.mem_cons_of_mem file member)
      rw [NativeBridge.writeFiles, run_bind, run_writeFile]
      by_cases recorded : tree.recordedIn? home folder file.name = some file.fingerprint
      · obtain ⟨more, result, after, ran, written, none⟩ :=
          ih ready sound' there' { report with unchanged := report.unchanged ++ [file.name] }
        refine ⟨more, result, after, by rw [if_pos recorded]; exact ran, written, ?_⟩
        rw [none, List.forall_mem_cons]
        exact (and_iff_right recorded).symm
      · have plain := (sound file List.mem_cons_self).plain
        obtain ⟨old, held⟩ := Option.isSome_iff_exists.mp (there file List.mem_cons_self)
        obtain ⟨middle, put⟩ := ready.exists_putIn? plain held file.text
        obtain ⟨ready', here, elsewhere⟩ := ready.putIn? plain put
        have kept : ∀ other ∈ rest, (middle.textIn? home folder other.name).isSome := by
          intro other member
          by_cases same : other.name = file.name
          · rw [same, here]
            rfl
          · rw [elsewhere (sound' other member).plain same]
            exact there' other member
        obtain ⟨more, result, after, ran, written, -⟩ :=
          ih ready' sound' kept { report with written := report.written ++ [file.name] }
        refine ⟨file.name :: more, result, after, by rw [if_neg recorded, put]; exact ran, ?_, ?_⟩
        · rw [written, List.append_assoc]
          rfl
        · simp [recorded]

structure OutputFile.Fits (folder : String) (place : List String) (tree : FileTree)
    (file : OutputFile) : Prop where
  plain : Path.IsPlain file.name
  path : (pathIn folder file.name).utf8ByteSize ≤ Path.maxBytes
  name : file.name.utf8ByteSize ≤ Path.maxNameBytes
  free : tree.viewAt? (place ++ [file.name]) ≠ some .folder

theorem FileTree.Opens.exists_writeFiles {path : Path} {place : List String}
    (opens : Opens home path place tree) (found : Path.ofText? folder = some path)
    (fits : ∀ file ∈ files, file.Fits folder place tree) (report : WriteReport) :
    ∃ result after, tree.run (NativeBridge.writeFiles (access home) folder files report) =
      (.ok result, after) := by
  induction files generalizing tree report with
  | nil => exact ⟨report, tree, rfl⟩
  | cons file rest ih =>
      have here := fits file List.mem_cons_self
      have others := fun other member => fits other (List.mem_cons_of_mem file member)
      rw [NativeBridge.writeFiles, run_bind, run_writeFile]
      by_cases recorded : tree.recordedIn? home folder file.name = some file.fingerprint
      · rw [if_pos recorded]
        exact ih opens others _
      · obtain ⟨middle, written⟩ := exists_withFile opens.folder here.free here.name file.text
        have put := (opens.putIn?_eq_some_iff found here.plain).mpr ⟨here.path, written⟩
        rw [if_neg recorded, put]
        refine ih (opens.mono (grows_withFile written here.free)) ?_ _
        intro other member
        have fit := others other member
        refine ⟨fit.plain, fit.path, fit.name, ?_⟩
        rw [viewAt?_withFile written]
        split
        · nofun
        · exact fit.free

end Runs

end NativeBridge
