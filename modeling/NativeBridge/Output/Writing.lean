import NativeBridge.Output.FileTree
import NativeBridge.Source.Rendering

/-!
# Writing a rendering

Every file of a rendering is written into one folder. A file whose first line already carries the
fingerprint of the new one is left alone.
-/

namespace NativeBridge

open Source (Rendering fingerprintMark)

structure OutputFile where
  name : String
  fingerprint : String
  text : String
  deriving DecidableEq, Repr, Inhabited

structure WriteReport where
  written : List String := []
  unchanged : List String := []
  deriving DecidableEq, Repr, Inhabited

def Source.Rendering.files (rendering : Rendering) : List OutputFile :=
  rendering.modules.map (fun rendered =>
    { name := rendered.file.ident ++ ".rs"
      fingerprint := rendered.file.fingerprint
      text := rendered.file.codeFile.text }) ++
  [{ name := rendering.aggregate.name ++ ".rs"
     fingerprint := rendering.aggregate.fingerprint
     text := rendering.aggregate.codeFile.text }]

def afterMark? : List Char → List Char → Option (List Char)
  | [], text => some text
  | _ :: _, [] => none
  | c :: mark, d :: text => if c = d then afterMark? mark text else none

def recordedFingerprint? (text : String) : Option String :=
  (afterMark? fingerprintMark.toList (Text.trimEnd (Text.firstLine text.toList))).map String.ofList

variable {m : Type → Type} [Monad m]

def existingFingerprint (files : FileAccess m) (path : String) : m (Option String) := do
  return (← files.read path).bind recordedFingerprint?

def pathIn (folder name : String) : String :=
  match folder.toList.getLast? with
  | none | some '/' => folder ++ name
  | some _ => folder ++ "/" ++ name

def writeFile (files : FileAccess m) (folder : String) (report : WriteReport) (file : OutputFile) :
    ExceptT BindingError m WriteReport := do
  let path := pathIn folder file.name
  let existing ← (existingFingerprint files path : m (Option String))
  if existing = some file.fingerprint then
    return { report with unchanged := report.unchanged ++ [file.name] }
  if ← files.write path file.text then
    return { report with written := report.written ++ [file.name] }
  else throw .io

def writeFiles (files : FileAccess m) (folder : String) :
    List OutputFile → WriteReport → ExceptT BindingError m WriteReport
  | [], report => return report
  | file :: rest, report => do
      let report ← writeFile files folder report file
      writeFiles files folder rest report

def writeRendering (files : FileAccess m) (folder : String) (rendering : Rendering) :
    ExceptT BindingError m WriteReport := do
  if ← files.makeFolders folder then writeFiles files folder rendering.files {}
  else throw .io

end NativeBridge
