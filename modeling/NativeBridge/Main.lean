import NativeBridge.Command.Outcome
import NativeBridge.Source.Reader

/-!
# The program

Runs the command line on the files of the machine.
-/

namespace NativeBridge

def attempt {α : Type} (action : IO α) : IO (Option α) := do
  try
    return some (← action)
  catch _ => return none

def machineFiles : FileAccess IO where
  read path := attempt (IO.FS.readFile path)
  makeFolders path := return (← attempt (IO.FS.createDirAll path)).isSome
  write path text := return (← attempt (IO.FS.writeFile path text)).isSome

end NativeBridge

open NativeBridge in
def main (args : List String) : IO UInt32 := do
  let outcome ← Command.run machineFiles args
  (← IO.getStderr).putStr outcome.err
  (← IO.getStdout).putStr outcome.out
  return outcome.exitCode.toUInt32
