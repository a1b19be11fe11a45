import ScreenCapture.Clock.Running
import ScreenCapture.Display.Refusing
import ScreenCapture.Grab

namespace ScreenCapture.Grab

abbrev Platform := World Unit RunningClock

abbrev Console := StateT Platform IO

def attempt (act : IO Unit) : Console (Except String Unit) := do
  try
    act
    return .ok ()
  catch error => return .error (toString error)

def console : Shell Console where
  print line := (IO.print line : IO Unit)
  makeDirectory path := attempt (IO.FS.createDirAll path)
  writeFile path content := attempt (IO.FS.writeBinFile path content)

def perform {α : Type} (act : StateM Platform α) : Console α := modifyGet act

def patience : Nat := 0x4000000000000000

def program (args : List String) : IO UInt32 := do
  let host := Host.assemble .unsupported .running
  match ← (run console host perform patience args).run' ⟨(), .start⟩ with
  | .ok () => return 0
  | .error failure =>
    let (text, code) := verdict failure
    IO.eprint text
    return .ofNat code

end ScreenCapture.Grab

def main (args : List String) : IO UInt32 := ScreenCapture.Grab.program args
