/-
The program on its standard streams.  The programs it debugs run on a machine of its own.
-/
import DebugSession.Host.Schedule
import DebugSession.Program

namespace DebugSession
namespace Main

def buildInfo : Program.BuildInfo where
  target := "x86_64-unknown-linux-gnu"
  profile := "release"
  os := "linux"
  arch := "x86_64"

/-- What a session on standard streams finds around it. -/
def surroundings (isTerminal : Bool) : Program.Surroundings Host.Machine where
  build := buildInfo
  system := Host.Machine.system
  start := {}
  isTerminal
  openFile := Host.openForWriting
  defaultLog := "/tmp/dbgfront.log"
  startServer _ := .ok ()

partial def readAll (input : IO.FS.Stream) (held : ByteArray) : IO ByteArray := do
  let chunk ← input.read 4096
  if chunk.isEmpty then return held else readAll input (held ++ chunk)

def run (args : List String) : IO UInt32 := do
  let stdin ← IO.getStdin
  let input ← readAll stdin .empty
  let result := Program.run (surroundings (← stdin.isTty)) args input.toList
  (← IO.getStdout).putStr result.stdout
  (← IO.getStderr).putStr result.stderr
  return UInt32.ofNat result.exit

end Main
end DebugSession

def main (args : List String) : IO UInt32 := DebugSession.Main.run args
