import GuestSpec.CommandLine.Program

/-!
# The command line

The program on the files of the host. It starts no other program: a hypervisor is asked by a
script that it can read.
-/

namespace GuestSpec

def readFile (path : String) : IO (Option String) := do
  try return some (← IO.FS.readFile path) catch _ => return none

/-- The host that the program runs on. Instead of trying a port, it looks the port up in the
system's table of sockets. -/
def localHost : IO LocalHost := do
  let report ← readFile "/proc/meminfo"
  let sockets ← readFile "/proc/net/tcp"
  let busy := LocalHost.listeningPorts (sockets.getD "")
  return ⟨report, fun _ port => !busy.has port.toNat, 0⟩

def freshSeed : IO UInt64 := do
  let bytes ← IO.getRandomBytes 8
  return bytes.toList.foldl (fun n b => n * 256 + b.toUInt64) 0

def surroundings : Surroundings IO LocalHost := ⟨readFile, localHost, freshSeed⟩

end GuestSpec

/-- Runs the program and prints what it has to say. -/
def main (args : List String) : IO UInt32 := do
  let outcome ← GuestSpec.Program.run GuestSpec.surroundings args
  (← IO.getStdout).putStr outcome.output
  (← IO.getStderr).putStr outcome.errors
  return outcome.status
