import Multipath.Config
import Multipath.Executable
import Multipath.FileTree.Program
import Multipath.Prober

/-! The prober that starts a program. For each run the output file is removed or emptied,
the program is started once, and what the output file holds afterwards is its report. So
no run is scored on what an earlier run has left. -/
namespace Multipath.Subprocess

def logTarget : String := "pt_harness::prober"

def modeText : Config.Mode → String
  | .launcher => "Launcher"
  | .direct => "Direct"

def launchEvent (c : Config) : Log.Event :=
  ⟨.debug, logTarget, "launching prober",
    [("program", .text c.program.display), ("mode", .text (modeText c.mode))]⟩

def exitEvent (ending : Ending) : Log.Event :=
  ⟨.trace, logTarget, "prober exited", [("exit_code", .text (exitCodeText ending.code?))]⟩

def arguments (mode : Config.Mode) (request : Request) : List String :=
  match mode with
  | .launcher => [request.bounds, request.destination]
  | .direct => ["-a", "mda", "-n", "-B", request.bounds, request.destination]

/-- Make sure that the output file holds nothing of an earlier run: a launcher finds no
such file, and a binary prints to an empty one. -/
def prepare (c : Config) (t : FileTree) : Except Fault (FileTree × Option Location) :=
  match c.mode with
  | .launcher =>
    match t.remove c.output with
    | .ok t => .ok (t, none)
    | .error .notFound => .ok (t, none)
    | .error fault => .error fault
  | .direct => (t.openForWriting c.output).map fun location => (t.truncate location, some location)

def longestArgument : Nat := 131071

/-- Why a program cannot be started, if it cannot. A file that is open for writing is not
started. -/
def obstacle? (s : Start) : Option Fault :=
  if s.arguments.any (·.toList.contains (Char.ofNat 0)) then some .zeroInArgument
  else match s.tree.startable s.program with
    | .error fault => some fault
    | .ok (location, entry) =>
      if s.output = some location then some .textFileBusy
      else if s.arguments.any (longestArgument < ·.utf8ByteSize) then some .argumentTooLong
      else s.tree.loadFault? FileTree.mostInterpreters entry

def collect (c : Config) (t : FileTree) (ending : Ending) : Except Failure Prober.Answer :=
  if ending.code? = some c.dropCode then .ok .dropped
  else match t.read c.output with
    | .error fault => .error (.outputUnreadable c.output fault)
    | .ok bytes => .ok (.completed ending.code? (String.ofList (Text.Utf8.decodeLossy bytes)))

def probe (c : Config) (program : Executable) (request : Request) (m : Machine) :
    Attempt × Machine :=
  match prepare c m.tree with
  | .error fault => (⟨[], .error (.outputUnreadable c.output fault)⟩, m)
  | .ok (tree, output) =>
    let start : Start := ⟨c.program, arguments c.mode request, tree, output⟩
    match obstacle? start with
    | some fault => (⟨[launchEvent c], .error (.notStarted c.program fault)⟩, ⟨tree, m.starts⟩)
    | none =>
      let (ending, m) := m.start program start
      (⟨[launchEvent c, exitEvent ending], collect c m.tree ending⟩, m)

def prober (c : Config) (program : Executable) : Prober Machine := ⟨probe c program⟩

end Multipath.Subprocess
