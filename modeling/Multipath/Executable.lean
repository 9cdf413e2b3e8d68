import Multipath.FileTree

/-! Programs as they are seen from outside. A program is started with arguments and finds
some files; it may change files and print, and then it ends. What it does may depend on all
of that and on how often it has been started before. -/
namespace Multipath

inductive Ending where
  | exited (code : Nat)
  | killed
  deriving DecidableEq, Repr

/-- The exit code, which a killed program does not have. -/
def Ending.code? : Ending → Option Int
  | .exited code => some code
  | .killed => none

/-- A program that asks to end with some code. The code is cut to eight bits. -/
def Ending.ofStatus (status : Int) : Ending := .exited (status % 256).toNat

structure Start where
  /-- The path that leads to its file. -/
  program : Path
  arguments : List String
  tree : FileTree
  /-- The file that it prints to; what it prints is lost if there is none. -/
  output : Option Location
  deriving Repr

structure Executable where
  /-- The files afterwards and the ending, for the number of starts before. -/
  run : Nat → Start → FileTree × Ending

/-- A part of the outer world: files, and all starts of the program so far. -/
structure Machine where
  tree : FileTree
  starts : List Start
  deriving Repr

namespace Machine

def start (m : Machine) (program : Executable) (s : Start) : Ending × Machine :=
  let (tree, ending) := program.run m.starts.length s
  (ending, ⟨tree, m.starts ++ [s]⟩)

end Machine

/-- What a scripted program does when it is started: it writes a report or none, and ends. -/
structure ScriptedRun where
  report : Option (List UInt8)
  ending : Ending
  deriving DecidableEq, Repr

/-- A script that has come to its end leaves runs that do nothing. -/
def ScriptedRun.idle : ScriptedRun := ⟨none, .exited 0⟩

namespace Executable

/-- The files after a report has been written to a path, or printed. A report that cannot
be written is lost. -/
def report (s : Start) (bytes : List UInt8) : Option Path → FileTree
  | some path => (s.tree.write path bytes).toOption.getD s.tree
  | none =>
    match s.output with
    | some location => s.tree.fill location bytes
    | none => s.tree

def scripted (path : Option Path) (script : List ScriptedRun) : Executable where
  run before s :=
    let run := script[before]?.getD .idle
    ((run.report.map fun bytes => report s bytes path).getD s.tree, run.ending)

end Executable
end Multipath
