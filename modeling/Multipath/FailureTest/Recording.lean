import Multipath.FailureTest
import Multipath.Json.Reader

/-! Recordings. A recording holds all that a failure test takes from the outer world: the
files, the program with what each of its runs wrote, and the log filter. So a test can be
repeated where the program cannot be started. A recording is written as a JSON record. -/
namespace Multipath

structure Recording where
  tree : FileTree
  program : Executable
  /-- The log filter from the environment. -/
  log : Option String

namespace Recording

/-- A part of a recording that may be null. -/
def optional? (value? : Json.Value → Option α) : Json.Value → Option (Option α)
  | .null => some none
  | v => (value? v).map some

def path? (v : Json.Value) : Option Path := v.string?.map Path.ofString

def run? (v : Json.Value) : Option ScriptedRun := do
  let [report, code] ← v.record? ["report", "code"] | none
  let report ← optional? Json.Value.string? report
  let code ← optional? Json.Value.word? code
  let ending := match code with
    | some code => Ending.ofStatus code
    | none => .killed
  pure ⟨report.map fun text => Text.Utf8.encode text.toList, ending⟩

def tree? (v : Json.Value) : Option FileTree :=
  (v.bindings? Json.Value.string?).map fun files =>
    files.foldl (fun t (name, text) =>
      t.install (.ofString name) (.file (Text.Utf8.encode text.toList))) .bare

def ofJson? (v : Json.Value) : Option Recording := do
  let [files, program, report, runs, log] ←
    v.record? ["files", "program", "report", "runs", "log"] | none
  let tree ← tree? files
  let runs ← runs.array? run?
  pure ⟨tree.install (← path? program) .program, .scripted (← optional? path? report) runs,
    ← optional? Json.Value.string? log⟩

def parse? (text : String) : Option Recording := Json.parse? text >>= ofJson?

/-- Repeat a test. It takes no time. -/
def replay (r : Recording) (words : List String) : Transcript :=
  FailureTest.run words r.log r.program .zero ⟨r.tree, []⟩

end Recording
end Multipath
