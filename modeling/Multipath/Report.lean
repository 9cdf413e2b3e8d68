import Multipath.Tally
import Multipath.Comparison

/-! The report of a session against one destination. It is the only thing that a session
carries from run to run: counters, a tally for each branch point of the ground truth, and
the differences of the first failing runs. -/
namespace Multipath

/-- A length of time; the nanoseconds stay below one second. -/
structure Duration where
  secs : Nat
  nanos : Nat
  nanos_lt : nanos < 1000000000
  deriving DecidableEq, Repr

def Duration.zero : Duration := ⟨0, 0, by decide⟩

/-- A failing run, numbered from zero, with its differences. -/
structure FailingRun where
  run : Nat
  comparison : Comparison
  deriving DecidableEq, Repr

structure Report where
  /-- The bound configuration that was handed to the prober. -/
  bounds : String
  destination : String
  requested : Nat
  /-- The runs so far, dropped ones included. -/
  runs : Nat
  passes : Nat
  failures : Nat
  dropped : Nat
  elapsed : Duration
  branches : Tallies
  /-- The first failing runs; `failures` counts them all. -/
  failingRuns : List FailingRun
  deriving DecidableEq, Repr

namespace Report

def keptFailures : Nat := 10

def start (bounds destination : String) (requested : Nat) (actual : Topology) :
    Report where
  bounds := bounds
  destination := destination
  requested := requested
  runs := 0
  passes := 0
  failures := 0
  dropped := 0
  elapsed := .zero
  branches := .start actual
  failingRuns := []

inductive Run where
  | dropped
  /-- The lattice of a run, and how it compares with the ground truth. -/
  | completed (discovered : Topology) (comparison : Comparison)
  deriving DecidableEq, Repr

def Run.verdict : Run → Verdict
  | .dropped => .dropped
  | .completed _ comparison => comparison.verdict

def keepFailure (r : Report) (comparison : Comparison) : List FailingRun :=
  if r.failingRuns.length < keptFailures then r.failingRuns ++ [⟨r.runs, comparison⟩]
  else r.failingRuns

/-- Record one repetition. A dropped run is counted and takes no part in anything else. -/
def record (r : Report) : Run → Report
  | .dropped => { r with runs := r.runs + 1, dropped := r.dropped + 1 }
  | .completed discovered comparison =>
    let counted := { r with runs := r.runs + 1, branches := r.branches.record discovered }
    if comparison.isEmpty then { counted with passes := r.passes + 1 }
    else { counted with
      failures := r.failures + 1
      failingRuns := r.keepFailure comparison }

def recordAll (r : Report) (runs : List Run) : Report := runs.foldl record r

/-- Every counter that a repetition concerns is there and has room. A report read from
outside may lack it, or have it full. -/
def accepts (r : Report) : Run → Bool
  | .dropped => hasRoom r.runs && hasRoom r.dropped
  | .completed discovered comparison =>
    hasRoom r.runs && r.branches.accepts discovered &&
      hasRoom (if comparison.isEmpty then r.passes else r.failures)

/-- What is recorded of a repetition that is not accepted. The runs are counted first, then
the tallies in their order, and what the run amounts to comes last. -/
def recordPartly (r : Report) (run : Run) : Report :=
  match hasRoom r.runs, run with
  | false, _ => r
  | true, .dropped => { r with runs := r.runs + 1 }
  | true, .completed discovered _ => { r with
      runs := r.runs + 1
      branches := r.branches.recordUntilRefused discovered }

/-- Record one repetition on a report that may have been read from outside. The error is
the report as it is when recording stops. -/
def record? (r : Report) (run : Run) : Except Report Report :=
  if r.accepts run then .ok (r.record run) else .error (r.recordPartly run)

/-- No more runs were dropped than there were. A report read from outside may say that
there were more, and nothing can be said of its evaluated runs. -/
def isBalanced (r : Report) : Bool := r.dropped ≤ r.runs

def evaluated (r : Report) : Nat := r.runs - r.dropped

def failureRate? (r : Report) : Option Fraction := Fraction.of? r.failures r.evaluated

def passed (r : Report) : Bool := 0 < r.evaluated && r.failures == 0

@[simp] theorem runs_record (r : Report) (run : Run) : (r.record run).runs = r.runs + 1 := by
  cases run with
  | dropped => rfl
  | completed discovered comparison => simp only [record]; split <;> rfl

@[simp] theorem recordAll_append (r : Report) (xs ys : List Run) :
    r.recordAll (xs ++ ys) = (r.recordAll xs).recordAll ys := List.foldl_append

end Report
end Multipath
