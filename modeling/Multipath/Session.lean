import Multipath.Prober
import Multipath.Report

/-! A session: the prober is run a number of times, one run after the other, and each run
is scored against the ground truth, which stays the same. Only the report is carried from
run to run. The first run that fails, or whose report has no readable lattice, ends the
session. -/
namespace Multipath

structure Session.Plan where
  bounds : String
  destination : String
  repetitions : Nat
  deriving DecidableEq, Repr

def Session.Plan.request (plan : Session.Plan) : Request := ⟨plan.bounds, plan.destination⟩

/-- What is known after a run; runs are numbered from one. -/
structure Progress where
  run : Nat
  total : Nat
  dropped : Nat
  verdict : Verdict
  deriving DecidableEq, Repr

/-- All that a session does: what it asks, the progress that it announces, what is logged,
and the report or the failure at its end. -/
structure Session.Trace where
  requests : List Request
  progress : List Progress
  events : List Log.Event
  result : Except Failure Report
  deriving Repr

namespace Session

def logTarget : String := "pt_harness::session"

def score (plan : Session.Plan) (actual : Topology) (run : Nat) :
    Prober.Answer → Except Failure Report.Run
  | .dropped => .ok .dropped
  | .completed _ report =>
    match Lattice.parse report plan.destination with
    | .error cause => .error (.lattice run cause)
    | .ok discovered => .ok (.completed discovered (.between discovered actual))

def mismatchEvents (run : Nat) (comparison : Comparison) : List Log.Event :=
  match comparison.toList with
  | [] => []
  | first :: _ =>
    [⟨.warn, logTarget, "lattice mismatch, first: " ++ first.text,
      [("run", .number run), ("differences", .number comparison.size)]⟩]

def exitCode? : Prober.Answer → Option Int
  | .dropped => none
  | .completed code _ => code

def runEvents (run : Nat) (result : Prober.Answer) : Report.Run → List Log.Event
  | .dropped => [⟨.debug, logTarget, "run dropped", [("run", .number run)]⟩]
  | .completed discovered comparison =>
    ⟨.debug, logTarget, "run scored",
      [("run", .number run), ("exit_code", .text (exitCodeText (exitCode? result))),
        ("edges", .number discovered.edgeCount), ("missing", .number comparison.missing.length),
        ("spurious", .number comparison.spurious.length)]⟩ :: mismatchEvents run comparison

def startEvent (plan : Session.Plan) (report : Report) : Log.Event :=
  ⟨.info, logTarget, "starting session",
    [("bound_args", .text plan.bounds), ("destination", .text plan.destination),
      ("repetitions", .number plan.repetitions), ("branch_points", .number report.branches.size)]⟩

def finishEvent (report : Report) : Log.Event :=
  ⟨.info, logTarget, "session finished",
    [("runs", .number report.runs), ("failures", .number report.failures),
      ("dropped", .number report.dropped)]⟩

def scoreAttempt (plan : Session.Plan) (actual : Topology) (run : Nat) (attempt : Attempt) :
    Except Failure (Report.Run × List Log.Event) := do
  let result ← attempt.result
  let scored ← score plan actual run result
  pure (scored, runEvents run result scored)

/-- Run the prober as often as is left, from a report of the runs so far. -/
def continueFrom (plan : Session.Plan) (actual : Topology) (prober : Prober σ) :
    Nat → Report → σ → Session.Trace × σ
  | 0, report, s => (⟨[], [], [], .ok report⟩, s)
  | left + 1, report, s =>
    let (attempt, s) := prober.probe plan.request s
    let run := report.runs + 1
    match scoreAttempt plan actual run attempt with
    | .error failure => (⟨[plan.request], [], attempt.events, .error failure⟩, s)
    | .ok (scored, events) =>
      let report := report.record scored
      let progress : Progress := ⟨run, plan.repetitions, report.dropped, scored.verdict⟩
      let (rest, s) := continueFrom plan actual prober left report s
      (⟨plan.request :: rest.requests, progress :: rest.progress,
        attempt.events ++ events ++ rest.events, rest.result⟩, s)

/-- Run a whole session. How long it took is measured by the caller. -/
def run (plan : Session.Plan) (actual : Topology) (prober : Prober σ) (elapsed : Duration)
    (s : σ) : Session.Trace × σ :=
  let begun := Report.start plan.bounds plan.destination plan.repetitions actual
  let (trace, s) := continueFrom plan actual prober plan.repetitions begun s
  let result := trace.result.map fun report => { report with elapsed := elapsed }
  let closing := match result with
    | .ok report => [finishEvent report]
    | .error _ => []
  ({ trace with
    events := startEvent plan begun :: trace.events ++ closing
    result := result }, s)

end Session
end Multipath
