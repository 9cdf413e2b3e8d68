import Multipath.Report
import Multipath.Json.Reader

/-! The JSON form of reports and of their parts: topologies, comparisons and tallies.
Fields are written in the order of the structures, keys and members in ascending order.
Reading accepts any order of fields; of several bindings of a map key the last counts, and
equal members of a set are one. Counters have sixty-four bits. -/
namespace Multipath

open Json (Value)

namespace LabelSet

def toJson (s : LabelSet) : Value := .array (s.toList.map .string)

def ofJson? (v : Value) : Option LabelSet := (v.array? Value.string?).map LabelSet.ofList

end LabelSet

namespace LabelMap

def toJson (value : α → Value) (m : LabelMap α) : Value :=
  .object (m.entries.map fun (key, x) => (key, value x))

def ofJson? (value? : Value → Option α) (v : Value) : Option (LabelMap α) :=
  (v.bindings? value?).map LabelMap.ofList

end LabelMap

namespace Topology

def toJson (t : Topology) : Value := t.nodes.toJson LabelSet.toJson

def ofJson? (v : Value) : Option Topology := (LabelMap.ofJson? LabelSet.ofJson? v).map .mk

def parse? (text : String) : Option Topology := Json.parse? text >>= ofJson?

end Topology

namespace Verdict

def toJson (verdict : Verdict) : Value := .string verdict.text

def ofName? : String → Option Verdict
  | "pass" => some .pass
  | "fail" => some .fail
  | "dropped" => some .dropped
  | _ => none

def parse? (text : String) : Option Verdict :=
  Json.parse? text >>= Value.alternative? >>= ofName?

end Verdict

namespace Discrepancy.Kind

def name : Discrepancy.Kind → String
  | .missing => "Missing"
  | .spurious => "Spurious"

def ofName? : String → Option Discrepancy.Kind
  | "Missing" => some .missing
  | "Spurious" => some .spurious
  | _ => none

end Discrepancy.Kind

namespace Discrepancy

def toJson (d : Discrepancy) : Value :=
  .object [("kind", .string d.kind.name), ("parent", .string d.parent), ("child", .string d.child)]

def ofJson? (v : Value) : Option Discrepancy := do
  let [kind, parent, child] ← v.record? ["kind", "parent", "child"] | none
  pure ⟨← kind.alternative? >>= Discrepancy.Kind.ofName?, ← parent.string?, ← child.string?⟩

end Discrepancy

namespace Comparison

def toJson (d : Comparison) : Value :=
  .object [("missing", .array (d.missing.map Discrepancy.toJson)),
    ("spurious", .array (d.spurious.map Discrepancy.toJson))]

def ofJson? (v : Value) : Option Comparison := do
  let [missing, spurious] ← v.record? ["missing", "spurious"] | none
  pure ⟨← missing.array? Discrepancy.ofJson?, ← spurious.array? Discrepancy.ofJson?⟩

def parse? (text : String) : Option Comparison := Json.parse? text >>= ofJson?

end Comparison

namespace Tally

def toJson (t : Tally) : Value :=
  .object [("expected", t.expected.toJson), ("counts", .array (t.counts.map .natural))]

def ofJson? (v : Value) : Option Tally := do
  let [expected, counts] ← v.record? ["expected", "counts"] | none
  pure ⟨← LabelSet.ofJson? expected, ← counts.array? Value.word?⟩

def parse? (text : String) : Option Tally := Json.parse? text >>= ofJson?

end Tally

namespace Duration

def toJson (d : Duration) : Value :=
  .object [("secs", .natural d.secs), ("nanos", .natural d.nanos)]

/-- The length of time of a number of seconds and nanoseconds. Whole seconds among the
nanoseconds are carried, as long as the sum has sixty-four bits. -/
def normalize? (secs nanos : Nat) : Option Duration :=
  let carried := secs + nanos / 1000000000
  if carried ≤ Text.largestWord then
    some ⟨carried, nanos % 1000000000, Nat.mod_lt _ (by decide)⟩
  else none

def ofJson? (v : Value) : Option Duration := do
  let [secs, nanos] ← v.closedRecord? ["secs", "nanos"] | none
  normalize? (← secs.word?) (← nanos.natural? 0xffffffff)

end Duration

namespace FailingRun

def toJson (f : FailingRun) : Value :=
  .object [("run", .natural f.run), ("diff", f.comparison.toJson)]

def ofJson? (v : Value) : Option FailingRun := do
  let [run, comparison] ← v.record? ["run", "diff"] | none
  pure ⟨← run.word?, ← Comparison.ofJson? comparison⟩

end FailingRun

namespace Report

def toJson (r : Report) : Value := .object [
  ("bound_args", .string r.bounds),
  ("destination", .string r.destination),
  ("requested_runs", .natural r.requested),
  ("runs", .natural r.runs),
  ("passes", .natural r.passes),
  ("failures", .natural r.failures),
  ("dropped", .natural r.dropped),
  ("elapsed", r.elapsed.toJson),
  ("branches", r.branches.toJson Tally.toJson),
  ("failed_runs", .array (r.failingRuns.map FailingRun.toJson))]

def fieldNames : List String :=
  ["bound_args", "destination", "requested_runs", "runs", "passes", "failures", "dropped",
    "elapsed", "branches", "failed_runs"]

def ofJson? (v : Value) : Option Report := do
  let [bounds, destination, requested, runs, passes, failures, dropped, elapsed,
    branches, failingRuns] ← v.record? fieldNames | none
  pure {
    bounds := ← bounds.string?
    destination := ← destination.string?
    requested := ← requested.word?
    runs := ← runs.word?
    passes := ← passes.word?
    failures := ← failures.word?
    dropped := ← dropped.word?
    elapsed := ← Duration.ofJson? elapsed
    branches := ← LabelMap.ofJson? Tally.ofJson? branches
    failingRuns := ← failingRuns.array? FailingRun.ofJson? }

def render (r : Report) : String := r.toJson.pretty

def parse? (text : String) : Option Report := Json.parse? text >>= ofJson?

end Report
end Multipath
