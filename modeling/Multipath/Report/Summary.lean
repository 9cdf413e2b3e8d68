import Multipath.Report
import Multipath.Text.Numeral

/-! The end-of-session summary for people: the failure rate, the differences of the first
failing runs, and for every branch point how often how many of its children were found. -/
namespace Multipath

def numeral (n : Nat) : String := String.ofList (Text.decimal n)

theorem numeral_eq_toString (n : Nat) : numeral n = toString n := by
  rw [Nat.toString_eq_repr, numeral, Text.decimal, ← Nat.toList_repr, String.ofList_toList]

namespace Tally

def share (count evaluated : Nat) : String :=
  numeral count ++ " / " ++ numeral evaluated ++ " times: " ++
    Fraction.text (Fraction.of? count evaluated)

/-- The line for `k` children. There is none without a counter for them. -/
def foundLine? (t : Tally) (evaluated k : Nat) : Option String :=
  t.counts[k]?.map fun count =>
    "Discovered " ++ numeral k ++ " out of " ++ numeral t.expected.size ++ " children " ++
      share count evaluated

def missedLines? (t : Tally) (evaluated : Nat) : Option (List String) :=
  t.counts[0]?.map fun count =>
    if 0 < count then ["Missed entirely " ++ share count evaluated] else []

def block? (t : Tally) (evaluated number : Nat) (branch : String) :
    Option (List String) := do
  let found ← (List.range t.expected.size).mapM fun k => t.foundLine? evaluated (k + 1)
  let missed ← t.missedLines? evaluated
  pure (("At branching point " ++ numeral number ++ ": " ++ branch) :: found ++ missed ++ [""])

end Tally

namespace Report

def rule : String := "------------------------------------------------------"

def headLines (r : Report) : List String := [
  "Tests dropped: " ++ numeral r.dropped,
  "Duration: " ++ numeral (r.elapsed.secs / 60) ++ " minutes " ++
    numeral (r.elapsed.secs % 60) ++ " seconds",
  "",
  numeral r.failures ++ " failures out of " ++ numeral r.evaluated ++ " runs",
  "Failure rate: " ++ Fraction.text r.failureRate?]

def shown (r : Report) : List FailingRun := r.failingRuns.take keptFailures

def FailingRun.lines (f : FailingRun) : List String :=
  ("  Run " ++ numeral (f.run + 1) ++ ":") :: f.comparison.toList.map fun d => "    " ++ d.text

def hiddenFailures (r : Report) : Nat := r.failures - r.shown.length

def failureLines (r : Report) : List String :=
  if r.shown.isEmpty then []
  else
    ["", "First " ++ numeral r.shown.length ++ " failing runs:"] ++
    r.shown.flatMap FailingRun.lines ++
    (if 0 < r.hiddenFailures then
      ["  ... and " ++ numeral r.hiddenFailures ++ " more failing runs"] else [])

/-- The blocks of the branch points in the order of their labels. There is no dump if a
tally, read from outside, lacks a counter that its block shows. -/
def branchLines? (r : Report) : Option (List String) :=
  let blocks := r.branches.entries.zipIdx.mapM fun ((branch, tally), index) =>
    tally.block? r.evaluated (index + 1) branch
  blocks.map List.flatten

/-- All numbers of the summary but those of the branch points can be written. A failing run
is shown by the number after its own. -/
def isShowable (r : Report) : Bool := r.isBalanced && r.shown.all fun f => hasRoom f.run

def summaryLines? (r : Report) : Option (List String) := do
  let branches ← r.branchLines?
  if r.isShowable then
    some (r.headLines ++ r.failureLines ++
      ["", rule, " Branch discovery rate dump", rule] ++ branches ++ ["", "/end test data"])
  else none

def summary? (r : Report) : Option String :=
  r.summaryLines?.map fun lines => String.join (lines.map (· ++ "\n"))

end Report
end Multipath
