import Multipath.Failure
import Multipath.Log

/-! Probers. A prober is asked for one run at a time and answers with what the run
produced, with a mark for a dropped run, or with a failure. It may change a state of its
own from run to run, and it may write to the log. -/
namespace Multipath

inductive Prober.Answer where
  /-- The prober ended with the code for dropped runs; its report is not read. -/
  | dropped
  /-- The exit code is absent if the prober was killed. -/
  | completed (exitCode : Option Int) (report : String)
  deriving DecidableEq, Repr

def exitCodeText : Option Int → String
  | none => "None"
  | some code => "Some(" ++ toString code ++ ")"

structure Request where
  bounds : String
  destination : String
  deriving DecidableEq, Repr

/-- The answer to a request, and what was logged on the way to it. -/
structure Attempt where
  events : List Log.Event
  result : Except Failure Prober.Answer
  deriving Repr

structure Prober (σ : Type u) where
  probe : Request → σ → Attempt × σ

namespace Prober

def attempts (prober : Prober σ) (request : Request) : Nat → σ → List Attempt
  | 0, _ => []
  | n + 1, s =>
    let (attempt, s) := prober.probe request s
    attempt :: attempts prober request n s

/-- A prober that answers from a script, over and over; the state counts the answers. A
script without answers drops every run. -/
def scripted (script : List (Except Failure Prober.Answer)) : Prober Nat where
  probe _ n := (⟨[], (script[n % script.length]?).getD (.ok .dropped)⟩, n + 1)

end Prober
end Multipath
