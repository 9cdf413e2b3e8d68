import Mathlib.Data.List.Forall2
import Multipath.Proofs.Report.Histogram

/-! Reports of runs in another order, and of runs without the dropped ones. What a report says of
its evaluated runs is made of counts, and these do not depend on where a run stands. The list of
failing runs does, for it is cut off and its entries have numbers: dropping a run from a sequence
moves the numbers behind it and nothing else. -/
namespace Multipath.Report

/-- Two sequences have equally many runs of every kind of evaluated runs. -/
def Equinumerous (xs ys : List Run) : Prop :=
  ∀ kind : Run → Bool, kind .dropped = false → xs.countP kind = ys.countP kind

theorem equinumerous_of_perm {xs ys : List Run} (perm : xs.Perm ys) : Equinumerous xs ys :=
  fun kind _ => perm.countP_eq kind

def evaluatedRuns (runs : List Run) : List Run := runs.filter fun run => !run.isDropped

theorem evaluatedRuns_concat (runs : List Run) (run : Run) :
    evaluatedRuns (runs ++ [run]) =
      evaluatedRuns runs ++ if run.isDropped then [] else [run] := by
  cases dropped : run.isDropped <;> simp [evaluatedRuns, dropped]

theorem equinumerous_evaluatedRuns (runs : List Run) : Equinumerous (evaluatedRuns runs) runs := by
  intro kind neutral
  rw [evaluatedRuns, List.countP_filter]
  apply List.countP_congr
  intro run _
  cases run <;> simp [neutral, Run.isDropped]

theorem length_evaluatedRuns (runs : List Run) :
    (evaluatedRuns runs).length + runs.countP Run.isDropped = runs.length := by
  have counted := runs.length_eq_countP_add_countP Run.isDropped
  simp only [Bool.not_eq_true, Bool.decide_eq_false] at counted
  rw [evaluatedRuns, ← List.countP_eq_length_filter]
  omega

structure AgreeOnEvaluated (r s : Report) : Prop where
  passes : r.passes = s.passes
  failures : r.failures = s.failures
  evaluated : r.evaluated = s.evaluated
  failureRate : r.failureRate? = s.failureRate?
  passed : r.passed = s.passed
  branches : r.branches = s.branches

theorem agreeOnEvaluated_of_equinumerous {actual : Topology} {xs ys : List Run} {r s : Report}
    (kinds : Equinumerous xs ys) (ofX : Account xs r) (ofY : Account ys s)
    (talliedX : Tallied actual xs r) (talliedY : Tallied actual ys s) : AgreeOnEvaluated r s := by
  have passes : r.passes = s.passes := by rw [ofX.passes, ofY.passes, kinds _ rfl]
  have failures : r.failures = s.failures := by rw [ofX.failures, ofY.failures, kinds _ rfl]
  have evaluated : r.evaluated = s.evaluated := by
    rw [ofX.evaluated, ofY.evaluated, passes, failures]
  have tallies : histogram xs = histogram ys := by
    funext branch expected
    have counts (k : Nat) := kinds (Run.shows branch expected k) rfl
    simp only [histogram, counts]
  exact {
    passes := passes
    failures := failures
    evaluated := evaluated
    failureRate := by rw [failureRate?, failureRate?, failures, evaluated]
    passed := by rw [passed, passed, failures, evaluated]
    branches := by rw [talliedX, talliedY, tallies] }

/-- The entry of a failing run, and its entry when the dropped runs are left out: the number is
less by the dropped runs before it. -/
def Renumbered (runs : List Run) (f g : FailingRun) : Prop :=
  f.comparison = g.comparison ∧ f.run = g.run + (runs.take f.run).countP Run.isDropped

theorem Renumbered.append {runs : List Run} {f g : FailingRun} (inside : f.run < runs.length)
    (moved : Renumbered runs f g) (later : List Run) : Renumbered (runs ++ later) f g := by
  rw [Renumbered, List.take_append_of_le_length (Nat.le_of_lt inside)]
  exact moved

theorem failing_evaluatedRuns (runs : List Run) :
    List.Forall₂ (Renumbered runs) (failing runs) (failing (evaluatedRuns runs)) := by
  -- An entry looks back at the runs before it, so it has to be known to be inside of them.
  suffices paired : List.Forall₂ (fun f g => f.run < runs.length ∧ Renumbered runs f g)
      (failing runs) (failing (evaluatedRuns runs)) from paired.imp fun _ _ moved => moved.2
  induction runs using List.reverseRecOn with
  | nil => exact .nil
  | append_singleton runs run ih =>
    have before : List.Forall₂
        (fun f g => f.run < (runs ++ [run]).length ∧ Renumbered (runs ++ [run]) f g)
        (failing runs) (failing (evaluatedRuns runs)) := by
      refine ih.imp fun f g ⟨inside, moved⟩ => ⟨?_, moved.append inside [run]⟩
      rw [List.length_append]
      exact Nat.lt_add_right _ inside
    rw [failing_concat, evaluatedRuns_concat]
    cases run with
    | dropped => simpa [Run.failure?, Run.isDropped] using before
    | completed discovered comparison =>
      rw [Run.isDropped, if_neg Bool.false_ne_true, failing_concat]
      refine List.rel_append before ?_
      by_cases agrees : comparison.toList = []
      · simp [Run.failure?, agrees]
      · have length := length_evaluatedRuns runs
        simp only [Run.failure?, if_neg agrees, Option.toList_some, List.forall₂_cons,
          List.forall₂_nil_left_iff, and_true, Renumbered, true_and]
        rw [List.take_left, List.length_append, List.length_singleton]
        omega

/-- A report does not depend on the order of its runs but for the failing runs that it keeps, and
of these it keeps equally many. If the dropped runs are left out, it says the same of the evaluated
runs, and it keeps the same differences in the same order, each under a number that is less by the
dropped runs before it. -/
theorem recordAll_start_rearranged (bounds destination : String) (requested : Nat)
    (actual : Topology) (runs : List Run) :
    let begun := start bounds destination requested actual
    let r := begun.recordAll runs
    (∀ others, runs.Perm others →
      let s := begun.recordAll others
      r.runs = s.runs ∧ r.dropped = s.dropped ∧ AgreeOnEvaluated r s ∧
        r.failingRuns.length = s.failingRuns.length) ∧
    let s := begun.recordAll (runs.filter fun run => !run.isDropped)
    AgreeOnEvaluated r s ∧
      List.Forall₂ (fun f g => f.comparison = g.comparison ∧
        f.run = g.run + (runs.take f.run).countP Run.isDropped) r.failingRuns s.failingRuns := by
  intro begun r
  have told (runs : List Run) : Account runs (begun.recordAll runs) :=
    recordAll_account (start_account ..) runs
  have tallied (runs : List Run) : Tallied actual runs (begun.recordAll runs) :=
    recordAll_tallied (start_tallied ..) runs
  constructor
  · intro others perm s
    have agree : AgreeOnEvaluated r s := agreeOnEvaluated_of_equinumerous
      (equinumerous_of_perm perm) (told runs) (told others) (tallied runs) (tallied others)
    refine ⟨?_, ?_, agree, ?_⟩
    · rw [(told runs).runs, (told others).runs, perm.length_eq]
    · rw [(told runs).dropped, (told others).dropped, perm.countP_eq]
    · rw [(told runs).length_failingRuns, (told others).length_failingRuns]
      exact congrArg (min · 10) agree.failures
  · intro s
    have fewer := equinumerous_evaluatedRuns runs
    refine ⟨agreeOnEvaluated_of_equinumerous (fun kind neutral => (fewer kind neutral).symm)
      (told runs) (told _) (tallied runs) (tallied _), ?_⟩
    rw [(told runs).failingRuns, (told _).failingRuns]
    exact List.forall₂_take keptFailures (failing_evaluatedRuns runs)

/-- A dropped run, a failing one and a passing one, and the same the other way round. -/
theorem recordAll_start_rearranged_mixed :
    let actual := Topology.ofEdges [("start", "A"), ("start", "B")]
    let failed := Run.completed (.ofEdges [("start", "A")])
      (.between (.ofEdges [("start", "A")]) actual)
    let passed := Run.completed actual (.between actual actual)
    let begun := start "95,2,4" "10.0.9.9" 3 actual
    let r := begun.recordAll [.dropped, failed, passed]
    let s := begun.recordAll [passed, failed, .dropped]
    [.dropped, failed, passed].Perm [passed, failed, .dropped] ∧
      AgreeOnEvaluated r s ∧ r.failingRuns.length = s.failingRuns.length ∧ r.failures = 1 := by
  intro actual failed passed begun r s
  have turned : [.dropped, failed, passed].Perm [passed, failed, .dropped] :=
    (List.reverse_perm [.dropped, failed, passed]).symm
  have ⟨_, _, agree, length⟩ :=
    (recordAll_start_rearranged "95,2,4" "10.0.9.9" 3 actual [.dropped, failed, passed]).1 _ turned
  exact ⟨turned, agree, length, by decide⟩

end Multipath.Report
