import Multipath.Proofs.Report.Account
import Multipath.Session

/-! Sessions run by run. The answers that a prober would give to the requests of a session
decide all of it: the first one that cannot be scored ends the session, and the runs before it
are recorded and announced in their order. -/
namespace Multipath

namespace Prober

variable {σ : Type u}

def results (prober : Prober σ) (request : Request) (n : Nat) (s : σ) :
    List (Except Failure Answer) :=
  (prober.attempts request n s).map Attempt.result

def after (prober : Prober σ) (request : Request) : Nat → σ → σ
  | 0, s => s
  | n + 1, s => after prober request n (prober.probe request s).2

@[simp] theorem results_succ (prober : Prober σ) (request : Request) (n : Nat) (s : σ) :
    prober.results request (n + 1) s =
      (prober.probe request s).1.result :: prober.results request n (prober.probe request s).2 := rfl

@[simp] theorem length_attempts (prober : Prober σ) (request : Request) (n : Nat) (s : σ) :
    (prober.attempts request n s).length = n := by
  induction n generalizing s with
  | zero => rfl
  | succ n ih => simp [attempts, ih]

end Prober

namespace Session

variable {σ : Type u} {plan : Plan} {actual : Topology}

/-- What a result is recorded as: a dropped run, or a lattice and how it compares. -/
inductive Scored (plan : Plan) (actual : Topology) :
    Except Failure Prober.Answer → Report.Run → Prop where
  | dropped : Scored plan actual (.ok .dropped) .dropped
  | completed (read : Lattice.parse report plan.destination = .ok discovered) :
      Scored plan actual (.ok (.completed code report))
        (.completed discovered (.between discovered actual))

/-- What a session fails with at a run. A failure of the prober is passed on, and a report
without a readable lattice fails under the number of its run. -/
inductive FailsWith (plan : Plan) (number : Nat) :
    Except Failure Prober.Answer → Failure → Prop where
  | refused {cause : Failure} : FailsWith plan number (.error cause) cause
  | unreadable (read : Lattice.parse report plan.destination = .error cause) :
      FailsWith plan number (.ok (.completed code report)) (.lattice number cause)

/-- The prober fails, or its report has no readable lattice. -/
def endsSession (plan : Plan) : Except Failure Prober.Answer → Bool
  | .error _ => true
  | .ok .dropped => false
  | .ok (.completed _ report) =>
    match Lattice.parse report plan.destination with
    | .error _ => true
    | .ok _ => false

theorem scored_of_not_endsSession (actual : Topology) {result : Except Failure Prober.Answer}
    (h : endsSession plan result = false) : ∃ run, Scored plan actual result run := by
  cases result with
  | error failure => contradiction
  | ok answer =>
    cases answer with
    | dropped => exact ⟨_, .dropped⟩
    | completed code report =>
      cases read : Lattice.parse report plan.destination with
      | error cause => simp [endsSession, read] at h
      | ok discovered => exact ⟨_, .completed read⟩

theorem endsSession_of_scored {result : Except Failure Prober.Answer} {run : Report.Run}
    (scored : Scored plan actual result run) : endsSession plan result = false := by
  cases scored with
  | dropped => rfl
  | completed read => simp [endsSession, read]

theorem findIdx?_endsSession_of_scored {results : List (Except Failure Prober.Answer)}
    {runs : List Report.Run} (pairs : List.Forall₂ (Scored plan actual) results runs) :
    results.findIdx? (endsSession plan) = none := by
  induction pairs with
  | nil => rfl
  | cons scored _ ih => simp [List.findIdx?_cons, endsSession_of_scored scored, ih]

/-- A result is recorded in one way. -/
theorem rightUnique_scored : Relator.RightUnique (Scored plan actual) := by
  intro result run other scored again
  cases scored with
  | dropped =>
    cases again
    rfl
  | completed read =>
    cases again with
    | completed read' =>
      rw [read] at read'
      cases read'
      rfl

theorem failsWith_of_endsSession (number : Nat) {result : Except Failure Prober.Answer}
    (h : endsSession plan result = true) : ∃ failure, FailsWith plan number result failure := by
  cases result with
  | error failure => exact ⟨_, .refused⟩
  | ok answer =>
    cases answer with
    | dropped => contradiction
    | completed code report =>
      cases read : Lattice.parse report plan.destination with
      | error cause => exact ⟨_, .unreadable read⟩
      | ok discovered => simp [endsSession, read] at h

theorem scoreAttempt_of_scored {attempt : Attempt} {run : Report.Run}
    (scored : Scored plan actual attempt.result run) (number : Nat) :
    ∃ answer, attempt.result = .ok answer ∧
      scoreAttempt plan actual number attempt = .ok (run, runEvents number answer run) := by
  obtain ⟨events, result⟩ := attempt
  cases scored with
  | dropped => exact ⟨_, rfl, rfl⟩
  | completed read =>
    refine ⟨_, rfl, ?_⟩
    simp [scoreAttempt, score, read, bind, Except.bind, pure, Except.pure]

theorem scoreAttempt_of_failsWith (actual : Topology) {attempt : Attempt} {number : Nat}
    {cause : Failure}
    (fails : FailsWith plan number attempt.result cause) :
    scoreAttempt plan actual number attempt = .error cause := by
  obtain ⟨events, result⟩ := attempt
  cases fails with
  | refused => rfl
  | unreadable read => simp [scoreAttempt, score, read, bind, Except.bind]

section

variable {prober : Prober σ} {s : σ}

/-- A scored run is recorded and announced, and the session goes on from there. -/
theorem continueFrom_scored (left : Nat) (report : Report) {run : Report.Run}
    (scored : Scored plan actual (prober.probe plan.request s).1.result run) :
    let next := continueFrom plan actual prober left (report.record run)
      (prober.probe plan.request s).2
    let now := continueFrom plan actual prober (left + 1) report s
    now.1.requests = plan.request :: next.1.requests ∧
    now.1.progress =
      ⟨report.runs + 1, plan.repetitions, (report.record run).dropped, run.verdict⟩ ::
        next.1.progress ∧
    now.1.result = next.1.result ∧ now.2 = next.2 := by
  obtain ⟨answer, -, step⟩ := scoreAttempt_of_scored scored (report.runs + 1)
  simp [continueFrom, step]

/-- A run that cannot be scored is neither recorded nor announced, and none follows it. -/
theorem continueFrom_failsWith (actual : Topology) (left : Nat) {report : Report}
    {cause : Failure}
    (fails : FailsWith plan (report.runs + 1) (prober.probe plan.request s).1.result cause) :
    let now := continueFrom plan actual prober (left + 1) report s
    now.1.requests = [plan.request] ∧ now.1.progress = [] ∧ now.1.result = .error cause ∧
      now.2 = (prober.probe plan.request s).2 := by
  have step := scoreAttempt_of_failsWith actual fails
  simp [continueFrom, step]

end

/-- What is announced about the runs of a session: the number of each, how many are planned, how
many of the runs up to it were dropped, and its verdict. -/
def progressOf (plan : Plan) (runs : List Report.Run) : List Progress :=
  runs.mapIdx fun index run =>
    ⟨index + 1, plan.repetitions, (runs.take (index + 1)).countP Report.Run.isDropped, run.verdict⟩

def announced (plan : Plan) (begun : Report) (runs : List Report.Run) : List Progress :=
  runs.mapIdx fun index run =>
    ⟨begun.runs + (index + 1), plan.repetitions,
      begun.dropped + (runs.take (index + 1)).countP Report.Run.isDropped, run.verdict⟩

theorem announced_start (plan : Plan) (actual : Topology) (runs : List Report.Run) :
    announced plan (Report.start plan.bounds plan.destination plan.repetitions actual) runs =
      progressOf plan runs := by
  simp [announced, progressOf, Report.start]

theorem announced_cons (plan : Plan) (begun : Report) (run : Report.Run) (runs : List Report.Run) :
    announced plan begun (run :: runs) =
      ⟨begun.runs + 1, plan.repetitions, (begun.record run).dropped, run.verdict⟩ ::
        announced plan (begun.record run) runs := by
  rw [announced, announced, List.mapIdx_cons]
  congr 1
  · cases run <;> simp [Report.Run.isDropped]
  · apply congrArg (List.mapIdx · runs)
    funext index later
    rw [List.take_succ_cons, List.countP_cons, Report.runs_record, Report.dropped_record]
    cases run <;> simp [Report.Run.isDropped] <;> omega

section

variable {prober : Prober σ}

/-- A session in which every result can be scored records and announces all of its runs. -/
theorem continueFrom_complete (actual : Topology) (left : Nat) (report : Report) (s : σ)
    (scorable : ∀ result ∈ prober.results plan.request left s, endsSession plan result = false) :
    let now := continueFrom plan actual prober left report s
    ∃ runs, List.Forall₂ (Scored plan actual) (prober.results plan.request left s) runs ∧
      now.1.result = .ok (report.recordAll runs) ∧
      now.1.progress = announced plan report runs ∧
      now.1.requests = List.replicate left plan.request ∧
      now.2 = prober.after plan.request left s := by
  induction left generalizing report s with
  | zero => exact ⟨[], .nil, rfl, rfl, rfl, rfl⟩
  | succ left ih =>
    rw [Prober.results_succ] at scorable ⊢
    obtain ⟨first, rest⟩ := List.forall_mem_cons.mp scorable
    obtain ⟨run, scored⟩ := scored_of_not_endsSession actual first
    obtain ⟨requests, progress, result, state⟩ :=
      continueFrom_scored left report scored
    obtain ⟨runs, pairs, result', progress', requests', state'⟩ := ih (report.record run) _ rest
    refine ⟨run :: runs, .cons scored pairs, result.trans result', ?_, ?_, state.trans state'⟩
    · rw [progress, progress', announced_cons]
    · rw [requests, requests', List.replicate_succ]

/-- A session ends at the first result that cannot be scored. -/
theorem continueFrom_ended (actual : Topology) (left : Nat) (report : Report) (s : σ) (i : Nat)
    (ends : (prober.results plan.request left s).findIdx? (endsSession plan) = some i) :
    let now := continueFrom plan actual prober left report s
    ∃ runs result cause,
      List.Forall₂ (Scored plan actual) ((prober.results plan.request left s).take i) runs ∧
      (prober.results plan.request left s)[i]? = some result ∧
      FailsWith plan (report.runs + (i + 1)) result cause ∧
      now.1.result = .error cause ∧
      now.1.progress = announced plan report runs ∧
      now.1.requests = List.replicate (i + 1) plan.request ∧
      now.2 = prober.after plan.request (i + 1) s := by
  -- The report carries the number of the run, so it changes from step to step with the index.
  induction left generalizing report s i with
  | zero => contradiction
  | succ left ih =>
    rw [Prober.results_succ] at ends ⊢
    rw [List.findIdx?_cons] at ends
    cases first : endsSession plan (prober.probe plan.request s).1.result with
    | true =>
      rw [first, if_pos rfl] at ends
      obtain rfl : 0 = i := Option.some.inj ends
      obtain ⟨cause, fails⟩ := failsWith_of_endsSession (report.runs + 1) first
      obtain ⟨requests, progress, result, state⟩ :=
        continueFrom_failsWith actual left fails
      exact ⟨[], _, cause, .nil, rfl, fails, result, progress, requests, state⟩
    | false =>
      rw [first, if_neg (by decide), Option.map_eq_some_iff] at ends
      obtain ⟨i, ends, rfl⟩ := ends
      obtain ⟨run, scored⟩ := scored_of_not_endsSession actual first
      obtain ⟨requests, progress, result, state⟩ :=
        continueFrom_scored left report scored
      obtain ⟨runs, bad, cause, pairs, atIndex, fails, result', progress', requests', state'⟩ :=
        ih (report.record run) _ i ends
      rw [Report.runs_record, Nat.add_assoc, Nat.add_comm 1] at fails
      refine ⟨run :: runs, bad, cause, .cons scored pairs, atIndex, fails, result.trans result',
        ?_, ?_, state.trans state'⟩
      · rw [progress, progress', announced_cons]
      · rw [requests, requests']
        rfl

end

section Related

variable (plan) (prober : Prober σ) {Related : σ → σ → Prop}
  (step : ∀ {s s' : σ}, Related s s' →
    let (attempt, after) := prober.probe plan.request s
    let (attempt', after') := prober.probe plan.request s'
    attempt' = attempt ∧ Related after after')

include step

/-- From states that a prober answers alike in, and goes on from to such states, all runs are
alike. -/
theorem continueFrom_related (actual : Topology) (left : Nat) (report : Report) {s s' : σ}
    (related : Related s s') :
    let now := continueFrom plan actual prober left report s
    let now' := continueFrom plan actual prober left report s'
    now'.1 = now.1 ∧ Related now.2 now'.2 := by
  induction left generalizing report s s' with
  | zero => exact ⟨rfl, related⟩
  | succ left ih =>
    obtain ⟨sameAttempt, after⟩ := step related
    simp only [continueFrom, sameAttempt]
    split
    · exact ⟨rfl, after⟩
    · rename_i scored events _
      obtain ⟨rest, final⟩ := ih (report.record scored) after
      exact ⟨by rw [rest], final⟩

theorem run_related (actual : Topology) (elapsed : Duration) {s s' : σ} (related : Related s s') :
    let now := run plan actual prober elapsed s
    let now' := run plan actual prober elapsed s'
    now'.1 = now.1 ∧ Related now.2 now'.2 := by
  obtain ⟨sameTrace, after⟩ := continueFrom_related plan prober step actual plan.repetitions
    (.start plan.bounds plan.destination plan.repetitions actual) related
  simp only [run, sameTrace]
  exact ⟨trivial, after⟩

end Related

end Session
end Multipath
