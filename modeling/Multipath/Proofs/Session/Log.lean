import Multipath.Proofs.Comparison
import Multipath.Proofs.Session

/-! What a session says in the log. Between the events of its prober a session has events of its
own: one at its start, for each scored run one that says how it was scored and a warning if it
differs from the ground truth, and one at its end. They tell what is announced as progress, and
what the report says in the end. -/
namespace Multipath

def Log.Event.number? (e : Log.Event) (name : String) : Option Nat :=
  match e.fields.lookup name with
  | some (.number n) => some n
  | _ => none

theorem Report.Run.verdict_eq_fail_iff (run : Report.Run) :
    run.verdict = .fail ↔ run.isFailing = true := by
  cases run with
  | dropped => simp [Report.Run.verdict, Report.Run.isFailing]
  | completed discovered comparison =>
    simp [Report.Run.verdict, Report.Run.isFailing, Comparison.verdict, Comparison.isEmpty_iff]

theorem Report.Run.verdict_eq_dropped_iff (run : Report.Run) :
    run.verdict = .dropped ↔ run.isDropped = true := by
  cases run with
  | dropped => simp [Report.Run.verdict, Report.Run.isDropped]
  | completed discovered comparison =>
    simp [Report.Run.verdict, Report.Run.isDropped, comparison.verdict_ne_dropped]

namespace Session

variable {σ : Type u} {plan : Plan} {actual : Topology}

/-- What a session itself logs about an attempt. Of one that cannot be scored it says nothing. -/
def ownEvents (plan : Plan) (actual : Topology) (number : Nat) (attempt : Attempt) :
    List Log.Event :=
  match scoreAttempt plan actual number attempt with
  | .ok (_, events) => events
  | .error _ => []

/-- What a session itself logs about attempts, of which so many were made before. -/
def narration (plan : Plan) (actual : Topology) (before : Nat) (attempts : List Attempt) :
    List Log.Event :=
  (attempts.zipIdx before).flatMap fun (attempt, index) =>
    ownEvents plan actual (index + 1) attempt

/-- All that is logged about attempts: what the prober says comes before what is said of it. -/
def logged (plan : Plan) (actual : Topology) (before : Nat) (attempts : List Attempt) :
    List Log.Event :=
  (attempts.zipIdx before).flatMap fun (attempt, index) =>
    attempt.events ++ ownEvents plan actual (index + 1) attempt

theorem ownEvents_of_scored {attempt : Attempt} {run : Report.Run}
    (scored : Scored plan actual attempt.result run) (number : Nat) :
    ∃ answer, ownEvents plan actual number attempt = runEvents number answer run := by
  obtain ⟨answer, -, step⟩ := scoreAttempt_of_scored scored number
  exact ⟨answer, by rw [ownEvents, step]⟩

theorem ownEvents_of_failsWith (actual : Topology) {attempt : Attempt} {number : Nat}
    {cause : Failure} (fails : FailsWith plan number attempt.result cause) :
    ownEvents plan actual number attempt = [] := by
  rw [ownEvents, scoreAttempt_of_failsWith actual fails]

theorem narration_cons (before : Nat) (attempt : Attempt) (attempts : List Attempt) :
    narration plan actual before (attempt :: attempts) =
      ownEvents plan actual (before + 1) attempt ++
        narration plan actual (before + 1) attempts := by
  simp [narration]

theorem logged_cons (before : Nat) (attempt : Attempt) (attempts : List Attempt) :
    logged plan actual before (attempt :: attempts) =
      attempt.events ++ ownEvents plan actual (before + 1) attempt ++
        logged plan actual (before + 1) attempts := by
  simp [logged]

theorem logged_concat (before : Nat) (attempts : List Attempt) (attempt : Attempt) :
    logged plan actual before (attempts ++ [attempt]) =
      logged plan actual before attempts ++
        (attempt.events ++ ownEvents plan actual (before + attempts.length + 1) attempt) := by
  simp [logged, List.zipIdx_append]

/-- A session logs what is to be logged about the attempts that it makes, and nothing else. -/
theorem continueFrom_events (plan : Plan) (actual : Topology) (prober : Prober σ) (left : Nat)
    (report : Report) (s : σ) :
    let now := (continueFrom plan actual prober left report s).1
    now.events = logged plan actual report.runs
      ((prober.attempts plan.request left s).take now.requests.length) := by
  induction left generalizing report s with
  | zero => rfl
  | succ left ih =>
    cases step : scoreAttempt plan actual (report.runs + 1) (prober.probe plan.request s).1 with
    | error cause =>
      have silent :
          ownEvents plan actual (report.runs + 1) (prober.probe plan.request s).1 = [] := by
        rw [ownEvents, step]
      simp [continueFrom, Prober.attempts, step, silent, logged]
    | ok outcome =>
      obtain ⟨run, events⟩ := outcome
      have said :
          ownEvents plan actual (report.runs + 1) (prober.probe plan.request s).1 = events := by
        rw [ownEvents, step]
      have later := ih (report.record run) (prober.probe plan.request s).2
      rw [Report.runs_record] at later
      simp [continueFrom, Prober.attempts, step, logged_cons, said, later]

section Runs

variable {number : Nat} {attempt : Attempt} {e : Log.Event}

theorem mem_mismatchEvents {comparison : Comparison}
    (member : e ∈ mismatchEvents number comparison) :
    ∃ first rest, comparison.toList = first :: rest ∧
      e = ⟨.warn, logTarget, "lattice mismatch, first: " ++ first.text,
        [("run", .number number), ("differences", .number comparison.size)]⟩ := by
  unfold mismatchEvents at member
  split at member
  · contradiction
  · rename_i first rest differs
    exact ⟨first, rest, differs, List.mem_singleton.mp member⟩

/-- An event of a session is about an attempt that was scored. -/
theorem of_mem_ownEvents (member : e ∈ ownEvents plan actual number attempt) :
    ∃ answer run, attempt.result = .ok answer ∧ Scored plan actual (.ok answer) run ∧
      e ∈ runEvents number answer run := by
  cases ends : endsSession plan attempt.result with
  | true =>
    obtain ⟨cause, fails⟩ := failsWith_of_endsSession number ends
    rw [ownEvents_of_failsWith actual fails] at member
    contradiction
  | false =>
    obtain ⟨run, scored⟩ := scored_of_not_endsSession actual ends
    obtain ⟨answer, answered, step⟩ := scoreAttempt_of_scored scored number
    rw [ownEvents, step] at member
    exact ⟨answer, run, answered, answered ▸ scored, member⟩

/-- A warning names its run, counts the differences of the run and ends with the first of them. -/
theorem warning_of_mem_ownEvents (member : e ∈ ownEvents plan actual number attempt)
    (warning : e.level = .warn) :
    ∃ code report discovered first rest,
      attempt.result = .ok (.completed code report) ∧
      Lattice.parse report plan.destination = .ok discovered ∧
      (Comparison.between discovered actual).toList = first :: rest ∧
      e.number? "run" = some number ∧
      e.number? "differences" = some (Comparison.between discovered actual).toList.length ∧
      e.message = "lattice mismatch, first: " ++
        ("[" ++ (if first.kind = .missing then "MISSING" else "SPURIOUS") ++ "] " ++
          first.parent ++ " -> " ++ first.child) := by
  obtain ⟨answer, run, answered, scored, said⟩ := of_mem_ownEvents member
  cases scored with
  | dropped =>
    obtain rfl := List.mem_singleton.mp said
    contradiction
  | completed read =>
    rcases List.mem_cons.mp said with rfl | said
    · contradiction
    · obtain ⟨first, rest, differs, rfl⟩ := mem_mismatchEvents said
      exact ⟨_, _, _, first, rest, answered, read, differs, rfl,
        congrArg some (Comparison.length_toList _).symm, congrArg (_ ++ ·) first.text_eq⟩

theorem balance_of_mem_ownEvents (member : e ∈ ownEvents plan actual number attempt)
    (debug : e.level = .debug) (scoredRun : e.message = "run scored") :
    ∃ edges missing spurious, e.number? "edges" = some edges ∧
      e.number? "missing" = some missing ∧ e.number? "spurious" = some spurious ∧
      edges + missing = actual.edgeCount + spurious := by
  obtain ⟨answer, run, -, scored, said⟩ := of_mem_ownEvents member
  cases scored with
  | dropped =>
    obtain rfl := List.mem_singleton.mp said
    exact absurd scoredRun (by simp)
  | completed read =>
    rcases List.mem_cons.mp said with rfl | said
    · exact ⟨_, _, _, rfl, rfl, rfl, Comparison.edgeCount_add_missing _ _⟩
    · obtain ⟨first, rest, -, rfl⟩ := mem_mismatchEvents said
      contradiction

theorem warnings_runEvents (number : Nat) (answer : Prober.Answer) (run : Report.Run) :
    ((runEvents number answer run).filter (·.level = .warn)).map (·.number? "run") =
      if run.verdict = .fail then [some number] else [] := by
  simp only [run.verdict_eq_fail_iff]
  cases run with
  | dropped => rfl
  | completed discovered comparison =>
    cases differences : comparison.toList with
    | nil => simp [runEvents, mismatchEvents, Report.Run.isFailing, differences]
    | cons first rest =>
      simp [runEvents, mismatchEvents, Report.Run.isFailing, differences]
      rfl

def scoreMessage (verdict : Verdict) : String :=
  if verdict = .dropped then "run dropped" else "run scored"

theorem debugs_runEvents (number : Nat) (answer : Prober.Answer) (run : Report.Run) :
    ((runEvents number answer run).filter (·.level = .debug)).map
        (fun e => (e.number? "run", e.message)) =
      [(some number, scoreMessage run.verdict)] := by
  simp only [scoreMessage, run.verdict_eq_dropped_iff]
  cases run with
  | dropped => rfl
  | completed discovered comparison =>
    cases differences : comparison.toList with
    | nil =>
      simp [runEvents, mismatchEvents, Report.Run.isDropped, differences]
      rfl
    | cons first rest =>
      simp [runEvents, mismatchEvents, Report.Run.isDropped, differences]
      rfl

theorem level_ne_info_of_mem_ownEvents (member : e ∈ ownEvents plan actual number attempt) :
    e.level ≠ .info := by
  obtain ⟨answer, run, -, scored, said⟩ := of_mem_ownEvents member
  cases scored with
  | dropped =>
    obtain rfl := List.mem_singleton.mp said
    exact nofun
  | completed read =>
    rcases List.mem_cons.mp said with rfl | said
    · exact nofun
    · obtain ⟨first, rest, -, rfl⟩ := mem_mismatchEvents said
      exact nofun

end Runs

section Narration

variable {attempts : List Attempt} {runs : List Report.Run} {e : Log.Event}

theorem mem_narration {before : Nat} (member : e ∈ narration plan actual before attempts) :
    ∃ index attempt, attempts[index]? = some attempt ∧
      e ∈ ownEvents plan actual (before + index + 1) attempt := by
  obtain ⟨⟨attempt, place⟩, listed, said⟩ := List.mem_flatMap.mp member
  obtain ⟨above, atIndex⟩ := List.mk_mem_zipIdx_iff_le_and_getElem?_sub.mp listed
  refine ⟨place - before, attempt, atIndex, ?_⟩
  rw [Nat.add_sub_cancel' above]
  exact said

/-- The runs that are warned of are those that are announced to have failed. -/
theorem warnings_narration
    (pairs : List.Forall₂ (fun attempt run => Scored plan actual attempt.result run) attempts runs)
    (begun : Report) :
    ((narration plan actual begun.runs attempts).filter (·.level = .warn)).map (·.number? "run") =
      ((announced plan begun runs).filter (·.verdict = .fail)).map fun p => some p.run := by
  induction pairs generalizing begun with
  | nil => rfl
  | @cons attempt run attempts runs scored _ ih =>
    obtain ⟨answer, said⟩ := ownEvents_of_scored scored (begun.runs + 1)
    have later := ih (begun.record run)
    rw [Report.runs_record] at later
    rw [narration_cons, announced_cons, said, List.filter_append, List.map_append,
      warnings_runEvents, later]
    by_cases failed : run.verdict = .fail <;> simp [failed]

/-- There is one debug event for each run that is announced, and it says whether the run was
dropped. -/
theorem debugs_narration
    (pairs : List.Forall₂ (fun attempt run => Scored plan actual attempt.result run) attempts runs)
    (begun : Report) :
    ((narration plan actual begun.runs attempts).filter (·.level = .debug)).map
        (fun e => (e.number? "run", e.message)) =
      (announced plan begun runs).map fun p => (some p.run, scoreMessage p.verdict) := by
  induction pairs generalizing begun with
  | nil => rfl
  | @cons attempt run attempts runs scored _ ih =>
    obtain ⟨answer, said⟩ := ownEvents_of_scored scored (begun.runs + 1)
    have later := ih (begun.record run)
    rw [Report.runs_record] at later
    rw [narration_cons, announced_cons, said, List.filter_append, List.map_append,
      debugs_runEvents, later]
    rfl

theorem filter_info_narration (before : Nat) (attempts : List Attempt) :
    (narration plan actual before attempts).filter (·.level = .info) = [] := by
  refine List.filter_eq_nil_iff.mpr fun e member info => ?_
  obtain ⟨index, attempt, -, said⟩ := mem_narration member
  exact level_ne_info_of_mem_ownEvents said (of_decide_eq_true info)

end Narration

/-- The runs that are announced to have failed are the failing ones, each under the number after
its place. -/
theorem failed_announced (plan : Plan) (begun : Report) (runs : List Report.Run) :
    ((announced plan begun runs).filter (·.verdict = .fail)).map Progress.run =
      ((runs.zipIdx begun.runs).filterMap fun (run, index) => run.failure? index).map
        (·.run + 1) := by
  induction runs generalizing begun with
  | nil => rfl
  | cons run runs ih =>
    have later := ih (begun.record run)
    rw [Report.runs_record] at later
    have fails := run.isSome_failure? begun.runs
    rw [announced_cons, List.zipIdx_cons]
    cases entry : run.failure? begun.runs with
    | none =>
      have passed : run.verdict ≠ .fail := by
        rw [ne_eq, run.verdict_eq_fail_iff, ← fails, entry]
        exact nofun
      simp [passed, entry, later]
    | some f =>
      have failed : run.verdict = .fail := by
        rw [run.verdict_eq_fail_iff, ← fails, entry]
        rfl
      have number : f.run = begun.runs := (Report.Run.failure?_eq_some_iff.mp entry).1
      simp [failed, entry, later, number]

/-- What a session says in the log about attempts is what it announces about them. Warnings are
about the runs that failed; each counts the differences of its run and ends with the first of
them. For every run there is one event that says whether it was dropped, and the numbers of edges
in it add up to those that are really there. -/
structure Tells (plan : Plan) (actual : Topology) (attempts : List Attempt)
    (progress : List Progress) (own : List Log.Event) : Prop where
  warned : (own.filter (·.level = .warn)).map (·.number? "run") =
    (progress.filter (·.verdict = .fail)).map fun p => some p.run
  differing : ∀ e ∈ own, e.level = .warn → ∃ index code report discovered first rest,
    (attempts[index]?).map Attempt.result = some (.ok (.completed code report)) ∧
    Lattice.parse report plan.destination = .ok discovered ∧
    let comparison := Comparison.between discovered actual
    comparison.missing ++ comparison.spurious = first :: rest ∧
    e.number? "run" = some (index + 1) ∧
    e.number? "differences" = some (comparison.missing ++ comparison.spurious).length ∧
    e.message = "lattice mismatch, first: " ++
      ("[" ++ (if first.kind = .missing then "MISSING" else "SPURIOUS") ++ "] " ++ first.parent ++
        " -> " ++ first.child)
  scored : (own.filter (·.level = .debug)).map (fun e => (e.number? "run", e.message)) =
    progress.map fun p => (some p.run, if p.verdict = .dropped then "run dropped" else "run scored")
  balanced : ∀ e ∈ own, e.level = .debug → e.message = "run scored" →
    ∃ edges missing spurious, e.number? "edges" = some edges ∧
      e.number? "missing" = some missing ∧ e.number? "spurious" = some spurious ∧
      edges + missing = actual.edgeCount + spurious

theorem tells_narration {attempts : List Attempt} {runs : List Report.Run}
    (pairs : List.Forall₂ (Scored plan actual) (attempts.map Attempt.result) runs) :
    Tells plan actual attempts (progressOf plan runs) (narration plan actual 0 attempts) := by
  rw [List.forall₂_map_left_iff] at pairs
  have warned := warnings_narration pairs
    (.start plan.bounds plan.destination plan.repetitions actual)
  have scored := debugs_narration pairs
    (.start plan.bounds plan.destination plan.repetitions actual)
  rw [announced_start] at warned scored
  refine ⟨warned, fun e member warning => ?_, scored, fun e member debug message => ?_⟩
  · obtain ⟨index, attempt, atIndex, said⟩ := mem_narration member
    obtain ⟨code, report, discovered, first, rest, result, told⟩ :=
      warning_of_mem_ownEvents said warning
    rw [Nat.zero_add] at told
    refine ⟨index, code, report, discovered, first, rest, ?_, told⟩
    rw [atIndex, Option.map_some, result]
  · obtain ⟨index, attempt, -, said⟩ := mem_narration member
    exact balance_of_mem_ownEvents said debug message

theorem Tells.surround {attempts : List Attempt} {progress : List Progress} {own : List Log.Event}
    (tells : Tells plan actual attempts progress own) {opening closing : List Log.Event}
    (before : ∀ e ∈ opening, e.level = .info) (behind : ∀ e ∈ closing, e.level = .info) :
    Tells plan actual attempts progress (opening ++ own ++ closing) := by
  have others (level : Log.Level) (notInfo : level ≠ .info) :
      (opening ++ own ++ closing).filter (·.level = level) = own.filter (·.level = level) := by
    have silent {events : List Log.Event} (info : ∀ e ∈ events, e.level = .info) :
        events.filter (·.level = level) = [] := by
      refine List.filter_eq_nil_iff.mpr fun e member atLevel => notInfo ?_
      rw [← of_decide_eq_true atLevel, info e member]
    rw [List.filter_append, List.filter_append, silent before, silent behind, List.nil_append,
      List.append_nil]
  have inside {e : Log.Event} (member : e ∈ opening ++ own ++ closing) (notInfo : e.level ≠ .info) :
      e ∈ own := by
    rcases List.mem_append.mp member with member | last
    · rcases List.mem_append.mp member with first | member
      · exact absurd (before e first) notInfo
      · exact member
    · exact absurd (behind e last) notInfo
  exact {
    warned := (others .warn nofun).symm ▸ tells.warned
    differing := fun e member warning =>
      tells.differing e (inside member (warning ▸ nofun)) warning
    scored := (others .debug nofun).symm ▸ tells.scored
    balanced := fun e member debug => tells.balanced e (inside member (debug ▸ nofun)) debug }

theorem filter_info_own (plan : Plan) (actual : Topology) (attempts : List Attempt)
    {opening closing : List Log.Event}
    (before : ∀ e ∈ opening, e.level = .info) (behind : ∀ e ∈ closing, e.level = .info) :
    (opening ++ narration plan actual 0 attempts ++ closing).filter (·.level = .info) =
      opening ++ closing := by
  have kept {events : List Log.Event} (info : ∀ e ∈ events, e.level = .info) :
      events.filter (·.level = .info) = events :=
    List.filter_eq_self.mpr fun e member => decide_eq_true (info e member)
  rw [List.filter_append, List.filter_append, filter_info_narration, kept before, kept behind,
    List.append_nil]

theorem length_progressOf (plan : Plan) (runs : List Report.Run) :
    (progressOf plan runs).length = runs.length := List.length_mapIdx

section Endings

variable {prober : Prober σ} {elapsed : Duration} {s : σ}

/-- What a session adds to its runs. -/
theorem run_around (plan : Plan) (actual : Topology) (prober : Prober σ) (elapsed : Duration)
    (s : σ) :
    let begun := Report.start plan.bounds plan.destination plan.repetitions actual
    let runs := (continueFrom plan actual prober plan.repetitions begun s).1
    let trace := (run plan actual prober elapsed s).1
    trace.result = runs.result.map (fun report => { report with elapsed := elapsed }) ∧
    trace.events = startEvent plan begun :: runs.events ++
      match trace.result with
      | .ok report => [finishEvent report]
      | .error _ => [] :=
  ⟨rfl, rfl⟩

theorem run_complete (actual : Topology) (elapsed : Duration)
    (scorable : ∀ result ∈ prober.results plan.request plan.repetitions s,
      endsSession plan result = false) :
    let attempts := prober.attempts plan.request plan.repetitions s
    let begun := Report.start plan.bounds plan.destination plan.repetitions actual
    let now := run plan actual prober elapsed s
    ∃ runs, List.Forall₂ (Scored plan actual) (attempts.map Attempt.result) runs ∧
      let report := { begun.recordAll runs with elapsed := elapsed }
      now.1.result = .ok report ∧ now.1.progress = progressOf plan runs ∧
      now.1.events =
        [startEvent plan begun] ++ logged plan actual 0 attempts ++ [finishEvent report] ∧
      now.2 = prober.after plan.request plan.repetitions s := by
  intro attempts begun now
  obtain ⟨runs, pairs, result, progress, requests, state⟩ :=
    continueFrom_complete actual plan.repetitions begun s scorable
  have said := continueFrom_events plan actual prober plan.repetitions begun s
  have whole : attempts.take plan.repetitions = attempts :=
    List.take_of_length_le (Nat.le_of_eq (prober.length_attempts ..))
  simp only [requests, List.length_replicate] at said
  obtain ⟨ending, events⟩ := run_around plan actual prober elapsed s
  rw [result] at ending
  have result : now.1.result = .ok { begun.recordAll runs with elapsed := elapsed } := ending
  refine ⟨runs, pairs, result, progress.trans (announced_start ..), ?_, state⟩
  rw [show now.1.events = _ from events, said, whole]
  simp only [show (run plan actual prober elapsed s).1.result = _ from result]
  rfl

theorem run_ended (actual : Topology) (elapsed : Duration) {i : Nat}
    (ends : (prober.results plan.request plan.repetitions s).findIdx? (endsSession plan) = some i) :
    let attempts := prober.attempts plan.request plan.repetitions s
    let begun := Report.start plan.bounds plan.destination plan.repetitions actual
    let now := run plan actual prober elapsed s
    ∃ runs attempt cause,
      List.Forall₂ (Scored plan actual) ((attempts.take i).map Attempt.result) runs ∧
      attempts[i]? = some attempt ∧ FailsWith plan (i + 1) attempt.result cause ∧
      now.1.result = .error cause ∧ now.1.progress = progressOf plan runs ∧
      now.1.events =
        [startEvent plan begun] ++ logged plan actual 0 (attempts.take i) ++ attempt.events ∧
      now.2 = prober.after plan.request (i + 1) s := by
  intro attempts begun now
  obtain ⟨runs, bad, cause, pairs, atIndex, fails, failed, progress, requests, state⟩ :=
    continueFrom_ended actual plan.repetitions begun s i ends
  rw [show begun.runs = 0 from rfl, Nat.zero_add] at fails
  obtain ⟨attempt, found, rfl⟩ : ∃ attempt, attempts[i]? = some attempt ∧ attempt.result = bad := by
    rwa [Prober.results, List.getElem?_map, Option.map_eq_some_iff] at atIndex
  have said := continueFrom_events plan actual prober plan.repetitions begun s
  have upTo : attempts.take (i + 1) = attempts.take i ++ [attempt] := by
    rw [List.take_add_one, found, Option.toList_some]
  -- Of the attempt at which it ends the session logs what the prober said, and nothing of its own.
  have silent : ownEvents plan actual (0 + (attempts.take i).length + 1) attempt = [] := by
    have number : (attempts.take i).length = i :=
      List.length_take_of_le (List.getElem?_eq_some_iff.mp found).1.le
    rw [number, Nat.zero_add]
    exact ownEvents_of_failsWith actual fails
  obtain ⟨ending, events⟩ := run_around plan actual prober elapsed s
  rw [failed] at ending
  have result : now.1.result = .error cause := ending
  refine ⟨runs, attempt, cause, ?_, found, fails, result, progress.trans (announced_start ..), ?_,
    state⟩
  · rw [List.map_take]
    exact pairs
  · simp only [requests, List.length_replicate] at said
    rw [show now.1.events = _ from events, said,
      show (prober.attempts plan.request plan.repetitions s).take (i + 1) = _ from upTo,
      show begun.runs = 0 from rfl, logged_concat, silent, List.append_nil]
    simp only [show (run plan actual prober elapsed s).1.result = _ from result]
    simp
    rfl

end Endings

/-- The log of a session, its progress and its report tell the same story. Between what its prober
says, a session that reaches its end says how it starts, what becomes of each run, and how it ends.
The runs that it warns of are those that it announces to have failed, and the first ten of them are
the failing runs of the report; the numbers that it closes with are those of the report. A session
that fails says nothing about the run at which it fails, and it does not say that it ends. -/
theorem run_narrates (plan : Plan) (actual : Topology) (prober : Prober σ) (elapsed : Duration)
    (s : σ) :
    let attempts := prober.attempts plan.request plan.repetitions s
    let begun := Report.start plan.bounds plan.destination plan.repetitions actual
    let trace := (run plan actual prober elapsed s).1
    match trace.result with
    | .ok report =>
      ∃ closing,
      let own := [startEvent plan begun] ++ narration plan actual 0 attempts ++ [closing]
      trace.events = [startEvent plan begun] ++ logged plan actual 0 attempts ++ [closing] ∧
      trace.progress.length = plan.repetitions ∧
      Tells plan actual attempts trace.progress own ∧
      ((own.filter (·.level = .warn)).map (·.number? "run")).take 10 =
        report.failingRuns.map (fun f => some (f.run + 1)) ∧
      own.filter (·.level = .info) = [startEvent plan begun, closing] ∧
      closing.message = "session finished" ∧ closing.number? "runs" = some report.runs ∧
      closing.number? "failures" = some report.failures ∧
      closing.number? "dropped" = some report.dropped
    | .error cause =>
      ∃ i attempt, attempts[i]? = some attempt ∧ FailsWith plan (i + 1) attempt.result cause ∧
      let own := [startEvent plan begun] ++ narration plan actual 0 (attempts.take i)
      trace.events =
        [startEvent plan begun] ++ logged plan actual 0 (attempts.take i) ++ attempt.events ∧
      trace.progress.length = i ∧
      Tells plan actual (attempts.take i) trace.progress own ∧
      own.filter (·.level = .info) = [startEvent plan begun] := by
  intro attempts begun trace
  have opens : ∀ e ∈ [startEvent plan begun], e.level = .info := by simp [startEvent]
  cases ends : (prober.results plan.request plan.repetitions s).findIdx? (endsSession plan) with
  | none =>
    obtain ⟨runs, pairs, result, progress, events, -⟩ :=
      run_complete actual elapsed (List.findIdx?_eq_none_iff.mp ends)
    have closes (report : Report) : ∀ e ∈ [finishEvent report], e.level = .info := by
      simp [finishEvent]
    have told := (tells_narration pairs).surround opens
      (closes { begun.recordAll runs with elapsed := elapsed })
    rw [← progress] at told
    have account := Report.recordAll_account
      (Report.start_account plan.bounds plan.destination plan.repetitions actual) runs
    simp only [show trace.result = _ from result]
    refine ⟨_, events, ?_, told, ?_, filter_info_own plan actual attempts opens (closes _), rfl,
      rfl, rfl, rfl⟩
    · rw [show trace.progress = _ from progress, length_progressOf, ← pairs.length_eq,
        List.length_map, Prober.length_attempts]
    · let failed := (progressOf plan runs).filter (·.verdict = .fail)
      have numbers : failed.map Progress.run = (Report.failing runs).map (·.run + 1) := by
        simp only [failed, ← announced_start plan actual]
        exact failed_announced plan begun runs
      calc ((_ : List Log.Event).map (·.number? "run")).take 10
        _ = ((failed.map Progress.run).map some).take 10 := by
            rw [told.warned, show trace.progress = _ from progress, List.map_map]
            rfl
        _ = ((Report.failing runs).take 10).map (fun f => some (f.run + 1)) := by
            rw [numbers, List.map_map, List.map_take]
            rfl
        _ = (begun.recordAll runs).failingRuns.map (fun f => some (f.run + 1)) := by
            rw [account.failingRuns]
            rfl
  | some i =>
    obtain ⟨runs, attempt, cause, pairs, atIndex, fails, result, progress, events, -⟩ :=
      run_ended actual elapsed ends
    have nothing : ∀ e ∈ ([] : List Log.Event), e.level = .info := nofun
    have told := (tells_narration pairs).surround opens nothing
    have starts := filter_info_own plan actual (attempts.take i) opens nothing
    rw [List.append_nil] at told starts
    rw [← progress] at told
    simp only [show trace.result = _ from result]
    refine ⟨i, attempt, atIndex, fails, events, ?_, told, starts⟩
    rw [show trace.progress = _ from progress, length_progressOf, ← pairs.length_eq,
      List.length_map, List.length_take_of_le (List.getElem?_eq_some_iff.mp atIndex).1.le]

end Session
end Multipath
