import Multipath.Proofs.Config
import Multipath.Proofs.FailureTest.Verbosity
import Multipath.Proofs.Prober.Launch

/-! Failure tests do as they are configured. The configuration is merged from the command line, the
file and the usual values. It alone decides which program is started and with which arguments, what
the runs are scored against, and how much is logged. A file that cannot be used ends the test before
anything is done. -/
namespace Multipath

namespace Session

variable {σ : Type u} {plan : Plan} {actual : Topology} {prober : Prober σ} {elapsed : Duration}
  {s : σ} {e : Log.Event}

theorem target_of_mem_ownEvents {number : Nat} {attempt : Attempt}
    (member : e ∈ ownEvents plan actual number attempt) : e.target = logTarget := by
  obtain ⟨answer, run, -, scored, said⟩ := of_mem_ownEvents member
  cases scored with
  | dropped =>
    obtain rfl := List.mem_singleton.mp said
    rfl
  | completed read =>
    rcases List.mem_cons.mp said with rfl | said
    · rfl
    · obtain ⟨first, rest, -, rfl⟩ := mem_mismatchEvents said
      rfl

/-- An event of a session is its own, or comes from an attempt that it makes. -/
theorem of_mem_events (member : e ∈ (run plan actual prober elapsed s).1.events) :
    e.target = logTarget ∨
      ∃ attempt ∈ prober.attempts plan.request plan.repetitions s, e ∈ attempt.events := by
  obtain ⟨-, events⟩ := run_around plan actual prober elapsed s
  rw [events] at member
  rcases List.mem_append.mp member with member | last
  · rcases List.mem_cons.mp member with rfl | among
    · exact .inl rfl
    · rw [continueFrom_events] at among
      obtain ⟨⟨attempt, index⟩, listed, said⟩ := List.mem_flatMap.mp among
      have made := List.mem_of_mem_take (List.fst_mem_of_mem_zipIdx listed)
      rcases List.mem_append.mp said with said | own
      · exact .inr ⟨attempt, made, said⟩
      · exact .inl (target_of_mem_ownEvents own)
  · split at last
    · obtain rfl := List.mem_singleton.mp last
      exact .inl rfl
    · contradiction

/-- A failure that has nothing to do with lattices is the result of an attempt. -/
theorem exists_attempt_of_failed {cause : Failure}
    (failed : (run plan actual prober elapsed s).1.result = .error cause) :
    (∃ number reason, cause = .lattice number reason) ∨
      ∃ attempt ∈ prober.attempts plan.request plan.repetitions s,
        attempt.result = .error cause := by
  cases ends : (prober.results plan.request plan.repetitions s).findIdx? (endsSession plan) with
  | none =>
    obtain ⟨runs, -, complete, -⟩ :=
      run_complete actual elapsed (List.findIdx?_eq_none_iff.mp ends)
    rw [failed] at complete
    contradiction
  | some i =>
    obtain ⟨-, attempt, reason, -, made, fails, ended, -⟩ := run_ended actual elapsed ends
    rw [failed] at ended
    obtain rfl := Except.error.inj ended
    generalize answered : attempt.result = result at fails
    cases fails with
    | refused => exact .inr ⟨attempt, List.mem_of_getElem? made, answered⟩
    | unreadable read => exact .inl ⟨_, _, rfl⟩

end Session

namespace FailureTest

open CommandLine (Item Parameter parse itemsOf values valueOf? verbosity)
open Session (Scored progressOf endsSession)
open Subprocess (Starts isLaunch)

def isLoaded (e : Log.Event) : Bool :=
  e.target == logTarget && e.message == "ground truth loaded"

/-- A test starts no program but one, each time with the same arguments. A test that succeeds starts
it once for each repetition. -/
structure StartsOnly (path : Path) (given : List String) (repetitions : Nat) (m : Machine)
    (t : Transcript) : Prop where
  begun : ∃ begun, t.machine.starts = m.starts ++ begun ∧ (∀ s ∈ begun, Starts path given s) ∧
    (t.exitCode = 0 → begun.length = repetitions)
  launched : ∀ e ∈ t.logged, isLaunch e = true →
    e.fields.lookup "program" = some (.text path.display)
  notStarted : ∀ program fault,
    t.stop = some (.error (.failure (.notStarted program fault))) → program = path

/-- A test takes the ground truth from a source. If nothing can be loaded from there, then it does
nothing. The runs of a test that succeeds are scored against what is loaded. -/
structure TakesTruth (source : GroundTruth.Source) (a : Arguments)
    (results : List (Except Failure Prober.Answer)) (elapsed : Duration) (m : Machine)
    (t : Transcript) : Prop where
  missing : ∀ cause, source.load m.tree a.destination = .error cause →
    t.stop = some (.error (.groundTruth a.destination cause)) ∧ t.stdout = "" ∧ t.machine = m
  told : ∀ e ∈ t.logged, isLoaded e = true → ∃ path actual,
    source.load m.tree a.destination = .ok (path, actual) ∧ e = loadedEvent path actual
  scored : t.exitCode = 0 → ∃ path actual runs,
    source.load m.tree a.destination = .ok (path, actual) ∧
    List.Forall₂ (Scored (plan a) actual) results runs ∧
    t.stdout = openingText a.repetitions ++
      progressText a.quiet (progressOf (plan a) runs) ++
      ("\n" ++ (reportOf a actual elapsed runs).summary?.getD "")

variable {words : List String} {a : Arguments} {c : Config} {program : Executable}
  {elapsed : Duration} {m : Machine} {path : Path} {actual : Topology} {e : Log.Event}

section Course

def attempts (a : Arguments) (c : Config) (program : Executable) (m : Machine) : List Attempt :=
  (Subprocess.prober c program).attempts (plan a).request a.repetitions m

theorem of_mem_publish {json : Option Path} {report : Report} {t u : FileTree}
    {events : List Log.Event} (published : publish json report t = .ok (events, u))
    (member : e ∈ events) : ∃ path, e = writtenEvent path := by
  cases json with
  | none =>
    cases published
    contradiction
  | some path =>
    cases written : t.write path (Text.Utf8.encode report.render.toList) with
    | error cause => simp [publish, written] at published
    | ok tree =>
      simp only [publish, written, Except.ok.injEq, Prod.mk.injEq] at published
      rw [← published.1] at member
      exact ⟨path, List.mem_singleton.mp member⟩

theorem publish_ne_failure (json : Option Path) (report : Report) (t : FileTree)
    (cause : Failure) : publish json report t ≠ .error (.failure cause) := by
  cases json with
  | none => simp [publish]
  | some path =>
    cases written : t.write path (Text.Utf8.encode report.render.toList) <;>
      simp [publish, written]

/-- What follows a session starts nothing, says only that the report is written, and fails in ways
of its own. -/
theorem conclude_adds (json : Option Path) (trace : Session.Trace) (m : Machine) :
    let rest := conclude json trace m
    rest.machine.starts = m.starts ∧ (∀ e ∈ rest.events, ∃ path, e = writtenEvent path) ∧
      ∀ cause, rest.result = .error (.failure cause) → trace.result = .error cause := by
  cases result : trace.result with
  | error failure =>
    simp only [conclude, result]
    refine ⟨trivial, by simp, fun cause failure => ?_⟩
    cases failure
    rfl
  | ok report =>
    cases published : publish json report m.tree with
    | error error =>
      simp only [conclude, result, published]
      refine ⟨trivial, by simp, fun cause failure => ?_⟩
      cases failure
      exact absurd published (publish_ne_failure json report m.tree cause)
    | ok written =>
      simp only [conclude, result, published]
      exact ⟨trivial, fun e member => of_mem_publish published member, by simp⟩

theorem perform_of_missing {cause : GroundTruth.Error}
    (missing : c.truthSource.load m.tree a.destination = .error cause) :
    perform c a program elapsed m = ⟨[], [], .error (.groundTruth a.destination cause), m⟩ := by
  rw [perform, missing]

/-- A test says what ground truth it has loaded, what its session and the attempts of it say, and
that the report is written. -/
theorem of_mem_perform (member : e ∈ (perform c a program elapsed m).events) :
    (∃ path actual, c.truthSource.load m.tree a.destination = .ok (path, actual) ∧
      e = loadedEvent path actual) ∨
    e.target = Session.logTarget ∨ (∃ path, e = writtenEvent path) ∨
    ∃ attempt ∈ attempts a c program m, e ∈ attempt.events := by
  cases load : c.truthSource.load m.tree a.destination with
  | error cause =>
    rw [perform_of_missing load] at member
    contradiction
  | ok loaded =>
    simp only [perform, load] at member
    rcases List.mem_append.mp member with member | last
    · rcases List.mem_cons.mp member with rfl | among
      · exact .inl ⟨loaded.1, loaded.2, rfl, rfl⟩
      · rcases Session.of_mem_events among with own | said
        · exact .inr (.inl own)
        · exact .inr (.inr (.inr said))
    · exact .inr (.inr (.inl ((conclude_adds ..).2.1 e last)))

theorem not_isLaunch_of_target (own : e.target = Session.logTarget) : isLaunch e = false := by
  simp [isLaunch, own, Session.logTarget, Subprocess.logTarget]

theorem launch_of_mem_perform (member : e ∈ (perform c a program elapsed m).events)
    (launch : isLaunch e = true) : e.fields.lookup "program" = some (.text c.program.display) := by
  rcases of_mem_perform member with ⟨path, actual, -, rfl⟩ | own | ⟨path, rfl⟩ | said
  · contradiction
  · rw [not_isLaunch_of_target own] at launch
    contradiction
  · contradiction
  · obtain ⟨attempt, made, said⟩ := said
    exact (Subprocess.names_of_mem_attempts made).launched e said launch

theorem loaded_of_mem_perform (member : e ∈ (perform c a program elapsed m).events)
    (loaded : isLoaded e = true) :
    ∃ path actual, c.truthSource.load m.tree a.destination = .ok (path, actual) ∧
      e = loadedEvent path actual := by
  have speaker : e.target = logTarget := by
    simp only [isLoaded, Bool.and_eq_true, beq_iff_eq] at loaded
    exact loaded.1
  rcases of_mem_perform member with found | own | ⟨path, rfl⟩ | said
  · exact found
  · rw [own] at speaker
    contradiction
  · contradiction
  · obtain ⟨attempt, made, said⟩ := said
    rw [(Subprocess.names_of_mem_attempts made).target e said] at speaker
    contradiction

theorem notStarted_of_perform {other : Path} {fault : Fault}
    (failed : (perform c a program elapsed m).result =
      .error (.failure (.notStarted other fault))) : other = c.program := by
  cases load : c.truthSource.load m.tree a.destination with
  | error cause =>
    rw [perform_of_missing load] at failed
    cases failed
  | ok loaded =>
    simp only [perform, load] at failed
    rcases Session.exists_attempt_of_failed ((conclude_adds ..).2.2 _ failed) with
      ⟨number, reason, ended⟩ | ⟨attempt, made, result⟩
    · contradiction
    · exact (Subprocess.names_of_mem_attempts made).notStarted other fault result

theorem starts_of_perform (c : Config) (a : Arguments) (program : Executable) (elapsed : Duration)
    (m : Machine) :
    ∃ begun, (perform c a program elapsed m).machine.starts = m.starts ++ begun ∧
      (∀ s ∈ begun, Starts c.program (Subprocess.arguments c.mode (plan a).request) s) ∧
      ((perform c a program elapsed m).result = .ok () → begun.length = a.repetitions) := by
  have each (n : Nat) := Subprocess.starts_of_after c program (plan a).request n m
  cases load : c.truthSource.load m.tree a.destination with
  | error cause =>
    rw [perform_of_missing load]
    exact ⟨[], (List.append_nil _).symm, by simp, by simp⟩
  | ok loaded =>
    have begins : (perform c a program elapsed m).machine.starts =
        (Session.run (plan a) loaded.2 (Subprocess.prober c program) elapsed m).2.starts := by
      simp only [perform, load, (conclude_adds ..).1]
    rw [begins]
    -- A session starts the program up to its end, or up to the run at which it fails.
    cases ends : (results a c program m).findIdx? (endsSession (plan a)) with
    | some i =>
      obtain ⟨-, cause, -, -, result, -⟩ := perform_ended load elapsed ends
      obtain ⟨-, -, -, -, -, -, -, -, -, state⟩ := Session.run_ended loaded.2 elapsed ends
      obtain ⟨begun, starts, are, -⟩ := each (i + 1)
      rw [state, result]
      exact ⟨begun, starts, are, by simp⟩
    | none =>
      have scorable := List.findIdx?_eq_none_iff.mp ends
      obtain ⟨-, -, -, -, -, state⟩ := Session.run_complete loaded.2 elapsed scorable
      obtain ⟨begun, starts, are, scoredAll⟩ := each a.repetitions
      rw [state]
      refine ⟨begun, starts, are, fun _ => scoredAll fun result member => ?_⟩
      cases result with
      | error cause =>
        have ends := scorable _ member
        contradiction
      | ok answer => exact ⟨answer, rfl⟩

end Course

section Run

variable (parsed : parse words = .ok a) (environment : Option String) (program : Executable)
  (elapsed : Duration) (configured : a.configure m.tree = .ok c)

include parsed configured

/-- What is shown of a test is filtered for the level of the configuration, unless more detail is
asked for. -/
theorem run_of_level :
    let level := match verbosity words with
      | 0 => c.logLevel
      | 1 => "debug"
      | _ => "trace"
    let (complaints, filter) := Log.Filter.choose environment level
    run words environment program elapsed m =
      present a.quiet complaints filter (perform c a program elapsed m) := by
  have level : a.level c = Config.levelFor c.logLevel (verbosity words) := by
    rw [Arguments.level, CommandLine.verbose_of_parse parsed, levelFor_min]
  simp only [run, parsed, configured, level]
  rfl

theorem run_startsOnly :
    StartsOnly c.program (Subprocess.arguments c.mode (plan a).request) a.repetitions m
      (run words environment program elapsed m) := by
  obtain ⟨complaints, filter, shown⟩ :=
    run_of_configure_ok parsed environment program elapsed m configured
  obtain ⟨begun, starts, are, oneEach⟩ := starts_of_perform c a program elapsed m
  rw [shown]
  refine ⟨⟨begun, starts, are, fun fine => oneEach (exitCode_present .. |>.mp fine)⟩, ?_, ?_⟩
  · intro e member launch
    exact launch_of_mem_perform (List.mem_of_mem_filter member) launch
  · intro path fault stop
    cases result : (perform c a program elapsed m).result with
    | ok done =>
      simp only [present, result] at stop
      contradiction
    | error error =>
      simp only [present, result, Option.some.injEq, Stop.error.injEq] at stop
      exact notStarted_of_perform (result.trans (congrArg _ stop))

theorem run_takesTruth :
    TakesTruth c.truthSource a (results a c program m) elapsed m
      (run words environment program elapsed m) := by
  obtain ⟨complaints, filter, shown⟩ :=
    run_of_configure_ok parsed environment program elapsed m configured
  rw [shown]
  refine ⟨fun cause missing => ?_, fun e member loaded => ?_, fun fine => ?_⟩
  · rw [perform_of_missing missing]
    cases a.quiet <;> exact ⟨rfl, rfl, rfl⟩
  · exact loaded_of_mem_perform (List.mem_of_mem_filter member) loaded
  · have done := (exitCode_present ..).mp fine
    cases load : c.truthSource.load m.tree a.destination with
    | error cause =>
      rw [perform_of_missing load] at done
      contradiction
    | ok loaded =>
      obtain ⟨runs, events, pairs, printed, -⟩ := perform_succeeded load done
      refine ⟨loaded.1, loaded.2, runs, rfl, pairs, ?_⟩
      have output := stdout_present a.quiet complaints filter printed (by simp [Piece.isProgress])
      rw [output]
      simp [text_summary]

end Run

structure AsConfigured (words : List String) (environment : Option String) (a : Arguments)
    (c : Config) (program : Executable) (elapsed : Duration) (m : Machine) (t : Transcript) :
    Prop where
  launcher : c.mode = .launcher →
    StartsOnly c.launcher [a.bounds, a.destination] a.repetitions m t
  direct : c.mode = .direct →
    StartsOnly c.binary ["-a", "mda", "-n", "-B", a.bounds, a.destination] a.repetitions m t
  file : ∀ path, c.topology = some path →
    TakesTruth (.file path) a (results a c program m) elapsed m t
  directory : c.topology = none →
    TakesTruth (.directory c.targets) a (results a c program m) elapsed m t
  level :
    let level := match verbosity words with
      | 0 => c.logLevel
      | 1 => "debug"
      | _ => "trace"
    let (complaints, filter) := Log.Filter.choose environment level
    t = present a.quiet complaints filter (perform c a program elapsed m)

theorem run_asConfigured (parsed : parse words = .ok a) (environment : Option String)
    (program : Executable) (elapsed : Duration) (configured : a.configure m.tree = .ok c) :
    AsConfigured words environment a c program elapsed m
      (run words environment program elapsed m) where
  launcher := by
    intro mode
    have starts := run_startsOnly parsed environment program elapsed configured
    rwa [Config.program, mode] at starts
  direct := by
    intro mode
    have starts := run_startsOnly parsed environment program elapsed configured
    rwa [Config.program, mode] at starts
  file := by
    intro path named
    have takes := run_takesTruth parsed environment program elapsed configured
    rwa [Config.truthSource, named] at takes
  directory := by
    intro unnamed
    have takes := run_takesTruth parsed environment program elapsed configured
    rwa [Config.truthSource, unnamed] at takes
  level := run_of_level parsed environment program elapsed configured

/-- Every value of the configuration is that of its option, if the option is given, else that under
its key in the configuration file, if the key is there, and else the usual one. The log level has no
option of its own; the requests for more detail go before it. A configuration is found whenever the
file can be used, or none is named, and the test is done as it is configured. A file that cannot be
read, or has a key that is not known, is an error, whatever else is given. -/
theorem run_by_precedence (environment : Option String) (program : Executable) (m : Machine)
    (elapsed : Duration) {words : List String} {a : Arguments} (parsed : parse words = .ok a) :
    let t := run words environment program elapsed m
    let flag := valueOf? words
    (∀ p, (values (itemsOf words) p).length ≤ 1) ∧
    (∀ entries, Config.Said m.tree (flag .config) entries → ∃ c, a.configure m.tree = .ok c) ∧
    (∀ c, a.configure m.tree = .ok c ↔
      ∃ entries, Config.Said m.tree (flag .config) entries ∧ c.Merged flag entries) ∧
    (∀ c, a.configure m.tree = .ok c → AsConfigured words environment a c program elapsed m t) ∧
    ∀ name, flag .config = some name →
      ((∃ entries, Config.Said m.tree (some name) entries) ∨
        ∃ fault, Config.Refused m.tree name fault) ∧
      ∀ fault, Config.Refused m.tree name fault →
        t = stopped (.error (.failure (.config (.ofString name) fault))) m := by
  refine ⟨CommandLine.length_values_le parsed, fun entries said => ?_, fun c => ?_,
    fun c configured => ?_, fun name named => ⟨Config.said_or_refused .., fun fault refused => ?_⟩⟩
  · obtain ⟨c, configured, -⟩ := Arguments.configure_of_said parsed said
    exact ⟨c, configured⟩
  · exact Arguments.configure_eq_ok_iff parsed
  · exact run_asConfigured parsed environment program elapsed configured
  · exact run_of_configure_error parsed environment program elapsed m
      (Arguments.configure_of_refused parsed named refused)

/-- The mode and the directory are those of the command line, the binary is that of the file, and
the launcher that the file names is not started. -/
theorem run_by_precedence_direct :
    let words := ["1", "A", "1", "-c", "c", "--mode", "direct", "--targets=d"]
    let tree := (((∅ : FileTree).install (.ofString "b") .program).install (.ofString "c")
      (.file (Text.Utf8.encode
        "launcher=\"./l\"\nbinary=\"./b\"\ntargets_dir=\"e\"\n".toList))).install
      (.ofString "d/A") (.file [0x68, 0x0a])
    let program := Executable.scripted none
      [⟨some (Text.Utf8.encode "Lattice:\n".toList), .exited 0⟩]
    let t := run words none program .zero ⟨tree, []⟩
    let c : Config := { Config.standard with
      mode := .direct, launcher := .ofString "./l", binary := .ofString "./b",
      targets := .ofString "d" }
    (∃ entries, Config.Said tree (some "c") entries ∧ c.Merged (valueOf? words) entries) ∧
      t.exitCode = 0 ∧ t.machine.starts.length = 1 ∧
      ∀ s ∈ t.machine.starts, s.program = .ofString "./b" ∧
        s.arguments = ["-a", "mda", "-n", "-B", "1", "A"] := by
  intro words tree program t c
  let settings : Settings :=
    { (∅ : Settings) with mode := some .direct, targets := some (.ofString "d") }
  let a : Arguments := ⟨"1", "A", 1, some (.ofString "c"), none, settings, false, 0⟩
  obtain ⟨-, -, merged, follows, -⟩ := run_by_precedence none program ⟨tree, []⟩ .zero
    (show parse words = .ok a from rfl)
  have configured : a.configure tree = .ok c := eq_ok_of_toOption (by decide +kernel)
  have fine : t.exitCode = 0 := by decide +kernel
  -- From here on the run is known by what was proved of it, and is not computed again.
  have ran : t = run words none program .zero ⟨tree, []⟩ := rfl
  rw [← ran] at follows
  clear_value t
  obtain ⟨begun, starts, are, oneEach⟩ := ((follows c configured).direct rfl).begun
  rw [List.nil_append] at starts
  rw [← starts] at are oneEach
  exact ⟨(merged c).mp configured, fine, oneEach fine, fun s member =>
    ⟨(are s member).program, (are s member).arguments⟩⟩

end FailureTest
end Multipath
