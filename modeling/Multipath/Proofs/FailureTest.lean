import Multipath.FailureTest
import Multipath.Proofs.CommandLine
import Multipath.Proofs.Except
import Multipath.Proofs.FileTree.Writing
import Multipath.Proofs.Prober.Effects
import Multipath.Proofs.Report.Summary
import Multipath.Proofs.Session.Log

/-! Failure tests are all or nothing. A test that reaches its end has printed a summary and written
the report behind it. One that fails on the way does nothing more, and leaves no part of either. -/
namespace Multipath.FailureTest

open Session (Scored progressOf endsSession)

variable {a : Arguments} {c : Config} {program : Executable} {m : Machine} {path : Path}
  {actual : Topology}

def machineAfter (a : Arguments) (c : Config) (program : Executable) (n : Nat) (m : Machine) :
    Machine :=
  (Subprocess.prober c program).after (plan a).request n m

def results (a : Arguments) (c : Config) (program : Executable) (m : Machine) :
    List (Except Failure Prober.Answer) :=
  (Subprocess.prober c program).results (plan a).request a.repetitions m

def reportOf (a : Arguments) (actual : Topology) (elapsed : Duration) (runs : List Report.Run) :
    Report :=
  .ofRuns a.bounds a.destination a.repetitions actual elapsed runs

theorem publish_eq_ok_iff {json : Option Path} {report : Report} {t : FileTree} :
    (∃ written, publish json report t = .ok written) ↔
      ∀ path ∈ json, ∃ u, t.write path (Text.Utf8.encode report.render.toList) = .ok u := by
  cases json with
  | none => simp [publish]
  | some path =>
    cases written : t.write path (Text.Utf8.encode report.render.toList) <;>
      simp [publish, written]

theorem write_of_publish {path : Path} {report : Report} {t u : FileTree} {events : List Log.Event}
    (published : publish (some path) report t = .ok (events, u)) :
    t.write path (Text.Utf8.encode report.render.toList) = .ok u := by
  cases written : t.write path (Text.Utf8.encode report.render.toList) with
  | error cause => simp [publish, written] at published
  | ok tree =>
    simp only [publish, written, Except.ok.injEq, Prod.mk.injEq] at published
    exact congrArg _ published.2

/-- The text of a report that is read back is not empty. -/
theorem encode_render_ne_nil {report : Report} (back : Report.parse? report.render = some report) :
    Text.Utf8.encode report.render.toList ≠ [] := by
  intro nothing
  -- An empty text would be read back from no bytes, and from an empty text no report is read.
  have text : some report.render.toList = some [] := by
    rw [← Text.Utf8.decode?_encode, nothing]
    rfl
  have empty : report.render = "" := String.toList_eq_nil_iff.mp (Option.some.inj text)
  rw [empty] at back
  contradiction

/-- The file that a report was written to is read back as this report, unless it is the device that
keeps nothing. -/
theorem read_of_publish {path : Path} {report : Report} {t u : FileTree} {events : List Log.Event}
    (published : publish (some path) report t = .ok (events, u))
    (back : Report.parse? report.render = some report) :
    ∃ place entry, u.walk .look path = .ok (.entry place entry) ∧
      (entry ≠ .sink → u.readText path = .ok report.render) := by
  obtain ⟨place, entry, led, kept⟩ :=
    FileTree.read_of_write (write_of_publish published) (encode_render_ne_nil back)
  exact ⟨place, entry, led, fun keeps => FileTree.readText_eq_ok (kept keeps)⟩

/-- After a session that reaches its end, the summary is printed before the report is written. -/
theorem conclude_ok {trace : Session.Trace} {report : Report} (result : trace.result = .ok report)
    (json : Option Path) (m : Machine) :
    let rest := conclude json trace m
    rest.printed = [.summary (report.summary?.getD "")] ∧
    rest.result = (publish json report m.tree).map (fun _ => ()) ∧
    ∀ events tree, publish json report m.tree = .ok (events, tree) →
      rest.machine = ⟨tree, m.starts⟩ := by
  simp only [conclude, result]
  cases publish json report m.tree with
  | error error => exact ⟨rfl, rfl, nofun⟩
  | ok published =>
    refine ⟨rfl, rfl, fun events tree published => ?_⟩
    cases published
    rfl

section Course

variable (loaded : c.truthSource.load m.tree a.destination = .ok (path, actual))

include loaded

theorem perform_ended (elapsed : Duration) {i : Nat}
    (ends : (results a c program m).findIdx? (endsSession (plan a)) = some i) :
    let course := perform c a program elapsed m
    ∃ runs cause, List.Forall₂ (Scored (plan a) actual) ((results a c program m).take i) runs ∧
      course.printed = .opening a.repetitions :: (progressOf (plan a) runs).map .progress ∧
      course.result = .error (.failure cause) ∧
      course.machine = machineAfter a c program (i + 1) m := by
  obtain ⟨runs, attempt, cause, pairs, -, -, result, progress, -, state⟩ :=
    Session.run_ended actual elapsed ends
  refine ⟨runs, cause, ?_, ?_, ?_, ?_⟩
  · rwa [List.map_take] at pairs
  · simp [perform, loaded, conclude, result, progress]
  · simp [perform, loaded, conclude, result]
  · simp only [perform, loaded, conclude, result]
    exact state

/-- A test of which no run fails prints its summary, and ends with the writing of its report. -/
theorem perform_complete (elapsed : Duration)
    (scorable : ∀ result ∈ results a c program m, endsSession (plan a) result = false) :
    let course := perform c a program elapsed m
    let left := machineAfter a c program a.repetitions m
    ∃ runs, List.Forall₂ (Scored (plan a) actual) (results a c program m) runs ∧
      let report := reportOf a actual elapsed runs
      course.printed = .opening a.repetitions :: (progressOf (plan a) runs).map .progress ++
        [.summary (report.summary?.getD "")] ∧
      course.result = (publish a.json report left.tree).map (fun _ => ()) ∧
      ∀ events tree, publish a.json report left.tree = .ok (events, tree) →
        course.machine = ⟨tree, left.starts⟩ := by
  obtain ⟨runs, pairs, result, progress, -, state⟩ := Session.run_complete actual elapsed scorable
  obtain ⟨printed, ending⟩ := conclude_ok result a.json
    (Session.run (plan a) actual (Subprocess.prober c program) elapsed m).2
  rw [state] at printed ending
  refine ⟨runs, pairs, ?_, ?_⟩
  · simp only [perform, loaded]
    rw [state, printed, progress]
    rfl
  · simp only [perform, loaded]
    rw [state]
    exact ending

/-- All runs of a test that succeeds can be scored, and its report is written. -/
theorem perform_succeeded {elapsed : Duration}
    (fine : (perform c a program elapsed m).result = .ok ()) :
    ∃ runs events, List.Forall₂ (Scored (plan a) actual) (results a c program m) runs ∧
      let report := reportOf a actual elapsed runs
      (perform c a program elapsed m).printed =
        .opening a.repetitions :: (progressOf (plan a) runs).map .progress ++
          [.summary (report.summary?.getD "")] ∧
      publish a.json report (machineAfter a c program a.repetitions m).tree =
        .ok (events, (perform c a program elapsed m).machine.tree) := by
  cases ends : (results a c program m).findIdx? (endsSession (plan a)) with
  | some i =>
    obtain ⟨-, cause, -, -, result, -⟩ := perform_ended loaded elapsed ends
    rw [fine] at result
    contradiction
  | none =>
    obtain ⟨runs, pairs, printed, result, machine⟩ :=
      perform_complete loaded elapsed (List.findIdx?_eq_none_iff.mp ends)
    rw [fine] at result
    obtain ⟨⟨events, tree⟩, published, -⟩ := exists_of_map_eq_ok result.symm
    refine ⟨runs, events, pairs, printed, ?_⟩
    rw [machine events tree published]
    exact published

end Course

section Shown

variable {course : Course} (quiet : Bool) (complaints : List String) (filter : Log.Filter)

theorem exitCode_present :
    (present quiet complaints filter course).exitCode = 0 ↔ course.result = .ok () := by
  cases result : course.result <;> simp [present, result, Transcript.exitCode, Stop.exitCode]

theorem heard_pieces (progress : List Progress) {rest : List Piece}
    (other : ∀ piece ∈ rest, piece.isProgress = false) :
    heard quiet (.opening n :: progress.map .progress ++ rest) =
      .opening n :: (if quiet then [] else progress.map .progress) ++ rest := by
  cases quiet with
  | false => rfl
  | true =>
    have silent : (progress.map Piece.progress).filter (fun piece => !piece.isProgress) = [] := by
      simp [Piece.isProgress]
    have kept : rest.filter (fun piece => !piece.isProgress) = rest :=
      List.filter_eq_self.mpr fun piece member => by rw [other piece member, Bool.not_false]
    rw [heard, if_pos rfl, List.filter_append, List.filter_cons_of_pos rfl, silent, kept]
    rfl

def openingText (repetitions : Nat) : String :=
  "Please wait, executing " ++ toString repetitions ++ " runs of program\n\n"

def progressLine (p : Progress) : String :=
  "\rProcessing... " ++ toString p.run ++ " / " ++ toString p.total ++ " runs ---> total of " ++
    toString p.dropped ++ " dropped"

def progressText (quiet : Bool) (progress : List Progress) : String :=
  if quiet then "" else String.join (progress.map progressLine)

theorem text_opening (repetitions : Nat) :
    (Piece.opening repetitions).text = openingText repetitions := by
  unfold Piece.text openingText
  dsimp only
  rw [numeral_eq_toString]

theorem text_progress (p : Progress) : (Piece.progress p).text = progressLine p := by
  unfold Piece.text progressLine
  dsimp only
  rw [numeral_eq_toString, numeral_eq_toString, numeral_eq_toString]

theorem text_summary (text : String) : (Piece.summary text).text = "\n" ++ text := rfl

theorem stdout_present {progress : List Progress} {rest : List Piece}
    (printed : course.printed = .opening n :: progress.map .progress ++ rest)
    (other : ∀ piece ∈ rest, piece.isProgress = false) :
    (present quiet complaints filter course).stdout =
      openingText n ++ progressText quiet progress ++
        String.join (rest.map Piece.text) := by
  have shown : (present quiet complaints filter course).printed = heard quiet course.printed := rfl
  rw [Transcript.stdout, shown, printed, heard_pieces quiet progress other, progressText]
  cases quiet <;> simp [Function.comp_def, text_opening, text_progress, String.append_assoc]

end Shown

section Run

variable {words : List String} (parsed : CommandLine.parse words = .ok a)
  (environment : Option String) (program : Executable) (elapsed : Duration) (m : Machine)

include parsed

theorem run_of_configure_error {failure : Failure} (refused : a.configure m.tree = .error failure) :
    run words environment program elapsed m = stopped (.error (.failure failure)) m := by
  simp only [run, parsed, refused]

theorem run_of_configure_ok (configured : a.configure m.tree = .ok c) :
    ∃ complaints filter, run words environment program elapsed m =
      present a.quiet complaints filter (perform c a program elapsed m) := by
  simp only [run, parsed, configured]
  exact ⟨_, _, rfl⟩

/-- A test that does not get to its first run does nothing. -/
theorem run_not_begun
    (unable : ∀ c, a.configure m.tree = .ok c →
      ∀ loaded, c.truthSource.load m.tree a.destination ≠ .ok loaded) :
    let t := run words environment program elapsed m
    t.exitCode = 1 ∧ t.stdout = "" ∧ t.machine = m := by
  intro t
  cases configured : a.configure m.tree with
  | error failure =>
    rw [show t = _ from run_of_configure_error parsed environment program elapsed m configured]
    exact ⟨rfl, rfl, rfl⟩
  | ok c =>
    obtain ⟨complaints, filter, shown⟩ :=
      run_of_configure_ok parsed environment program elapsed m configured
    cases load : c.truthSource.load m.tree a.destination with
    | ok loaded => exact absurd load (unable c configured loaded)
    | error cause =>
      rw [show t = _ from shown, perform, load]
      cases a.quiet <;> exact ⟨rfl, rfl, rfl⟩

section Loaded

variable {i : Nat} (configured : a.configure m.tree = .ok c)
  (loaded : c.truthSource.load m.tree a.destination = .ok (path, actual))

include configured loaded

/-- A test that has loaded the ground truth succeeds if each of its runs can be scored and the
report can be written. -/
theorem exitCode_run_of_loaded :
    (run words environment program elapsed m).exitCode = 0 ↔
      ∃ runs, List.Forall₂ (Scored (plan a) actual) (results a c program m) runs ∧
        ∀ json ∈ a.json, ∃ u, (machineAfter a c program a.repetitions m).tree.write json
          (Text.Utf8.encode (reportOf a actual elapsed runs).render.toList) = .ok u := by
  obtain ⟨complaints, filter, shown⟩ :=
    run_of_configure_ok parsed environment program elapsed m configured
  rw [shown, exitCode_present]
  constructor
  · intro fine
    obtain ⟨runs, events, pairs, -, published⟩ := perform_succeeded loaded fine
    exact ⟨runs, pairs, publish_eq_ok_iff.mp ⟨_, published⟩⟩
  · rintro ⟨runs, pairs, writable⟩
    -- The runs are decided by the results, so the report that can be written is the one that is.
    obtain ⟨others, rescored, -, result, -⟩ := perform_complete loaded elapsed
      (List.findIdx?_eq_none_iff.mp (Session.findIdx?_endsSession_of_scored pairs))
    obtain rfl := List.right_unique_forall₂' Session.rightUnique_scored pairs rescored
    obtain ⟨written, published⟩ := publish_eq_ok_iff.mpr writable
    rw [result, published]
    rfl

/-- A test of which a run fails does nothing after this run, and shows only the runs before. -/
theorem run_of_ended (ends : (results a c program m).findIdx? (endsSession (plan a)) = some i) :
    let t := run words environment program elapsed m
    t.machine = machineAfter a c program (i + 1) m ∧
    ∃ runs, List.Forall₂ (Scored (plan a) actual) ((results a c program m).take i) runs ∧
      t.stdout = openingText a.repetitions ++
        progressText a.quiet (progressOf (plan a) runs) := by
  intro t
  obtain ⟨complaints, filter, shown⟩ :=
    run_of_configure_ok parsed environment program elapsed m configured
  obtain ⟨runs, cause, pairs, printed, -, machine⟩ := perform_ended loaded elapsed ends
  rw [show t = _ from shown]
  refine ⟨machine, runs, pairs, ?_⟩
  rw [← List.append_nil (_ :: _)] at printed
  rw [stdout_present a.quiet complaints filter printed nofun]
  simp

/-- The summary of a test that succeeds is the last thing that it prints, and is the summary of the
report in the file that it has written. -/
theorem run_of_written (measured : elapsed.secs ≤ Text.largestWord) {json : Path}
    (named : a.json = some json)
    (fine : (run words environment program elapsed m).exitCode = 0) :
    let t := run words environment program elapsed m
    ∃ place entry, t.machine.tree.walk .look json = .ok (.entry place entry) ∧
      (entry ≠ .sink → ∃ text report summary before,
        t.machine.tree.readText json = .ok text ∧ Report.parse? text = some report ∧
        report.summary? = some summary ∧ t.stdout = before ++ summary) := by
  intro t
  obtain ⟨complaints, filter, shown⟩ :=
    run_of_configure_ok parsed environment program elapsed m configured
  rw [shown, exitCode_present] at fine
  obtain ⟨runs, events, pairs, printed, published⟩ := perform_succeeded loaded fine
  have planned : a.repetitions ≤ Text.largestWord := CommandLine.repetitions_le_of_parse parsed
  have few : runs.length ≤ Text.largestWord := by
    rw [← pairs.length_eq, results, Prober.results, List.length_map, Prober.length_attempts]
    exact planned
  obtain ⟨back, summary, shows⟩ :=
    Report.ofRuns_kept a.bounds a.destination actual few planned measured
  rw [named] at published
  obtain ⟨place, entry, led, kept⟩ := read_of_publish published back
  have summarised : (reportOf a actual elapsed runs).summary? = some summary := shows
  rw [summarised, Option.getD_some] at printed
  have output := stdout_present a.quiet complaints filter printed (by simp [Piece.isProgress])
  rw [show t = _ from shown]
  refine ⟨place, entry, led, fun keeps => ⟨_, reportOf a actual elapsed runs, summary,
    openingText a.repetitions ++ progressText a.quiet (progressOf (plan a) runs) ++ "\n",
    kept keeps, back, summarised, output.trans ?_⟩⟩
  have last : String.join ([Piece.summary summary].map Piece.text) = "\n" ++ summary := by
    rw [List.map_singleton, String.join_cons, String.join_nil, String.append_empty, text_summary]
  rw [last, ← String.append_assoc]

end Loaded

end Run

/-- A failure test succeeds if the configuration and the ground truth can be loaded, each of its
runs can be scored, and the report can be written if it is to be, however many of its runs fail. If
the configuration or the ground truth cannot be loaded, nothing is started and nothing is printed.
If a run cannot be scored, none is started after it, only the runs before it are shown, and a place
that the runs spare is left as it was, and so is what a path leads to that rests on such places. If
a test succeeds that writes its report, then the file is read back as a report, with whose summary
the output ends. Only the device that keeps nothing is an exception. The time that a session takes
is measured in seconds of sixty-four bits. -/
theorem run_all_or_nothing (environment : Option String) (program : Executable) (m : Machine)
    {words : List String} {a : Arguments} {elapsed : Duration}
    (parsed : CommandLine.parse words = .ok a) (measured : elapsed.secs ≤ Text.largestWord) :
    let t := run words environment program elapsed m
    (t.exitCode = 0 ↔ ∃ c path actual runs,
      a.configure m.tree = .ok c ∧
      c.truthSource.load m.tree a.destination = .ok (path, actual) ∧
      List.Forall₂ (Scored (plan a) actual) (results a c program m) runs ∧
      ∀ json ∈ a.json, ∃ u, (machineAfter a c program a.repetitions m).tree.write json
        (Text.Utf8.encode (reportOf a actual elapsed runs).render.toList) = .ok u) ∧
    ((∀ c, a.configure m.tree = .ok c →
        ∀ loaded, c.truthSource.load m.tree a.destination ≠ .ok loaded) →
      t.stdout = "" ∧ t.machine = m) ∧
    (∀ c path actual i, a.configure m.tree = .ok c →
      c.truthSource.load m.tree a.destination = .ok (path, actual) →
      (results a c program m).findIdx? (endsSession (plan a)) = some i →
      t.machine = machineAfter a c program (i + 1) m ∧
      (∃ begun, t.machine.starts = m.starts ++ begun ∧ begun.length ≤ i + 1) ∧
      (∃ runs, List.Forall₂ (Scored (plan a) actual) ((results a c program m).take i) runs ∧
        t.stdout = openingText a.repetitions ++
          progressText a.quiet (progressOf (plan a) runs)) ∧
      let spared (place : Location) := ∀ k ≤ i,
        Subprocess.Spares c program (plan a).request (machineAfter a c program k m) place
      (∀ place, spared place → t.machine.tree.get? place = m.tree.get? place) ∧
      ∀ json ∈ a.json, m.tree.RestsOn json spared →
        ∀ purpose, t.machine.tree.walk purpose json = m.tree.walk purpose json) ∧
    ∀ json ∈ a.json, t.exitCode = 0 → ∃ place entry,
      t.machine.tree.walk .look json = .ok (.entry place entry) ∧
      (entry ≠ .sink → ∃ text report summary before,
        t.machine.tree.readText json = .ok text ∧ Report.parse? text = some report ∧
        report.summary? = some summary ∧ t.stdout = before ++ summary) := by
  intro t
  have loadedOf (fine : t.exitCode = 0) : ∃ c path actual, a.configure m.tree = .ok c ∧
      c.truthSource.load m.tree a.destination = .ok (path, actual) := by
    -- A test that does not get so far fails.
    by_contra unloaded
    have idle := run_not_begun parsed environment program elapsed m
      fun c configured loaded load => unloaded ⟨c, loaded.1, loaded.2, configured, load⟩
    rw [show t.exitCode = 1 from idle.1] at fine
    contradiction
  refine ⟨⟨fun fine => ?_, ?_⟩, fun unable => ?_, ?_, fun json named fine => ?_⟩
  · obtain ⟨c, path, actual, configured, loaded⟩ := loadedOf fine
    obtain ⟨runs, complete⟩ :=
      (exitCode_run_of_loaded parsed environment program elapsed m configured loaded).mp fine
    exact ⟨c, path, actual, runs, configured, loaded, complete⟩
  · rintro ⟨c, path, actual, runs, configured, loaded, complete⟩
    exact (exitCode_run_of_loaded parsed environment program elapsed m configured loaded).mpr
      ⟨runs, complete⟩
  · exact (run_not_begun parsed environment program elapsed m unable).2
  · intro c path actual i configured loaded ends
    obtain ⟨machine, shown⟩ :=
      run_of_ended parsed environment program elapsed m configured loaded ends
    have kept (place : Location) (spared : ∀ k ≤ i,
        Subprocess.Spares c program (plan a).request (machineAfter a c program k m) place) :
        t.machine.tree.get? place = m.tree.get? place := by
      rw [show t.machine = _ from machine]
      exact Subprocess.get?_after fun k below => spared k (Nat.le_of_lt_succ below)
    refine ⟨machine, ?_, shown, kept, fun json _ rests => rests _ kept⟩
    rw [show t.machine = _ from machine]
    exact Subprocess.starts_after c program (plan a).request (i + 1) m
  · obtain ⟨c, path, actual, configured, loaded⟩ := loadedOf fine
    exact run_of_written parsed environment program elapsed m configured loaded measured named fine

/-- The first of two runs leaves a report, the second one does not. The old file at the path for the
JSON report stays. -/
theorem run_all_or_nothing_second_run :
    let words := ["95,2,4", "10.0.9.9", "2", "-t", "t", "--launcher", "./s", "--json", "j"]
    let tree := (((∅ : FileTree).install (.ofString "s") .program).install (.ofString "t")
      (.file [0x68, 0x0a])).install (.ofString "j") (.file [0x6f, 0x6c, 0x64])
    let program := Executable.scripted (some (.ofString "output.txt"))
      [⟨some (Text.Utf8.encode "Lattice:\nNone, A\n".toList), .exited 0⟩]
    let t := run words none program .zero ⟨tree, []⟩
    t.exitCode = 1 ∧ t.machine.starts.length ≤ 2 ∧
      t.machine.tree.read (.ofString "j") = .ok [0x6f, 0x6c, 0x64] := by
  intro words tree program t
  let settings : Settings :=
    { (∅ : Settings) with launcher := some (.ofString "./s"), topology := some (.ofString "t") }
  let a : Arguments :=
    ⟨"95,2,4", "10.0.9.9", 2, none, some (.ofString "j"), settings, false, 0⟩
  let c : Config := Config.standard.override settings
  obtain ⟨-, -, ended, -⟩ :=
    run_all_or_nothing none program ⟨tree, []⟩ (show CommandLine.parse words = .ok a from rfl)
      (show Duration.zero.secs ≤ Text.largestWord from Nat.zero_le _)
  have loaded : c.truthSource.load tree a.destination =
      .ok (.ofString "t", GroundTruth.parse "h\n") := by decide +kernel
  have second : (results a c program ⟨tree, []⟩).findIdx? (endsSession (plan a)) = some 1 := by
    decide +kernel
  obtain ⟨-, ⟨begun, starts, few⟩, -, kept, -⟩ := ended c _ _ 1 rfl loaded second
  have spared : ∀ k ≤ 1, Subprocess.Spares c program (plan a).request
      (machineAfter a c program k ⟨tree, []⟩) [[0x6a]] := by decide +kernel
  have alone : tree.RestsOn (.ofString "j") (· = [[0x6a]]) :=
    FileTree.restsOn_of_down rfl rfl (by decide) fun entry present => by
      cases present
      exact .inl rfl
  refine ⟨by decide +kernel, ?_, ?_⟩
  · rw [show t.machine.starts = begun from starts]
    exact few
  · exact alone.read fun place isPlace => kept place (isPlace ▸ spared)

/-- What is written to the null device is not kept, so a test that succeeds need not leave a report
where it was asked to. -/
theorem run_keeps_no_report_in_null_device :
    let words := ["95,2,4", "10.0.9.9", "0", "-t", "t", "--json", "/dev/null"]
    let tree := FileTree.bare.install (.ofString "t") (.file [0x68, 0x0a])
    let t := run words none (.scripted none []) .zero ⟨tree, []⟩
    (CommandLine.parse words).toOption.bind Arguments.json = some (.ofString "/dev/null") ∧
      t.exitCode = 0 ∧ t.machine.starts.length = 0 ∧
      t.machine.tree.readText (.ofString "/dev/null") = .ok "" ∧ Report.parse? "" = none := by
  decide +kernel

end Multipath.FailureTest
