import Multipath.Proofs.Prober.Stages

/-! Runs of a program one after the other. Before each run the prober clears the place of the
output, so what it finds there afterwards was written by this run, whatever earlier runs have left
and however they ended. -/
namespace Multipath

def Prober.afterAll (prober : Prober σ) (requests : List Request) (s : σ) : σ :=
  requests.foldl (fun s request => (prober.probe request s).2) s

/-- What is kept by one run is kept by any number of them. -/
theorem Prober.afterAll_invariant (Holds : σ → Prop) {prober : Prober σ}
    (step : ∀ {s}, Holds s → ∀ request, Holds (prober.probe request s).2) {s : σ} (holds : Holds s)
    (requests : List Request) : Holds (prober.afterAll requests s) := by
  induction requests generalizing s with
  | nil => exact holds
  | cons request requests ih => exact ih (step holds request)

structure Deed where
  /-- The files as the run leaves them, but for its report. -/
  tree : FileTree
  report : Option (List UInt8)
  ending : Ending

namespace Executable

/-- A program that writes a report to a path or prints it, or does neither, and ends. What else it
does to the files and all the rest may depend on what it finds, and on its earlier starts. -/
def reporting (path : Option Path) (deed : Nat → Start → Deed) : Executable where
  run before s :=
    let done := deed before s
    let s := { s with tree := done.tree }
    ((done.report.map fun bytes => report s bytes path).getD s.tree, done.ending)

/-- A program that follows a script does nothing but report. -/
theorem scripted_eq_reporting (path : Option Path) (script : List ScriptedRun) :
    scripted path script = reporting path fun before s =>
      ⟨s.tree, (script[before]?.getD .idle).report, (script[before]?.getD .idle).ending⟩ := rfl

end Executable

namespace Subprocess

variable {c : Config} {place : Location} {t u : FileTree} {m : Machine}

/-- Where a program is to leave its report: a launcher writes the output file, and what a binary
prints is taken for it. -/
def reportPath (c : Config) : Option Path :=
  match c.mode with
  | .launcher => some c.output
  | .direct => none

/-- A prober can work in a tree. Its output path names a place at which there is nothing or a
regular file, and its program is another file that can be started, also when there is no output. -/
structure Ready (c : Config) (place : Location) (t : FileTree) : Prop where
  output : t.Names c.output place
  program : ∃ location entry, t.startable c.program = .ok (location, entry) ∧ location ≠ place ∧
    (t.erase place).loadFault? FileTree.mostInterpreters entry = none

def Passable (c : Config) (request : Request) : Prop :=
  ∀ argument ∈ arguments c.mode request,
    Char.ofNat 0 ∉ argument.toList ∧ argument.utf8ByteSize ≤ longestArgument

instance (c : Config) (request : Request) : Decidable (Passable c request) :=
  inferInstanceAs (Decidable (∀ argument ∈ _, _ ∧ _))

/-- Besides reporting, a program does nothing to the output, and leaves all that the prober
needs. -/
def Considerate (c : Config) (place : Location) (deed : Nat → Start → Deed) : Prop :=
  ∀ before start, Ready c place start.tree →
    Ready c place (deed before start).tree ∧
      (deed before start).tree.get? place = start.tree.get? place

/-- What comes of a run, from what it has written and how it ended. -/
def outcome (c : Config) (report : Option (List UInt8)) (ending : Ending) :
    Except Failure Prober.Answer :=
  if ending.code? = some c.dropCode then .ok .dropped
  else match report, c.mode with
    | some bytes, _ =>
      .ok (.completed ending.code? (String.ofList (Text.Utf8.decodeLossy bytes)))
    | none, .launcher => .error (.outputUnreadable c.output .notFound)
    | none, .direct => .ok (.completed ending.code? "")

/-- Where a program starts, nothing of an earlier run is left: a launcher finds no output, and a
binary prints to an empty one. -/
def Cleared (c : Config) (place : Location) (start : Start) : Prop :=
  match c.mode with
  | .launcher => start.output = none ∧ start.tree.get? place = none
  | .direct => start.output = some place ∧
    ∃ entry, start.tree.get? place = some entry ∧ entry.content = []

theorem Cleared.output_ne {start : Start} (cleared : Cleared c place start) {location : Location}
    (apart : location ≠ place) : start.output ≠ some location := by
  unfold Cleared at cleared
  split at cleared
  · simp [cleared.1]
  · simpa [cleared.1] using apart.symm

namespace Ready

/-- A change at the place of the output makes no difference. -/
theorem of_agreeOff (ready : Ready c place t) (agree : FileTree.AgreeOff place t u)
    (leaf : u.IsLeaf place) : Ready c place u := by
  obtain ⟨location, entry, able, apart, loads⟩ := ready.program
  have without : FileTree.AgreeOff place (t.erase place) (u.erase place) :=
    (t.agreeOff_erase place).symm.trans (agree.trans (u.agreeOff_erase place))
  exact ⟨ready.output.of_agreeOff agree leaf, location, entry,
    FileTree.startable_of_agreeOff agree ready.output.leaf apart able, apart,
    FileTree.loadFault?_of_agreeOff without (t.get?_erase_self place) loads⟩

theorem erase (ready : Ready c place t) : Ready c place (t.erase place) :=
  ready.of_agreeOff (t.agreeOff_erase place)
    (FileTree.isLeaf_of_get?_eq_none (t.get?_erase_self place))

theorem fill (ready : Ready c place t) (bytes : List UInt8) :
    Ready c place (t.fill place bytes) := by
  refine ready.of_agreeOff (t.agreeOff_fill place bytes) fun entry present => ?_
  rw [FileTree.get?_fill_self, Option.mem_some_iff] at present
  exact present ▸ Entry.isRegular_refill ready.output.leaf bytes

/-- The content of a file that was written at the place of the output. -/
theorem content_fill (ready : Ready c place t) (bytes : List UInt8) :
    ∃ entry, (t.fill place bytes).get? place = some entry ∧ entry.content = bytes :=
  ⟨_, t.get?_fill_self place bytes, Entry.content_refill ready.output.leaf bytes⟩

theorem prepare (ready : Ready c place t) :
    ∃ tree output, Subprocess.prepare c t = .ok (tree, output) ∧ Ready c place tree ∧
      ∀ arguments, Cleared c place ⟨c.program, arguments, tree, output⟩ := by
  cases mode : c.mode with
  | launcher =>
    cases present : t.get? place with
    | none =>
      refine ⟨t, none, ?_, ready, fun _ => by simp [Cleared, mode, present]⟩
      simp [Subprocess.prepare, mode, ready.output.remove_of_absent present]
    | some entry =>
      refine ⟨t.erase place, none, ?_, ready.erase, fun _ => by simp [Cleared, mode]⟩
      simp [Subprocess.prepare, mode, ready.output.remove_of_present present]
  | direct =>
    have empty := ready.content_fill []
    refine ⟨t.truncate place, some place, ?_, ready.fill [], fun _ => by simpa [Cleared, mode]⟩
    simp [Subprocess.prepare, mode, ready.output.openForWriting, Except.map]

theorem obstacle? {start : Start} (ready : Ready c place start.tree)
    (cleared : Cleared c place start) (named : start.program = c.program)
    (passable : ∀ argument ∈ start.arguments,
      Char.ofNat 0 ∉ argument.toList ∧ argument.utf8ByteSize ≤ longestArgument) :
    Subprocess.obstacle? start = none := by
  obtain ⟨location, entry, able, apart, loads⟩ := ready.program
  have loaded : start.tree.loadFault? FileTree.mostInterpreters entry = none :=
    FileTree.loadFault?_of_agreeOff (start.tree.agreeOff_erase place).symm (by simp) loads
  exact obstacle?_eq_none_iff.mpr
    ⟨passable, location, entry, named ▸ able, cleared.output_ne apart, loaded⟩

end Ready

def Left (place : Location) (start : Start) (report : Option (List UInt8)) (t : FileTree) : Prop :=
  match report with
  | some bytes => ∃ entry, t.get? place = some entry ∧ entry.content = bytes
  | none => t.get? place = start.tree.get? place

theorem report_eq_fill {start : Start} (ready : Ready c place t) (cleared : Cleared c place start)
    (bytes : List UInt8) :
    Executable.report { start with tree := t } bytes (reportPath c) = t.fill place bytes := by
  unfold Cleared at cleared
  unfold reportPath
  split at cleared
  · simp [Executable.report, ready.output.write, Except.toOption]
  · simp [Executable.report, cleared.1]

theorem run_reporting {deed : Nat → Start → Deed} (considerate : Considerate c place deed)
    (before : Nat) (start : Start) (ready : Ready c place start.tree)
    (cleared : Cleared c place start) :
    let done := deed before start
    let (tree, ending) := (Executable.reporting (reportPath c) deed).run before start
    Ready c place tree ∧ Left place start done.report tree ∧ ending = done.ending := by
  obtain ⟨still, reports⟩ := considerate before start ready
  cases report : (deed before start).report with
  | none =>
    simp only [Executable.reporting, report, Left]
    exact ⟨still, reports, trivial⟩
  | some bytes =>
    simp only [Executable.reporting, report, Left, Option.map_some, Option.getD_some,
      report_eq_fill still cleared]
    exact ⟨still.fill bytes, still.content_fill bytes, trivial⟩

/-- The output holds the report of the run that has just ended, and nothing else. -/
theorem collect_of_left {start : Start} {report : Option (List UInt8)} (ready : Ready c place t)
    (cleared : Cleared c place start) (left : Left place start report t) (ending : Ending) :
    collect c t ending = outcome c report ending := by
  unfold collect outcome
  split
  · rfl
  · cases report with
    | some bytes =>
      obtain ⟨entry, present, rfl⟩ := left
      rw [ready.output.read_of_present present]
    | none =>
      unfold Cleared at cleared
      rw [← show t.get? place = start.tree.get? place from left] at cleared
      split at cleared
      · rename_i mode
        rw [ready.output.read_of_absent cleared.2, mode]
      · rename_i mode
        obtain ⟨-, entry, present, empty⟩ := cleared
        rw [ready.output.read_of_present present, mode, empty]
        rfl

def FindsNone (c : Config) (start : Start) : Prop :=
  c.mode = .launcher → start.tree.isPresent c.output = false

theorem Cleared.findsNone {start : Start} (cleared : Cleared c place start)
    (ready : Ready c place start.tree) : FindsNone c start := by
  intro launcher
  simp only [Cleared, launcher] at cleared
  exact ready.output.isPresent_of_absent cleared.2

structure Working (c : Config) (place : Location) (first m : Machine) : Prop where
  ready : Ready c place m.tree
  unseen : ∃ begun, m.starts = first.starts ++ begun ∧ ∀ start ∈ begun, FindsNone c start

section

variable {deed : Nat → Start → Deed}

/-- A program that can be given its arguments is started once, where nothing of an earlier run is
left, and what comes of the run is what it wrote and how it ended. -/
theorem probe_of_passable (considerate : Considerate c place deed) (ready : Ready c place m.tree)
    {request : Request} (passable : Passable c request) :
    let after := probe c (Executable.reporting (reportPath c) deed) request m
    ∃ start, after.2.starts = m.starts ++ [start] ∧
      start.arguments = arguments c.mode request ∧ FindsNone c start ∧
      let done := deed m.starts.length start
      after.1.result = outcome c done.report done.ending := by
  obtain ⟨tree, output, prepared, clean, cleared⟩ := ready.prepare
  have unhindered : obstacle? ⟨c.program, arguments c.mode request, tree, output⟩ = none :=
    clean.obstacle? (cleared _) rfl passable
  have ran := run_reporting considerate m.starts.length
    ⟨c.program, arguments c.mode request, tree, output⟩
    clean (cleared _)
  have collected := collect_of_left ran.1 (cleared _) ran.2.1
  refine ⟨⟨c.program, arguments c.mode request, tree, output⟩, ?_, rfl,
    (cleared _).findsNone clean, ?_⟩
  · simp only [probe, prepared, unhindered]
    rfl
  · simp only [probe, prepared, unhindered]
    exact collected _

/-- Whatever becomes of a run, also of one that cannot be started, the prober can work on. -/
theorem probe_working (considerate : Considerate c place deed) {first : Machine}
    (working : Working c place first m) (request : Request) :
    Working c place first (probe c (Executable.reporting (reportPath c) deed) request m).2 := by
  obtain ⟨ready, begun, starts, unseen⟩ := working
  obtain ⟨tree, output, prepared, clean, cleared⟩ := ready.prepare
  have ran := run_reporting considerate m.starts.length
    ⟨c.program, arguments c.mode request, tree, output⟩
    clean (cleared _)
  simp only [probe, prepared]
  split
  · exact ⟨clean, begun, starts, unseen⟩
  · refine ⟨ran.1, begun ++ [⟨c.program, arguments c.mode request, tree, output⟩], ?_, ?_⟩
    · simp [Machine.start, starts]
    · simpa [or_imp, forall_and] using ⟨unseen, (cleared _).findsNone clean⟩

/-- What a run is scored on is what this run has done, whatever was in the output file at first and
whatever earlier runs have done. A run with the code for dropped runs is dropped. Any other is
completed with its exit code, if it has one, and with the text of the bytes that it wrote; if it
wrote none, the report of a launcher is not there, and that of a binary is empty. No launcher ever
finds an output file when it starts. -/
theorem probe_result_of_own_run (m : Machine) (ready : Ready c place m.tree)
    (considerate : Considerate c place deed) (history : List Request) (request : Request)
    (passable : Passable c request) :
    let program := Executable.reporting (reportPath c) deed
    let before := (prober c program).afterAll history m
    let after := probe c program request before
    ∃ begun start, before.starts = m.starts ++ begun ∧ after.2.starts = before.starts ++ [start] ∧
      start.arguments = arguments c.mode request ∧
      (∀ s ∈ begun ++ [start], FindsNone c s) ∧
      let done := deed before.starts.length start
      after.1.result = outcome c done.report done.ending := by
  intro program before after
  have working : Working c place m before :=
    Prober.afterAll_invariant (Working c place m) (probe_working considerate)
      ⟨ready, [], by simp, by simp⟩ history
  obtain ⟨begun, earlier, unseen⟩ := working.unseen
  obtain ⟨start, starts, arguments, unfound, result⟩ :=
    probe_of_passable considerate working.ready passable
  refine ⟨begun, start, earlier, starts, arguments, ?_, result⟩
  simpa [or_imp, forall_and] using ⟨unseen, unfound⟩

end

/-- A launcher finds the output of an earlier session, writes a report of its own and is killed,
and the next time it writes nothing. Then there is no report, neither its first one nor the one of
the earlier session. -/
theorem probe_result_of_own_run_silent :
    let c := { Config.standard with launcher := .ofString "./run", output := .ofString "out" }
    let tree :=
      ((∅ : FileTree).install c.launcher .program).install c.output (.file [0x6f, 0x6c, 0x64])
    let script : List ScriptedRun := [⟨some [0x61], .killed⟩, ⟨none, .exited 1⟩]
    let program := Executable.scripted (reportPath c) script
    let request : Request := ⟨"95,2,4", "10.0.9.9"⟩
    (probe c program request ((prober c program).afterAll [request] ⟨tree, []⟩)).1.result =
      .error (.outputUnreadable c.output .notFound) := by
  intro c tree script program request
  have ready : Ready c [(Path.ofString "out").bytes] tree := {
    output := ⟨⟨_, _, rfl, rfl⟩, fun entry found => by cases found; rfl⟩
    program := ⟨[(Path.ofString "run").bytes], .program, rfl, by decide, rfl⟩ }
  have considerate : Considerate c [(Path.ofString "out").bytes] fun before start =>
      ⟨start.tree, (script[before]?.getD .idle).report, (script[before]?.getD .idle).ending⟩ :=
    fun _ _ ready => ⟨ready, rfl⟩
  obtain ⟨_, start, -, -, -, -, result⟩ :=
    probe_result_of_own_run ⟨tree, []⟩ ready considerate [request] request (by decide)
  have once : ((prober c program).afterAll [request] ⟨tree, []⟩).starts.length = 1 := by
    decide +kernel
  rw [← Executable.scripted_eq_reporting] at result
  rw [result, once]
  rfl

end Subprocess
end Multipath
