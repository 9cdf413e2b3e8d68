import Multipath.Proofs.CommandLine.Switches
import Multipath.Proofs.FailureTest
import Multipath.Proofs.GroundTruth.Lookup
import Multipath.Proofs.Prober.Revision

/-! What is shown of a test has no influence on what is done. How much is logged is decided by
requests on the command line, by a level in the configuration file and by the environment, and none
of them changes what the program prints, starts, writes or ends with. That no progress is shown
takes the progress away from what is printed, and nothing else from anywhere. -/
namespace Multipath

/-- A configuration without the log level. -/
def Config.plain (c : Config) : Config := { c with logLevel := "" }

theorem Config.exists_logLevel_of_plain {c c' : Config} (alike : c.plain = c'.plain) :
    ∃ level, c' = { c with logLevel := level } :=
  ⟨c'.logLevel, by cases c; cases c'; simpa [Config.plain, eq_comm] using alike⟩

namespace GroundTruth

variable {r : Revision} {t u : FileTree}

theorem resolve_revised (revised : FileTree.Revised r t u) (destination : String)
    (source : Source) : source.resolve u destination = source.resolve t destination := by
  cases source with
  | file path => rfl
  | directory path =>
    have sameCandidates := candidates_congr (FileTree.list_revised revised path)
      (FileTree.isFile_revised revised) destination
    simp only [Source.resolve, sameCandidates]

theorem load_revised (revised : FileTree.Revised r t u) {destination : String} {source : Source}
    (single : ∀ path, source.resolve t destination = .ok path → FileTree.OneVersion t u path) :
    source.load u destination = source.load t destination := by
  simp only [Source.load, resolve_revised revised]
  cases found : source.resolve t destination with
  | error cause => simp only [bind, Except.bind]
  | ok path =>
    have sameText := FileTree.readText_of_oneVersion revised (single path found)
    simp only [bind, Except.bind, sameText]

end GroundTruth

/-- Two runs stop alike: at the same error, or with a mistake on the command line, which need not be
the same one. -/
inductive Stop.Alike : Option Stop → Option Stop → Prop where
  | same (stop : Option Stop) : Alike stop stop
  | usage {error error' : CommandLine.UsageError} (asks : error.asks = error'.asks) :
    Alike (some (.usage error)) (some (.usage error'))

theorem Stop.exitCode_usage (error : CommandLine.UsageError) :
    (Stop.usage error).exitCode = if error.asks.isSome then 0 else 2 := by
  cases error <;> rfl

theorem Transcript.exitCode_of_alike {t u : Transcript} (alike : Stop.Alike t.stop u.stop) :
    u.exitCode = t.exitCode := by
  rw [exitCode, exitCode]
  generalize t.stop = one, u.stop = other at alike
  cases alike with
  | same => rfl
  | usage asks => simp [Stop.exitCode_usage, asks]

namespace FailureTest

open CommandLine (parse plainItems Hushes)
open Session (Scored progressOf endsSession)

variable {r : Revision} {words others : List String} {a : Arguments} {c : Config} {m m' : Machine}

section Course

structure Course.Revised (r : Revision) (course course' : Course) : Prop where
  printed : course'.printed = course.printed
  events : course'.events = course.events
  result : course'.result = course.result
  machine : course.machine.Revised r course'.machine

theorem conclude_revised (revised : m.Revised r m') (json : Option Path) (trace : Session.Trace) :
    Course.Revised r (conclude json trace m) (conclude json trace m') := by
  unfold conclude
  split
  · exact ⟨rfl, rfl, rfl, revised⟩
  · rename_i report _
    unfold publish
    cases json with
    | none => exact ⟨rfl, rfl, rfl, revised⟩
    | some path =>
      dsimp only
      rcases (FileTree.write_revised revised.tree path
          (Text.Utf8.encode report.render.toList)).cases with
        ⟨cause, one, other⟩ | ⟨tree, tree', one, other, written⟩
      · rw [one, other]
        exact ⟨rfl, rfl, rfl, revised⟩
      · rw [one, other]
        exact ⟨rfl, rfl, rfl, written.tree, revised.starts⟩

/-- A test goes alike beside a file in two versions, if the ground truth is in one version. -/
theorem perform_revised (revised : m.Revised r m') (path : Option Path) (script : List ScriptedRun)
    (elapsed : Duration) (single : ∀ truth,
      c.truthSource.resolve m.tree a.destination = .ok truth →
        FileTree.OneVersion m.tree m'.tree truth) :
    Course.Revised r (perform c a (.scripted path script) elapsed m)
      (perform c a (.scripted path script) elapsed m') := by
  rw [perform, perform, GroundTruth.load_revised revised.tree single]
  split
  · exact ⟨rfl, rfl, rfl, revised⟩
  · rename_i actual _
    obtain ⟨sameTrace, after⟩ := Session.run_related (plan a)
      (Subprocess.prober c (.scripted path script))
      (fun related => Subprocess.probe_revised related c path script (plan a).request)
      actual elapsed revised
    have rest := conclude_revised after a.json
      (Session.run (plan a) actual (Subprocess.prober c (.scripted path script)) elapsed m).1
    dsimp only
    rw [sameTrace]
    exact ⟨congrArg (_ ++ ·) rest.printed, congrArg (_ ++ ·) rest.events, rest.result, rest.machine⟩

/-- Neither the log level nor the switches have a part in what is done. -/
theorem perform_of_shown (c : Config) (level : String) (a : Arguments) (quiet : Bool)
    (verbose : Nat) (program : Executable) (elapsed : Duration) (m : Machine) :
    perform { c with logLevel := level } { a with quiet := quiet, verbose := verbose } program
      elapsed m = perform c a program elapsed m := rfl

/-- The runs of a test that are scored: all of them, or those before the first that cannot be. -/
structure Finished (a : Arguments) (c : Config) (program : Executable) (m : Machine)
    (actual : Topology) (runs : List Report.Run) : Prop where
  scored : List.Forall₂ (Scored (plan a) actual) ((results a c program m).take runs.length) runs
  last : ∀ result ∈ (results a c program m)[runs.length]?, endsSession (plan a) result = true

/-- After the opening the progress of each finished run is printed, and then no more progress. -/
theorem printed_perform {path : Path} {actual : Topology} (program : Executable)
    (loaded : c.truthSource.load m.tree a.destination = .ok (path, actual)) (elapsed : Duration) :
    ∃ runs rest, Finished a c program m actual runs ∧
      (perform c a program elapsed m).printed =
        .opening a.repetitions :: (progressOf (plan a) runs).map .progress ++ rest ∧
      ∀ piece ∈ rest, piece.isProgress = false := by
  cases ends : (results a c program m).findIdx? (endsSession (plan a)) with
  | some i =>
    obtain ⟨runs, cause, pairs, printed, -, -⟩ := perform_ended loaded elapsed ends
    obtain ⟨below, ended, -⟩ := List.findIdx?_eq_some_iff_getElem.mp ends
    have count : runs.length = i := by
      rw [← pairs.length_eq, List.length_take, Nat.min_eq_left below.le]
    refine ⟨runs, [], ⟨count ▸ pairs, ?_⟩, by rw [printed, List.append_nil], nofun⟩
    rw [count, List.getElem?_eq_getElem below]
    rintro result ⟨rfl⟩
    exact ended
  | none =>
    obtain ⟨runs, pairs, printed, -⟩ :=
      perform_complete loaded elapsed (List.findIdx?_eq_none_iff.mp ends)
    refine ⟨runs, _, ⟨?_, ?_⟩, printed, by simp [Piece.isProgress]⟩
    · rwa [← pairs.length_eq, List.take_length]
    · simp [← pairs.length_eq]

theorem present_revised {course course' : Course} (revised : course.Revised r course')
    (quiet : Bool) (complaints complaints' : List String) (filter filter' : Log.Filter) :
    let t := present quiet complaints filter course
    let u := present quiet complaints' filter' course'
    Stop.Alike t.stop u.stop ∧ u.printed = t.printed ∧ t.machine.Revised r u.machine := by
  simp only [present, revised.result, revised.printed]
  exact ⟨.same _, trivial, revised.machine⟩

end Course

section Run

/-- Two machines are set up for the same test. They have one file in two versions. Both say the same
about the configuration, but for the log level, and the ground truth is not read from this file. -/
structure SameTest (r : Revision) (words : List String) (m m' : Machine) : Prop where
  machine : m.Revised r m'
  config : ∀ a, parse words = .ok a →
    (a.configure m.tree).map Config.plain = (a.configure m'.tree).map Config.plain
  truth : ∀ a c path, parse words = .ok a → a.configure m.tree = .ok c →
    c.truthSource.resolve m.tree a.destination = .ok path →
    FileTree.OneVersion m.tree m'.tree path

theorem run_of_refused {error : CommandLine.UsageError} (refused : parse words = .error error)
    (environment : Option String) (program : Executable) (elapsed : Duration) (m : Machine) :
    run words environment program elapsed m = stopped (.usage error) m := by
  simp only [run, refused]

/-- Whatever the log shows, the same is printed and done. -/
theorem run_of_plainItems (sameItems : plainItems words = plainItems others)
    (test : SameTest r words m m') (environment environment' : Option String) (path : Option Path)
    (script : List ScriptedRun) (elapsed : Duration) :
    let t := run words environment (.scripted path script) elapsed m
    let u := run others environment' (.scripted path script) elapsed m'
    Stop.Alike t.stop u.stop ∧ u.printed = t.printed ∧ t.machine.Revised r u.machine := by
  intro t u
  rcases CommandLine.parse_of_plainItems sameItems with
    ⟨a, b, parsed, parsed', plain⟩ | ⟨error, error', refused, refused', asks⟩
  · obtain ⟨n, rfl⟩ := Arguments.exists_verbose_of_plain plain
    have alike := test.config a parsed
    cases configured : a.configure m.tree with
    | error failure =>
      rw [configured] at alike
      have configured' : { a with verbose := n }.configure m'.tree = .error failure :=
        map_eq_error_iff.mp alike.symm
      rw [show t = _ from run_of_configure_error parsed environment _ elapsed m configured,
        show u = _ from run_of_configure_error parsed' environment' _ elapsed m' configured']
      exact ⟨.same _, rfl, test.machine⟩
    | ok c =>
      rw [configured] at alike
      obtain ⟨c', configured', plainly⟩ := exists_of_map_eq_ok alike.symm
      obtain ⟨level, rfl⟩ := Config.exists_logLevel_of_plain plainly.symm
      obtain ⟨complaints, filter, shown⟩ :=
        run_of_configure_ok parsed environment (.scripted path script) elapsed m configured
      obtain ⟨complaints', filter', shown'⟩ :=
        run_of_configure_ok parsed' environment' (.scripted path script) elapsed m' configured'
      rw [perform_of_shown c level a a.quiet n] at shown'
      rw [show t = _ from shown, show u = _ from shown']
      exact present_revised (perform_revised test.machine path script elapsed
        fun truth => test.truth a c truth parsed configured) ..
  · rw [show t = _ from run_of_refused refused .., show u = _ from run_of_refused refused' ..]
    exact ⟨.usage asks, rfl, test.machine⟩

theorem quiet_of_hushes (hushes : Hushes words others) (parsed : parse words = .ok a) :
    a.quiet = false ∧ parse others = .ok a.hushed := by
  refine ⟨CommandLine.quiet_of_parse parsed (List.count_eq_zero.mpr (by simp [hushes.2])), ?_⟩
  rcases CommandLine.parse_of_hushes hushes with ⟨a', parsed', hushed⟩ | ⟨_, _, refused, -⟩
  · cases parsed.symm.trans parsed'
    exact hushed
  · exact absurd (parsed.symm.trans refused) nofun

section Quiet

variable (hushes : Hushes words others) (environment : Option String) (program : Executable)
  (elapsed : Duration) (m : Machine)

include hushes

/-- That no progress is shown takes the progress away, and nothing else. -/
theorem run_of_hushes :
    let t := run words environment program elapsed m
    let u := run others environment program elapsed m
    Stop.Alike t.stop u.stop ∧ u.complaints = t.complaints ∧ u.logged = t.logged ∧
      u.printed = t.printed.filter (fun piece => !piece.isProgress) ∧ u.machine = t.machine := by
  intro t u
  rcases CommandLine.parse_of_hushes hushes with
    ⟨a, parsed, parsed'⟩ | ⟨error, error', refused, refused', asks⟩
  · have loud := (quiet_of_hushes hushes parsed).1
    cases configured : a.configure m.tree with
    | error failure =>
      have configured' : a.hushed.configure m.tree = .error failure := configured
      rw [show t = _ from run_of_configure_error parsed environment _ elapsed m configured,
        show u = _ from run_of_configure_error parsed' environment _ elapsed m configured']
      exact ⟨.same _, rfl, rfl, rfl, rfl⟩
    | ok c =>
      have configured' : a.hushed.configure m.tree = .ok c := configured
      simp only [t, u, run, parsed, parsed', configured, configured', present, heard, loud]
      exact ⟨.same _, rfl, rfl, rfl, rfl⟩
  · rw [show t = _ from run_of_refused refused .., show u = _ from run_of_refused refused' ..]
    exact ⟨.usage asks, rfl, rfl, rfl, rfl⟩

/-- The progress of each finished run is a stretch of the output, which is otherwise the same. -/
theorem stdout_of_hushes {path : Path} {actual : Topology} (parsed : parse words = .ok a)
    (configured : a.configure m.tree = .ok c)
    (loaded : c.truthSource.load m.tree a.destination = .ok (path, actual)) :
    let t := run words environment program elapsed m
    let u := run others environment program elapsed m
    ∃ runs rest, Finished a c program m actual runs ∧
      t.stdout = openingText a.repetitions ++
        String.join ((progressOf (plan a) runs).map progressLine) ++ rest ∧
      u.stdout = openingText a.repetitions ++ rest := by
  intro t u
  obtain ⟨loud, hushed⟩ := quiet_of_hushes hushes parsed
  obtain ⟨runs, rest, finished, printed, unshown⟩ := printed_perform program loaded elapsed
  obtain ⟨complaints, filter, shown⟩ :=
    run_of_configure_ok parsed environment program elapsed m configured
  obtain ⟨complaints', filter', shown'⟩ :=
    run_of_configure_ok hushed environment program elapsed m configured
  have hushedCourse : perform c a.hushed program elapsed m = perform c a program elapsed m :=
    perform_of_shown c c.logLevel a true a.verbose program elapsed m
  rw [hushedCourse] at shown'
  refine ⟨runs, String.join (rest.map Piece.text), finished, ?_, ?_⟩
  · rw [show t = _ from shown, loud]
    exact stdout_present false complaints filter printed unshown
  · rw [show u = _ from shown']
    refine (stdout_present true complaints' filter' printed unshown).trans ?_
    simp [progressText]

end Quiet

end Run

/-- What is shown has no influence on what is done. Requests for more detail, the log level in the
configuration file and the log filter of the environment change neither the exit code, nor how the
program is started, nor what is printed or written, whatever happens on the way. The file may be
in two versions that differ in the level, and is then left so, or overwritten alike. That no
progress is shown changes nothing but the output, which loses the progress of each finished run in
turn. The ground truth is not to be read from the configuration file, and the switch against
progress is not to be there already. -/
theorem run_unchanged_by_presentation (path : Option Path) (script : List ScriptedRun)
    (elapsed : Duration) :
    (∀ (r : Revision) (words others : List String) (environment environment' : Option String)
      (m m' : Machine), plainItems words = plainItems others → SameTest r words m m' →
      let t := run words environment (.scripted path script) elapsed m
      let u := run others environment' (.scripted path script) elapsed m'
      u.exitCode = t.exitCode ∧ Stop.Alike t.stop u.stop ∧ u.stdout = t.stdout ∧
        t.machine.Revised r u.machine) ∧
    ∀ (words others : List String) (environment : Option String) (m : Machine),
      Hushes words others →
      let program := Executable.scripted path script
      let t := run words environment program elapsed m
      let u := run others environment program elapsed m
      u.exitCode = t.exitCode ∧ Stop.Alike t.stop u.stop ∧ u.complaints = t.complaints ∧
        u.logged = t.logged ∧ u.machine = t.machine ∧
        u.printed = t.printed.filter (fun piece => !piece.isProgress) ∧
        ∀ a c truth actual, parse words = .ok a → a.configure m.tree = .ok c →
          c.truthSource.load m.tree a.destination = .ok (truth, actual) →
          ∃ runs rest, Finished a c program m actual runs ∧
            t.stdout = openingText a.repetitions ++
              String.join ((progressOf (plan a) runs).map progressLine) ++ rest ∧
            u.stdout = openingText a.repetitions ++ rest := by
  constructor
  · intro r words others environment environment' m m' sameItems test t u
    obtain ⟨stop, printed, machine⟩ :=
      run_of_plainItems sameItems test environment environment' path script elapsed
    have output : u.stdout = t.stdout := by simp only [Transcript.stdout, t, u, printed]
    exact ⟨Transcript.exitCode_of_alike stop, stop, output, machine⟩
  · intro words others environment m hushes program t u
    obtain ⟨stop, complaints, logged, printed, machine⟩ :=
      run_of_hushes hushes environment program elapsed m
    exact ⟨Transcript.exitCode_of_alike stop, stop, complaints, logged, machine, printed,
      fun a c truth actual parsed configured loaded =>
        stdout_of_hushes hushes environment program elapsed m parsed configured loaded⟩

/-- Another level is configured, more detail is asked for and the environment wants no log at all;
or no progress is shown. -/
theorem run_unchanged_by_presentation_warned :
    let words := ["1", "A", "1", "-c", "c", "-t", "t", "--launcher", "./s"]
    let old := Text.Utf8.encode "log_level=\"warn\"\n".toList
    let new := Text.Utf8.encode "log_level=\"debug\"\n".toList
    let r : Revision := ⟨[[0x63]], .file old, .file new, .file old new⟩
    let tree := (((∅ : FileTree).install (.ofString "s") .program).install (.ofString "t")
      (.file [0x68, 0x0a])).install (.ofString "c") (.file old)
    let program := Executable.scripted (some (.ofString "output.txt"))
      [⟨some (Text.Utf8.encode "Lattice:\n".toList), .exited 0⟩]
    let t := run words none program .zero ⟨tree, []⟩
    let u := run (words ++ ["-v"]) (some "off") program .zero ⟨tree.set r.place r.new, []⟩
    let quiet := run (words ++ ["-q"]) none program .zero ⟨tree, []⟩
    u.exitCode = t.exitCode ∧ u.stdout = t.stdout ∧ t.machine.Revised r u.machine ∧
      ∃ opening progress rest, t.stdout = opening ++ progress ++ rest ∧
        quiet.stdout = opening ++ rest := by
  intro words old new r tree program t u quiet
  let settings : Settings :=
    { (∅ : Settings) with launcher := some (.ofString "./s"), topology := some (.ofString "t") }
  let a : Arguments := ⟨"1", "A", 1, some (.ofString "c"), none, settings, false, 0⟩
  let c : Config := { Config.standard.override settings with logLevel := "warn" }
  have parsed : parse words = .ok a := rfl
  have configured : a.configure tree = .ok c := by decide +kernel
  have truth : tree.walk .look (.ofString "t") = .ok (.entry [[0x74]] (.file [0x68, 0x0a])) := by
    decide +kernel
  have test : SameTest r words ⟨tree, []⟩ ⟨tree.set r.place r.new, []⟩ := by
    refine ⟨⟨FileTree.revised_set (by decide +kernel), .nil⟩, ?_, ?_⟩
    · intro a' parsed'
      cases parsed.symm.trans parsed'
      decide +kernel
    · intro a' c' path parsed' configured' found location entry led
      cases parsed.symm.trans parsed'
      cases configured.symm.trans configured'
      obtain rfl : Path.ofString "t" = path := Except.ok.inj found
      cases truth.symm.trans led
      decide +kernel
  obtain ⟨alike, hushed⟩ := run_unchanged_by_presentation (some (.ofString "output.txt"))
    [⟨some (Text.Utf8.encode "Lattice:\n".toList), .exited 0⟩] .zero
  obtain ⟨exitCode, -, stdout, machine⟩ :=
    alike r words (words ++ ["-v"]) none (some "off") _ _ (by decide) test
  obtain ⟨-, -, -, -, -, -, progress⟩ := hushed words (words ++ ["-q"]) none ⟨tree, []⟩ (by decide)
  obtain ⟨runs, rest, -, scoredRuns, kept⟩ := progress a c _ _ parsed configured
    (show c.truthSource.load tree a.destination = .ok (.ofString "t", GroundTruth.parse "h\n") by
      decide +kernel)
  exact ⟨exitCode, stdout, machine, _, _, rest, scoredRuns, kept⟩

/-- Where the ground truth is read from the configuration file, the summary tells its level. A level
that is no text is refused, and so is a second switch against progress. If there are two mistakes on
the command line, such a switch between them decides which one is told. -/
theorem presentation_can_change_run :
    let words := ["1", "A", "1", "-c", "c", "--launcher", "./s"]
    let tree (content : String) := (((∅ : FileTree).install (.ofString "s") .program).install
      (.ofString "t") (.file [0x68, 0x0a])).install (.ofString "c")
      (.file (Text.Utf8.encode content.toList))
    let program := Executable.scripted (some (.ofString "output.txt"))
      [⟨some (Text.Utf8.encode "Lattice:\n".toList), .exited 0⟩]
    let ran words content := run words none program .zero ⟨tree content, []⟩
    (ran (words ++ ["-t", "c"]) "\nlog_level=\"warn\" # x\n").stdout ≠
        (ran (words ++ ["-t", "c"]) "\nlog_level=\"info\" # x\n").stdout ∧
      (ran (words ++ ["-t", "t"]) "log_level=\"warn\"\n").exitCode = 0 ∧
      (ran (words ++ ["-t", "t"]) "log_level=3\n").exitCode = 1 ∧
      (ran (words ++ ["-t", "t", "-q"]) "").exitCode = 0 ∧
      (ran (words ++ ["-t", "t", "-q", "-q"]) "").exitCode = 2 ∧
      (ran ["--mode", "bad", "--bogus"] "").stop = some (.usage .unknownArgument) ∧
      (ran ["--mode", "bad", "-q", "--bogus"] "").stop = some (.usage .invalidValue) := by
  decide +kernel

end FailureTest
end Multipath
