import Multipath.Prober.Subprocess
import Multipath.Proofs.FileTree.Opening

/-! The stages of a run of a program. First the output is prepared, then the program is started,
and when it has ended the result is made from how it ended and from what is then to be read. Each
stage has failures of its own. A run that fails at one stage has done what belongs to the stages
before it, and nothing of the later ones. -/
namespace Multipath.Subprocess

variable {c : Config} {t : FileTree} {fault : Fault}

section Preparation

/-- The output cannot be prepared: a launcher might find what cannot be removed, or a binary has
nothing to print to. -/
def Unprepared (c : Config) (t : FileTree) (fault : Fault) : Prop :=
  match c.mode with
  | .launcher => t.remove c.output = .error fault ∧ fault ≠ .notFound
  | .direct => t.openForWriting c.output = .error fault

def Prepared (c : Config) (t tree : FileTree) (output : Option Location) : Prop :=
  match c.mode with
  | .launcher => output = none ∧
    (t.remove c.output = .ok tree ∨ t.remove c.output = .error .notFound ∧ tree = t)
  | .direct => ∃ place, t.openForWriting c.output = .ok place ∧
    output = some place ∧ tree = t.truncate place

/-- A launcher is started whether an output file was removed or there was none. -/
theorem prepare_launcher (launcher : c.mode = .launcher) :
    (∃ tree, t.remove c.output = .ok tree ∧ prepare c t = .ok (tree, none)) ∨
    (t.remove c.output = .error .notFound ∧ prepare c t = .ok (t, none)) ∨
    ∃ fault, fault ≠ .notFound ∧ t.remove c.output = .error fault ∧ prepare c t = .error fault := by
  cases removed : t.remove c.output with
  | ok tree => exact .inl ⟨tree, rfl, by simp [prepare, launcher, removed]⟩
  | error fault =>
    by_cases gone : fault = .notFound
    · subst gone
      exact .inr (.inl ⟨rfl, by simp [prepare, launcher, removed]⟩)
    · exact .inr (.inr ⟨fault, gone, rfl, by simp [prepare, launcher, removed]⟩)

theorem prepare_direct (direct : c.mode = .direct) :
    prepare c t =
      (t.openForWriting c.output).map fun place => (t.truncate place, some place) := by
  simp [prepare, direct]

theorem prepare_eq_error_iff : prepare c t = .error fault ↔ Unprepared c t fault := by
  cases mode : c.mode with
  | launcher =>
    rcases prepare_launcher (t := t) mode with
      ⟨tree, removed, cleared⟩ | ⟨removed, cleared⟩ | ⟨cause, remains, removed, cleared⟩
    · simp [Unprepared, mode, removed, cleared]
    · simp [Unprepared, mode, removed, cleared, eq_comm]
    · simp only [Unprepared, mode, removed, cleared, Except.error.injEq]
      exact ⟨fun is => ⟨is, is ▸ remains⟩, And.left⟩
  | direct =>
    cases opened : t.openForWriting c.output <;>
      simp [prepare_direct mode, Unprepared, mode, opened, Except.map]

theorem prepare_eq_ok_iff {tree : FileTree} {output : Option Location} :
    prepare c t = .ok (tree, output) ↔ Prepared c t tree output := by
  cases mode : c.mode with
  | launcher =>
    rcases prepare_launcher (t := t) mode with
      ⟨tree, removed, cleared⟩ | ⟨removed, cleared⟩ | ⟨cause, remains, removed, cleared⟩
    · simp [Prepared, mode, removed, cleared, eq_comm, and_comm]
    · simp [Prepared, mode, removed, cleared, eq_comm, and_comm]
    · simp [Prepared, mode, removed, cleared, remains]
  | direct =>
    cases opened : t.openForWriting c.output with
    | error cause => simp [prepare_direct mode, Prepared, mode, opened, Except.map]
    | ok place =>
      simp [prepare_direct mode, Prepared, mode, opened, Except.map, eq_comm, and_comm]

end Preparation

section States

def IsOutput (c : Config) (t : FileTree) (place : Location) : Prop :=
  ∃ directory name, place = name :: directory ∧ t.aim c.output = .ok ⟨directory, some name, false⟩

/-- Whether the output can be prepared, and how, from what there is at its path. A launcher finds
nothing there when it starts, and does not mind if nothing could be there. A binary prints to what
is there, through links. -/
structure ByState (c : Config) (t : FileTree) : Prop where
  /-- The directory of the output is missing, or is none. -/
  astray : ∀ fault, c.output.endsWithSlash = false → t.aim c.output = .error fault →
    if c.mode = .launcher ∧ fault = .notFound then Prepared c t t none else Unprepared c t fault
  absent : ∀ place, IsOutput c t place → t.get? place = none →
    match c.mode with
    | .launcher => Prepared c t t none
    | .direct => Prepared c t (t.truncate place) (some place)
  regular : ∀ place entry, IsOutput c t place → t.get? place = some entry →
    entry.isRegular = true →
    match c.mode with
    | .launcher => Prepared c t (t.erase place) none
    | .direct => Prepared c t (t.truncate place) (some place)
  device : ∀ place entry, IsOutput c t place → t.get? place = some entry → entry.isDevice = true →
    match c.mode with
    | .launcher => Prepared c t (t.erase place) none
    | .direct => Prepared c t (t.truncate place) (some place)
  directory : ∀ place, IsOutput c t place → t.get? place = some .directory →
    Unprepared c t .isDirectory
  link : ∀ place target, IsOutput c t place → t.get? place = some (.link target) →
    match c.mode with
    | .launcher => Prepared c t (t.erase place) none
    | .direct => Unprepared c t .linkLoop ∨ ∃ links < FileTree.mostLinks,
      match FileTree.placed (t.walkFrom .create links (FileTree.origin target place.tail)
        (FileTree.steps target)) with
      | .ok reached => Prepared c t (t.truncate reached) (some reached)
      | .error fault => Unprepared c t fault

/-- A file or a device is removed for a launcher, and opened as it is for a binary. -/
theorem prepared_of_file {place : Location} {entry : Entry} (output : IsOutput c t place)
    (present : t.get? place = some entry)
    (file : entry.isRegular = true ∨ entry.isDevice = true) :
    match c.mode with
    | .launcher => Prepared c t (t.erase place) none
    | .direct => Prepared c t (t.truncate place) (some place) := by
  obtain ⟨directory, name, rfl, aimed⟩ := output
  have removed := FileTree.remove_of_aim aimed
  have opened := FileTree.openForWriting_of_isEnd aimed
    (by simpa [FileTree.IsEnd, present] using file)
  rw [present] at removed
  cases mode : c.mode with
  | launcher => cases entry <;> simp_all [Prepared, Entry.isRegular, Entry.isDevice]
  | direct => simp [Prepared, mode, opened]

theorem prepared_by_state (c : Config) (t : FileTree) : ByState c t where
  astray := by
    intro fault plain lost
    have removed := FileTree.remove_of_astray lost
    have opened := FileTree.openForWriting_of_astray plain lost
    cases mode : c.mode with
    | launcher =>
      by_cases gone : fault = .notFound
      · simp [gone, Prepared, mode, removed]
      · simp [gone, Unprepared, mode, removed]
    | direct => simp [Unprepared, mode, opened]
  absent := by
    rintro _ ⟨directory, name, rfl, aimed⟩ absent
    have removed := FileTree.remove_of_aim aimed
    have opened := FileTree.openForWriting_of_isEnd aimed (by simp [FileTree.IsEnd, absent])
    rw [absent] at removed
    cases mode : c.mode <;> simp [Prepared, mode, removed, opened]
  regular := fun _ _ output present regular => prepared_of_file output present (.inl regular)
  device := fun _ _ output present device => prepared_of_file output present (.inr device)
  directory := by
    rintro _ ⟨directory, name, rfl, aimed⟩ present
    have removed := FileTree.remove_of_aim aimed
    have opened := FileTree.openForWriting_of_directory aimed present
    rw [present] at removed
    cases mode : c.mode <;> simp [Unprepared, mode, removed, opened]
  link := by
    rintro _ target ⟨directory, name, rfl, aimed⟩ present
    have removed := FileTree.remove_of_aim aimed
    rw [present] at removed
    cases mode : c.mode with
    | launcher => simp [Prepared, mode, removed]
    | direct =>
      rcases FileTree.openForWriting_of_link aimed present with opened | ⟨links, fewer, opened⟩
      · left
        simp [Unprepared, mode, opened]
      · right
        refine ⟨links, fewer, ?_⟩
        rw [List.tail_cons, ← opened]
        cases followed : t.openForWriting c.output <;>
          simp [Prepared, Unprepared, mode, followed]

end States

section Start

/-- A program can be started. It can be given its arguments, and its path leads to a file that is
not open for printing and holds what can be run. -/
structure CanStart (s : Start) : Prop where
  arguments : ∀ argument ∈ s.arguments,
    Char.ofNat 0 ∉ argument.toList ∧ argument.utf8ByteSize ≤ longestArgument
  program : ∃ location entry, s.tree.startable s.program = .ok (location, entry) ∧
    s.output ≠ some location ∧ s.tree.loadFault? FileTree.mostInterpreters entry = none

theorem obstacle?_eq_none_iff {s : Start} : obstacle? s = none ↔ CanStart s := by
  unfold obstacle?
  constructor
  · -- The obstacles are looked for in an order, and each split passes one of them.
    intro free
    split at free
    · contradiction
    · rename_i noZero
      split at free
      · contradiction
      · rename_i location entry able
        split at free
        · contradiction
        · rename_i closed
          split at free
          · contradiction
          · rename_i short
            refine ⟨fun argument member => ⟨?_, ?_⟩, location, entry, able, closed, free⟩
            · simp only [List.any_eq_true, not_exists, not_and] at noZero
              simpa using noZero argument member
            · simp only [List.any_eq_true, not_exists, not_and] at short
              simpa using short argument member
  · rintro ⟨passable, location, entry, able, closed, loads⟩
    have noZero : ¬(s.arguments.any (·.toList.contains (Char.ofNat 0)) = true) := by
      simpa using fun argument member => (passable argument member).1
    have short : ¬(s.arguments.any (longestArgument < ·.utf8ByteSize) = true) := by
      simpa using fun argument member => (passable argument member).2
    rw [if_neg noZero, able]
    simp only [if_neg closed, if_neg short, loads]

end Start

section Result

structure Collected (c : Config) (left : FileTree) (ending : Ending)
    (result : Except Failure Prober.Answer) : Prop where
  dropped_iff : result = .ok .dropped ↔ ∃ code : Nat, ending = .exited code ∧ code = c.dropCode
  not_dropped_of_killed : ending = .killed → result ≠ .ok .dropped
  completed : result ≠ .ok .dropped → ∀ bytes, left.read c.output = .ok bytes →
    result = .ok (.completed ending.code? (String.ofList (Text.Utf8.decodeLossy bytes)))
  unreadable : result ≠ .ok .dropped → ∀ fault, left.read c.output = .error fault →
    result = .error (.outputUnreadable c.output fault)

theorem code?_eq_some_iff {ending : Ending} {code : Int} :
    ending.code? = some code ↔ ∃ n : Nat, ending = .exited n ∧ n = code := by
  cases ending <;> simp [Ending.code?]

theorem collect_eq_dropped_iff {left : FileTree} {ending : Ending} :
    collect c left ending = .ok .dropped ↔ ending.code? = some c.dropCode := by
  unfold collect
  split
  · simp_all
  · rename_i other
    cases left.read c.output <;> simp [other]

theorem collect_collected (c : Config) (left : FileTree) (ending : Ending) :
    Collected c left ending (collect c left ending) where
  dropped_iff := collect_eq_dropped_iff.trans code?_eq_some_iff
  not_dropped_of_killed := by
    rintro rfl dropped
    have code := collect_eq_dropped_iff.mp dropped
    contradiction
  completed := by
    intro kept bytes found
    rw [collect, if_neg (mt collect_eq_dropped_iff.mpr kept), found]
  unreadable := by
    intro kept fault lost
    rw [collect, if_neg (mt collect_eq_dropped_iff.mpr kept), lost]

end Result

section Run

variable (c : Config) (program : Executable) (request : Request) (m : Machine)

structure ByStages (attempt : Attempt) (after : Machine) : Prop where
  states : ByState c m.tree
  prepares : (∃ fault, Unprepared c m.tree fault) ∨ ∃ tree output, Prepared c m.tree tree output
  unprepared : ∀ fault, Unprepared c m.tree fault →
    attempt = ⟨[], .error (.outputUnreadable c.output fault)⟩ ∧ after = m
  notStarted : ∀ tree output, Prepared c m.tree tree output →
    ¬CanStart ⟨c.program, arguments c.mode request, tree, output⟩ →
    (∃ fault, attempt = ⟨[launchEvent c], .error (.notStarted c.program fault)⟩) ∧
      after = ⟨tree, m.starts⟩
  started : ∀ tree output, Prepared c m.tree tree output →
    let start : Start := ⟨c.program, arguments c.mode request, tree, output⟩
    CanStart start → ∃ left ending, program.run m.starts.length start = (left, ending) ∧
      after = ⟨left, m.starts ++ [start]⟩ ∧ attempt.events = [launchEvent c, exitEvent ending] ∧
      Collected c left ending attempt.result
  launched : c.mode = .launcher → ∀ start, after.starts = m.starts ++ [start] →
    start.program = c.launcher ∧ start.arguments = [request.bounds, request.destination]
  direct : c.mode = .direct → ∀ start, after.starts = m.starts ++ [start] →
    start.program = c.binary ∧
      start.arguments = ["-a", "mda", "-n", "-B", request.bounds, request.destination]

variable {c program request m}

theorem probe_of_unprepared (unprepared : Unprepared c m.tree fault) :
    probe c program request m = (⟨[], .error (.outputUnreadable c.output fault)⟩, m) := by
  rw [probe, prepare_eq_error_iff.mpr unprepared]

section

variable {tree : FileTree} {output : Option Location} (prepared : Prepared c m.tree tree output)

include prepared

theorem probe_of_obstacle
    (hindered : obstacle? ⟨c.program, arguments c.mode request, tree, output⟩ = some fault) :
    probe c program request m =
      (⟨[launchEvent c], .error (.notStarted c.program fault)⟩, ⟨tree, m.starts⟩) := by
  simp only [probe, prepare_eq_ok_iff.mpr prepared, hindered]

theorem probe_of_canStart (able : CanStart ⟨c.program, arguments c.mode request, tree, output⟩) :
    let start : Start := ⟨c.program, arguments c.mode request, tree, output⟩
    let run := program.run m.starts.length start
    probe c program request m =
      (⟨[launchEvent c, exitEvent run.2], collect c run.1 run.2⟩,
        ⟨run.1, m.starts ++ [start]⟩) := by
  simp only [probe, prepare_eq_ok_iff.mpr prepared, obstacle?_eq_none_iff.mpr able, Machine.start]

end

/-- What was started is the program of the configuration, with the arguments of the mode. -/
theorem start_of_probe {start : Start}
    (started : (probe c program request m).2.starts = m.starts ++ [start]) :
    start.program = c.program ∧ start.arguments = arguments c.mode request := by
  unfold probe at started
  split at started
  · simp at started
  · dsimp only at started
    split at started
    · simp at started
    · simp only [Machine.start, List.append_cancel_left_eq, List.cons.injEq, and_true] at started
      subst started
      exact ⟨rfl, rfl⟩

/-- What one run does and what comes of it, for every state of the files and every program. If the
output cannot be prepared, that is all: nothing is logged, started or changed. If the program cannot
be started, the run fails with its path. Otherwise it is started once, with the arguments of the
mode. The run is dropped if it ends with the code for dropped runs, whatever it has left; if it is
killed it never is. Any other run is completed with its exit code, or its output is unreadable. -/
theorem probe_by_stages (c : Config) (program : Executable) (request : Request) (m : Machine) :
    ByStages c program request m (probe c program request m).1
      (probe c program request m).2 where
  states := prepared_by_state c m.tree
  prepares := by
    cases outcome : prepare c m.tree with
    | error fault => exact .inl ⟨fault, prepare_eq_error_iff.mp outcome⟩
    | ok prepared => exact .inr ⟨prepared.1, prepared.2, prepare_eq_ok_iff.mp outcome⟩
  unprepared := by
    intro fault unprepared
    rw [probe_of_unprepared unprepared]
    exact ⟨rfl, rfl⟩
  notStarted := by
    intro tree output prepared unable
    obtain ⟨fault, hindered⟩ : ∃ fault,
        obstacle? ⟨c.program, arguments c.mode request, tree, output⟩ = some fault :=
      Option.ne_none_iff_exists'.mp (mt obstacle?_eq_none_iff.mp unable)
    rw [probe_of_obstacle prepared hindered]
    exact ⟨⟨fault, rfl⟩, rfl⟩
  started := by
    intro tree output prepared start able
    rw [probe_of_canStart prepared able]
    exact ⟨_, _, rfl, rfl, rfl, collect_collected c _ _⟩
  launched := by
    intro launcher start started
    have named := start_of_probe started
    rwa [Config.program, launcher] at named
  direct := by
    intro direct start started
    have named := start_of_probe started
    rwa [Config.program, direct] at named

end Run

end Multipath.Subprocess
