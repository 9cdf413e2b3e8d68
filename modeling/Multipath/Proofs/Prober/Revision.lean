import Multipath.Proofs.FileTree.Revision
import Multipath.Prober.Subprocess

/-! Runs of a program beside a file in two versions. The program follows a script, so it reads
nothing, and the prober reads the output alone. This is cleared before the program is started, and
so what is read afterwards is in one version. The runs are the same, and leave the file as it is or
make its versions the same. -/
namespace Multipath

open FileTree (Revised OneVersion StillRevised)

variable {r : Revision}

structure Start.Revised (r : Revision) (s s' : Start) : Prop where
  program : s'.program = s.program
  arguments : s'.arguments = s.arguments
  tree : FileTree.Revised r s.tree s'.tree
  output : s'.output = s.output

structure Machine.Revised (r : Revision) (m m' : Machine) : Prop where
  tree : FileTree.Revised r m.tree m'.tree
  starts : List.Forall₂ (Start.Revised r) m.starts m'.starts

/-- What a program that follows a script does is the same. -/
theorem Executable.scripted_revised {s s' : Start} (revised : s.Revised r s') (path : Option Path)
    (script : List ScriptedRun) (before : Nat) :
    let done := (scripted path script).run before s
    let done' := (scripted path script).run before s'
    done'.2 = done.2 ∧ StillRevised r s.tree s'.tree done.1 done'.1 := by
  have still : StillRevised r s.tree s'.tree s.tree s'.tree := ⟨revised.tree, fun _ => id⟩
  refine ⟨rfl, ?_⟩
  simp only [scripted]
  cases (script[before]?.getD .idle).report with
  | none => exact still
  | some bytes =>
    simp only [Option.map_some, Option.getD_some]
    cases path with
    | some path =>
      simp only [report]
      rcases (FileTree.write_revised revised.tree path bytes).cases with
        ⟨cause, one, other⟩ | ⟨t, u, one, other, written⟩
      · rwa [one, other]
      · rwa [one, other]
    | none =>
      rw [report, report, revised.output]
      cases s.output with
      | none => exact still
      | some place => exact FileTree.stillRevised_fill revised.tree place bytes

namespace Subprocess

variable {c : Config} {t u : FileTree}

structure PreparedAlike (r : Revision) (c : Config) (one other : FileTree × Option Location) :
    Prop where
  output : other.2 = one.2
  tree : Revised r one.1 other.1
  single : OneVersion one.1 other.1 c.output

theorem prepare_revised (revised : Revised r t u) (c : Config) :
    Alike (PreparedAlike r c) (prepare c t) (prepare c u) := by
  unfold prepare
  split
  · rcases (FileTree.remove_revised revised c.output).cases with
      ⟨fault, one, other⟩ | ⟨tree, tree', one, other, trees⟩
    · rw [one, other]
      cases fault with
      | notFound => exact .ok ⟨rfl, revised, FileTree.oneVersion_of_remove_notFound one u⟩
      | _ => exact .error _
    · rw [one, other]
      exact .ok ⟨rfl, trees, FileTree.oneVersion_of_remove one tree'⟩
  · rw [FileTree.openForWriting_revised revised]
    cases opened : t.openForWriting c.output with
    | error fault => exact .error fault
    | ok place =>
      exact .ok ⟨rfl, FileTree.fill_revised revised place [],
        FileTree.oneVersion_of_openForWriting revised opened []⟩

theorem obstacle?_revised {s s' : Start} (revised : s.Revised r s') :
    obstacle? s' = obstacle? s := by
  rw [obstacle?, obstacle?, revised.program, revised.arguments, revised.output]
  rcases (FileTree.startable_revised revised.tree s.program).cases with
    ⟨fault, one, other⟩ | ⟨one, other, found, found', place, loaded⟩
  · rw [one, other]
  · simp only [found, found', place, FileTree.loadFault?_revised revised.tree _ loaded]

theorem collect_revised (revised : Revised r t u) (single : OneVersion t u c.output)
    (ending : Ending) : collect c u ending = collect c t ending := by
  rw [collect, collect, FileTree.read_of_oneVersion revised single]

/-- A run gives the same result and the same log. -/
theorem probe_revised {m m' : Machine} (revised : m.Revised r m') (c : Config) (path : Option Path)
    (script : List ScriptedRun) (request : Request) :
    let (attempt, after) := probe c (.scripted path script) request m
    let (attempt', after') := probe c (.scripted path script) request m'
    attempt' = attempt ∧ after.Revised r after' := by
  unfold probe
  rcases (prepare_revised revised.tree c).cases with
    ⟨fault, one, other⟩ | ⟨⟨tree, output⟩, ⟨tree', output'⟩, one, other, sameOutput, trees, single⟩
  · rw [one, other]
    exact ⟨rfl, revised⟩
  · obtain rfl : output' = output := sameOutput
    have start : Start.Revised r ⟨c.program, arguments c.mode request, tree, output'⟩
      ⟨c.program, arguments c.mode request, tree', output'⟩ := ⟨rfl, rfl, trees, rfl⟩
    rw [one, other]
    dsimp only
    rw [obstacle?_revised start]
    cases obstacle? ⟨c.program, arguments c.mode request, tree, output'⟩ with
    | some fault => exact ⟨rfl, trees, revised.starts⟩
    | none =>
      obtain ⟨ending, left⟩ :=
        Executable.scripted_revised start path script m.starts.length
      have collected := collect_revised left.tree (left.single _ single)
      simp only [Machine.start, ← revised.starts.length_eq, ending, collected, true_and]
      exact ⟨left.tree, List.rel_append revised.starts (.cons start .nil)⟩

end Subprocess
end Multipath
