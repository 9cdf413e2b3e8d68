import Multipath.Proofs.Prober.Effects
import Multipath.Proofs.Prober.Stages

/-! Which program is started. All runs start the one program of the configuration, each with the
same arguments, and name it where they speak of a program. A run that has a result has started it
once. -/
namespace Multipath

namespace Prober

variable {σ : Type u} {prober : Prober σ} {request : Request}

/-- An attempt is the answer to a request in some state of the prober. -/
theorem of_mem_attempts {n : Nat} {s : σ} {attempt : Attempt}
    (member : attempt ∈ prober.attempts request n s) :
    ∃ state, attempt = (prober.probe request state).1 := by
  induction n generalizing s with
  | zero => contradiction
  | succ n ih =>
    rcases List.mem_cons.mp member with rfl | later
    · exact ⟨s, rfl⟩
    · exact ih later

end Prober

namespace Subprocess

def isLaunch (e : Log.Event) : Bool :=
  e.target == logTarget && e.message == "launching prober"

structure Starts (path : Path) (given : List String) (s : Start) : Prop where
  program : s.program = path
  arguments : s.arguments = given
  startable : ∃ found, s.tree.startable path = .ok found

/-- No other program is told of in an attempt. -/
structure Names (path : Path) (attempt : Attempt) : Prop where
  target : ∀ e ∈ attempt.events, e.target = logTarget
  launched : ∀ e ∈ attempt.events, isLaunch e = true →
    e.fields.lookup "program" = some (.text path.display)
  notStarted : ∀ program fault, attempt.result = .error (.notStarted program fault) →
    program = path

variable {c : Config} {program : Executable} {request : Request} {m : Machine}

theorem not_isLaunch_exitEvent (ending : Ending) : isLaunch (exitEvent ending) = false := rfl

theorem collect_ne_notStarted {t : FileTree} {ending : Ending} {path : Path} {fault : Fault} :
    collect c t ending ≠ .error (.notStarted path fault) := by
  unfold collect
  split
  · exact nofun
  · split <;> exact nofun

theorem probe_names (c : Config) (program : Executable) (request : Request) (m : Machine) :
    Names c.program (probe c program request m).1 := by
  unfold probe
  split
  · exact ⟨nofun, nofun, nofun⟩
  · dsimp only
    split
    · refine ⟨fun e member => ?_, fun e member _ => ?_, fun _ _ failed => ?_⟩
      · obtain rfl := List.mem_singleton.mp member
        rfl
      · obtain rfl := List.mem_singleton.mp member
        rfl
      · cases failed
        rfl
    · refine ⟨fun e member => ?_, fun e member launch => ?_, fun _ _ failed =>
        absurd failed collect_ne_notStarted⟩
      · rcases List.mem_pair.mp member with rfl | rfl <;> rfl
      · rcases List.mem_pair.mp member with rfl | rfl
        · rfl
        · rw [not_isLaunch_exitEvent] at launch
          contradiction

theorem names_of_mem_attempts {n : Nat} {attempt : Attempt}
    (member : attempt ∈ (prober c program).attempts request n m) : Names c.program attempt := by
  obtain ⟨state, rfl⟩ := Prober.of_mem_attempts member
  exact probe_names c program request state

/-- One run starts the program of the configuration or none, and starts it if there is a result. -/
theorem starts_of_probe (c : Config) (program : Executable) (request : Request) (m : Machine) :
    ∃ begun, (probe c program request m).2.starts = m.starts ++ begun ∧
      (∀ s ∈ begun, Starts c.program (arguments c.mode request) s) ∧
      ((∃ answer, (probe c program request m).1.result = .ok answer) → begun.length = 1) := by
  unfold probe
  split
  · exact ⟨[], (List.append_nil _).symm, nofun, nofun⟩
  · dsimp only
    split
    · exact ⟨[], (List.append_nil _).symm, nofun, nofun⟩
    · rename_i tree output _ _ free
      have able := (obstacle?_eq_none_iff.mp free).program
      refine ⟨[_], rfl, fun s member => ?_, fun _ => rfl⟩
      obtain rfl := List.mem_singleton.mp member
      obtain ⟨location, entry, startable, -⟩ := able
      exact ⟨rfl, rfl, (location, entry), startable⟩

/-- A number of runs start the program of the configuration, each of them once if all have
results. -/
theorem starts_of_after (c : Config) (program : Executable) (request : Request) (n : Nat)
    (m : Machine) :
    ∃ begun, ((prober c program).after request n m).starts = m.starts ++ begun ∧
      (∀ s ∈ begun, Starts c.program (arguments c.mode request) s) ∧
      ((∀ result ∈ (prober c program).results request n m, ∃ answer, result = .ok answer) →
        begun.length = n) := by
  induction n generalizing m with
  | zero => exact ⟨[], (List.append_nil _).symm, nofun, fun _ => rfl⟩
  | succ n ih =>
    obtain ⟨first, now, isFirst, once⟩ := starts_of_probe c program request m
    obtain ⟨rest, later, areRest, oneEach⟩ := ih (probe c program request m).2
    refine ⟨first ++ rest, ?_, ?_, fun fine => ?_⟩
    · rw [← List.append_assoc, ← now]
      exact later
    · intro s member
      rcases List.mem_append.mp member with among | among
      · exact isFirst s among
      · exact areRest s among
    · rw [Prober.results_succ, List.forall_mem_cons] at fine
      rw [List.length_append, once fine.1, oneEach fine.2]
      exact Nat.add_comm 1 n

end Subprocess
end Multipath
