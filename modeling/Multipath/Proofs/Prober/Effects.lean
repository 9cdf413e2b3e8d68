import Multipath.Proofs.Session
import Multipath.Prober.Subprocess

/-! What runs of a program do to the outer world. Each starts the program once at most, and changes
files only by clearing the output and by what the program itself does. -/
namespace Multipath.Subprocess

variable {c : Config} {program : Executable} {request : Request} {m : Machine} {place : Location}

/-- A run leaves what there is at a place: neither is it cleared away with the output, nor does the
program, if it is started, write or remove it. -/
structure Spares (c : Config) (program : Executable) (request : Request) (m : Machine)
    (place : Location) : Prop where
  cleared : ∀ tree output, prepare c m.tree = .ok (tree, output) →
    tree.get? place = m.tree.get? place
  started : ∀ tree output, prepare c m.tree = .ok (tree, output) →
    let start : Start := ⟨c.program, arguments c.mode request, tree, output⟩
    obstacle? start = none → (program.run m.starts.length start).1.get? place = tree.get? place

instance : Decidable (Spares c program request m place) :=
  match prepared : prepare c m.tree with
  | .error _ => isTrue ⟨by simp [prepared], by simp [prepared]⟩
  | .ok (tree, output) =>
    let start : Start := ⟨c.program, arguments c.mode request, tree, output⟩
    decidable_of_iff (tree.get? place = m.tree.get? place ∧
        (obstacle? start = none →
          (program.run m.starts.length start).1.get? place = tree.get? place))
      ⟨fun ⟨cleared, started⟩ => ⟨by rintro _ _ done; cases prepared.symm.trans done; exact cleared,
          by rintro _ _ done; cases prepared.symm.trans done; exact started⟩,
        fun spared => ⟨spared.cleared tree output prepared, spared.started tree output prepared⟩⟩

theorem get?_probe (spared : Spares c program request m place) :
    (probe c program request m).2.tree.get? place = m.tree.get? place := by
  unfold probe
  split
  · rfl
  · rename_i tree output prepared
    dsimp only
    split
    · exact spared.cleared tree output prepared
    · rename_i unhindered
      exact (spared.started tree output prepared unhindered).trans
        (spared.cleared tree output prepared)

/-- What is left by each of a number of runs is left by all of them. -/
theorem get?_after {n : Nat}
    (spared : ∀ k < n, Spares c program request ((prober c program).after request k m) place) :
    ((prober c program).after request n m).tree.get? place = m.tree.get? place := by
  induction n generalizing m with
  | zero => rfl
  | succ n ih =>
    have later := ih fun k below => spared (k + 1) (Nat.succ_lt_succ below)
    exact later.trans (get?_probe (spared 0 (Nat.succ_pos n)))

theorem starts_probe (c : Config) (program : Executable) (request : Request) (m : Machine) :
    ∃ begun, (probe c program request m).2.starts = m.starts ++ begun ∧ begun.length ≤ 1 := by
  unfold probe
  split
  · exact ⟨[], (List.append_nil _).symm, Nat.zero_le _⟩
  · dsimp only
    split
    · exact ⟨[], (List.append_nil _).symm, Nat.zero_le _⟩
    · exact ⟨[_], rfl, le_rfl⟩

/-- A number of runs start the program no more often. -/
theorem starts_after (c : Config) (program : Executable) (request : Request) (n : Nat)
    (m : Machine) :
    ∃ begun, ((prober c program).after request n m).starts = m.starts ++ begun ∧
      begun.length ≤ n := by
  induction n generalizing m with
  | zero => exact ⟨[], (List.append_nil _).symm, le_rfl⟩
  | succ n ih =>
    obtain ⟨first, now, once⟩ := starts_probe c program request m
    obtain ⟨rest, later, few⟩ := ih (probe c program request m).2
    refine ⟨first ++ rest, ?_, ?_⟩
    · rw [← List.append_assoc, ← now]
      exact later
    · rw [List.length_append]
      omega

end Multipath.Subprocess
