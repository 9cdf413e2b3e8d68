import Multipath.Proofs.Report.Account
import Multipath.Proofs.Topology

/-! Branch tallies as histograms. The tally of a branch point is the one that is found by
counting, for every `k`, the completed runs in which exactly `k` of the expected children are
children of the branch point. Recording a run keeps this form at all branch points at once. -/
namespace Multipath

def Topology.found (discovered : Topology) (branch : String) (expected : LabelSet) : Nat :=
  expected.toList.countP fun child => discovered.hasEdge branch child

theorem Topology.found_le (discovered : Topology) (branch : String) (expected : LabelSet) :
    discovered.found branch expected ≤ expected.size := List.countP_le_length

namespace Tally

/-- The place where a run is counted. A label that the topology does not list has no edge, and
children that are not expected are not looked for. -/
theorem slot_eq_found (t : Tally) (discovered : Topology) (branch : String) :
    t.slot (discovered.children? branch) = discovered.found branch t.expected := by
  unfold Topology.found Topology.hasEdge
  cases discovered.children? branch with
  | none => simp [slot]
  | some seen => exact seen.sharedSize_comm t.expected

theorem total_eq_sum (t : Tally) : t.total = t.counts.sum := rfl

theorem sum_modify_succ {counts : List Nat} {k : Nat} (bound : k < counts.length) :
    (counts.modify k (· + 1)).sum = counts.sum + 1 := by
  induction counts generalizing k with
  | nil => contradiction
  | cons count counts ih =>
    cases k with
    | zero =>
      rw [List.modify_zero_cons, List.sum_cons, List.sum_cons]
      omega
    | succ k =>
      have later := ih (Nat.lt_of_succ_lt_succ bound)
      rw [List.modify_succ_cons, List.sum_cons, List.sum_cons, later]
      omega

theorem total_record (t : Tally) (seen : Option LabelSet) (inside : t.slot seen < t.counts.length) :
    (t.record seen).total = t.total + 1 :=
  sum_modify_succ inside

end Tally

namespace Report

open Multipath.Topology (mem_branchPoints_iff)

def Run.shows (branch : String) (expected : LabelSet) (k : Nat) : Run → Bool
  | .dropped => false
  | .completed discovered _ => discovered.found branch expected = k

def histogram (runs : List Run) (branch : String) (expected : LabelSet) : Tally where
  expected := expected
  counts := (List.range (expected.size + 1)).map fun k => runs.countP (Run.shows branch expected k)

section

variable (runs : List Run) (branch : String) (expected : LabelSet)

theorem histogram_nil : histogram [] branch expected = .start expected := by
  simp [histogram, Tally.start, List.map_const']

theorem length_counts_histogram :
    (histogram runs branch expected).counts.length = expected.size + 1 := by
  simp [histogram]

theorem counts_histogram {k : Nat} (bound : k ≤ expected.size) :
    (histogram runs branch expected).counts[k]? =
      some (runs.countP (Run.shows branch expected k)) := by
  have inside : k < expected.size + 1 := Nat.lt_succ_of_le bound
  simp [histogram, inside]

theorem histogram_dropped :
    histogram (runs ++ [.dropped]) branch expected = histogram runs branch expected := by
  simp [histogram, Run.shows]

theorem record_histogram (discovered : Topology) (comparison : Comparison) :
    (histogram runs branch expected).record (discovered.children? branch) =
      histogram (runs ++ [.completed discovered comparison]) branch expected := by
  have place := (histogram runs branch expected).slot_eq_found discovered branch
  rw [Tally.record, place]
  simp only [histogram, Tally.mk.injEq, true_and]
  apply List.ext_getElem?
  intro k
  rw [List.getElem?_modify, List.getElem?_map, List.getElem?_map]
  by_cases inside : k < expected.size + 1
  · rw [List.getElem?_range inside]
    by_cases hit : discovered.found branch expected = k <;> simp [Run.shows, hit]
  · rw [List.getElem?_eq_none (by simpa using inside)]
    rfl

/-- Every completed run is counted once, at one of the places. -/
theorem total_histogram :
    (histogram runs branch expected).total + runs.countP Run.isDropped = runs.length := by
  induction runs using List.reverseRecOn with
  | nil => simp [histogram_nil, Tally.total_eq_sum, Tally.start]
  | append_singleton runs run ih =>
    cases run with
    | dropped =>
      rw [histogram_dropped, List.countP_append, List.length_append]
      simp only [List.countP_singleton, Run.isDropped, List.length_singleton, if_true]
      omega
    | completed discovered comparison =>
      have inside : (histogram runs branch expected).slot (discovered.children? branch) <
          (histogram runs branch expected).counts.length := by
        rw [Tally.slot_eq_found, length_counts_histogram]
        exact Nat.lt_succ_of_le (discovered.found_le branch expected)
      rw [← record_histogram, Tally.total_record _ _ inside, List.countP_append, List.length_append]
      simp only [List.countP_singleton, Run.isDropped, List.length_singleton]
      simp
      omega

end

/-- At every branch point of the ground truth, the tally of the recorded runs. -/
def Tallied (actual : Topology) (recorded : List Run) (r : Report) : Prop :=
  r.branches = actual.branchPoints.map (histogram recorded)

theorem start_tallied (bounds destination : String) (requested : Nat) (actual : Topology) :
    Tallied actual [] (start bounds destination requested actual) := by
  have noRuns : histogram [] = fun _ children => .start children := by
    funext branch children
    exact histogram_nil branch children
  rw [Tallied, noRuns]
  rfl

theorem record_tallied {actual : Topology} {runs : List Run} {r : Report}
    (tallied : Tallied actual runs r) (run : Run) :
    Tallied actual (runs ++ [run]) (r.record run) := by
  cases run with
  | dropped =>
    have unchanged : histogram (runs ++ [.dropped]) = histogram runs := by
      funext branch expected
      exact histogram_dropped ..
    rw [Tallied, unchanged]
    exact tallied
  | completed discovered comparison =>
    have counted : (r.record (.completed discovered comparison)).branches =
        r.branches.record discovered := by
      simp only [record]
      split <;> rfl
    rw [Tallied, counted, tallied, Tallies.record, LabelMap.map_map]
    simp only [record_histogram _ _ _ discovered comparison]

theorem recordAll_tallied {actual : Topology} {before : List Run} {r : Report}
    (tallied : Tallied actual before r) (runs : List Run) :
    Tallied actual (before ++ runs) (r.recordAll runs) :=
  recordAll_invariant record_tallied tallied runs

/-- After any runs there is a tally for exactly the labels with more than one child in the
ground truth. It expects these children, and counts for every `k` the completed runs that have
exactly `k` of them. -/
theorem recordAll_start_tallied (bounds destination : String) (requested : Nat)
    (actual : Topology) (runs : List Run) :
    let r := (start bounds destination requested actual).recordAll runs
    (∀ branch, branch ∈ r.branches.keys ↔
      ∃ children, actual.children? branch = some children ∧ 1 < children.size) ∧
    ∀ branch tally, r.branches.get? branch = some tally →
      actual.children? branch = some tally.expected ∧
      tally.counts.length = tally.expected.size + 1 ∧
      (∀ k ≤ tally.expected.size,
        tally.counts[k]? = some (runs.countP (Run.shows branch tally.expected k))) ∧
      tally.total = r.runs - r.dropped := by
  intro r
  have tallied : Tallied actual runs r := recordAll_tallied (start_tallied ..) runs
  have told : Account runs r := recordAll_account (start_account ..) runs
  have atBranch (branch : String) :
      r.branches.get? branch = (actual.branchPoints.get? branch).map (histogram runs branch) := by
    rw [tallied, LabelMap.get?_map]
  constructor
  · intro branch
    rw [tallied, LabelMap.keys_map, LabelMap.mem_keys_iff]
    simp only [mem_branchPoints_iff]
  · intro branch tally found
    rw [atBranch, Option.map_eq_some_iff] at found
    obtain ⟨children, isBranch, rfl⟩ := found
    refine ⟨(mem_branchPoints_iff.mp isBranch).1, length_counts_histogram .., ?_, ?_⟩
    · intro k bound
      exact counts_histogram runs branch children bound
    · have total := total_histogram runs branch children
      rw [told.runs, told.dropped]
      omega

end Report
end Multipath
