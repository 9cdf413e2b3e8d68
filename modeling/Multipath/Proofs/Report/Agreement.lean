import Multipath.Proofs.Comparison
import Multipath.Proofs.Report.Histogram

/-! The comparison of a run and the tallies of its report look at the same edges. A child of a
branch point is either counted as found or listed as missing, so what one of them says about a
run follows from what the other says, and over many runs the tallies bound the verdicts. -/
namespace Multipath

namespace Topology

variable {t discovered actual : Topology} {branch : String} {children : LabelSet}

/-- The edges of a label lead to its children, each to another one. -/
theorem edges_of_label_perm (listed : t.children? branch = some children) :
    (t.edges.filter (·.1 = branch)).Perm (children.toList.map (branch, ·)) := by
  have nodup : (children.toList.map (branch, ·)).Nodup :=
    children.ascending.nodup.map fun _ _ sameEdge => (Prod.mk.inj sameEdge).2
  refine (List.perm_ext_iff_of_nodup (t.nodup_edges.filter _) nodup).mpr fun edge => ?_
  simp only [List.mem_filter, decide_eq_true_eq, mem_edges, hasEdge_iff, List.mem_map]
  constructor
  · rintro ⟨⟨others, found, member⟩, rfl⟩
    rw [listed] at found
    obtain rfl := Option.some.inj found
    exact ⟨edge.2, member, rfl⟩
  · rintro ⟨child, member, rfl⟩
    exact ⟨⟨children, listed, member⟩, rfl⟩

end Topology

namespace Comparison

variable {discovered actual : Topology} {branch : String} {children : LabelSet}

def missingUnder (c : Comparison) (parent : String) : Nat := c.missing.countP (·.parent = parent)

theorem missingUnder_between (listed : actual.children? branch = some children) :
    (between discovered actual).missingUnder branch =
      children.toList.countP fun child => !discovered.hasEdge branch child := by
  have ofEdges : (between discovered actual).missingUnder branch =
      (actual.edges.filter fun edge => !discovered.hasEdge edge.1 edge.2).countP (·.1 = branch) := by
    rw [missingUnder, between, unshared, List.countP_map]
    rfl
  rw [ofEdges, List.countP_filter]
  calc actual.edges.countP (fun edge => edge.1 = branch && !discovered.hasEdge edge.1 edge.2)
      = (actual.edges.filter (·.1 = branch)).countP
          fun edge => !discovered.hasEdge edge.1 edge.2 := by
        rw [List.countP_filter]
        simp only [Bool.and_comm]
    _ = (children.toList.map (branch, ·)).countP
          fun edge => !discovered.hasEdge edge.1 edge.2 :=
        (Topology.edges_of_label_perm listed).countP_eq _
    _ = _ := List.countP_map

/-- Every child of a branch point is either found or missing. -/
theorem found_add_missingUnder (discovered : Topology)
    (listed : actual.children? branch = some children) :
    discovered.found branch children + (between discovered actual).missingUnder branch =
      children.size := by
  have counted :=
    children.toList.length_eq_countP_add_countP fun child => discovered.hasEdge branch child
  simp only [Bool.not_eq_true, Bool.decide_eq_false] at counted
  rw [missingUnder_between listed, Topology.found, LabelSet.size, counted]

end Comparison

namespace Report

open Multipath.Topology (mem_branchPoints_iff)

variable {actual : Topology} {branch : String} {children : LabelSet}

/-- A run as it is scored against a ground truth, from the lattice that it discovered or from
none if it was dropped. -/
def Run.against (actual : Topology) : Option Topology → Run
  | none => .dropped
  | some discovered => .completed discovered (.between discovered actual)

/-- A passing run found all children of every label. -/
theorem Run.shows_all_of_isPassing (listed : actual.children? branch = some children)
    {result : Option Topology} (passing : (Run.against actual result).isPassing = true) :
    (Run.against actual result).shows branch children children.size = true := by
  cases result with
  | none => contradiction
  | some discovered =>
    have total := Comparison.found_add_missingUnder discovered listed
    have noneMissing : (Comparison.between discovered actual).missing = [] := by
      simp only [Run.against, Run.isPassing, Comparison.toList, decide_eq_true_eq,
        List.append_eq_nil_iff] at passing
      exact passing.1
    have noneUnder : (Comparison.between discovered actual).missingUnder branch = 0 := by
      rw [Comparison.missingUnder, noneMissing, List.countP_nil]
    simp only [Run.against, Run.shows, decide_eq_true_eq]
    omega

theorem tally_of_tallied {runs : List Run} {r : Report} (tallied : Tallied actual runs r)
    (isBranch : actual.branchPoints.get? branch = some children) :
    r.branches.get? branch = some (histogram runs branch children) := by
  rw [tallied, LabelMap.get?_map, isBranch, Option.map_some]

/-- A run that is compared with the ground truth is counted at the place that the comparison
tells: one place below the last for each missing edge of the branch point. -/
theorem record_between_slot {runs : List Run} {r : Report} (tallied : Tallied actual runs r)
    (isBranch : actual.branchPoints.get? branch = some children) (discovered : Topology) :
    ∃ tally k, r.branches.get? branch = some tally ∧ tally.expected = children ∧
      k < tally.counts.length ∧
      (r.record (.completed discovered (.between discovered actual))).branches.get? branch =
        some { tally with counts := tally.counts.modify k (· + 1) } ∧
      k + (Comparison.between discovered actual).missingUnder branch = children.size := by
  have listed := (mem_branchPoints_iff.mp isBranch).1
  have later := tally_of_tallied
    (record_tallied tallied (.completed discovered (.between discovered actual))) isBranch
  rw [← record_histogram, Tally.record, Tally.slot_eq_found] at later
  refine ⟨_, _, tally_of_tallied tallied isBranch, rfl, ?_, later,
    Comparison.found_add_missingUnder discovered listed⟩
  rw [length_counts_histogram]
  exact Nat.lt_succ_of_le (discovered.found_le branch children)

/-- The last counter of a tally lies between the passing runs and all evaluated ones. -/
theorem full_count_bounds (listed : actual.children? branch = some children)
    (results : List (Option Topology)) :
    let runs := results.map (Run.against actual)
    let full := runs.countP (Run.shows branch children children.size)
    runs.countP Run.isPassing ≤ full ∧ full + runs.countP Run.isDropped ≤ runs.length := by
  intro runs full
  constructor
  · refine List.countP_mono_left fun run member passing => ?_
    obtain ⟨result, -, rfl⟩ := List.mem_map.mp member
    exact Run.shows_all_of_isPassing listed passing
  · have apart : ∀ run ∈ runs, run.shows branch children children.size = true →
        ¬run.isDropped = true := by
      rintro (_ | _) - shown
      · contradiction
      · simp [Run.isDropped]
    have bound : full ≤ runs.countP fun run => !run.isDropped :=
      List.countP_mono_left fun run member shown => by simpa using apart run member shown
    have counted := runs.length_eq_countP_add_countP Run.isDropped
    simp only [Bool.not_eq_true, Bool.decide_eq_false] at counted
    omega

/-- Whatever was recorded before, a run that is compared with the ground truth is counted at each
branch point for the children that the comparison does not list as missing. After runs of which
all are compared so, every branch point has counted at least the passing runs in full, and no
more runs in part than have failed. -/
theorem recordAll_start_agrees (bounds destination : String) (requested : Nat) (actual : Topology) :
    let begun := start bounds destination requested actual
    (∀ runs discovered branch children, actual.branchPoints.get? branch = some children →
      let r := begun.recordAll runs
      let comparison := Comparison.between discovered actual
      ∃ tally k, r.branches.get? branch = some tally ∧ tally.expected = children ∧
        k < tally.counts.length ∧
        (r.record (.completed discovered comparison)).branches.get? branch =
          some { tally with counts := tally.counts.modify k (· + 1) } ∧
        comparison.missingUnder branch ≤ children.size ∧
        k = children.size - comparison.missingUnder branch) ∧
    ∀ (results : List (Option Topology)) branch children,
      actual.branchPoints.get? branch = some children →
      let r := begun.recordAll (results.map (Run.against actual))
      ∃ tally full, r.branches.get? branch = some tally ∧
        tally.counts[tally.expected.size]? = some full ∧
        r.passes ≤ full ∧ full ≤ r.evaluated ∧ r.evaluated - full ≤ r.failures := by
  intro begun
  have start : Tallied actual [] begun := start_tallied ..
  constructor
  · intro runs discovered branch children isBranch r comparison
    have tallied : Tallied actual runs r := recordAll_tallied start runs
    obtain ⟨tally, k, before, expected, inside, after, sum⟩ :=
      record_between_slot tallied isBranch discovered
    exact ⟨tally, k, before, expected, inside, after, sum ▸ Nat.le_add_left ..,
      Nat.eq_sub_of_add_eq sum⟩
  · intro results branch children isBranch r
    have tallied : Tallied actual (results.map (Run.against actual)) r := recordAll_tallied start _
    have told : Account (results.map (Run.against actual)) r :=
      recordAll_account (start_account ..) _
    obtain ⟨above, below⟩ := full_count_bounds (mem_branchPoints_iff.mp isBranch).1 results
    rw [← told.passes] at above
    rw [← told.dropped, ← told.runs] at below
    refine ⟨_, _, tally_of_tallied tallied isBranch, counts_histogram _ _ _ (Nat.le_refl _), above,
      Nat.le_sub_of_add_le below, ?_⟩
    -- Of the evaluated runs, those that did not pass failed.
    rw [told.evaluated, Nat.sub_le_iff_le_add']
    exact Nat.add_le_add_right above _

end Report
end Multipath
