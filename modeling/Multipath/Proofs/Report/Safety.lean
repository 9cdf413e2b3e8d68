import Multipath.Proofs.Report.Audit

/-! Nothing that is done with the report of a session is refused. The report always has the counters
that recording a run and writing the summary look for, it never has more dropped runs than runs, and
each rate is one of something. What is written down and read back is the same report, so this cannot
be lost in between. -/
namespace Multipath

namespace Binary64

theorem le_roundDiv (numerator denominator : Nat) :
    numerator / denominator ≤ roundDiv numerator denominator := by
  unfold roundDiv
  dsimp only
  split
  · exact Nat.le_refl _
  · split <;> omega

theorem exponentOf_le (n : Nat) : exponentOf n 1 ≤ n.log2 := by
  have zero : (1 : Nat).log2 = 0 := by decide
  simp only [exponentOf, zero]
  split <;> split <;> simp only [Int.ofNat_eq_natCast] at * <;> omega

theorem roundAt_pos {n : Nat} (positive : 0 < n) {e : Int} (low : e ≤ n.log2) :
    0 < roundAt n 1 e := by
  cases e with
  | ofNat e =>
    have whole : 0 < n / (1 * twoTo e) := by
      rw [Nat.one_mul]
      refine Nat.div_pos ?_ (Nat.two_pow_pos e)
      exact (Nat.le_log2 positive.ne').mp (Int.ofNat_le.mp low)
    exact whole.trans_le (le_roundDiv ..)
  | negSucc e =>
    have whole : 0 < n * twoTo (e + 1) / 1 := by
      rw [Nat.div_one]
      exact Nat.mul_pos positive (Nat.two_pow_pos _)
    exact whole.trans_le (le_roundDiv ..)

/-- No number but zero becomes zero when it is converted. -/
theorem significand_ofNat_ne_zero {n : Nat} (positive : 0 < n) : (ofNat n).significand ≠ 0 := by
  have rounded := roundAt_pos positive (exponentOf_le n)
  have present : ¬(n = 0 ∨ 1 = 0) := by omega
  simp only [ofNat, ofRatio, if_neg present]
  split
  · exact (Nat.two_pow_pos 52).ne'
  · exact rounded.ne'

end Binary64

namespace Tally

/-- What was seen is counted at one of the places from none to all of the expected children, however
many others were seen. -/
theorem slot_le (t : Tally) (seen : Option LabelSet) : t.slot seen ≤ t.expected.size := by
  cases seen with
  | none => exact Nat.zero_le _
  | some seen =>
    rw [slot, LabelSet.sharedSize_comm]
    exact LabelSet.sharedSize_le_left ..

theorem of_frequency?_eq_some {t : Tally} {k : Nat} {f : Fraction}
    (known : t.frequency? k = some f) : f.total = t.total := by
  obtain ⟨count, -, occurs⟩ := Option.bind_eq_some_iff.mp known
  exact (Fraction.of?_eq_some_iff.mp occurs).2

end Tally

namespace Report

inductive Use where
  | record (run : Run)
  /-- It is written down and read back. -/
  | reload
  /-- Its summary is written. -/
  | summarise
  deriving DecidableEq, Repr

def Use.runs : Use → List Run
  | .record run => [run]
  | .reload => []
  | .summarise => []

/-- The report after a use. There is none if a counter that is looked for is missing or has no room,
if there are more dropped runs than runs, or if the report cannot be read back. -/
def use? (r : Report) : Use → Option Report
  | .record run => (r.record? run).toOption
  | .reload => parse? r.render
  | .summarise => r.summary?.map fun _ => r

def useAll? (r : Report) (uses : List Use) : Option Report := uses.foldlM use? r

/-- Whatever is looked for in a report is there, and nothing is divided by zero. -/
structure Safe (r : Report) : Prop where
  balanced : r.dropped ≤ r.runs
  counters : ∀ branch tally, r.branches.get? branch = some tally →
    ∀ k ≤ tally.expected.size, k < tally.counts.length
  slots : ∀ branch tally, r.branches.get? branch = some tally →
    ∀ seen, tally.slot seen < tally.counts.length
  totals : ∀ branch tally, r.branches.get? branch = some tally → tally.isSummable = true
  kept : r.failingRuns.length ≤ keptFailures ∧ r.shown = r.failingRuns
  numbers : ∀ f ∈ r.failingRuns, f.run < r.runs
  summary : ∃ text, r.summary? = some text
  /-- A rate of the summary is a part of the evaluated runs, and their number does not become zero
  when it is converted. -/
  rates : ∀ f, some f ∈ r.sheet.rates →
    f.total = r.evaluated ∧ (Binary64.ofNat f.total).significand ≠ 0
  frequencies : ∀ branch tally, r.branches.get? branch = some tally →
    ∀ k f, tally.frequency? k = some f →
      f.total = r.evaluated ∧ (Binary64.ofNat f.total).significand ≠ 0

section

variable {r : Report} {runs : List Run} {actual : Topology} {bounds destination : String}
  {requested : Nat}

theorem of_mem_rates {f : Fraction} (listed : some f ∈ r.sheet.rates) : f.total = r.evaluated := by
  rcases List.mem_cons.mp listed with first | inBlock
  · exact (Fraction.of?_eq_some_iff.mp first.symm).2
  · obtain ⟨b, among, within⟩ := List.mem_flatMap.mp inBlock
    obtain ⟨share, shown, rate⟩ := List.mem_map.mp within
    obtain ⟨branch, tally, number, -, rfl⟩ := mem_blocks_sheet among
    rw [(share_blockOf share shown).2] at rate
    exact (Fraction.of?_eq_some_iff.mp rate).2

/-- A report is safe if it tells of runs whose number has sixty-four bits. -/
theorem Account.safe (told : Account runs r) (tallied : Tallied actual runs r)
    (few : runs.length ≤ Text.largestWord) : r.Safe := by
  -- All that is asked of a tally rests on its length and its total.
  have atBranch : ∀ branch tally, r.branches.get? branch = some tally →
      tally.counts.length = tally.expected.size + 1 ∧ tally.total = r.evaluated := by
    intro branch tally found
    obtain ⟨expected, rfl⟩ : ∃ expected, tally = histogram runs branch expected :=
      mem_tallied tallied (LabelMap.get?_eq_some_iff.mp found)
    refine ⟨length_counts_histogram .., ?_⟩
    have total := total_histogram runs branch expected
    rw [Report.evaluated, told.runs, told.dropped]
    exact Nat.eq_sub_of_add_eq total
  have part : r.evaluated ≤ Text.largestWord := (Nat.sub_le ..).trans (told.runs ▸ few)
  have length := told.length_failingRuns
  exact {
    balanced := by
      have := told.balance
      omega
    counters := fun branch tally found k inside => by
      rw [(atBranch branch tally found).1]
      exact Nat.lt_succ_of_le inside
    slots := fun branch tally found seen => by
      rw [(atBranch branch tally found).1]
      exact Nat.lt_succ_of_le (tally.slot_le seen)
    totals := fun branch tally found => by
      simpa [Tally.isSummable, (atBranch branch tally found).2] using part
    kept := ⟨length.trans_le (Nat.min_le_right ..), List.take_of_length_le
      (length.trans_le (Nat.min_le_right ..))⟩
    numbers := fun f => told.run_lt_of_mem_failingRuns
    summary := ⟨_, told.summary?_eq_sheet tallied few⟩
    rates := fun f listed =>
      ⟨of_mem_rates listed, Binary64.significand_ofNat_ne_zero f.total_pos⟩
    frequencies := fun branch tally found k f known =>
      ⟨(Tally.of_frequency?_eq_some known).trans (atBranch branch tally found).2,
        Binary64.significand_ofNat_ne_zero f.total_pos⟩ }

/-- One use of the report of some runs goes well and gives the report of these runs and its own. -/
theorem use?_recordAll (planned : requested ≤ Text.largestWord) (use : Use)
    (few : (runs ++ use.runs).length ≤ Text.largestWord) :
    ((start bounds destination requested actual).recordAll runs).use? use =
      some ((start bounds destination requested actual).recordAll (runs ++ use.runs)) := by
  have told : Account runs _ :=
    recordAll_account (start_account bounds destination requested actual) runs
  have tallied : Tallied actual runs _ :=
    recordAll_tallied (start_tallied bounds destination requested actual) runs
  rw [List.length_append] at few
  cases use with
  | record run =>
    have accepted := told.accepts tallied few run
    simp only [use?, record?, accepted, if_true, Except.toOption, Use.runs, recordAll_append]
    rfl
  | reload =>
    have frame := recordAll_frame (start bounds destination requested actual) runs
    have fits := told.fits tallied few (frame.1.trans_le planned)
      (by rw [frame.2]; exact Nat.zero_le _)
    simp [use?, parse?_render fits, Use.runs]
  | summarise =>
    have written := told.summary?_eq_sheet tallied few
    simp [use?, written, Use.runs]

/-- Nothing in a sequence of uses is refused, and the report after it tells of the runs that were
recorded. -/
theorem useAll?_recordAll (planned : requested ≤ Text.largestWord) (runs : List Run)
    (uses : List Use)
    (few : (runs ++ uses.flatMap Use.runs).length ≤ Text.largestWord) :
    ((start bounds destination requested actual).recordAll runs).useAll? uses =
      some ((start bounds destination requested actual).recordAll
        (runs ++ uses.flatMap Use.runs)) := by
  induction uses generalizing runs with
  | nil => simp [useAll?]
  | cons use uses ih =>
    rw [List.flatMap_cons, ← List.append_assoc] at few ⊢
    have now : (runs ++ use.runs).length ≤ Text.largestWord := by
      rw [List.length_append] at few
      omega
    rw [useAll?, List.foldlM_cons, use?_recordAll planned use now]
    exact ih _ few

end

/-- Whatever sequence of runs, reloads and summaries a report goes through, as long as the number of
the runs has sixty-four bits, nothing is refused. The report that comes out is that of the runs
alone, and it is safe. In no tally at all is a run counted behind the place for all expected
children. -/
theorem useAll?_start_safe (bounds destination : String) {requested : Nat}
    (planned : requested ≤ Text.largestWord) (actual : Topology) (uses : List Use)
    (few : (uses.flatMap Use.runs).length ≤ Text.largestWord) :
    let first := start bounds destination requested actual
    (∃ r, first.useAll? uses = some r ∧ r = first.recordAll (uses.flatMap Use.runs) ∧ r.Safe) ∧
    ∀ (tally : Tally) (seen : Option LabelSet), tally.slot seen ≤ tally.expected.size := by
  intro first
  have whole : first.useAll? uses = some (first.recordAll (uses.flatMap Use.runs)) :=
    useAll?_recordAll planned [] uses few
  have told : Account (uses.flatMap Use.runs) _ :=
    recordAll_account (start_account bounds destination requested actual) _
  have tallied : Tallied actual (uses.flatMap Use.runs) _ :=
    recordAll_tallied (start_tallied bounds destination requested actual) _
  exact ⟨⟨_, whole, rfl, told.safe tallied few⟩, Tally.slot_le⟩

/-- A run finds the branch point with more children than it has, and one is dropped; the report is
reloaded and summarised in between. -/
theorem useAll?_start_safe_crowded :
    let actual : Topology := .ofEdges [("start", "A"), ("start", "B")]
    let crowded : Topology := .ofEdges [("start", "A"), ("start", "B"), ("start", "C")]
    let uses : List Use := [.summarise, .record (.completed crowded (.between crowded actual)),
      .reload, .record .dropped, .summarise, .reload]
    ∃ r, (start "95,2,4" "10.0.9.9" 2 actual).useAll? uses = some r ∧ r.runs = 2 ∧ r.Safe := by
  intro actual crowded uses
  obtain ⟨⟨r, whole, recorded, safe⟩, -⟩ :=
    useAll?_start_safe "95,2,4" "10.0.9.9" (by decide : 2 ≤ Text.largestWord) actual uses
      (by decide)
  refine ⟨r, whole, ?_, safe⟩
  rw [recorded]
  rfl

end Report
end Multipath
