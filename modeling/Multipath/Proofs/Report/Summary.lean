import Multipath.Proofs.Report.Histogram
import Multipath.Proofs.Report.Sheet

/-! Reports of sessions can be shown and written. Everything that is counted of the runs of a
session is bounded by their number, so no counter exceeds sixty-four bits if that number does not,
and every branch point has the counters that its block of the summary shows. -/
namespace Multipath.Report

section

variable {r : Report} {runs : List Run} {actual : Topology}

theorem mem_tallied (tallied : Tallied actual runs r) {entry : String × Tally}
    (listed : entry ∈ r.branches.entries) :
    ∃ expected, entry.2 = histogram runs entry.1 expected := by
  rw [tallied] at listed
  obtain ⟨branch, -, rfl⟩ := List.mem_map.mp listed
  exact ⟨branch.2, rfl⟩

/-- The report of runs has a summary. -/
theorem Account.summary?_eq_sheet (told : Account runs r) (tallied : Tallied actual runs r)
    (few : runs.length ≤ Text.largestWord) :
    r.summary? = some (String.join (r.sheet.lines.map (· ++ "\n"))) := by
  refine Report.summary?_eq_sheet (fun entry listed => ?_) ?_ fun f kept => ?_
  · obtain ⟨expected, ofHistogram⟩ := mem_tallied tallied listed
    rw [ofHistogram]
    exact length_counts_histogram ..
  · rw [told.dropped, told.runs]
    exact List.countP_le_length
  · have below := told.run_lt_of_mem_failingRuns kept
    rw [told.runs] at below
    exact below.trans_le few

/-- What is counted of runs is bounded by their number. -/
theorem Account.fits (told : Account runs r) (tallied : Tallied actual runs r)
    (few : runs.length ≤ Text.largestWord) (requested : r.requested ≤ Text.largestWord)
    (secs : r.elapsed.secs ≤ Text.largestWord) : r.Fits := by
  have count (kind : Run → Bool) : runs.countP kind ≤ Text.largestWord :=
    List.countP_le_length.trans few
  exact {
    requested := requested
    secs := secs
    runs := told.runs ▸ few
    passes := told.passes ▸ count _
    failures := told.failures ▸ count _
    dropped := told.dropped ▸ count _
    tallies := by
      intro entry listed counter member
      obtain ⟨expected, ofHistogram⟩ := mem_tallied tallied listed
      rw [ofHistogram] at member
      obtain ⟨k, -, rfl⟩ := List.mem_map.mp member
      exact count _
    numbers := by
      intro f kept
      have below := told.run_lt_of_mem_failingRuns kept
      rw [told.runs] at below
      exact (below.trans_le few).le }

end

/-- Runs change neither what was asked for nor the time. -/
theorem recordAll_frame (r : Report) (runs : List Run) :
    (r.recordAll runs).requested = r.requested ∧ (r.recordAll runs).elapsed = r.elapsed := by
  induction runs generalizing r with
  | nil => exact ⟨rfl, rfl⟩
  | cons run runs ih =>
    have step : (r.record run).requested = r.requested ∧ (r.record run).elapsed = r.elapsed := by
      cases run with
      | dropped => exact ⟨rfl, rfl⟩
      | completed discovered comparison =>
        simp only [record]
        split <;> exact ⟨rfl, rfl⟩
    exact ⟨(ih (r.record run)).1.trans step.1, (ih (r.record run)).2.trans step.2⟩

def ofRuns (bounds destination : String) (requested : Nat) (actual : Topology) (elapsed : Duration)
    (runs : List Run) : Report :=
  { (start bounds destination requested actual).recordAll runs with elapsed := elapsed }

section

variable (bounds destination : String) {requested : Nat} (actual : Topology) {elapsed : Duration}
  {runs : List Run}

theorem ofRuns_account : Account runs (ofRuns bounds destination requested actual elapsed runs) :=
  have told := recordAll_account (start_account bounds destination requested actual) runs
  ⟨told.runs, told.dropped, told.passes, told.failures, told.failingRuns⟩

theorem ofRuns_tallied :
    Tallied actual runs (ofRuns bounds destination requested actual elapsed runs) :=
  recordAll_tallied (start_tallied bounds destination requested actual) runs

/-- The report of a session is read back from the text that is written for it, and it has a
summary. -/
theorem ofRuns_kept (few : runs.length ≤ Text.largestWord) (planned : requested ≤ Text.largestWord)
    (measured : elapsed.secs ≤ Text.largestWord) :
    let report := ofRuns bounds destination requested actual elapsed runs
    parse? report.render = some report ∧ ∃ summary, report.summary? = some summary := by
  intro report
  have told : Account runs report := ofRuns_account ..
  have tallied : Tallied actual runs report := ofRuns_tallied ..
  have asked : report.requested ≤ Text.largestWord :=
    (recordAll_frame ..).1.trans_le planned
  exact ⟨parse?_render (told.fits tallied few asked measured), _,
    told.summary?_eq_sheet tallied few⟩

end

end Multipath.Report
