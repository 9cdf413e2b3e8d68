import Multipath.Proofs.Report.Safety
import Multipath.Proofs.Topology.Childless

/-! Tallies and reports as they are read from a text. A text is accepted whatever the number of
counters in its tallies, so a counter may be missing for what a run finds, or for what a summary
shows. Recording the run then stops at the first branch point that lacks the counter, and the run
stays counted before it. A report that has a counter for every number of expected children is as
good as one of a session. -/
namespace Multipath

open Json (Value)

theorem mapM_isSome_iff {f : α → Option β} {xs : List α} :
    (∃ ys, xs.mapM f = some ys) ↔ ∀ x ∈ xs, ∃ y, f x = some y := by
  induction xs with
  | nil => simp
  | cons x xs ih =>
    rw [List.forall_mem_cons, ← ih, List.mapM_cons]
    cases f x with
    | none => simp
    | some y => cases xs.mapM f <;> simp

section Reading

theorem Tally.fits_of_ofJson? {v : Value} {t : Tally} (read : ofJson? v = some t) : t.Fits := by
  simp only [ofJson?, bind, Option.bind_eq_some_iff] at read
  obtain ⟨parts, -, read⟩ := read
  split at read
  · simp only [Option.bind_eq_some_iff] at read
    obtain ⟨expected, -, counts, listed, made⟩ := read
    obtain rfl := Option.some.inj made
    intro count member
    obtain ⟨item, word⟩ := Value.exists_of_mem_array? listed member
    exact Value.word?_le word
  · contradiction

theorem LabelMap.exists_of_mem_ofJson? {value? : Value → Option α} {v : Value} {m : LabelMap α}
    (read : ofJson? value? v = some m) {entry : String × α} (member : entry ∈ m.entries) :
    ∃ field, value? field = some entry.2 := by
  obtain ⟨fields, -, last⟩ := LabelMap.get?_ofJson? read
  have found := last entry.1
  rw [LabelMap.get?_eq_some_iff.mpr member] at found
  obtain ⟨field, -, value⟩ := Option.bind_eq_some_iff.mp found.symm
  exact ⟨field.2, value⟩

theorem Duration.secs_le_of_ofJson? {v : Value} {d : Duration} (read : ofJson? v = some d) :
    d.secs ≤ Text.largestWord := by
  simp only [ofJson?, bind, Option.bind_eq_some_iff] at read
  obtain ⟨parts, -, read⟩ := read
  split at read
  · simp only [Option.bind_eq_some_iff, normalize?] at read
    obtain ⟨secs, -, nanos, -, carried⟩ := read
    split at carried
    · rename_i fits
      obtain rfl := Option.some.inj carried
      exact fits
    · contradiction
  · contradiction

theorem FailingRun.run_le_of_ofJson? {v : Value} {f : FailingRun} (read : ofJson? v = some f) :
    f.run ≤ Text.largestWord := by
  simp only [ofJson?, bind, Option.bind_eq_some_iff] at read
  obtain ⟨parts, -, read⟩ := read
  split at read
  · simp only [Option.bind_eq_some_iff] at read
    obtain ⟨run, word, comparison, -, made⟩ := read
    obtain rfl := Option.some.inj made
    exact Value.word?_le word
  · contradiction

theorem Report.fits_of_ofJson? {v : Value} {r : Report} (read : ofJson? v = some r) : r.Fits := by
  simp only [ofJson?, bind, Option.bind_eq_some_iff] at read
  obtain ⟨parts, -, read⟩ := read
  split at read
  · simp only [Option.bind_eq_some_iff] at read
    obtain ⟨bounds, -, destination, -, requested, asked, runs, counted, passes, passed, failures,
      failed, dropped, lost, elapsed, time, branches, tallies, failingRuns, kept, made⟩ := read
    obtain rfl := Option.some.inj made
    exact {
      requested := Value.word?_le asked
      runs := Value.word?_le counted
      passes := Value.word?_le passed
      failures := Value.word?_le failed
      dropped := Value.word?_le lost
      secs := Duration.secs_le_of_ofJson? time
      tallies := fun entry member => by
        obtain ⟨field, tally⟩ := LabelMap.exists_of_mem_ofJson? tallies member
        exact Tally.fits_of_ofJson? tally
      numbers := fun f member => by
        obtain ⟨item, run⟩ := Value.exists_of_mem_array? kept member
        exact FailingRun.run_le_of_ofJson? run }
  · contradiction

/-- A text is accepted for a tally if the counters have sixty-four bits, however many there are. -/
theorem Tally.isRead_iff {t : Tally} : (∃ text, parse? text = some t) ↔ t.Fits := by
  constructor
  · rintro ⟨text, accepted⟩
    obtain ⟨v, -, read⟩ := Option.bind_eq_some_iff.mp accepted
    exact fits_of_ofJson? read
  · exact fun fits => ⟨_, parse?_compact fits⟩

theorem Report.isRead_iff {r : Report} : (∃ text, parse? text = some r) ↔ r.Fits := by
  constructor
  · rintro ⟨text, accepted⟩
    obtain ⟨v, -, read⟩ := Option.bind_eq_some_iff.mp accepted
    exact fits_of_ofJson? read
  · exact fun fits => ⟨_, parse?_render fits⟩

end Reading

namespace Tally

/-- There is a counter for every number of expected children, from none to all. -/
def Covers (t : Tally) : Prop := t.expected.size < t.counts.length

instance (t : Tally) : Decidable t.Covers := inferInstanceAs (Decidable (_ < _))

variable {t : Tally} {seen : Option LabelSet}

theorem WellFormed.covers (whole : t.WellFormed) : t.Covers := by
  rw [Covers, whole]
  exact Nat.lt_succ_self _

/-- A counter is never missing if there are enough for a run that finds all expected children. -/
theorem covers_iff : t.Covers ↔ ∀ seen, t.slot seen < t.counts.length := by
  constructor
  · exact fun covers seen => (t.slot_le seen).trans_lt covers
  · intro inside
    have complete := inside (some t.expected)
    rwa [slot, LabelSet.sharedSize_self] at complete

@[simp] theorem covers_record : (t.record seen).Covers ↔ t.Covers := by
  simp [Covers, record]

theorem accepts_iff : t.accepts seen = true ↔
    ∃ count, t.counts[t.slot seen]? = some count ∧ count < Text.largestWord := by
  simp only [accepts, Option.any_eq_true, hasRoom_iff]

theorem refuses_of_missing (missing : t.counts.length ≤ t.slot seen) : t.accepts seen = false := by
  rw [accepts, List.getElem?_eq_none missing]
  rfl

theorem exists_foundLine?_iff {evaluated k : Nat} :
    (∃ line, t.foundLine? evaluated k = some line) ↔ k < t.counts.length := by
  simp [foundLine?, ← Option.isSome_iff_exists]

theorem exists_missedLines?_iff {evaluated : Nat} :
    (∃ lines, t.missedLines? evaluated = some lines) ↔ 0 < t.counts.length := by
  simp [missedLines?, ← Option.isSome_iff_exists]

/-- The block of a branch point asks for the counters of all numbers of expected children. -/
theorem exists_block?_iff {evaluated number : Nat} {branch : String} :
    (∃ lines, t.block? evaluated number branch = some lines) ↔ t.Covers := by
  have parts : (∃ lines, t.block? evaluated number branch = some lines) ↔
      (∃ found, (List.range t.expected.size).mapM (fun k => t.foundLine? evaluated (k + 1)) =
        some found) ∧ ∃ missed, t.missedLines? evaluated = some missed := by
    rw [block?]
    constructor
    · rintro ⟨lines, whole⟩
      simp only [bind, Option.bind_eq_some_iff] at whole
      obtain ⟨found, first, missed, second, -⟩ := whole
      exact ⟨⟨found, first⟩, missed, second⟩
    · rintro ⟨⟨found, first⟩, missed, second⟩
      exact ⟨_, by rw [first, second]; rfl⟩
  rw [parts, mapM_isSome_iff, exists_missedLines?_iff, Covers]
  simp only [exists_foundLine?_iff, List.mem_range]
  constructor
  · rintro ⟨found, first⟩
    cases size : t.expected.size with
    | zero => exact first
    | succ k => exact found k (by omega)
  · exact fun covers => ⟨fun k inside => by omega, by omega⟩

end Tally

namespace Tallies

instance (t : Tallies) : Decidable t.Fits :=
  inferInstanceAs (Decidable (∀ entry ∈ t.entries, entry.2.Fits))

/-- Up to the branch point that refuses what is found there, the run is counted at each. -/
theorem entries_recordUntilRefused {t : Tallies} {discovered : Topology}
    {before after : List (String × Tally)} {branch : String} {tally : Tally}
    (split : t.entries = before ++ (branch, tally) :: after)
    (counted : ∀ entry ∈ before, entry.2.accepts (discovered.children? entry.1) = true)
    (refused : tally.accepts (discovered.children? branch) = false) :
    (t.recordUntilRefused discovered).entries =
      before.map (fun entry => (entry.1, entry.2.record (discovered.children? entry.1))) ++
        (branch, tally) :: after := by
  have stops : (before ++ (branch, tally) :: after).takeWhile
      (fun entry => entry.2.accepts (discovered.children? entry.1)) = before := by
    rw [List.takeWhile_append_of_pos counted, List.takeWhile_cons_of_neg (by simp [refused]),
      List.append_nil]
  have apart := t.ascending
  rw [split] at apart
  -- A label that comes later is none of those before.
  have later : ∀ entry ∈ (branch, tally) :: after, before.any (·.1 == entry.1) = false := by
    intro entry member
    rw [List.any_eq_false]
    intro other among isBranch
    have lt := (List.pairwise_append.mp apart).2.2 other among entry member
    rw [eq_of_beq isBranch] at lt
    exact String.lt_irrefl _ lt
  have earlier : ∀ entry ∈ before, before.any (·.1 == entry.1) = true := fun entry member =>
    List.any_eq_true.mpr ⟨entry, member, beq_self_eq_true _⟩
  simp only [recordUntilRefused, LabelMap.map, split, stops, List.map_append]
  congr 1
  · exact List.map_congr_left fun entry member => by rw [if_pos (earlier entry member)]
  · exact (List.map_congr_left fun entry member => by
      rw [if_neg (Bool.eq_false_iff.mp (later entry member))]
      rfl).trans (List.map_id _)

end Tallies

namespace Report

def Covered (r : Report) : Prop := ∀ entry ∈ r.branches.entries, entry.2.Covers

instance (r : Report) : Decidable r.Covered :=
  inferInstanceAs (Decidable (∀ entry ∈ r.branches.entries, _))

variable {r : Report} {discovered : Topology} {comparison : Comparison}

section Summary

theorem exists_branchLines?_iff : (∃ lines, r.branchLines? = some lines) ↔ r.Covered := by
  have blocks : (∃ lines, r.branchLines? = some lines) ↔
      ∃ blocks, r.branches.entries.zipIdx.mapM (fun place =>
        place.1.2.block? r.evaluated (place.2 + 1) place.1.1) = some blocks := by
    simp [branchLines?]
  rw [blocks, mapM_isSome_iff]
  simp only [Tally.exists_block?_iff]
  constructor
  · intro covers entry listed
    obtain ⟨index, atIndex⟩ := List.mem_iff_getElem?.mp listed
    exact covers (entry, index) (List.mk_mem_zipIdx_iff_getElem?.mpr atIndex)
  · exact fun covered place listed => covered _ (List.fst_mem_of_mem_zipIdx listed)

/-- A summary can be written if no counter is missing, there are not more dropped runs than runs,
and the failing runs that are shown have a number after their own. -/
theorem exists_summary?_iff : (∃ text, r.summary? = some text) ↔
    r.Covered ∧ r.dropped ≤ r.runs ∧ ∀ f ∈ r.shown, f.run < Text.largestWord := by
  have showable : r.isShowable = true ↔
      r.dropped ≤ r.runs ∧ ∀ f ∈ r.shown, f.run < Text.largestWord := by
    simp [isShowable, isBalanced, hasRoom_iff]
  rw [← exists_branchLines?_iff, ← showable]
  simp only [summary?, summaryLines?, bind, Option.map_eq_some_iff, Option.bind_eq_some_iff]
  constructor
  · rintro ⟨text, lines, ⟨branches, listed, whole⟩, -⟩
    split at whole
    · rename_i able
      exact ⟨⟨branches, listed⟩, able⟩
    · contradiction
  · rintro ⟨⟨branches, listed⟩, able⟩
    exact ⟨_, _, ⟨branches, listed, if_pos able⟩, rfl⟩

end Summary

section Stop

/-- A run that is completed is recorded if each branch point has the counter for what the run finds
there, and every counter has room. -/
theorem record?_completed_eq_ok_iff :
    r.record? (.completed discovered comparison) =
        .ok (r.record (.completed discovered comparison)) ↔
      r.runs < Text.largestWord ∧
      (∀ entry ∈ r.branches.entries, ∃ count,
        entry.2.counts[entry.2.slot (discovered.children? entry.1)]? = some count ∧
          count < Text.largestWord) ∧
      (if comparison.isEmpty then r.passes else r.failures) < Text.largestWord := by
  have accepted : r.record? (.completed discovered comparison) =
      .ok (r.record (.completed discovered comparison)) ↔
        r.accepts (.completed discovered comparison) = true := by
    unfold record?
    split <;> simp_all
  simp only [accepted, accepts, Tallies.accepts, Bool.and_eq_true, List.all_eq_true, hasRoom_iff,
    Tally.accepts_iff, and_assoc]

/-- Recording stops at a branch point. The run is counted, and so is what it finds at the branch
points before. All else is as it was, and what the run amounts to is counted nowhere. -/
structure StoppedAt (r : Report) (discovered : Topology) (before rest : List (String × Tally))
    (left : Report) : Prop where
  runs : left.runs = r.runs + 1
  branches : left.branches.entries =
    before.map (fun entry => (entry.1, entry.2.record (discovered.children? entry.1))) ++ rest
  frame : left = { r with runs := left.runs, branches := left.branches }

/-- A run that finds what a branch point has no counter for is not recorded, and not undone. -/
theorem record?_stopped {before after : List (String × Tally)} {branch : String} {tally : Tally}
    (room : r.runs < Text.largestWord)
    (split : r.branches.entries = before ++ (branch, tally) :: after)
    (counted : ∀ entry ∈ before, entry.2.accepts (discovered.children? entry.1) = true)
    (missing : tally.counts.length ≤ tally.slot (discovered.children? branch)) :
    ∃ left, r.record? (.completed discovered comparison) = .error left ∧
      r.StoppedAt discovered before ((branch, tally) :: after) left := by
  have refused : tally.accepts (discovered.children? branch) = false :=
    Tally.refuses_of_missing missing
  have refuses : ¬r.accepts (.completed discovered comparison) = true := by
    have refuses' : r.branches.accepts discovered = false := by
      simp [Tallies.accepts, split, refused]
    simp [accepts, refuses']
  have partly : r.recordPartly (.completed discovered comparison) =
      { r with runs := r.runs + 1, branches := r.branches.recordUntilRefused discovered } := by
    simp only [recordPartly, hasRoom_iff.mpr room]
  refine ⟨_, if_neg refuses, ?_⟩
  rw [partly]
  exact ⟨rfl, Tallies.entries_recordUntilRefused split counted refused, rfl⟩

/-- If a counter is missing, there is a run that finds as many children as it would count. -/
theorem covered_iff : r.Covered ↔ ∀ discovered : Topology, ∀ entry ∈ r.branches.entries,
    entry.2.slot (discovered.children? entry.1) < entry.2.counts.length := by
  constructor
  · exact fun covered discovered entry listed => Tally.covers_iff.mp (covered entry listed) _
  · intro inside entry listed
    let complete : Topology := ⟨LabelMap.ofList [(entry.1, entry.2.expected)]⟩
    have found : complete.children? entry.1 = some entry.2.expected :=
      (LabelMap.get?_ofList ..).trans (by simp)
    have fits := inside complete entry listed
    rwa [found, Tally.slot, LabelSet.sharedSize_self] at fits

end Stop

section Uses

variable {n : Nat} {run : Run}

/-- So many runs can be recorded: no counter is missing, and each has room for as many. -/
structure Ready (r : Report) (n : Nat) : Prop where
  fits : r.Fits
  balanced : r.dropped ≤ r.runs
  covered : r.Covered
  runs : r.runs + n ≤ Text.largestWord
  passes : r.passes + n ≤ Text.largestWord
  failures : r.failures + n ≤ Text.largestWord
  tallies : ∀ entry ∈ r.branches.entries, ∀ count ∈ entry.2.counts, count + n ≤ Text.largestWord
  numbers : ∀ f ∈ r.failingRuns, f.run < Text.largestWord

theorem Ready.accepts (ready : r.Ready (n + 1)) (run : Run) : r.accepts run = true := by
  have runs := ready.runs
  have balanced := ready.balanced
  have number : hasRoom r.runs = true := hasRoom_iff.mpr (by omega)
  cases run with
  | dropped =>
    have lost : hasRoom r.dropped = true := hasRoom_iff.mpr (by omega)
    simp [Report.accepts, number, lost]
  | completed discovered comparison =>
    have branches : r.branches.accepts discovered = true := by
      refine List.all_eq_true.mpr fun entry listed => Tally.accepts_iff.mpr ?_
      have inside := Tally.covers_iff.mp (ready.covered entry listed) (discovered.children? entry.1)
      have room := ready.tallies entry listed _ (List.getElem_mem inside)
      exact ⟨_, List.getElem?_eq_getElem inside, by omega⟩
    have amount : hasRoom (if comparison.isEmpty then r.passes else r.failures) = true := by
      have passes := ready.passes
      have failures := ready.failures
      split <;> exact hasRoom_iff.mpr (by omega)
    simp [Report.accepts, number, branches, amount]

theorem counts_record_le {t : Tally} {seen : Option LabelSet}
    (room : ∀ count ∈ t.counts, count + (n + 1) ≤ Text.largestWord) :
    ∀ count ∈ (t.record seen).counts, count + n ≤ Text.largestWord := by
  intro count member
  obtain ⟨k, atIndex⟩ := List.mem_iff_getElem?.mp member
  rw [Tally.record, List.getElem?_modify] at atIndex
  obtain ⟨old, before, rfl⟩ := Option.map_eq_some_iff.mp atIndex
  have bound := room old (List.mem_of_getElem? before)
  split <;> omega

/-- Recording one run leaves room for one less. -/
theorem Ready.record (ready : r.Ready (n + 1)) (run : Run) : (r.record run).Ready n := by
  -- A run adds at most one to each counter, so room for one run less is left.
  have fits := ready.fits.record (ready.accepts run)
  have balanced := ready.balanced
  have runs := ready.runs
  have passes := ready.passes
  have failures := ready.failures
  cases run with
  | dropped =>
    exact {
      fits := fits
      balanced := Nat.succ_le_succ balanced
      covered := ready.covered
      runs := by simp only [Report.record]; omega
      passes := by simp only [Report.record]; omega
      failures := by simp only [Report.record]; omega
      tallies := fun entry listed count member => by
        have room := ready.tallies entry listed count member
        omega
      numbers := ready.numbers }
  | completed discovered comparison =>
    have covered : ∀ entry ∈ (r.branches.record discovered).entries, entry.2.Covers := by
      intro entry listed
      obtain ⟨old, among, rfl⟩ := List.mem_map.mp listed
      exact Tally.covers_record.mpr (ready.covered old among)
    have tallies : ∀ entry ∈ (r.branches.record discovered).entries, ∀ count ∈ entry.2.counts,
        count + n ≤ Text.largestWord := by
      intro entry listed
      obtain ⟨old, among, rfl⟩ := List.mem_map.mp listed
      exact counts_record_le (ready.tallies old among)
    by_cases agrees : comparison.isEmpty = true
    · simp only [Report.record, if_pos agrees] at fits ⊢
      exact ⟨fits, by dsimp only; omega, covered, by dsimp only; omega, by dsimp only; omega,
        by dsimp only; omega, tallies, ready.numbers⟩
    · simp only [Report.record, if_neg agrees] at fits ⊢
      refine ⟨fits, by dsimp only; omega, covered, by dsimp only; omega, by dsimp only; omega,
        by dsimp only; omega, tallies, fun f kept => ?_⟩
      rcases mem_keepFailure kept with before | number
      · exact ready.numbers f before
      · omega

theorem Ready.use? {use : Use} (ready : r.Ready (use.runs.length + n)) :
    r.use? use = some (r.recordAll use.runs) ∧ (r.recordAll use.runs).Ready n := by
  cases use with
  | record run =>
    rw [Use.runs, List.length_singleton, Nat.add_comm] at ready
    have accepted := ready.accepts run
    exact ⟨by simp [Report.use?, record?, accepted, Except.toOption, Use.runs, recordAll],
      ready.record run⟩
  | reload =>
    rw [Use.runs, List.length_nil, Nat.zero_add] at ready
    exact ⟨parse?_render ready.fits, ready⟩
  | summarise =>
    rw [Use.runs, List.length_nil, Nat.zero_add] at ready
    obtain ⟨text, written⟩ := exists_summary?_iff.mpr ⟨ready.covered, ready.balanced,
      fun f shown => ready.numbers f (List.mem_of_mem_take shown)⟩
    exact ⟨by simp [Report.use?, written, Use.runs, recordAll], ready⟩

/-- Whatever is done with a report that is ready for the runs among it, nothing is refused. -/
theorem Ready.useAll? {uses : List Use} (ready : r.Ready (uses.flatMap Use.runs).length) :
    r.useAll? uses = some (r.recordAll (uses.flatMap Use.runs)) := by
  induction uses generalizing r with
  | nil => rfl
  | cons use uses ih =>
    rw [List.flatMap_cons, List.length_append] at ready
    obtain ⟨now, later⟩ := ready.use?
    rw [Report.useAll?, List.foldlM_cons, now, List.flatMap_cons, recordAll_append]
    exact ih later

end Uses

/-- A text is accepted for a tally or a report if its numbers have sixty-four bits. Nothing is asked
of how many counters a tally has, so there need not be one for every number of expected children.
Where there is, each run finds its counter, the summary can be written, and any sequence of uses
goes well as long as the counters have room. Where there is not, there is no summary, and a run that
finds a missing counter is not recorded, but stays counted at the branch points before and among the
runs. -/
theorem usable_where_covered (t : Tally) (r : Report) :
    (((∃ text, Tally.parse? text = some t) ↔ t.Fits) ∧
      (t.WellFormed → t.Covers) ∧ (t.Covers ↔ ∀ seen, t.slot seen < t.counts.length)) ∧
    ((∃ text, parse? text = some r) ↔ r.Fits) ∧
    (r.Covered ↔ ∀ discovered : Topology, ∀ entry ∈ r.branches.entries,
      entry.2.slot (discovered.children? entry.1) < entry.2.counts.length) ∧
    ((∃ text, r.summary? = some text) ↔
      r.Covered ∧ r.dropped ≤ r.runs ∧ ∀ f ∈ r.shown, f.run < Text.largestWord) ∧
    (∀ discovered comparison,
      r.record? (.completed discovered comparison) =
          .ok (r.record (.completed discovered comparison)) ↔
        r.runs < Text.largestWord ∧
        (∀ entry ∈ r.branches.entries, ∃ count,
          entry.2.counts[entry.2.slot (discovered.children? entry.1)]? = some count ∧
            count < Text.largestWord) ∧
        (if comparison.isEmpty then r.passes else r.failures) < Text.largestWord) ∧
    (∀ discovered comparison before branch tally after, r.runs < Text.largestWord →
      r.branches.entries = before ++ (branch, tally) :: after →
      (∀ entry ∈ before, entry.2.accepts (discovered.children? entry.1) = true) →
      tally.counts.length ≤ tally.slot (discovered.children? branch) →
      ∃ left, r.record? (.completed discovered comparison) = .error left ∧
        r.StoppedAt discovered before ((branch, tally) :: after) left) ∧
    ∀ uses, r.Ready (uses.flatMap Use.runs).length →
      r.useAll? uses = some (r.recordAll (uses.flatMap Use.runs)) :=
  ⟨⟨Tally.isRead_iff, Tally.WellFormed.covers, Tally.covers_iff⟩, isRead_iff, covered_iff,
    exists_summary?_iff, fun _ _ => record?_completed_eq_ok_iff,
    fun _ _ _ _ _ _ room split counted missing => record?_stopped room split counted missing,
    fun _ ready => ready.useAll?⟩

/-- Two branch points are read. The second one has a counter more than it needs, or it has only the
counter for no child. -/
def readReport (counts : List Nat) : Report :=
  { start "95,2,4" "10.0.9.9" 3 ∅ with
    branches := LabelMap.ofList
      [("A", .start (.ofList ["C", "D"])), ("start", ⟨.ofList ["A", "B"], counts⟩)] }

/-- With a counter to spare, two runs and the summaries in between go well. Without the counter for
one child, a run that finds one is left counted at the first branch point. -/
theorem usable_where_covered_two_branches :
    let half : Topology := .ofEdges [("start", "A"), ("A", "C")]
    let run : Run := .completed half (.between half half)
    (∃ text, parse? text = some (readReport [0, 0, 0, 7])) ∧
      (readReport [0, 0, 0, 7]).useAll? [.summarise, .record run, .reload, .record .dropped] =
        some ((readReport [0, 0, 0, 7]).recordAll [run, .dropped]) ∧
      (∃ text, parse? text = some (readReport [0])) ∧ (readReport [0]).summary? = none ∧
      ∃ left, (readReport [0]).record? run = .error left ∧ left.runs = 1 ∧
        left.branches.entries = [("A", ⟨.ofList ["C", "D"], [0, 1, 0]⟩),
          ("start", ⟨.ofList ["A", "B"], [0]⟩)] := by
  intro half run
  have reports := usable_where_covered ⟨∅, [0]⟩
  obtain ⟨-, spare, -, -, -, -, uses⟩ := reports (readReport [0, 0, 0, 7])
  have fits : (readReport [0, 0, 0, 7]).Fits :=
    ⟨by decide, by decide, by decide, by decide, by decide, by decide, by decide, nofun⟩
  have ready : (readReport [0, 0, 0, 7]).Ready 2 :=
    ⟨fits, by decide, by decide, by decide, by decide, by decide, by decide, nofun⟩
  obtain ⟨-, short, -, summary, -, stops, -⟩ := reports (readReport [0])
  have fits' : (readReport [0]).Fits :=
    ⟨by decide, by decide, by decide, by decide, by decide, by decide, by decide, nofun⟩
  have silent : ¬∃ text, (readReport [0]).summary? = some text := fun written =>
    absurd (summary.mp written).1 (by decide)
  obtain ⟨left, refused, stopped⟩ := stops half (.between half half)
    [("A", .start (.ofList ["C", "D"]))] "start" ⟨.ofList ["A", "B"], [0]⟩ []
    (by decide) rfl (by decide) (by decide)
  exact ⟨spare.mpr fits, uses _ ready, short.mpr fits',
    Option.eq_none_iff_forall_ne_some.mpr (not_exists.mp silent), left, refused, stopped.runs,
    stopped.branches⟩

/-- A tally is read that has no counter for its children. A report with this tally has no summary,
and a run that it cannot record leaves it changed: the run is among the runs, but it neither passed
nor failed, and only one of two branch points has counted it. -/
theorem reads_tally_without_counters :
    let short : Tally := ⟨.ofList ["A", "B"], [0]⟩
    let half : Topology := .ofEdges [("start", "A"), ("A", "C")]
    let r := readReport [0]
    Tally.parse? "\x7b\"expected\":[\"A\",\"B\"],\"counts\":[0]\x7d" = some short ∧
      ¬short.WellFormed ∧ short.counts[short.slot (half.children? "start")]? = none ∧
      parse? r.render = some r ∧ r.dropped ≤ r.runs ∧ r.summary? = none ∧
      ∃ left, r.record? (.completed half (.between half half)) = .error left ∧ left ≠ r ∧
        left.runs = 1 ∧ left.passes = 0 ∧ left.failures = 0 ∧
        left.branches.entries.map (fun entry => entry.2.counts) = [[0, 1, 0], [0]] := by
  intro short half r
  have written : short.toJson.compact = "\x7b\"expected\":[\"A\",\"B\"],\"counts\":[0]\x7d" := by
    decide
  have fits : r.Fits :=
    ⟨by decide, by decide, by decide, by decide, by decide, by decide, by decide, nofun⟩
  exact ⟨written ▸ Tally.parse?_compact (by decide), by decide, by decide, parse?_render fits,
    by decide, by decide, _, rfl, by decide, rfl, rfl, rfl, by decide⟩

end Report

end Multipath
