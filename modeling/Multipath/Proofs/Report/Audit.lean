import Multipath.Proofs.Report.Summary
import Multipath.Proofs.Topology.EdgeSet

/-! The summary of a session accounts for its runs. Each failing run is shown or is among the hidden
ones, and in the block of a branch point each evaluated run is counted once. This holds of every
report that is reached by recording runs, whatever runs they are. -/
namespace Multipath.Report

section Reached

/-- Reports that are reached from a first one, and the runs recorded on the way. There is room for
each of them. -/
inductive Reached (first : Report) : List Run → Report → Prop
  | start : Reached first [] first
  | record {runs : List Run} {r next : Report} {run : Run} :
    Reached first runs r → r.record? run = .ok next → Reached first (runs ++ [run]) next

variable {first r next : Report} {runs : List Run} {run : Run}

theorem of_record?_eq_ok (recorded : r.record? run = .ok next) :
    next = r.record run ∧ r.runs < Text.largestWord := by
  unfold record? at recorded
  split at recorded
  · rename_i accepted
    cases recorded
    refine ⟨rfl, hasRoom_iff.mp ?_⟩
    cases run <;> simp_all [accepts]
  · contradiction

theorem Reached.eq_recordAll (reached : Reached first runs r) : r = first.recordAll runs := by
  induction reached with
  | start => rfl
  | record _ recorded ih =>
    rw [recordAll_append, ← ih]
    exact (of_record?_eq_ok recorded).1

theorem Reached.runs_le (reached : Reached first runs r) (few : first.runs ≤ Text.largestWord) :
    r.runs ≤ Text.largestWord := by
  cases reached with
  | start => exact few
  | record _ recorded =>
    obtain ⟨rfl, room⟩ := of_record?_eq_ok recorded
    rw [runs_record]
    exact room

/-- As long as a counter has room for all runs, there is room for one more. -/
theorem Account.accepts {actual : Topology} (told : Account runs r)
    (tallied : Tallied actual runs r) (room : runs.length < Text.largestWord) (run : Run) :
    r.accepts run = true := by
  have count (kind : Run → Bool) : hasRoom (runs.countP kind) = true :=
    hasRoom_iff.mpr (List.countP_le_length.trans_lt room)
  have number : hasRoom r.runs = true := hasRoom_iff.mpr (told.runs ▸ room)
  cases run with
  | dropped => simp [Report.accepts, number, told.dropped, count]
  | completed discovered comparison =>
    have branches : r.branches.accepts discovered = true := by
      rw [Tallies.accepts, List.all_eq_true]
      rintro ⟨branch, tally⟩ listed
      obtain ⟨expected, rfl⟩ : ∃ expected, tally = histogram runs branch expected :=
        mem_tallied tallied listed
      have place : (histogram runs branch expected).slot (discovered.children? branch) =
          discovered.found branch expected := Tally.slot_eq_found ..
      have inside := discovered.found_le branch expected
      simp [Tally.accepts, place, counts_histogram _ _ _ inside, count]
    have amount : hasRoom (if comparison.isEmpty then r.passes else r.failures) = true := by
      split
      · exact told.passes ▸ count _
      · exact told.failures ▸ count _
    simp [Report.accepts, number, branches, amount]

/-- All runs can be recorded on a new report, if their number is one of sixty-four bits. -/
theorem reached_iff {bounds destination : String} {requested : Nat} {actual : Topology} :
    Reached (start bounds destination requested actual) runs r ↔
      r = (start bounds destination requested actual).recordAll runs ∧
        runs.length ≤ Text.largestWord := by
  constructor
  · intro reached
    refine ⟨reached.eq_recordAll, ?_⟩
    have few := reached.runs_le (Nat.zero_le _)
    rw [reached.eq_recordAll] at few
    have told : Account runs _ :=
      recordAll_account (start_account bounds destination requested actual) runs
    exact told.runs ▸ few
  · rintro ⟨rfl, few⟩
    induction runs using List.reverseRecOn with
    | nil => exact .start
    | append_singleton before run ih =>
      rw [List.length_append, List.length_singleton] at few
      have told : Account before _ :=
        recordAll_account (start_account bounds destination requested actual) before
      have tallied : Tallied actual before _ :=
        recordAll_tallied (start_tallied bounds destination requested actual) before
      rw [recordAll_append]
      exact .record (ih (by omega)) (if_pos (told.accepts tallied (by omega) run))

end Reached

section Blocks

variable {t : Tally} {evaluated number : Nat} {branch : String}

def Block.shares (b : Block) : List Share := b.found.map Prod.snd ++ b.missed.toList

/-- A block shows the counters of a tally: those for one child and more in their order, and that for
no child if it is not zero. -/
structure Block.Shows (b : Block) (t : Tally) : Prop where
  children : b.children = t.expected.size
  numbers : b.found.map Prod.fst = List.range' 1 b.children
  found : ∀ k share, (k, share) ∈ b.found → t.counts[k]? = some share.count
  missed : ∀ share ∈ b.missed, t.counts[0]? = some share.count
  missed_iff : b.missed.isSome = true ↔ ∃ count, t.counts[0]? = some count ∧ 0 < count

theorem shows_blockOf (whole : t.WellFormed) : (blockOf evaluated number branch t).Shows t := by
  have first : t.counts[0]? = some (t.counts[0]?.getD 0) := by
    rw [List.getElem?_eq_getElem (by rw [whole]; exact Nat.succ_pos _), Option.getD_some]
  refine ⟨rfl, ?_, fun k share member => ?_, fun share shown => ?_, ?_⟩
  · simp [blockOf, List.range'_eq_map_range, Function.comp_def, Nat.add_comm]
  · obtain ⟨k, inside, told⟩ := List.mem_map.mp member
    cases told
    have bound : k + 1 < t.counts.length := by
      rw [whole]
      exact Nat.succ_lt_succ (List.mem_range.mp inside)
    simp [shareOf, List.getElem?_eq_getElem bound]
  · simp only [blockOf, Option.mem_def, Option.ite_none_right_eq_some, Option.some.injEq] at shown
    rw [← shown.2]
    exact first
  · rw [first]
    simp [blockOf]

theorem sum_shares_blockOf (whole : t.WellFormed) :
    ((blockOf evaluated number branch t).shares.map Share.count).sum = t.total := by
  obtain ⟨count, counts, listed⟩ : ∃ count counts, t.counts = count :: counts :=
    List.exists_cons_of_length_eq_add_one whole
  have length : counts.length = t.expected.size := by
    have slots := whole
    rw [Tally.WellFormed, listed, List.length_cons] at slots
    exact Nat.succ.inj slots
  have found : (List.range t.expected.size).map (fun k => t.counts[k + 1]?.getD 0) = counts := by
    apply List.ext_getElem
    · simp [length]
    · intro k _ inside
      simp [listed, inside]
  have missed :
      ((blockOf evaluated number branch t).missed.toList.map Share.count).sum = count := by
    by_cases occurs : 0 < count
    · simp [blockOf, listed, occurs, shareOf]
    · have noRun : count = 0 := Nat.eq_zero_of_not_pos occurs
      simp [blockOf, listed, noRun]
  rw [Block.shares, List.map_append, List.sum_append, missed, Tally.total_eq_sum, listed,
    List.sum_cons]
  simp only [blockOf, List.map_map, Function.comp_def, shareOf, found]
  omega

theorem share_blockOf :
    ∀ share ∈ (blockOf evaluated number branch t).shares,
      share.evaluated = evaluated ∧ share.rate = Fraction.of? share.count evaluated := by
  intro share member
  rcases List.mem_append.mp member with found | missed
  · simp only [blockOf, List.map_map, List.mem_map] at found
    obtain ⟨k, -, rfl⟩ := found
    exact ⟨rfl, rfl⟩
  · simp only [blockOf, Option.mem_toList, Option.ite_none_right_eq_some,
      Option.some.injEq] at missed
    obtain ⟨-, rfl⟩ := missed
    exact ⟨rfl, rfl⟩

end Blocks

def Sheet.rates (s : Sheet) : List (Option Fraction) :=
  s.rate :: s.blocks.flatMap fun b => b.shares.map Share.rate

structure Sheet.Tells (s : Sheet) (actual : Topology) (runs : List Run) (r : Report) : Prop where
  dropped : s.dropped = runs.countP Run.isDropped
  failures : s.failures = runs.countP Run.isFailing
  evaluated : s.evaluated + s.dropped = runs.length
  duration : s.minutes = r.elapsed.secs / 60 ∧ s.seconds = r.elapsed.secs % 60
  rate : s.rate = Fraction.of? s.failures s.evaluated
  shown : s.excerpts.length = min s.failures 10
  ordered : s.excerpts.Pairwise fun a b => a.number < b.number
  excerpt : ∀ e ∈ s.excerpts, ∃ index discovered comparison,
    runs[index]? = some (.completed discovered comparison) ∧ comparison.toList ≠ [] ∧
      e = ⟨index + 1, comparison.toList⟩
  first : ∀ index discovered comparison,
    runs[index]? = some (.completed discovered comparison) → comparison.toList ≠ [] →
      ⟨index + 1, comparison.toList⟩ ∈ s.excerpts ∨ ∀ e ∈ s.excerpts, e.number ≤ index
  hidden : s.excerpts.length + s.hidden.getD 0 = s.failures
  hidden_pos : ∀ n ∈ s.hidden, 0 < n
  branches : s.blocks.map Block.branch = actual.branchPoints.keys
  ascending : s.blocks.Pairwise fun a b => a.branch < b.branch
  numbers : s.blocks.map Block.number = List.range' 1 s.blocks.length
  block : ∀ b ∈ s.blocks, ∃ tally, r.branches.get? b.branch = some tally ∧ b.Shows tally ∧
    actual.children? b.branch = some tally.expected ∧
    ∀ k ≤ tally.expected.size,
      tally.counts[k]? = some (runs.countP (Run.shows b.branch tally.expected k))
  share : ∀ b ∈ s.blocks, ∀ share ∈ b.shares,
    share.evaluated = s.evaluated ∧ share.rate = Fraction.of? share.count s.evaluated
  sum : ∀ b ∈ s.blocks, (b.shares.map Share.count).sum = s.evaluated
  unrated : s.evaluated = 0 → ∀ rate ∈ s.rates, rate = none ∧ Fraction.text rate = "n/a"

section Account

variable {r : Report} {runs : List Run} {actual : Topology}

def excerptOf (f : FailingRun) : Excerpt := ⟨f.run + 1, f.comparison.toList⟩

section

variable (told : Account runs r)

include told

theorem Account.excerpts_eq :
    r.sheet.excerpts = ((failing runs).take keptFailures).map excerptOf := by
  have kept : r.shown = (failing runs).take keptFailures := by
    rw [shown, told.failingRuns, List.take_take, Nat.min_self]
  simp only [sheet, kept]
  rfl

theorem Account.length_excerpts : r.sheet.excerpts.length = min r.failures 10 := by
  rw [told.excerpts_eq, List.length_map, List.length_take, told.length_failing_eq, Nat.min_comm]
  rfl

theorem Account.excerpts_ordered :
    r.sheet.excerpts.Pairwise fun a b => a.number < b.number := by
  rw [told.excerpts_eq, List.pairwise_map]
  exact ((failing_ordered runs).sublist (List.take_sublist ..)).imp Nat.succ_lt_succ

theorem Account.exists_run_of_excerpt {e : Excerpt} (listed : e ∈ r.sheet.excerpts) :
    ∃ index discovered comparison, runs[index]? = some (.completed discovered comparison) ∧
      comparison.toList ≠ [] ∧ e = ⟨index + 1, comparison.toList⟩ := by
  rw [told.excerpts_eq] at listed
  obtain ⟨f, kept, rfl⟩ := List.mem_map.mp listed
  obtain ⟨differs, discovered, place⟩ := mem_failing_iff.mp (List.mem_of_mem_take kept)
  exact ⟨f.run, discovered, f.comparison, place, differs, rfl⟩

/-- A failing run is shown, or all that are shown come before it. -/
theorem Account.excerpt_or_later {index : Nat} {discovered : Topology} {comparison : Comparison}
    (place : runs[index]? = some (.completed discovered comparison))
    (differs : comparison.toList ≠ []) :
    ⟨index + 1, comparison.toList⟩ ∈ r.sheet.excerpts ∨
      ∀ e ∈ r.sheet.excerpts, e.number ≤ index := by
  have fails : ⟨index, comparison⟩ ∈ failing runs :=
    mem_failing_iff.mpr ⟨differs, discovered, place⟩
  have ordered := failing_ordered runs
  rw [← List.take_append_drop keptFailures (failing runs)] at fails ordered
  rw [told.excerpts_eq]
  rcases List.mem_append.mp fails with kept | left
  · exact .inl (List.mem_map_of_mem kept)
  · right
    intro e listed
    obtain ⟨f, kept, rfl⟩ := List.mem_map.mp listed
    exact (List.pairwise_append.mp ordered).2.2 f kept _ left

theorem Account.length_add_hidden :
    r.sheet.excerpts.length + r.sheet.hidden.getD 0 = r.failures := by
  have length := told.length_excerpts
  have asShown : r.shown.length = r.sheet.excerpts.length := by simp [sheet]
  have hidden : r.sheet.hidden.getD 0 = r.failures - r.shown.length := by
    by_cases more : 0 < r.hiddenFailures
    · simp only [sheet, if_pos more, Option.getD_some]
      rfl
    · simp only [sheet, if_neg more, Option.getD_none]
      exact (Nat.eq_zero_of_not_pos more).symm
  omega

end

theorem hidden_pos : ∀ n ∈ r.sheet.hidden, 0 < n := by
  intro n shown
  simp only [sheet, Option.mem_def, Option.ite_none_right_eq_some, Option.some.injEq] at shown
  exact shown.2 ▸ shown.1

theorem map_branch_blocks (r : Report) : r.sheet.blocks.map Block.branch = r.branches.keys := by
  have entries : r.branches.entries.zipIdx.map Prod.fst = r.branches.entries :=
    List.zipIdx_map_fst ..
  rw [sheet, List.map_map, LabelMap.keys, ← entries, List.map_map, entries]
  rfl

theorem map_number_blocks (r : Report) :
    r.sheet.blocks.map Block.number = List.range' 1 r.sheet.blocks.length := by
  have places : r.branches.entries.zipIdx.map Prod.snd = List.range' 0 r.branches.entries.length :=
    List.zipIdx_map_snd ..
  have length : r.sheet.blocks.length = r.branches.entries.length := by simp [sheet]
  have numbers : r.sheet.blocks.map Block.number =
      (r.branches.entries.zipIdx.map Prod.snd).map (· + 1) := by
    rw [sheet, List.map_map, List.map_map]
    rfl
  rw [numbers, places, length]
  simp [List.range'_eq_map_range, Nat.add_comm]

theorem blocks_ascending (r : Report) :
    r.sheet.blocks.Pairwise fun a b => a.branch < b.branch := by
  refine List.pairwise_map.mp ?_
  rw [map_branch_blocks]
  exact r.branches.keys_ordered

theorem mem_blocks_sheet {b : Block} (listed : b ∈ r.sheet.blocks) :
    ∃ branch tally number, r.branches.get? branch = some tally ∧
      b = blockOf r.evaluated number branch tally := by
  obtain ⟨⟨⟨branch, tally⟩, index⟩, among, rfl⟩ := List.mem_map.mp listed
  exact ⟨branch, tally, index + 1,
    LabelMap.get?_eq_some_iff.mpr (List.fst_mem_of_mem_zipIdx among), rfl⟩

/-- The tally behind a block. -/
theorem exists_histogram_of_block (tallied : Tallied actual runs r) {b : Block}
    (listed : b ∈ r.sheet.blocks) :
    ∃ expected number, actual.branchPoints.get? b.branch = some expected ∧
      r.branches.get? b.branch = some (histogram runs b.branch expected) ∧
      b = blockOf r.evaluated number b.branch (histogram runs b.branch expected) := by
  obtain ⟨branch, tally, number, found, rfl⟩ := mem_blocks_sheet listed
  have atBranch := found
  rw [tallied, LabelMap.get?_map, Option.map_eq_some_iff] at atBranch
  obtain ⟨expected, isBranch, rfl⟩ := atBranch
  exact ⟨expected, number, isBranch, found, rfl⟩

theorem tells_sheet (told : Account runs r) (tallied : Tallied actual runs r) :
    r.sheet.Tells actual runs r where
  dropped := told.dropped
  failures := told.failures
  evaluated := by
    have balance := told.balance
    have compared := told.evaluated
    rw [← told.runs]
    change r.evaluated + r.dropped = r.runs
    omega
  duration := ⟨rfl, rfl⟩
  rate := rfl
  shown := told.length_excerpts
  ordered := told.excerpts_ordered
  excerpt _ := told.exists_run_of_excerpt
  first _ _ _ := told.excerpt_or_later
  hidden := told.length_add_hidden
  hidden_pos := hidden_pos
  branches := by rw [map_branch_blocks, tallied, LabelMap.keys_map]
  ascending := blocks_ascending r
  numbers := map_number_blocks r
  block := by
    intro b listed
    obtain ⟨expected, number, isBranch, found, ofHistogram⟩ :=
      exists_histogram_of_block tallied listed
    refine ⟨_, found, ?_, (Topology.mem_branchPoints_iff.mp isBranch).1, ?_⟩
    · rw [ofHistogram]
      exact shows_blockOf (length_counts_histogram ..)
    · intro k inside
      exact counts_histogram runs b.branch expected inside
  share := by
    intro b listed
    obtain ⟨branch, tally, number, -, rfl⟩ := mem_blocks_sheet listed
    exact share_blockOf
  sum := by
    intro b listed
    obtain ⟨expected, number, -, -, ofHistogram⟩ := exists_histogram_of_block tallied listed
    have total := total_histogram runs b.branch expected
    have balance := told.balance
    have evaluated := told.evaluated
    rw [ofHistogram, sum_shares_blockOf (length_counts_histogram ..)]
    change _ = r.evaluated
    rw [← told.dropped, ← told.runs] at total
    omega
  unrated := by
    intro zero rate listed
    have absent : rate = none := by
      rcases List.mem_cons.mp listed with rfl | inBlock
      · exact Fraction.of?_eq_none_iff.mpr zero
      · obtain ⟨b, among, within⟩ := List.mem_flatMap.mp inBlock
        obtain ⟨share, shown, rfl⟩ := List.mem_map.mp within
        obtain ⟨branch, tally, number, -, rfl⟩ := mem_blocks_sheet among
        rw [(share_blockOf share shown).2]
        exact Fraction.of?_eq_none_iff.mpr zero
    exact ⟨absent, by rw [absent]; rfl⟩

theorem Account.unbroken_lines (told : Account runs r) (tallied : Tallied actual runs r)
    (branches : ∀ branch ∈ actual.branchPoints.keys, Unbroken branch)
    (labels : ∀ discovered comparison, .completed discovered comparison ∈ runs →
      ∀ d ∈ comparison.toList, Unbroken d.parent ∧ Unbroken d.child) :
    ∀ line ∈ r.sheet.lines, Unbroken line := by
  have tells := tells_sheet told tallied
  refine Sheet.unbroken_lines (fun b listed => ?_) fun e listed d among => ?_
  · refine branches b.branch ?_
    rw [← tells.branches]
    exact List.mem_map_of_mem listed
  · obtain ⟨index, discovered, comparison, place, -, rfl⟩ := tells.excerpt e listed
    exact labels discovered comparison (List.mem_of_getElem? place) d among

end Account

/-- The summary of a report that was reached by recording runs can be written, and its lines account
for these runs. The first failing runs, ten at most, are shown under their numbers with their own
differences, and the number of the hidden ones makes up the rest. The branch points come in the
order of their labels, each with a line for every number of children and one for none if there is
need of it, and these lines count every evaluated run once. Without evaluated runs there are no
rates. -/
theorem summary_accounts {bounds destination : String} {requested : Nat} {actual : Topology}
    {runs : List Run} {r : Report}
    (reached : Reached (start bounds destination requested actual) runs r)
    (branches : ∀ branch ∈ actual.branchPoints.keys, Unbroken branch)
    (labels : ∀ discovered comparison, .completed discovered comparison ∈ runs →
      ∀ d ∈ comparison.toList, Unbroken d.parent ∧ Unbroken d.child)
    (elapsed : Duration) :
    let report := { r with elapsed := elapsed }
    ∃ text, ∃ s : Sheet, report.summary? = some text ∧
      text.toList.splitOn '\n' = s.lines.map String.toList ++ [[]] ∧
      s.Tells actual runs report := by
  intro report
  obtain ⟨rfl, few⟩ := reached_iff.mp reached
  have told : Account runs report := ofRuns_account bounds destination actual
  have tallied : Tallied actual runs report := ofRuns_tallied bounds destination actual
  have unbroken := told.unbroken_lines tallied branches labels
  refine ⟨_, report.sheet, told.summary?_eq_sheet tallied few, ?_, tells_sheet told tallied⟩
  simpa using Text.splitOn_joined unbroken ""

/-- A dropped run, a passing one, and twelve that miss an edge, two of which are not shown. -/
theorem summary_accounts_half_diamond :
    let actual : Topology := .ofEdges [("start", "A"), ("start", "B"), ("A", "end"), ("B", "end")]
    let half : Topology := .ofEdges [("start", "A"), ("A", "end"), ("B", "end")]
    let runs : List Run := .dropped :: .completed actual (.between actual actual) ::
      List.replicate 12 (.completed half (.between half actual))
    let r := (start "95,2,4" "10.0.9.9" 14 actual).recordAll runs
    let report := { r with elapsed := ⟨125, 0, by decide⟩ }
    Reached (start "95,2,4" "10.0.9.9" 14 actual) runs r ∧
      ∃ text, ∃ s : Sheet, report.summary? = some text ∧
        text.toList.splitOn '\n' = s.lines.map String.toList ++ [[]] ∧
        s.Tells actual runs report ∧
        s.lines.take 9 = ["Tests dropped: 1", "Duration: 2 minutes 5 seconds", "",
          "12 failures out of 13 runs", "Failure rate: 0.9231", "", "First 10 failing runs:",
          "  Run 3:", "    [MISSING] start -> B"] ∧
        s.lines.drop 25 = ["  Run 12:", "    [MISSING] start -> B",
          "  ... and 2 more failing runs", "",
          "------------------------------------------------------", " Branch discovery rate dump",
          "------------------------------------------------------", "At branching point 1: start",
          "Discovered 1 out of 2 children 12 / 13 times: 0.9231",
          "Discovered 2 out of 2 children 1 / 13 times: 0.0769", "", "", "/end test data"] := by
  intro actual half runs r report
  have reached : Reached (start "95,2,4" "10.0.9.9" 14 actual) runs r :=
    reached_iff.mpr ⟨rfl, by decide⟩
  have branches : ∀ branch ∈ actual.branchPoints.keys, Unbroken branch := by decide
  have labels : ∀ discovered comparison, .completed discovered comparison ∈ runs →
      ∀ d ∈ comparison.toList, Unbroken d.parent ∧ Unbroken d.child := by
    intro discovered comparison recorded
    rcases List.mem_cons.mp recorded with dropped | recorded
    · contradiction
    rcases List.mem_cons.mp recorded with passing | failing
    · cases passing
      decide
    · cases (List.mem_replicate.mp failing).2
      decide
  obtain ⟨text, s, written, split, tells⟩ :=
    summary_accounts reached branches labels ⟨125, 0, by decide⟩
  have told : Account runs report := ofRuns_account ..
  have tallied : Tallied actual runs report := ofRuns_tallied ..
  have printed := told.summary?_eq_sheet tallied (by decide)
  have unbroken := told.unbroken_lines tallied branches labels
  have lines : s.lines = report.sheet.lines := by
    rw [Option.some.inj (written.symm.trans printed)] at split
    have joined := Text.splitOn_joined unbroken ""
    rw [String.append_empty, split] at joined
    exact List.map_injective_iff.mpr (fun _ _ => String.toList_injective)
      (List.append_cancel_right joined)
  refine ⟨reached, text, s, written, split, tells, ?_⟩
  rw [lines]
  decide +kernel

end Multipath.Report
