import Multipath.Proofs.Report.Json
import Multipath.Proofs.Text
import Multipath.Report.Summary

/-! What a summary says, and the lines that say it. The summary of a report is made of these lines,
and none of them is broken if no label is. -/
namespace Multipath.Report

structure Share where
  count : Nat
  evaluated : Nat
  rate : Option Fraction

/-- The failing run of a number, counted from one. -/
structure Excerpt where
  number : Nat
  differences : List Discrepancy

/-- What was found at a branch point: shares for numbers of children, and one for none of them. -/
structure Block where
  number : Nat
  branch : String
  children : Nat
  found : List (Nat × Share)
  missed : Option Share

structure Sheet where
  dropped : Nat
  minutes : Nat
  seconds : Nat
  failures : Nat
  evaluated : Nat
  rate : Option Fraction
  excerpts : List Excerpt
  /-- How many failing runs there are besides, if there are any. -/
  hidden : Option Nat
  blocks : List Block

section Lines

/-- Four digits behind the point, or a mark for no rate. -/
def rateText : Option Fraction → String
  | none => "n/a"
  | some rate =>
    let units := rate.toBinary64.scaled 4
    let digits := toString (units % 10000)
    toString (units / 10000) ++ "." ++
      String.ofList (List.replicate (4 - digits.length) '0') ++ digits

def Share.text (s : Share) : String :=
  toString s.count ++ " / " ++ toString s.evaluated ++ " times: " ++ rateText s.rate

def Excerpt.lines (e : Excerpt) : List String :=
  ("  Run " ++ toString e.number ++ ":") :: e.differences.map fun d =>
    "    " ++ ("[" ++ (if d.kind = .missing then "MISSING" else "SPURIOUS") ++ "] " ++ d.parent ++
      " -> " ++ d.child)

def Block.foundLine (b : Block) (k : Nat) (share : Share) : String :=
  "Discovered " ++ toString k ++ " out of " ++ toString b.children ++ " children " ++ share.text

def Block.lines (b : Block) : List String :=
  ("At branching point " ++ toString b.number ++ ": " ++ b.branch) ::
    (b.found.map fun (k, share) => b.foundLine k share) ++
    (b.missed.toList.map fun share => "Missed entirely " ++ share.text) ++ [""]

namespace Sheet

def headLines (s : Sheet) : List String := [
  "Tests dropped: " ++ toString s.dropped,
  "Duration: " ++ toString s.minutes ++ " minutes " ++ toString s.seconds ++ " seconds",
  "",
  toString s.failures ++ " failures out of " ++ toString s.evaluated ++ " runs",
  "Failure rate: " ++ rateText s.rate]

def failureLines (s : Sheet) : List String :=
  if s.excerpts.isEmpty then []
  else
    ["", "First " ++ toString s.excerpts.length ++ " failing runs:"] ++
    s.excerpts.flatMap Excerpt.lines ++
    s.hidden.toList.map fun n => "  ... and " ++ toString n ++ " more failing runs"

def lines (s : Sheet) : List String :=
  s.headLines ++ s.failureLines ++
    ["", "------------------------------------------------------", " Branch discovery rate dump",
      "------------------------------------------------------"] ++
    s.blocks.flatMap Block.lines ++ ["", "/end test data"]

end Sheet

def Unbroken (s : String) : Prop := '\n' ∉ s.toList

instance : DecidablePred Unbroken := fun s => inferInstanceAs (Decidable ('\n' ∉ s.toList))

@[simp] theorem unbroken_append {s t : String} : Unbroken (s ++ t) ↔ Unbroken s ∧ Unbroken t := by
  simp [Unbroken]

theorem not_mem_feed_decimal (n : Nat) : '\n' ∉ Text.decimal n := by
  intro member
  have digit := Text.isDigit_of_mem_decimal member
  contradiction

@[simp] theorem unbroken_repr (n : Nat) : Unbroken n.repr := by
  simpa [Unbroken, Text.decimal] using not_mem_feed_decimal n

@[simp] theorem unbroken_rateText (rate : Option Fraction) : Unbroken (rateText rate) := by
  cases rate with
  | none => decide
  | some rate =>
    have zeros (k : Nat) : Unbroken (String.ofList (List.replicate k '0')) := by simp [Unbroken]
    simp +decide [rateText, zeros]

theorem Block.unbroken_lines {b : Block} (branch : Unbroken b.branch) :
    ∀ line ∈ b.lines, Unbroken line := by
  intro line member
  simp only [Block.lines, List.cons_append, List.mem_cons, List.mem_append, List.mem_map,
    List.not_mem_nil, or_false] at member
  rcases member with rfl | (⟨⟨k, share⟩, -, rfl⟩ | ⟨share, -, rfl⟩) | rfl
  · simp +decide [branch]
  · simp +decide [foundLine, Share.text]
  · simp +decide [Share.text]
  · decide

theorem Excerpt.unbroken_lines {e : Excerpt}
    (labels : ∀ d ∈ e.differences, Unbroken d.parent ∧ Unbroken d.child) :
    ∀ line ∈ e.lines, Unbroken line := by
  intro line member
  rcases List.mem_cons.mp member with rfl | below
  · simp +decide
  · obtain ⟨d, among, rfl⟩ := List.mem_map.mp below
    have tag : Unbroken (if d.kind = .missing then "MISSING" else "SPURIOUS") := by
      split <;> decide
    simp +decide [tag, labels d among]

theorem Sheet.unbroken_lines {s : Sheet} (branches : ∀ b ∈ s.blocks, Unbroken b.branch)
    (labels : ∀ e ∈ s.excerpts, ∀ d ∈ e.differences, Unbroken d.parent ∧ Unbroken d.child) :
    ∀ line ∈ s.lines, Unbroken line := by
  have head : ∀ line ∈ s.headLines, Unbroken line := by simp +decide [headLines]
  have failures : ∀ line ∈ s.failureLines, Unbroken line := by
    intro line member
    unfold failureLines at member
    split at member
    · contradiction
    · simp only [List.cons_append, List.mem_cons, List.mem_append, List.mem_flatMap, List.mem_map,
        List.nil_append] at member
      rcases member with rfl | rfl | ⟨e, shown, within⟩ | ⟨n, -, rfl⟩
      · decide
      · simp +decide
      · exact Excerpt.unbroken_lines (labels e shown) line within
      · simp +decide
  have blocks : ∀ line ∈ s.blocks.flatMap Block.lines, Unbroken line := by
    intro line member
    obtain ⟨b, listed, within⟩ := List.mem_flatMap.mp member
    exact Block.unbroken_lines (branches b listed) line within
  have between : ∀ line ∈ ["", "------------------------------------------------------",
      " Branch discovery rate dump", "------------------------------------------------------"],
      Unbroken line := by decide
  have foot : ∀ line ∈ ["", "/end test data"], Unbroken line := by decide
  intro line member
  simp only [lines, List.mem_append] at member
  rcases member with (((inHead | inFailures) | inBetween) | inBlocks) | inFoot
  · exact head line inHead
  · exact failures line inFailures
  · exact between line inBetween
  · exact blocks line inBlocks
  · exact foot line inFoot

end Lines

section Printing

def shareOf (evaluated count : Nat) : Share := ⟨count, evaluated, Fraction.of? count evaluated⟩

def blockOf (evaluated number : Nat) (branch : String) (t : Tally) : Block where
  number := number
  branch := branch
  children := t.expected.size
  found := (List.range t.expected.size).map fun k =>
    (k + 1, shareOf evaluated (t.counts[k + 1]?.getD 0))
  missed :=
    if 0 < t.counts[0]?.getD 0 then some (shareOf evaluated (t.counts[0]?.getD 0)) else none

def sheet (r : Report) : Sheet where
  dropped := r.dropped
  minutes := r.elapsed.secs / 60
  seconds := r.elapsed.secs % 60
  failures := r.failures
  evaluated := r.evaluated
  rate := r.failureRate?
  excerpts := r.shown.map fun f => ⟨f.run + 1, f.comparison.toList⟩
  hidden := if 0 < r.hiddenFailures then some r.hiddenFailures else none
  blocks := r.branches.entries.zipIdx.map fun ((branch, tally), index) =>
    blockOf r.evaluated (index + 1) branch tally

variable {r : Report} {t : Tally}

theorem mapM_eq_some_map {f : α → Option β} {g : α → β} {as : List α}
    (each : ∀ a ∈ as, f a = some (g a)) : as.mapM f = some (as.map g) := by
  have whole : (as.map id).mapM f = some (as.map g) := Json.Value.mapM_map_of_forall each
  rwa [List.map_id] at whole

theorem text_eq_rateText (rate : Option Fraction) : Fraction.text rate = rateText rate := by
  cases rate with
  | none => rfl
  | some rate =>
    refine String.toList_injective ?_
    simp [Fraction.text, Binary64.fixed, rateText, Binary64.tenTo, ← String.length_toList]

theorem share_eq_text (count evaluated : Nat) :
    Tally.share count evaluated = (shareOf evaluated count).text := by
  simp only [Tally.share, Share.text, shareOf, numeral_eq_toString, text_eq_rateText]

/-- The block of a tally can be printed if there is a counter for every number of children. -/
theorem block?_eq_lines (whole : t.WellFormed) (evaluated number : Nat) (branch : String) :
    t.block? evaluated number branch = some (blockOf evaluated number branch t).lines := by
  have first : 0 < t.counts.length := by
    rw [whole]
    exact Nat.succ_pos _
  have found : (List.range t.expected.size).mapM (fun k => t.foundLine? evaluated (k + 1)) =
      some ((blockOf evaluated number branch t).found.map fun (k, share) =>
        (blockOf evaluated number branch t).foundLine k share) := by
    rw [blockOf, List.map_map]
    refine mapM_eq_some_map fun k inside => ?_
    have bound : k + 1 < t.counts.length := by
      rw [whole]
      exact Nat.succ_lt_succ (List.mem_range.mp inside)
    simp [Tally.foundLine?, List.getElem?_eq_getElem bound, Block.foundLine, numeral_eq_toString,
      share_eq_text]
  have missed : t.missedLines? evaluated = some
      ((blockOf evaluated number branch t).missed.toList.map fun share =>
        "Missed entirely " ++ share.text) := by
    simp only [Tally.missedLines?, blockOf, List.getElem?_eq_getElem first, Option.map_some,
      Option.getD_some]
    by_cases sometimes : 0 < t.counts[0] <;> simp [sometimes, share_eq_text]
  simp only [Tally.block?, found, missed, numeral_eq_toString]
  rfl

theorem lines_excerpt (f : FailingRun) :
    Excerpt.lines ⟨f.run + 1, f.comparison.toList⟩ = FailingRun.lines f := by
  simp only [Excerpt.lines, FailingRun.lines, numeral_eq_toString, Discrepancy.text_eq]

theorem headLines_sheet (r : Report) : r.sheet.headLines = r.headLines := by
  simp only [Sheet.headLines, headLines, numeral_eq_toString, text_eq_rateText]
  rfl

theorem failureLines_sheet (r : Report) : r.sheet.failureLines = r.failureLines := by
  unfold Sheet.failureLines failureLines
  by_cases passed : r.shown.isEmpty = true
  · simp [sheet, passed]
  · have failed : ¬r.sheet.excerpts.isEmpty = true := by simpa [sheet] using passed
    rw [if_neg passed, if_neg failed]
    by_cases more : 0 < r.hiddenFailures <;>
      simp [sheet, List.flatMap_map, lines_excerpt, numeral_eq_toString, more]

/-- The summary of a report says what the report says. -/
theorem summary?_eq_sheet (whole : ∀ entry ∈ r.branches.entries, entry.2.WellFormed)
    (balanced : r.dropped ≤ r.runs) (numbered : ∀ f ∈ r.failingRuns, f.run < Text.largestWord) :
    r.summary? = some (String.join (r.sheet.lines.map (· ++ "\n"))) := by
  have blocks : r.branchLines? = some (r.sheet.blocks.flatMap Block.lines) := by
    have each : r.branches.entries.zipIdx.mapM (fun ((branch, tally), index) =>
        tally.block? r.evaluated (index + 1) branch) = some (r.sheet.blocks.map Block.lines) := by
      rw [sheet, List.map_map]
      exact mapM_eq_some_map fun place listed =>
        block?_eq_lines (whole _ (List.fst_mem_of_mem_zipIdx listed)) ..
    rw [branchLines?, each, Option.map_some, List.flatten_eq_flatMap, List.flatMap_map]
    rfl
  have showable : r.isShowable = true := by
    simp only [isShowable, isBalanced, Bool.and_eq_true, decide_eq_true_eq, List.all_eq_true]
    exact ⟨balanced, fun f kept => hasRoom_iff.mpr (numbered f (List.mem_of_mem_take kept))⟩
  have lines : r.summaryLines? = some r.sheet.lines := by
    simp only [summaryLines?, blocks, bind, Option.bind, showable, if_true]
    rw [← headLines_sheet, ← failureLines_sheet]
    rfl
  rw [summary?, lines]
  rfl

end Printing
end Multipath.Report
