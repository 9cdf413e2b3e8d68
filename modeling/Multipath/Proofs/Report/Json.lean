import Multipath.Proofs.Json.Grammar
import Multipath.Proofs.Json.Reader
import Multipath.Proofs.Labels
import Multipath.Report.Json

/-! Reports and their parts are read back from their JSON form. A counter is read if it has
sixty-four bits, and all counters of a report keep to that, for a run is refused where one is
full. So a report may be written down and read back between any two runs. -/
namespace Multipath

open Json (Value)
open Json.Value (Plain word?_natural array?_map bindings?_map record?_object closedRecord?_object)

namespace LabelSet

theorem plain_toJson (s : LabelSet) : Plain s.toJson :=
  .array_map fun label _ => .string label

@[simp] theorem ofJson?_toJson (s : LabelSet) : ofJson? s.toJson = some s := by
  have items : s.toJson.array? Value.string? = some s.toList := array?_map fun _ _ => rfl
  simp [ofJson?, items]

end LabelSet

namespace LabelMap

variable {m : LabelMap α} {value : α → Value} {value? : Value → Option α}

theorem plain_toJson (plain : ∀ entry ∈ m.entries, Plain (value entry.2)) :
    Plain (m.toJson value) := by
  refine .object fun field member => ?_
  obtain ⟨entry, listed, rfl⟩ := List.mem_map.mp member
  exact plain entry listed

theorem ofJson?_toJson (back : ∀ entry ∈ m.entries, value? (value entry.2) = some entry.2) :
    ofJson? value? (m.toJson value) = some m := by
  rw [ofJson?, toJson, bindings?_map back]
  simp

end LabelMap

namespace Topology

theorem plain_toJson (t : Topology) : Plain t.toJson :=
  LabelMap.plain_toJson fun entry _ => entry.2.plain_toJson

@[simp] theorem ofJson?_toJson (t : Topology) : ofJson? t.toJson = some t := by
  rw [ofJson?, toJson, LabelMap.ofJson?_toJson fun entry _ => entry.2.ofJson?_toJson]
  rfl

theorem parse?_compact (t : Topology) : parse? t.toJson.compact = some t := by
  simp [parse?, t.plain_toJson]

end Topology

namespace Discrepancy

theorem Kind.ofName?_name (kind : Kind) : Kind.ofName? kind.name = some kind := by
  cases kind <;> rfl

theorem plain_toJson (d : Discrepancy) : Plain d.toJson :=
  .object (by simp [Plain.string])

@[simp] theorem ofJson?_toJson (d : Discrepancy) : ofJson? d.toJson = some d := by
  have parts : d.toJson.record? ["kind", "parent", "child"] =
      some [.string d.kind.name, .string d.parent, .string d.child] :=
    record?_object rfl (by decide)
  have kind := Kind.ofName?_name d.kind
  simp [ofJson?, parts, Value.alternative?, Value.string?, kind]

end Discrepancy

namespace Comparison

theorem plain_toJson (c : Comparison) : Plain c.toJson := by
  have side (side : List Discrepancy) : Plain (.array (side.map Discrepancy.toJson)) :=
    .array_map fun d _ => d.plain_toJson
  exact .object (by simp [side])

@[simp] theorem ofJson?_toJson (c : Comparison) : ofJson? c.toJson = some c := by
  have parts : c.toJson.record? ["missing", "spurious"] =
      some [.array (c.missing.map Discrepancy.toJson), .array (c.spurious.map Discrepancy.toJson)] :=
    record?_object rfl (by decide)
  have side (side : List Discrepancy) :
      (Value.array (side.map Discrepancy.toJson)).array? Discrepancy.ofJson? = some side :=
    array?_map fun d _ => d.ofJson?_toJson
  simp [ofJson?, parts, side]

theorem parse?_compact (c : Comparison) : parse? c.toJson.compact = some c := by
  simp [parse?, c.plain_toJson]

end Comparison

theorem hasRoom_iff {counter : Nat} : hasRoom counter = true ↔ counter < Text.largestWord := by
  simp [hasRoom]

namespace Tally

def Fits (t : Tally) : Prop := ∀ count ∈ t.counts, count ≤ Text.largestWord

instance (t : Tally) : Decidable t.Fits := inferInstanceAs (Decidable (∀ count ∈ t.counts, _))

theorem Fits.record {t : Tally} {seen : Option LabelSet} (fits : t.Fits)
    (accepts : t.accepts seen = true) : (t.record seen).Fits := by
  obtain ⟨counter, counted, room⟩ := (Option.any_eq_true ..).mp accepts
  intro count member
  obtain ⟨k, atIndex⟩ := List.mem_iff_getElem?.mp member
  rw [Tally.record, List.getElem?_modify] at atIndex
  obtain ⟨old, before, rfl⟩ := Option.map_eq_some_iff.mp atIndex
  split
  · rename_i isSlot
    rw [← isSlot, counted] at before
    cases before
    exact hasRoom_iff.mp room
  · exact fits old (List.mem_of_getElem? before)

theorem plain_toJson (t : Tally) : Plain t.toJson := by
  have counts : Plain (.array (t.counts.map .natural)) :=
    .array_map fun count _ => .natural count
  exact .object (by simp [t.expected.plain_toJson, counts])

theorem ofJson?_toJson {t : Tally} (fits : t.Fits) : ofJson? t.toJson = some t := by
  have parts : t.toJson.record? ["expected", "counts"] =
      some [t.expected.toJson, .array (t.counts.map .natural)] := record?_object rfl (by decide)
  have counts : (Value.array (t.counts.map .natural)).array? Value.word? = some t.counts :=
    array?_map fun count member => word?_natural (fits count member)
  simp [ofJson?, parts, counts]

theorem parse?_compact {t : Tally} (fits : t.Fits) : parse? t.toJson.compact = some t := by
  simp [parse?, t.plain_toJson, ofJson?_toJson fits]

end Tally

namespace Tallies

def Fits (t : Tallies) : Prop := ∀ entry ∈ t.entries, entry.2.Fits

variable {t : Tallies} {discovered : Topology}

theorem Fits.record (fits : t.Fits) (accepts : t.accepts discovered = true) :
    (t.record discovered).Fits := by
  intro entry member
  obtain ⟨⟨branch, tally⟩, listed, rfl⟩ := List.mem_map.mp member
  exact Tally.Fits.record (fits _ listed) (List.all_eq_true.mp accepts _ listed)

theorem Fits.recordUntilRefused (fits : t.Fits) (discovered : Topology) :
    (t.recordUntilRefused discovered).Fits := by
  intro entry member
  obtain ⟨⟨branch, tally⟩, listed, rfl⟩ := List.mem_map.mp member
  simp only
  split
  · rename_i counted
    obtain ⟨⟨other, counter⟩, before, isBranch⟩ := List.any_eq_true.mp counted
    have among := List.takeWhile_subset _ before
    have one := t.ascending.label_injective among listed (eq_of_beq isBranch)
    have accepts := List.mem_takeWhile_imp before
    rw [one] at accepts
    exact Tally.Fits.record (fits _ listed) accepts
  · exact fits _ listed

end Tallies

namespace Duration

theorem plain_toJson (d : Duration) : Plain d.toJson :=
  .object (by simp [Plain.natural])

theorem normalize?_self {d : Duration} (fits : d.secs ≤ Text.largestWord) :
    normalize? d.secs d.nanos = some d := by
  have whole : d.nanos / 1000000000 = 0 := Nat.div_eq_of_lt d.nanos_lt
  have part : d.nanos % 1000000000 = d.nanos := Nat.mod_eq_of_lt d.nanos_lt
  simp [normalize?, whole, part, fits]

theorem ofJson?_toJson {d : Duration} (fits : d.secs ≤ Text.largestWord) :
    ofJson? d.toJson = some d := by
  have parts : d.toJson.closedRecord? ["secs", "nanos"] =
      some [.natural d.secs, .natural d.nanos] := closedRecord?_object rfl (by decide)
  have below : d.nanos ≤ 0xffffffff := Nat.le_of_lt (Nat.lt_trans d.nanos_lt (by decide))
  have nanos : (Value.natural d.nanos).natural? 0xffffffff = some d.nanos := if_pos below
  simp [ofJson?, parts, word?_natural fits, nanos, normalize?_self fits]

end Duration

namespace FailingRun

theorem plain_toJson (f : FailingRun) : Plain f.toJson :=
  .object (by simp [Plain.natural, f.comparison.plain_toJson])

theorem ofJson?_toJson {f : FailingRun} (fits : f.run ≤ Text.largestWord) :
    ofJson? f.toJson = some f := by
  have parts : f.toJson.record? ["run", "diff"] =
      some [.natural f.run, f.comparison.toJson] := record?_object rfl (by decide)
  simp [ofJson?, parts, word?_natural fits]

end FailingRun

namespace Report

structure Fits (r : Report) : Prop where
  requested : r.requested ≤ Text.largestWord
  runs : r.runs ≤ Text.largestWord
  passes : r.passes ≤ Text.largestWord
  failures : r.failures ≤ Text.largestWord
  dropped : r.dropped ≤ Text.largestWord
  secs : r.elapsed.secs ≤ Text.largestWord
  tallies : r.branches.Fits
  numbers : ∀ f ∈ r.failingRuns, f.run ≤ Text.largestWord

theorem start_fits (bounds destination : String) {requested : Nat}
    (fits : requested ≤ Text.largestWord) (actual : Topology) :
    (start bounds destination requested actual).Fits where
  requested := fits
  runs := Nat.zero_le _
  passes := Nat.zero_le _
  failures := Nat.zero_le _
  dropped := Nat.zero_le _
  secs := Nat.zero_le _
  tallies := by
    intro entry member
    obtain ⟨node, -, rfl⟩ := List.mem_map.mp member
    intro count zeros
    rw [(List.mem_replicate.mp zeros).2]
    exact Nat.zero_le _
  numbers := nofun

theorem mem_keepFailure {r : Report} {comparison : Comparison} {f : FailingRun}
    (kept : f ∈ r.keepFailure comparison) : f ∈ r.failingRuns ∨ f.run = r.runs := by
  unfold keepFailure at kept
  split at kept
  · rcases List.mem_append.mp kept with before | last
    · exact .inl before
    · exact .inr (List.mem_singleton.mp last ▸ rfl)
  · exact .inl kept

theorem Fits.keepFailure {r : Report} (fits : r.Fits) (comparison : Comparison) :
    ∀ f ∈ r.keepFailure comparison, f.run ≤ Text.largestWord := by
  intro f member
  rcases mem_keepFailure member with kept | number
  · exact fits.numbers f kept
  · exact number ▸ fits.runs

theorem plain_toJson (r : Report) : Plain r.toJson := by
  have branches : Plain (r.branches.toJson Tally.toJson) :=
    LabelMap.plain_toJson fun entry _ => entry.2.plain_toJson
  have failingRuns : Plain (.array (r.failingRuns.map FailingRun.toJson)) :=
    .array_map fun f _ => f.plain_toJson
  exact .object
    (by simp [Plain.string, Plain.natural, r.elapsed.plain_toJson, branches, failingRuns])

theorem ofJson?_toJson {r : Report} (fits : r.Fits) : ofJson? r.toJson = some r := by
  have parts : r.toJson.record? fieldNames = some [.string r.bounds, .string r.destination,
      .natural r.requested, .natural r.runs, .natural r.passes, .natural r.failures,
      .natural r.dropped, r.elapsed.toJson, r.branches.toJson Tally.toJson,
      .array (r.failingRuns.map FailingRun.toJson)] := record?_object rfl (by decide)
  have branches :
      LabelMap.ofJson? Tally.ofJson? (r.branches.toJson Tally.toJson) = some r.branches :=
    LabelMap.ofJson?_toJson fun entry member => Tally.ofJson?_toJson (fits.tallies entry member)
  have failingRuns : (Value.array (r.failingRuns.map FailingRun.toJson)).array? FailingRun.ofJson? =
      some r.failingRuns :=
    array?_map fun f member => FailingRun.ofJson?_toJson (fits.numbers f member)
  simp [ofJson?, parts, Value.string?, word?_natural fits.requested, word?_natural fits.runs,
    word?_natural fits.passes, word?_natural fits.failures, word?_natural fits.dropped,
    Duration.ofJson?_toJson fits.secs, branches, failingRuns]

theorem parse?_render {r : Report} (fits : r.Fits) : parse? r.render = some r := by
  simp [parse?, render, r.plain_toJson, ofJson?_toJson fits]

/-- Recording a run adds one to counters that have room. -/
theorem Fits.record {r : Report} (fits : r.Fits) {run : Run} (accepts : r.accepts run = true) :
    (r.record run).Fits := by
  cases run with
  | dropped =>
    simp only [Report.accepts, Bool.and_eq_true, hasRoom_iff] at accepts
    exact { fits with runs := accepts.1, dropped := accepts.2 }
  | completed discovered comparison =>
    simp only [Report.accepts, Bool.and_eq_true, hasRoom_iff] at accepts
    obtain ⟨⟨runs, branches⟩, amount⟩ := accepts
    have tallies := fits.tallies.record branches
    by_cases agrees : comparison.isEmpty = true
    · rw [if_pos agrees] at amount
      simp only [Report.record, if_pos agrees]
      exact { fits with runs := runs, passes := amount, tallies := tallies }
    · rw [if_neg agrees] at amount
      simp only [Report.record, if_neg agrees]
      exact { fits with
        runs := runs
        failures := amount
        tallies := tallies
        numbers := fits.keepFailure comparison }

theorem Fits.recordPartly {r : Report} (fits : r.Fits) (run : Run) :
    (r.recordPartly run).Fits := by
  unfold Report.recordPartly
  cases room : hasRoom r.runs with
  | false => exact fits
  | true =>
    have runs := hasRoom_iff.mp room
    cases run with
    | dropped => exact { fits with runs := runs }
    | completed discovered comparison =>
      exact { fits with runs := runs, tallies := fits.tallies.recordUntilRefused discovered }

inductive Operation where
  | record (run : Run)
  /-- It is written down and read back. -/
  | reload
  deriving DecidableEq, Repr

def recording (r : Report) (run : Run) : Option Verdict × Report :=
  match r.record? run with
  | .ok recorded => (some run.verdict, recorded)
  | .error left => (none, left)

def history (r : Report) : List Run → List (Option Verdict) × Report
  | [] => ([], r)
  | run :: runs =>
    let (outcome, r) := r.recording run
    let (outcomes, r) := r.history runs
    (outcome :: outcomes, r)

/-- The outcomes of the runs among a sequence of operations, and the report after them, as long
as the report can be read back each time. -/
def history? (r : Report) : List Operation → Option (List (Option Verdict) × Report)
  | [] => some ([], r)
  | .record run :: operations => do
    let (outcome, r) := r.recording run
    let (outcomes, r) ← r.history? operations
    pure (outcome :: outcomes, r)
  | .reload :: operations => do
    let r ← parse? r.render
    r.history? operations

def recorded (operations : List Operation) : List Run :=
  operations.filterMap fun
    | .record run => some run
    | .reload => none

theorem Fits.recording {r : Report} (fits : r.Fits) (run : Run) : (r.recording run).2.Fits := by
  unfold Report.recording record?
  by_cases accepts : r.accepts run = true
  · rw [if_pos accepts]
    exact fits.record accepts
  · rw [if_neg accepts]
    exact fits.recordPartly run

theorem history?_eq_some {r : Report} (fits : r.Fits) (operations : List Operation) :
    r.history? operations = some (r.history (recorded operations)) := by
  induction operations generalizing r with
  | nil => rfl
  | cons operation operations ih =>
    cases operation with
    | record run =>
      have later := ih (fits.recording run)
      simp [history?, history, recorded, later]
    | reload =>
      rw [history?, parse?_render fits]
      exact ih fits

/-- Topologies, comparisons, tallies and reports are read back from the text that is written for
them. Whatever runs are recorded on a report, it makes no difference to any of their outcomes and
to the report after them if the report is written down and read back in between. The summary and
the text that is written later are made of that report alone. -/
theorem json_reads_back :
    (∀ t : Topology, Topology.parse? t.toJson.compact = some t) ∧
    (∀ c : Comparison, Comparison.parse? c.toJson.compact = some c) ∧
    (∀ t : Tally, t.Fits → Tally.parse? t.toJson.compact = some t) ∧
    ∀ r : Report, r.Fits → parse? r.render = some r ∧
      ∀ operations, r.history? operations = some (r.history (recorded operations)) :=
  ⟨Topology.parse?_compact, Comparison.parse?_compact, fun _ => Tally.parse?_compact,
    fun _ fits => ⟨parse?_render fits, history?_eq_some fits⟩⟩

/-- Full counters, and labels with a quote, a backslash, control characters and no ASCII. -/
theorem json_reads_back_escaped :
    let full : Tally := ⟨.ofList ["\"", "é"], [Text.largestWord, 0, 0]⟩
    let report := start "95,2,4" "\\" 1 (.ofEdges [("a\n", "\t"), ("a\n", "\u0001")])
    full.Fits ∧ report.Fits ∧
      Tally.parse? full.toJson.compact = some full ∧ parse? report.render = some report ∧
      report.history? [.reload, .record .dropped, .reload] =
        some ([some .dropped], report.record .dropped) := by
  intro full report
  have counters : full.Fits := by decide
  have fits : report.Fits := start_fits _ _ (by decide) _
  have ⟨_, _, tallies, reports⟩ := json_reads_back
  exact ⟨counters, fits, tallies full counters, (reports report fits).1,
    (reports report fits).2 _⟩

end Report
end Multipath
