import Mathlib.Algebra.Order.Field.Basic
import Mathlib.Data.List.Induction
import Mathlib.Data.Rat.Cast.Order
import Multipath.Report

/-! What a report tells of the runs recorded on it. Its counters are the numbers of runs of
each kind, and the failing runs that it keeps are the first ones, each under its place among
all runs. The account is kept by every step, so that it holds after any sequence of runs. -/
namespace Multipath

def Fraction.value (f : Fraction) : ℚ := f.part / f.total

theorem Fraction.of?_eq_some_iff {part total : Nat} {f : Fraction} :
    Fraction.of? part total = some f ↔ f.part = part ∧ f.total = total := by
  cases f with
  | mk p t pos =>
    constructor
    · intro h
      unfold Fraction.of? at h
      split at h
      · simp only [Option.some.injEq, Fraction.mk.injEq] at h
        exact ⟨h.1.symm, h.2.symm⟩
      · contradiction
    · rintro ⟨rfl, rfl⟩
      exact dif_pos pos

theorem Fraction.value_nonneg (f : Fraction) : 0 ≤ f.value :=
  div_nonneg (Nat.cast_nonneg _) (Nat.cast_nonneg _)

theorem Fraction.value_le_one (f : Fraction) (h : f.part ≤ f.total) : f.value ≤ 1 := by
  have positive : (0 : ℚ) < f.total := Nat.cast_pos.mpr f.total_pos
  exact (div_le_one positive).mpr (Nat.cast_le.mpr h)

theorem Comparison.isEmpty_iff (c : Comparison) : c.isEmpty = true ↔ c.toList = [] := by
  simp [Comparison.isEmpty, Comparison.toList]

namespace Report

namespace Run

def isDropped : Run → Bool
  | .dropped => true
  | .completed _ _ => false

def isPassing : Run → Bool
  | .dropped => false
  | .completed _ comparison => comparison.toList = []

def isFailing : Run → Bool
  | .dropped => false
  | .completed _ comparison => comparison.toList ≠ []

def failure? (index : Nat) : Run → Option FailingRun
  | .dropped => none
  | .completed _ comparison => if comparison.toList = [] then none else some ⟨index, comparison⟩

theorem failure?_eq_some_iff {index : Nat} {run : Run} {f : FailingRun} :
    run.failure? index = some f ↔
      f.run = index ∧ f.comparison.toList ≠ [] ∧
        ∃ discovered, run = .completed discovered f.comparison := by
  cases run with
  | dropped => simp [failure?]
  | completed discovered comparison =>
    obtain ⟨number, kept⟩ := f
    by_cases agrees : comparison.toList = []
    · simp only [failure?, if_pos agrees]
      constructor
      · intro h
        contradiction
      · rintro ⟨-, differs, _, eq⟩
        cases eq
        exact absurd agrees differs
    · simp only [failure?, if_neg agrees]
      constructor
      · intro h
        cases h
        exact ⟨rfl, agrees, discovered, rfl⟩
      · rintro ⟨rfl, -, _, eq⟩
        cases eq
        rfl

theorem isSome_failure? (index : Nat) (run : Run) :
    (run.failure? index).isSome = run.isFailing := by
  cases run with
  | dropped => rfl
  | completed discovered comparison =>
    by_cases agrees : comparison.toList = [] <;> simp [failure?, isFailing, agrees]

/-- A run is of exactly one kind. -/
theorem kinds (run : Run) :
    run.isPassing.toNat + run.isFailing.toNat + run.isDropped.toNat = 1 := by
  cases run with
  | dropped => rfl
  | completed discovered comparison =>
    by_cases agrees : comparison.toList = [] <;> simp [isPassing, isFailing, isDropped, agrees]

end Run

/-- The failing runs of a sequence. Numbers are given before the runs are sorted out, so
dropped and passing runs take theirs too. -/
def failing (runs : List Run) : List FailingRun :=
  runs.zipIdx.filterMap fun (run, index) => run.failure? index

theorem failing_concat (runs : List Run) (run : Run) :
    failing (runs ++ [run]) = failing runs ++ (run.failure? runs.length).toList := by
  cases entry : run.failure? runs.length <;> simp [failing, List.zipIdx_append, entry]

theorem mem_failing_iff {runs : List Run} {f : FailingRun} :
    f ∈ failing runs ↔ f.comparison.toList ≠ [] ∧
      ∃ discovered, runs[f.run]? = some (.completed discovered f.comparison) := by
  rw [failing, List.mem_filterMap]
  constructor
  · rintro ⟨⟨run, index⟩, member, entry⟩
    obtain ⟨rfl, differs, discovered, rfl⟩ := Run.failure?_eq_some_iff.mp entry
    exact ⟨differs, discovered, List.mk_mem_zipIdx_iff_getElem?.mp member⟩
  · rintro ⟨differs, discovered, atIndex⟩
    refine ⟨(.completed discovered f.comparison, f.run), ?_, ?_⟩
    · exact List.mk_mem_zipIdx_iff_getElem?.mpr atIndex
    · exact Run.failure?_eq_some_iff.mpr ⟨rfl, differs, discovered, rfl⟩

theorem run_lt_of_mem_failing {runs : List Run} {f : FailingRun} (member : f ∈ failing runs) :
    f.run < runs.length := by
  obtain ⟨-, _, atIndex⟩ := mem_failing_iff.mp member
  exact (List.getElem?_eq_some_iff.mp atIndex).1

theorem failing_ordered (runs : List Run) :
    (failing runs).Pairwise fun a b => a.run < b.run := by
  induction runs using List.reverseRecOn with
  | nil => exact .nil
  | append_singleton runs run ih =>
    rw [failing_concat]
    cases entry : run.failure? runs.length with
    | none => simpa using ih
    | some last =>
      have number := (Run.failure?_eq_some_iff.mp entry).1
      refine List.pairwise_append.mpr ⟨ih, List.pairwise_singleton .., fun a ha b hb => ?_⟩
      rw [List.mem_singleton.mp hb, number]
      exact run_lt_of_mem_failing ha

theorem length_failing (runs : List Run) : (failing runs).length = runs.countP Run.isFailing := by
  induction runs using List.reverseRecOn with
  | nil => rfl
  | append_singleton runs run ih =>
    have entry := Run.isSome_failure? runs.length run
    rw [failing_concat, List.length_append, ih, List.countP_append, List.countP_singleton, ← entry]
    cases run.failure? runs.length <;> rfl

/-- The runs of a sequence by their kinds. -/
theorem length_eq_kinds (runs : List Run) :
    runs.length =
      runs.countP Run.isPassing + runs.countP Run.isFailing + runs.countP Run.isDropped := by
  induction runs with
  | nil => rfl
  | cons run runs ih =>
    have one := run.kinds
    simp only [List.length_cons, List.countP_cons]
    cases hp : run.isPassing <;> cases hf : run.isFailing <;> cases hd : run.isDropped <;>
      simp_all <;> omega

@[simp] theorem dropped_record (r : Report) (run : Run) :
    (r.record run).dropped = r.dropped + run.isDropped.toNat := by
  cases run with
  | dropped => rfl
  | completed discovered comparison => simp only [record]; split <;> rfl

/-- What is kept by recording one run is kept by recording any number of them. -/
theorem recordAll_invariant {Tells : List Run → Report → Prop}
    (step : ∀ {before : List Run} {r : Report}, Tells before r →
      ∀ run, Tells (before ++ [run]) (r.record run))
    {before : List Run} {r : Report} (tells : Tells before r) (runs : List Run) :
    Tells (before ++ runs) (r.recordAll runs) := by
  induction runs generalizing before r with
  | nil => simpa [recordAll] using tells
  | cons run runs ih => simpa [recordAll] using ih (step tells run)

structure Account (recorded : List Run) (r : Report) : Prop where
  runs : r.runs = recorded.length
  dropped : r.dropped = recorded.countP Run.isDropped
  passes : r.passes = recorded.countP Run.isPassing
  failures : r.failures = recorded.countP Run.isFailing
  failingRuns : r.failingRuns = (failing recorded).take keptFailures

theorem start_account (bounds destination : String) (requested : Nat) (actual : Topology) :
    Account [] (start bounds destination requested actual) :=
  ⟨rfl, rfl, rfl, rfl, rfl⟩

/-- Keeping one more failure as long as there is room keeps the first ones of them all. -/
theorem keepFailure_eq_take {runs : List Run} {r : Report} (told : Account runs r)
    (comparison : Comparison) :
    r.keepFailure comparison =
      List.take keptFailures (failing runs ++ [⟨runs.length, comparison⟩]) := by
  rw [keepFailure, told.failingRuns, told.runs, List.length_take]
  by_cases room : (failing runs).length < keptFailures
  · rw [if_pos (by omega), List.take_of_length_le (by omega), List.take_of_length_le]
    rw [List.length_append, List.length_singleton]
    exact room
  · rw [if_neg (by omega), List.take_append_of_le_length (by omega)]

theorem record_account {runs : List Run} {r : Report} (told : Account runs r) (run : Run) :
    Account (runs ++ [run]) (r.record run) := by
  have kept := keepFailure_eq_take told
  obtain ⟨hr, hd, hp, hf, hl⟩ := told
  cases run with
  | dropped =>
    constructor <;>
      simp [record, failing_concat, Run.failure?, Run.isDropped, Run.isPassing, Run.isFailing, *]
  | completed discovered comparison =>
    have verdict := comparison.isEmpty_iff
    -- Only a failing run can change the list, and its number is that of the runs before it.
    by_cases agrees : comparison.toList = []
    · constructor <;>
        simp [record, failing_concat, Run.failure?, Run.isDropped, Run.isPassing, Run.isFailing, *]
    · constructor <;>
        simp [record, failing_concat, Run.failure?, Run.isDropped, Run.isPassing, Run.isFailing, *]

theorem recordAll_account {before : List Run} {r : Report} (told : Account before r)
    (runs : List Run) : Account (before ++ runs) (r.recordAll runs) :=
  recordAll_invariant record_account told runs

namespace Account

variable {runs : List Run} {r : Report}

theorem balance (told : Account runs r) : r.runs = r.passes + r.failures + r.dropped := by
  rw [told.runs, told.passes, told.failures, told.dropped]
  exact length_eq_kinds runs

theorem evaluated (told : Account runs r) : r.evaluated = r.passes + r.failures := by
  have := told.balance
  unfold Report.evaluated
  omega

theorem evaluated_eq_zero_iff (told : Account runs r) :
    r.evaluated = 0 ↔ ∀ run ∈ runs, run = .dropped := by
  have allDropped : r.evaluated = 0 ↔ runs.countP Run.isDropped = runs.length := by
    rw [← told.dropped, ← told.runs]
    have := told.balance
    unfold Report.evaluated
    omega
  rw [allDropped, List.countP_eq_length]
  refine forall₂_congr fun run _ => ?_
  cases run <;> simp [Run.isDropped]

theorem failures_eq_zero_iff (told : Account runs r) :
    r.failures = 0 ↔
      ∀ discovered comparison, .completed discovered comparison ∈ runs → comparison.toList = [] := by
  rw [told.failures, List.countP_eq_zero]
  constructor
  · intro noFailure discovered comparison member
    simpa [Run.isFailing] using noFailure _ member
  · intro agreeing run member
    cases run with
    | dropped => simp [Run.isFailing]
    | completed discovered comparison => simpa [Run.isFailing] using agreeing _ _ member

theorem failures_le_evaluated (told : Account runs r) : r.failures ≤ r.evaluated := by
  rw [told.evaluated]
  omega

theorem failureRate?_eq_none_iff (told : Account runs r) :
    r.failureRate? = none ↔ ∀ run ∈ runs, run = .dropped := by
  rw [failureRate?, Fraction.of?_eq_none_iff]
  exact told.evaluated_eq_zero_iff

theorem of_failureRate?_eq_some (told : Account runs r) {rate : Fraction}
    (rated : r.failureRate? = some rate) :
    rate.part = r.failures ∧ rate.total = r.evaluated ∧ 0 ≤ rate.value ∧ rate.value ≤ 1 := by
  obtain ⟨part, total⟩ := Fraction.of?_eq_some_iff.mp rated
  refine ⟨part, total, rate.value_nonneg, rate.value_le_one ?_⟩
  rw [part, total]
  exact told.failures_le_evaluated

theorem passed_iff (told : Account runs r) :
    r.passed = true ↔ (∃ run ∈ runs, run ≠ .dropped) ∧
      ∀ discovered comparison, .completed discovered comparison ∈ runs → comparison.toList = [] := by
  have evaluated : r.evaluated ≠ 0 ↔ ∃ run ∈ runs, run ≠ .dropped := by
    rw [ne_eq, told.evaluated_eq_zero_iff]
    push Not
    rfl
  rw [← evaluated, ← told.failures_eq_zero_iff, passed]
  simp [Nat.pos_iff_ne_zero]

theorem length_failing_eq (told : Account runs r) : (failing runs).length = r.failures := by
  rw [length_failing, told.failures]

theorem failingRuns_eq_take (told : Account runs r) :
    r.failingRuns = (failing runs).take (min r.failures 10) := by
  rw [told.failingRuns, ← told.length_failing_eq, List.take_eq_take_iff, keptFailures]
  omega

theorem length_failingRuns (told : Account runs r) : r.failingRuns.length = min r.failures 10 := by
  rw [told.failingRuns_eq_take, List.length_take, told.length_failing_eq]
  omega

theorem failingRuns_sublist (told : Account runs r) : r.failingRuns.Sublist (failing runs) :=
  told.failingRuns ▸ List.take_sublist ..

theorem run_lt_of_mem_failingRuns (told : Account runs r) {f : FailingRun}
    (member : f ∈ r.failingRuns) : f.run < r.runs := by
  rw [told.runs]
  exact run_lt_of_mem_failing (told.failingRuns_sublist.mem member)

end Account

/-- After any runs the counters of a report balance, its rate and its verdict are those of the
runs, and it keeps the first ten failing runs under their places among all runs. -/
theorem recordAll_start_account (bounds destination : String) (requested : Nat)
    (actual : Topology) (runs : List Run) :
    let r := (start bounds destination requested actual).recordAll runs
    (r.runs = runs.length ∧ r.dropped = runs.countP Run.isDropped ∧
      r.passes = runs.countP Run.isPassing ∧ r.failures = runs.countP Run.isFailing) ∧
    (r.runs = r.passes + r.failures + r.dropped ∧ r.failures ≤ r.evaluated) ∧
    (r.failureRate? = none ↔ ∀ run ∈ runs, run = .dropped) ∧
    (∀ rate, r.failureRate? = some rate →
      rate.part = r.failures ∧ rate.total = r.evaluated ∧ 0 ≤ rate.value ∧ rate.value ≤ 1) ∧
    (r.passed = true ↔ (∃ run ∈ runs, run ≠ .dropped) ∧
      ∀ discovered comparison, .completed discovered comparison ∈ runs → comparison.toList = []) ∧
    r.failingRuns = (failing runs).take (min r.failures 10) ∧
    r.failingRuns.length = min r.failures 10 ∧
    (r.failingRuns.Pairwise fun a b => a.run < b.run) ∧
    ∀ f ∈ r.failingRuns, f.run < r.runs := by
  intro r
  have told : Account runs r := recordAll_account (start_account ..) runs
  refine ⟨⟨told.runs, told.dropped, told.passes, told.failures⟩,
    ⟨told.balance, told.failures_le_evaluated⟩, told.failureRate?_eq_none_iff,
    fun rate => told.of_failureRate?_eq_some, told.passed_iff, told.failingRuns_eq_take,
    told.length_failingRuns, ?_, fun f => told.run_lt_of_mem_failingRuns⟩
  exact (failing_ordered runs).sublist told.failingRuns_sublist

end Report
end Multipath
