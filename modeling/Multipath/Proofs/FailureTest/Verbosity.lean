import Multipath.Proofs.CommandLine.Switches
import Multipath.Proofs.FailureTest

/-! More detail in the log. A level that is configured holds for the program and its parts, and for
all else there are warnings. One more request for detail shows all that was shown without it, unless
the level that is configured is the last one already: the first request brings it down by one. -/
namespace Multipath

namespace Log

namespace Filter

def levelNames : List String := ["off", "error", "warn", "info", "debug", "trace"]

def ownTargets : List (List Char) := ["pt_harness".toList, "failure_test".toList]

def isOwn (e : Event) : Bool := ownTargets.any (·.isPrefixOf e.target.toList)

/-- Warnings, and all of the program and its parts that a threshold shows. -/
def ofThreshold (least : Threshold) : Filter :=
  ⟨⟨none, none, some .warn⟩ :: ownTargets.map fun target => ⟨some target, none, least⟩⟩

theorem shows_ofThreshold (least : Threshold) (e : Event) :
    (ofThreshold least).shows e = e.level.isShownAt (if isOwn e then least else some .warn) := by
  -- A rule with a target says more than one without, and the two targets say the same.
  cases harness : "pt_harness".toList.isPrefixOf e.target.toList <;>
    cases program : "failure_test".toList.isPrefixOf e.target.toList <;>
    simp only [shows, rule?, ofThreshold, isOwn, ownTargets, List.map_cons, List.map_nil,
      List.filter_cons, List.filter_nil, List.any_cons, List.any_nil, Rule.fits, Option.all_none,
      Option.all_some, harness, program, Bool.and_true, Bool.or_false, if_true] <;>
    rfl

def thresholdOf (level : String) : Threshold := (Threshold.ofName? level.toList).getD none

theorem choose_of_name :
    ∀ level ∈ levelNames, choose none level = ([], ofThreshold (thresholdOf level)) := by
  decide

/-- A configured level is shown in detail by the first request, but for its traces. -/
theorem isShownAt_debug_of_name {level : Level} :
    ∀ configured ∈ levelNames, level.isShownAt (thresholdOf configured) = true →
      level.isShownAt (thresholdOf "debug") = true ∨ configured = "trace" ∧ level = .trace := by
  cases level <;> decide

theorem isShownAt_trace (level : Level) : level.isShownAt (thresholdOf "trace") = true := by
  cases level <;> decide

/-- One more request for detail shows all that was shown, but a trace that is shown without any
request. -/
theorem isShownAt_levelFor_succ {configured : String} (named : configured ∈ levelNames) (n : Nat)
    {level : Level} (shown : level.isShownAt (thresholdOf (Config.levelFor configured n)) = true) :
    level.isShownAt (thresholdOf (Config.levelFor configured (n + 1))) = true ∨
      n = 0 ∧ configured = "trace" ∧ level = .trace := by
  cases n with
  | zero => exact (isShownAt_debug_of_name configured named shown).imp id fun last => ⟨rfl, last⟩
  | succ n => exact .inl (isShownAt_trace level)

def ofRequests (configured : String) (n : Nat) : Filter :=
  ofThreshold (thresholdOf (Config.levelFor configured n))

theorem shows_ofRequests_succ {configured : String} (named : configured ∈ levelNames) {n : Nat}
    (early : ¬(n = 0 ∧ configured = "trace")) {e : Event}
    (shown : (ofRequests configured n).shows e = true) :
    (ofRequests configured (n + 1)).shows e = true := by
  rw [ofRequests, shows_ofThreshold] at shown ⊢
  cases own : isOwn e with
  | false => simpa [own] using shown
  | true =>
    simp only [own, if_true] at shown ⊢
    rcases isShownAt_levelFor_succ named n shown with more | ⟨unasked, last, -⟩
    · exact more
    · exact absurd ⟨unasked, last⟩ early

/-- The first request for detail takes the traces away where they are configured to be shown. -/
theorem shows_ofRequests_trace (e : Event) :
    (ofRequests "trace" 1).shows e =
      (decide (e.level ≠ .trace) && (ofRequests "trace" 0).shows e) := by
  rw [ofRequests, ofRequests, shows_ofThreshold, shows_ofThreshold]
  cases isOwn e <;> cases e.level <;> decide

end Filter
end Log

namespace FailureTest

open CommandLine (parse plainItems verbosity mostVerbose)
open Log (Filter)

variable {words others : List String} {m : Machine}

/-- The last level is configured, and more detail than that is not asked for. -/
def AtLast (words : List String) (m : Machine) : Prop :=
  verbosity words = 0 ∧
    ∃ a c, parse words = .ok a ∧ a.configure m.tree = .ok c ∧ c.logLevel = "trace"

theorem levelFor_min (configured : String) (n : Nat) :
    Config.levelFor configured (min n mostVerbose) = Config.levelFor configured n := by
  match n with
  | 0 => rfl
  | 1 => rfl
  | n + 2 =>
    obtain ⟨k, most⟩ : ∃ k, min (n + 2) mostVerbose = k + 2 := by
      refine Nat.exists_eq_add_of_le' (Nat.le_min.mpr ⟨Nat.le_add_left .., by decide⟩)
    rw [most]
    rfl

/-- The filter in force follows from how often more detail is asked for. -/
theorem choose_of_parse {a : Arguments} {c : Config} (parsed : parse words = .ok a)
    (named : c.logLevel ∈ Filter.levelNames) :
    Filter.choose none (a.level c) =
      ([], .ofRequests c.logLevel (verbosity words)) := by
  have level : a.level c = Config.levelFor c.logLevel (verbosity words) := by
    rw [Arguments.level, CommandLine.verbose_of_parse parsed, levelFor_min]
  have listed : Config.levelFor c.logLevel (verbosity words) ∈ Filter.levelNames := by
    match verbosity words with
    | 0 => exact named
    | 1 => exact (by decide : "debug" ∈ Filter.levelNames)
    | n + 2 => exact (by decide : "trace" ∈ Filter.levelNames)
  rw [level, Filter.choose_of_name _ listed]
  rfl

/-- One more request for more detail in the log takes no line away, where one of the six levels is
configured and the environment names none. An exception is the last of the levels, as long as more
detail is not asked for: the first request takes away the traces, and these alone. -/
theorem run_logged_more (sameItems : plainItems words = plainItems others)
    (more : verbosity others = verbosity words + 1) (program : Executable) (elapsed : Duration)
    (m : Machine) (named : ∀ a c, parse words = .ok a → a.configure m.tree = .ok c →
      c.logLevel ∈ Filter.levelNames) :
    let t := run words none program elapsed m
    let u := run others none program elapsed m
    t.complaints = [] ∧ u.complaints = [] ∧
      (¬AtLast words m → t.logged.Sublist u.logged) ∧
      (AtLast words m → u.logged = t.logged.filter fun e => e.level ≠ .trace) := by
  rcases CommandLine.parse_of_plainItems sameItems with
    ⟨a, b, parsed, parsed', alike⟩ | ⟨error, error', refused, refused', -⟩
  · obtain ⟨n, rfl⟩ := Arguments.exists_verbose_of_plain alike
    cases configured : a.configure m.tree with
    | error failure =>
      have configured' : { a with verbose := n }.configure m.tree = .error failure := configured
      simp only [run, parsed, parsed', configured, configured']
      exact ⟨rfl, rfl, fun _ => .slnil, fun _ => rfl⟩
    | ok c =>
      have configured' : { a with verbose := n }.configure m.tree = .ok c := configured
      have listed := named a c parsed configured
      simp only [run, parsed, parsed', configured, configured', choose_of_parse parsed listed,
        choose_of_parse parsed' listed, more, present]
      refine ⟨trivial, trivial, fun early => ?_, fun last => ?_⟩
      · have earlier : ¬(verbosity words = 0 ∧ c.logLevel = "trace") := fun last =>
          early ⟨last.1, a, c, parsed, configured, last.2⟩
        exact List.monotone_filter_right _ fun e => Filter.shows_ofRequests_succ listed earlier
      · obtain ⟨unasked, a', c', parsed', configured', last⟩ := last
        obtain rfl : a = a' := Except.ok.inj (parsed.symm.trans parsed')
        obtain rfl : c = c' := Except.ok.inj (configured.symm.trans configured')
        rw [unasked, last, List.filter_filter]
        exact List.filter_congr fun e _ => Filter.shows_ofRequests_trace e
  · simp only [run, refused, refused']
    exact ⟨rfl, rfl, fun _ => .slnil, fun _ => rfl⟩

/-- The usual level is configured. -/
theorem run_logged_more_usual :
    let words := ["1", "A", "1", "-t", "t", "--launcher", "./s"]
    let others := ["1", "A", "-v", "1", "-t", "t", "--launcher", "./s"]
    let tree := ((∅ : FileTree).install (.ofString "s") .program).install (.ofString "t")
      (.file [0x68, 0x0a])
    let program := Executable.scripted (some (.ofString "output.txt"))
      [⟨some (Text.Utf8.encode "Lattice:\n".toList), .exited 0⟩]
    let t := run words none program .zero ⟨tree, []⟩
    let u := run others none program .zero ⟨tree, []⟩
    t.logged.Sublist u.logged ∧ u.complaints = [] := by
  intro words others tree program t u
  let settings : Settings :=
    { (∅ : Settings) with launcher := some (.ofString "./s"), topology := some (.ofString "t") }
  have parsed : parse words = .ok ⟨"1", "A", 1, none, none, settings, false, 0⟩ := rfl
  have usual : ∀ a c, parse words = .ok a → a.configure tree = .ok c → c.logLevel = "info" := by
    intro a c parsed' configured
    cases parsed.symm.trans parsed'
    cases configured
    rfl
  have sameItems : plainItems words = plainItems others := by decide
  obtain ⟨-, complaints, more, -⟩ := run_logged_more sameItems (by decide) program .zero ⟨tree, []⟩
    fun a c parsed configured => by
      rw [usual a c parsed configured]
      decide
  refine ⟨more ?_, complaints⟩
  rintro ⟨-, a, c, parsed, configured, last⟩
  rw [usual a c parsed configured] at last
  contradiction

/-- The trace of the end of a run is configured to be shown, and is not shown once more detail is
asked for. -/
theorem first_request_takes_trace_away :
    let words := ["1", "A", "1", "-c", "c", "-t", "t", "--launcher", "./s"]
    let others := words ++ ["-v"]
    let tree := (((∅ : FileTree).install (.ofString "s") .program).install (.ofString "t")
      (.file [0x68, 0x0a])).install (.ofString "c")
      (.file (Text.Utf8.encode "log_level=\"trace\"\n".toList))
    let program := Executable.scripted (some (.ofString "output.txt"))
      [⟨some (Text.Utf8.encode "Lattice:\n".toList), .exited 0⟩]
    let lines (words : List String) :=
      (run words none program .zero ⟨tree, []⟩).logged.map Log.Event.line
    plainItems words = plainItems others ∧ verbosity others = verbosity words + 1 ∧
      "TRACE pt_harness::prober: prober exited exit_code=Some(0)\n" ∈ lines words ∧
      "TRACE pt_harness::prober: prober exited exit_code=Some(0)\n" ∉ lines others := by
  decide +kernel

end FailureTest
end Multipath
