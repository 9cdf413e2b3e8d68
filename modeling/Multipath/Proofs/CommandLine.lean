import Multipath.CommandLine

/-! The number of repetitions on a command line has sixty-four bits. -/
namespace Multipath.CommandLine

theorem repetitions_le {value : String} {n : Nat} (read : repetitions value = .ok n) :
    n ≤ Text.largestWord := by
  simp only [repetitions] at read
  split at read
  · split at read
    · cases read
      assumption
    · contradiction
  · contradiction

namespace Given

/-- If a number of repetitions is given, it has sixty-four bits. -/
def Bounded (g : Given) : Prop := ∀ n ∈ g.repetitions, n ≤ Text.largestWord

variable {g next : Given}

theorem of_bind_pure {value : Except UsageError α} {put : α → Given}
    (taken : (value >>= fun v => pure (put v)) = .ok next) : ∃ v, value = .ok v ∧ next = put v := by
  cases value with
  | error error => contradiction
  | ok v =>
    cases taken
    exact ⟨v, rfl, rfl⟩

theorem repetitions_of_takeParameter {value : Option String} {p : Parameter}
    (taken : g.takeParameter value p = .ok next) : next.repetitions = g.repetitions := by
  cases p <;>
  · obtain ⟨-, -, rfl⟩ := of_bind_pure taken
    rfl

theorem repetitions_of_takeSwitch {s : Switch} (taken : g.takeSwitch s = .ok next) :
    next.repetitions = g.repetitions := by
  cases s with
  | quiet =>
    rw [takeSwitch] at taken
    split at taken
    · contradiction
    · cases taken
      rfl
  | verbose =>
    cases taken
    rfl
  | help | version => contradiction

theorem Bounded.of_same (bounded : g.Bounded) (unchanged : next.repetitions = g.repetitions) :
    next.Bounded :=
  fun n given => bounded n (unchanged ▸ given)

theorem Bounded.takePositional (bounded : g.Bounded) {value : String} {place : Place}
    (taken : g.takePositional value place = .ok next) : next.Bounded := by
  cases place with
  | bounds | destination =>
    cases taken
    exact bounded
  | repetitions =>
    obtain ⟨n, read, rfl⟩ := of_bind_pure taken
    intro m given
    cases given
    exact repetitions_le read

theorem Bounded.take (bounded : g.Bounded) {item : Item} (taken : g.take item = .ok next) :
    next.Bounded := by
  cases item with
  | switch s => exact bounded.of_same (repetitions_of_takeSwitch taken)
  | attached p value | separate p value =>
    exact bounded.of_same (repetitions_of_takeParameter taken)
  | positional place value => exact bounded.takePositional taken
  | refused error => contradiction

/-- Items that are all taken are taken one by one. -/
theorem of_takeAll_cons {item : Item} {items : List Item}
    (taken : g.takeAll (item :: items) = .ok next) :
    ∃ after, g.take item = .ok after ∧ after.takeAll items = .ok next := by
  unfold Given.takeAll at taken
  split at taken
  · contradiction
  · cases first : g.take item with
    | error error =>
      rw [first] at taken
      contradiction
    | ok after =>
      rw [first] at taken
      exact ⟨after, rfl, taken⟩

theorem Bounded.takeAll (bounded : g.Bounded) {items : List Item}
    (taken : g.takeAll items = .ok next) : next.Bounded := by
  induction items generalizing g with
  | nil =>
    cases taken
    exact bounded
  | cons item items ih =>
    obtain ⟨after, first, rest⟩ := of_takeAll_cons taken
    exact ih (bounded.take first) rest

theorem Bounded.finish (bounded : g.Bounded) {a : Arguments} (finished : g.finish = .ok a) :
    a.repetitions ≤ Text.largestWord := by
  unfold Given.finish at finished
  split at finished
  · rename_i given
    cases finished
    exact bounded _ given
  · contradiction

end Given

theorem repetitions_le_of_parse {words : List String} {a : Arguments}
    (parsed : parse words = .ok a) :
    a.repetitions ≤ Text.largestWord := by
  have empty : Given.empty.Bounded := nofun
  unfold parse at parsed
  cases taken : Given.empty.takeAll (Item.ofCommandLine none Place.all words) with
  | error error =>
    rw [taken] at parsed
    contradiction
  | ok g =>
    rw [taken] at parsed
    exact (empty.takeAll taken).finish parsed

end Multipath.CommandLine
