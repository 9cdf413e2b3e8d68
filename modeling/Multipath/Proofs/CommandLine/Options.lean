import Multipath.Proofs.CommandLine.Switches

/-! Options with a value. A command line that is accepted gives each of them once at most, in
whatever order and form. What is held for an option is what its own value is read as, and nothing
if it is not given. -/
namespace Multipath.CommandLine

def Parameter.Kind : Parameter → Type
  | .mode => Config.Mode
  | .dropCode => Int
  | .config | .json | .launcher | .binary | .output | .targets | .topology => Path

def Parameter.read : (p : Parameter) → String → Except UsageError p.Kind
  | .mode => CommandLine.mode
  | .dropCode => exitCode
  | .config | .json | .launcher | .binary | .output | .targets | .topology => path

def Item.value? (p : Parameter) : Item → Option String
  | .attached q value => if q = p then some value else none
  | .separate q value => if q = p then value else none
  | .switch _ | .positional _ _ | .refused _ => none

def values (items : List Item) (p : Parameter) : List String := items.filterMap (Item.value? p)

def valueOf? (words : List String) (p : Parameter) : Option String :=
  (values (itemsOf words) p).head?

/-- What is held for an option, from all values that are given for it. -/
inductive Reads (p : Parameter) : List String → Option p.Kind → Prop where
  | none : Reads p [] none
  | one {text : String} {value : p.Kind} (read : p.read text = .ok value) :
    Reads p [text] (some value)

theorem Reads.length_le {p : Parameter} {texts : List String} {held : Option p.Kind}
    (reads : Reads p texts held) : texts.length ≤ 1 := by
  cases reads <;> simp

theorem Reads.head? {p : Parameter} {texts : List String} {held : Option p.Kind}
    (reads : Reads p texts held) : texts.head?.map p.read = held.map .ok := by
  cases reads with
  | none => rfl
  | one read => exact congrArg some read

namespace Given

def held (g : Given) : (p : Parameter) → Option p.Kind
  | .config => g.config
  | .json => g.json
  | .mode => g.settings.mode
  | .launcher => g.settings.launcher
  | .binary => g.settings.binary
  | .output => g.settings.output
  | .targets => g.settings.targets
  | .topology => g.settings.topology
  | .dropCode => g.settings.dropCode

def hold (g : Given) : (p : Parameter) → Option p.Kind → Given
  | .config, value => { g with config := value }
  | .json, value => { g with json := value }
  | .mode, value => { g with settings.mode := value }
  | .launcher, value => { g with settings.launcher := value }
  | .binary, value => { g with settings.binary := value }
  | .output, value => { g with settings.output := value }
  | .targets, value => { g with settings.targets := value }
  | .topology, value => { g with settings.topology := value }
  | .dropCode, value => { g with settings.dropCode := value }

variable {g next : Given} {item : Item} {items : List Item} {p q : Parameter}

@[simp] theorem held_hold (g : Given) (p : Parameter) (value : Option p.Kind) :
    (g.hold p value).held p = value := by
  cases p <;> rfl

theorem held_hold_of_ne (g : Given) (other : q ≠ p) (value : Option q.Kind) :
    (g.hold q value).held p = g.held p := by
  cases p <;> cases q <;> first | contradiction | rfl

@[simp] theorem logLevel_hold (g : Given) (p : Parameter) (value : Option p.Kind) :
    (g.hold p value).settings.logLevel = g.settings.logLevel := by
  cases p <;> rfl

/-- All options are taken alike: a value is read, and held for the option. -/
theorem takeParameter_eq (g : Given) (value : Option String) (p : Parameter) :
    g.takeParameter value p = (once p.read value (g.held p)).map (g.hold p) := by
  have each {α : Type} (value : Except UsageError α) (put : α → Given) :
      (value >>= fun v => pure (put v)) = value.map put := by cases value <;> rfl
  cases p <;> exact each ..

/-- A value is taken for an option that has none so far. -/
theorem of_takeParameter {value : Option String} (taken : g.takeParameter value p = .ok next) :
    ∃ text x, value = some text ∧ g.held p = none ∧ p.read text = .ok x ∧
      next = g.hold p (some x) := by
  rw [takeParameter_eq] at taken
  obtain ⟨held, once, rfl⟩ := exists_of_map_eq_ok taken
  unfold CommandLine.once at once
  split at once
  · contradiction
  · contradiction
  · rename_i text empty
    obtain ⟨x, read, rfl⟩ := exists_of_map_eq_ok once
    exact ⟨text, x, rfl, empty, read, rfl⟩

/-- What is held after some items is what they give. Nothing on a command line gives a log level. -/
structure Accounts (items : List Item) (g : Given) : Prop where
  reads : ∀ p, Reads p (values items p) (g.held p)
  logLevel : g.settings.logLevel = none

theorem accounts_empty : Accounts [] .empty where
  reads p := by cases p <;> exact .none
  logLevel := rfl

theorem values_concat (items : List Item) (item : Item) (p : Parameter) :
    values (items ++ [item]) p = values items p ++ (item.value? p).toList := by
  rw [values, List.filterMap_append, List.filterMap_cons]
  cases item.value? p <;> rfl

/-- An item that gives no value for any option leaves what is held. -/
theorem Accounts.of_same (accounts : Accounts items g) (silent : ∀ p, item.value? p = none)
    (held : next.held = g.held) (level : next.settings.logLevel = g.settings.logLevel) :
    Accounts (items ++ [item]) next where
  reads p := by
    rw [values_concat, silent, Option.toList_none, List.append_nil, held]
    exact accounts.reads p
  logLevel := level.trans accounts.logLevel

theorem Accounts.takeParameter (accounts : Accounts items g) {value : Option String}
    (gives : ∀ p, item.value? p = if q = p then value else none)
    (taken : g.takeParameter value q = .ok next) : Accounts (items ++ [item]) next := by
  obtain ⟨text, x, rfl, empty, read, rfl⟩ := of_takeParameter taken
  refine ⟨fun p => ?_, (logLevel_hold ..).trans accounts.logLevel⟩
  have before := accounts.reads p
  rw [values_concat, gives]
  by_cases own : q = p
  · subst own
    -- Nothing was held for the option, so no value was given for it before this one.
    rw [empty] at before
    generalize values items q = texts at before ⊢
    cases before
    rw [if_pos rfl, held_hold]
    exact .one read
  · rw [if_neg own, Option.toList_none, List.append_nil, held_hold_of_ne g own]
    exact before

theorem Accounts.take (accounts : Accounts items g) (taken : g.take item = .ok next) :
    Accounts (items ++ [item]) next := by
  cases item with
  | attached q value => exact accounts.takeParameter (fun p => rfl) taken
  | separate q value => exact accounts.takeParameter (fun p => rfl) taken
  | switch s =>
    cases s with
    | quiet =>
      simp only [Given.take, takeSwitch] at taken
      split at taken
      · contradiction
      · cases taken
        exact accounts.of_same (fun _ => rfl) (funext fun p => by cases p <;> rfl) rfl
    | verbose =>
      cases taken
      exact accounts.of_same (fun _ => rfl) (funext fun p => by cases p <;> rfl) rfl
    | help | version => contradiction
  | positional place value =>
    cases place with
    | bounds | destination =>
      cases taken
      exact accounts.of_same (fun _ => rfl) (funext fun p => by cases p <;> rfl) rfl
    | repetitions =>
      obtain ⟨-, -, rfl⟩ := of_bind_pure taken
      exact accounts.of_same (fun _ => rfl) (funext fun p => by cases p <;> rfl) rfl
  | refused error => contradiction

theorem Accounts.takeEach {more : List Item} (accounts : Accounts items g)
    (taken : g.takeEach more = .ok next) : Accounts (items ++ more) next := by
  induction more generalizing items g with
  | nil =>
    cases taken
    rwa [List.append_nil]
  | cons item more ih =>
    rw [Given.takeEach, List.foldlM_cons] at taken
    cases first : g.take item with
    | error error =>
      rw [first] at taken
      contradiction
    | ok after =>
      rw [first] at taken
      rw [List.append_cons]
      exact ih (accounts.take first) taken

def ofArguments (a : Arguments) : Given :=
  ⟨some a.bounds, some a.destination, some a.repetitions, a.config, a.json, a.settings, a.quiet,
    a.verbose⟩

theorem eq_of_finish {a : Arguments} (finished : g.finish = .ok a) : g = ofArguments a := by
  unfold finish at finished
  split at finished
  · rename_i bounds destination repetitions
    cases finished
    cases g
    simp_all [ofArguments]
  · contradiction

end Given

variable {words : List String} {a : Arguments}

/-- An accepted command line holds for each option what its value is read as. -/
theorem accounts_of_parse (parsed : parse words = .ok a) :
    Given.Accounts (itemsOf words) (.ofArguments a) := by
  obtain ⟨g, taken, finished⟩ := exists_takeEach_of_parse parsed
  rw [← Given.eq_of_finish finished]
  exact Given.accounts_empty.takeEach taken

/-- No option is given twice. -/
theorem length_values_le (parsed : parse words = .ok a) (p : Parameter) :
    (values (itemsOf words) p).length ≤ 1 :=
  ((accounts_of_parse parsed).reads p).length_le

theorem map_read_valueOf? (parsed : parse words = .ok a) (p : Parameter) :
    (valueOf? words p).map p.read = ((Given.ofArguments a).held p).map .ok :=
  ((accounts_of_parse parsed).reads p).head?

end Multipath.CommandLine
