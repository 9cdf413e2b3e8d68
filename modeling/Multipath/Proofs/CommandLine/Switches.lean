import Multipath.Proofs.CommandLine
import Multipath.Proofs.Except

/-! The switches for what is shown. Wherever they stand on a command line, they change nothing of
what is read off the rest of it. A command line that is refused with them is refused without them,
although another of its mistakes may be told first. -/
namespace Multipath

namespace Arguments

def plain (a : Arguments) : Arguments := { a with verbose := 0 }

theorem exists_verbose_of_plain {a b : Arguments} (alike : a.plain = b.plain) :
    ∃ n, b = { a with verbose := n } :=
  ⟨b.verbose, by cases a; cases b; simpa [plain, eq_comm] using alike⟩

def hushed (a : Arguments) : Arguments := { a with quiet := true }

end Arguments

namespace CommandLine

/-- The text that is asked for in place of a run. A mistake asks for none. -/
def UsageError.asks : UsageError → Option UsageError
  | .displayHelp => some .displayHelp
  | .displayVersion => some .displayVersion
  | _ => none

/-- What comes of a command line, whichever of its mistakes is told. -/
def outcome (read : Except UsageError α) : Except (Option UsageError) α :=
  read.mapError UsageError.asks

@[simp] theorem outcome_ok {α : Type} (a : α) : outcome (.ok a) = .ok a := rfl

@[simp] theorem outcome_error {α : Type} (error : UsageError) :
    outcome (.error error : Except UsageError α) = .error error.asks := rfl

theorem outcome_bind {α β : Type} (read : Except UsageError α) (next : α → Except UsageError β) :
    outcome (read >>= next) = outcome read >>= fun a => outcome (next a) := by
  cases read <;> rfl

theorem outcome_eq_ok_iff {α : Type} {read : Except UsageError α} {a : α} :
    outcome read = .ok a ↔ read = .ok a := by
  cases read <;> simp

theorem outcome_map {α β : Type} (read : Except UsageError α) (f : α → β) :
    outcome (read.map f) = (outcome read).map f := by
  cases read <;> rfl

def itemsOf (words : List String) : List Item := Item.ofCommandLine none Place.all words

namespace Given

/-- Take items one after the other, without a look at the next one. -/
def takeEach (g : Given) (items : List Item) : Except UsageError Given := items.foldlM take g

def present (quiet : Bool → Bool) (verbose : Nat → Nat) (g : Given) : Given :=
  { g with quiet := quiet g.quiet, verbose := verbose g.verbose }

variable {g : Given} {item : Item} {items : List Item}

section Outcome

theorem asks_of_once {α : Type} {kind : String → Except UsageError α} {value : Option String}
    {before : Option α} {error : UsageError}
    (mistakes : ∀ s error, kind s = .error error → error.asks = none)
    (refused : once kind value before = .error error) : error.asks = none := by
  cases value with
  | none =>
    cases refused
    rfl
  | some s =>
    cases before with
    | some _ =>
      cases refused
      rfl
    | none => exact mistakes s error (map_eq_error_iff.mp refused)

theorem of_bind_pure_error {value : Except UsageError α} {put : α → Given} {error : UsageError}
    (refused : (value >>= fun v => pure (put v)) = .error error) : value = .error error := by
  cases value with
  | error error => exact congrArg Except.error (Except.error.inj refused)
  | ok v => contradiction

theorem asks_of_path (s : String) (error : UsageError) (refused : path s = .error error) :
    error.asks = none := by
  unfold path at refused
  split at refused
  · cases refused
    rfl
  · contradiction

theorem asks_of_mode (s : String) (error : UsageError) (refused : mode s = .error error) :
    error.asks = none := by
  unfold mode at refused
  split at refused
  · contradiction
  · cases refused
    rfl

theorem asks_of_exitCode (s : String) (error : UsageError) (refused : exitCode s = .error error) :
    error.asks = none := by
  unfold exitCode at refused
  split at refused
  · split at refused
    · contradiction
    · cases refused
      rfl
  · cases refused
    rfl

theorem asks_of_repetitions {s : String} {error : UsageError}
    (refused : CommandLine.repetitions s = .error error) : error.asks = none := by
  simp only [CommandLine.repetitions] at refused
  split at refused
  · split at refused
    · contradiction
    · cases refused
      rfl
  · cases refused
    rfl

/-- What is wrong with an option or an argument is a mistake. -/
theorem asks_of_take (waits : item.isOpen = true) {error : UsageError}
    (refused : g.take item = .error error) : error.asks = none := by
  cases item with
  | switch s | attached p value | refused error => contradiction
  | separate p value =>
    cases p with
    | config | json | launcher | binary | output | targets | topology =>
      exact asks_of_once asks_of_path (of_bind_pure_error refused)
    | mode => exact asks_of_once asks_of_mode (of_bind_pure_error refused)
    | dropCode => exact asks_of_once asks_of_exitCode (of_bind_pure_error refused)
  | positional place value =>
    cases place with
    | bounds | destination => contradiction
    | repetitions => exact asks_of_repetitions (of_bind_pure_error refused)

/-- The look at the next item decides only which mistake is told. -/
theorem outcome_takeAll (g : Given)
    (mistakes : ∀ error, .refused error ∈ items → error.asks = none) :
    outcome (g.takeAll items) = outcome (g.takeEach items) := by
  induction items generalizing g with
  | nil => rfl
  | cons item items ih =>
    have later := fun error member => mistakes error (List.mem_cons_of_mem item member)
    have each (g : Given) := ih g later
    rw [takeEach, List.foldlM_cons, outcome_bind]
    unfold takeAll
    split
    · rename_i error rest waits
      have asks : error.asks = none := later error List.mem_cons_self
      -- An item that waits is told only if the next one is taken, and that one is refused.
      cases taken : g.take item with
      | error first =>
        simp [asks, asks_of_take waits taken, bind, Except.bind]
      | ok after =>
        simp [asks, take, bind, Except.bind]
    · rw [outcome_bind]
      exact congrArg _ (funext each)

end Outcome

section Present

variable {quiet : Bool → Bool} {verbose : Nat → Nat}

theorem takeParameter_present (value : Option String) (p : Parameter) :
    (g.present quiet verbose).takeParameter value p =
      (g.takeParameter value p).map (present quiet verbose) := by
  have each {α : Type} (value : Except UsageError α) {put put' : α → Given}
      (presents : ∀ v, put' v = present quiet verbose (put v)) :
      (value >>= fun v => pure (put' v)) =
        (value >>= fun v => pure (put v)).map (present quiet verbose) := by
    cases value with
    | error error => rfl
    | ok v => exact congrArg Except.ok (presents v)
  cases p <;> exact each _ fun _ => rfl

/-- An item that is not a switch is read alike, whatever is shown. -/
theorem take_present (quiet : Bool → Bool) (verbose : Nat → Nat) (g : Given)
    (other : ∀ s, item ≠ .switch s) :
    (g.present quiet verbose).take item = (g.take item).map (present quiet verbose) := by
  cases item with
  | switch s => exact absurd rfl (other s)
  | attached p value | separate p value => exact takeParameter_present ..
  | positional place value =>
    cases place with
    | bounds | destination => rfl
    | repetitions =>
      cases read : CommandLine.repetitions value <;>
        simp [take, takePositional, read, bind, Except.bind, pure, Except.pure, Except.map, present]
  | refused error => rfl

def plain (g : Given) : Given := g.present id fun _ => 0

def hushed (g : Given) : Given := g.present (fun _ => true) id

theorem take_plain (other : item ≠ .switch .verbose) :
    g.plain.take item = (g.take item).map plain := by
  cases item with
  | switch s =>
    cases s with
    | quiet =>
      cases heard : g.quiet <;> simp [take, takeSwitch, plain, present, heard, Except.map]
    | verbose => contradiction
    | help | version => rfl
  | _ => exact take_present _ _ _ fun s => by simp

theorem take_hushed (other : item ≠ .switch .quiet) :
    g.hushed.take item = (g.take item).map hushed := by
  cases item with
  | switch s =>
    cases s with
    | quiet => contradiction
    | verbose | help | version => rfl
  | _ => exact take_present _ _ _ fun s => by simp

/-- Without the requests for more detail, items are read alike. -/
theorem takeEach_plain (g : Given) (items : List Item) :
    (g.takeEach items).map plain = g.plain.takeEach (items.filter (· ≠ .switch .verbose)) := by
  induction items generalizing g with
  | nil => rfl
  | cons item items ih =>
    rw [takeEach, List.foldlM_cons]
    by_cases voiced : item = .switch .verbose
    · subst item
      rw [List.filter_cons_of_neg (by simp)]
      exact ih { g with verbose := min (g.verbose + 1) mostVerbose }
    · rw [List.filter_cons_of_pos (by simpa using voiced), takeEach, List.foldlM_cons,
        take_plain voiced]
      cases g.take item with
      | error error => rfl
      | ok after => exact ih after

/-- What is to be shown is changed by its own switches alone. -/
theorem take_frame {next : Given} (taken : g.take item = .ok next) :
    (item ≠ .switch .verbose → next.verbose = g.verbose) ∧
      (item ≠ .switch .quiet → next.quiet = g.quiet) := by
  by_cases switch : ∃ s, item = .switch s
  · obtain ⟨s, rfl⟩ := switch
    cases s with
    | quiet =>
      simp only [take, takeSwitch] at taken
      split at taken
      · contradiction
      · cases taken
        exact ⟨fun _ => rfl, fun different => absurd rfl different⟩
    | verbose =>
      cases taken
      exact ⟨fun different => absurd rfl different, fun _ => rfl⟩
    | help | version => contradiction
  · have frame := take_present (fun _ => g.quiet) (fun _ => g.verbose) g
      fun s isSwitch => switch ⟨s, isSwitch⟩
    have again : g.take item = (g.take item).map (present (fun _ => g.quiet) fun _ => g.verbose) :=
      frame
    rw [taken] at again
    have kept := Except.ok.inj again
    exact ⟨fun _ => (congrArg Given.verbose kept).trans rfl,
      fun _ => (congrArg Given.quiet kept).trans rfl⟩

/-- Each request for more detail counts, up to the most. -/
theorem verbose_takeEach {next : Given} (below : g.verbose ≤ mostVerbose)
    (taken : g.takeEach items = .ok next) :
    next.verbose = min (g.verbose + items.count (.switch .verbose)) mostVerbose := by
  induction items generalizing g with
  | nil =>
    cases taken
    exact (Nat.min_eq_left below).symm
  | cons item items ih =>
    rw [takeEach, List.foldlM_cons] at taken
    cases first : g.take item with
    | error error =>
      rw [first] at taken
      contradiction
    | ok after =>
      rw [first] at taken
      by_cases voiced : item = .switch .verbose
      · subst item
        cases first
        have counted := ih (Nat.min_le_right ..) taken
        rw [counted, List.count_cons_self]
        simp only
        omega
      · have unraised := (take_frame first).1 voiced
        rw [ih (unraised ▸ below) taken, unraised, List.count_cons_of_ne voiced]

theorem quiet_takeEach {next : Given} (unhushed : items.count (.switch .quiet) = 0)
    (taken : g.takeEach items = .ok next) : next.quiet = g.quiet := by
  induction items generalizing g with
  | nil =>
    cases taken
    rfl
  | cons item items ih =>
    obtain ⟨notQuiet, later⟩ : item ≠ .switch .quiet ∧ items.count (.switch .quiet) = 0 := by
      simpa [List.count_cons, and_comm] using unhushed
    rw [takeEach, List.foldlM_cons] at taken
    cases first : g.take item with
    | error error =>
      rw [first] at taken
      contradiction
    | ok after =>
      rw [first] at taken
      exact (ih later taken).trans ((take_frame first).2 notQuiet)

theorem takeEach_of_hushed (unhushed : items.count (.switch .quiet) = 0) :
    g.hushed.takeEach items = (g.takeEach items).map hushed := by
  induction items generalizing g with
  | nil => rfl
  | cons item items ih =>
    obtain ⟨notQuiet, later⟩ : item ≠ .switch .quiet ∧ items.count (.switch .quiet) = 0 := by
      simpa [List.count_cons, and_comm] using unhushed
    rw [takeEach, takeEach, List.foldlM_cons, List.foldlM_cons, take_hushed notQuiet]
    cases g.take item with
    | error error => rfl
    | ok after => exact ih later

/-- One switch that has no progress shown changes nothing else, wherever it stands. -/
theorem takeEach_hushed (heard : g.quiet = false) (once : items.count (.switch .quiet) = 1) :
    g.takeEach items = (g.takeEach (items.filter (· ≠ .switch .quiet))).map hushed := by
  induction items generalizing g with
  | nil => contradiction
  | cons item items ih =>
    by_cases isQuiet : item = .switch .quiet
    · subst item
      have noMore : items.count (.switch .quiet) = 0 := by simpa using once
      have rest : items.filter (· ≠ .switch .quiet) = items :=
        List.filter_eq_self.mpr fun item member => by
          have notQuiet : item ≠ .switch .quiet := fun isQuiet =>
            List.count_eq_zero.mp noMore (isQuiet ▸ member)
          simpa using notQuiet
      have taken : g.take (.switch .quiet) = .ok g.hushed := by simp [take, takeSwitch, heard]; rfl
      rw [List.filter_cons_of_neg (by simp), rest, takeEach, List.foldlM_cons, taken]
      exact takeEach_of_hushed noMore
    · rw [List.count_cons_of_ne isQuiet] at once
      rw [List.filter_cons_of_pos (by simpa using isQuiet), takeEach, takeEach, List.foldlM_cons,
        List.foldlM_cons]
      cases taken : g.take item with
      | error error => rfl
      | ok after => exact ih (((take_frame taken).2 isQuiet).trans heard) once

end Present

theorem finish_present (quiet : Bool → Bool) (verbose : Nat → Nat) (g : Given) :
    (g.present quiet verbose).finish =
      g.finish.map fun a => { a with quiet := quiet a.quiet, verbose := verbose a.verbose } := by
  cases bounds : g.bounds <;> cases destination : g.destination <;>
    cases repetitions : g.repetitions <;>
      simp [finish, present, bounds, destination, repetitions, Except.map]

end Given

namespace Item

variable {error : UsageError}

theorem asks_of_mem_ofLong {body : List Char} (refused : .refused error ∈ (ofLong body).1) :
    error.asks = none := by
  simp only [ofLong] at refused
  split at refused <;> simp at refused <;> subst refused <;> rfl

theorem asks_of_mem_ofShort {letters : List Char} (refused : .refused error ∈ (ofShort letters).1) :
    error.asks = none := by
  induction letters with
  | nil => contradiction
  | cons letter rest ih =>
    rw [ofShort.eq_def] at refused
    simp only at refused
    split at refused
    · cases List.mem_singleton.mp refused
      rfl
    · exact ih (by simpa using refused)
    · split at refused <;> simp at refused

theorem asks_of_mem_ofDashed? {word : List Char} {items : List Item} {waiting : Option Parameter}
    (read : ofDashed? word = some (items, waiting)) (refused : .refused error ∈ items) :
    error.asks = none := by
  unfold ofDashed? at read
  split at read
  · obtain rfl : _ = items := congrArg Prod.fst (Option.some.inj read)
    exact asks_of_mem_ofLong refused
  · obtain rfl : _ = items := congrArg Prod.fst (Option.some.inj read)
    exact asks_of_mem_ofShort refused
  · contradiction

theorem asks_of_ofWord {word : String} {places : List Place}
    (refused : ofWord word places = .refused error) : error.asks = none := by
  cases places with
  | nil =>
    cases refused
    rfl
  | cons place places => contradiction

theorem asks_of_mem_ofWords {places : List Place} {words : List String}
    (refused : .refused error ∈ ofWords places words) : error.asks = none := by
  induction words generalizing places with
  | nil => contradiction
  | cons word words ih =>
    rcases List.mem_cons.mp refused with ofFirst | later
    · exact asks_of_ofWord ofFirst.symm
    · exact ih later

theorem not_mem_unanswered (waiting : Option Parameter) : .refused error ∉ unanswered waiting := by
  cases waiting <;> simp [unanswered]

/-- What is wrong with a word is a mistake. -/
theorem asks_of_mem {waiting : Option Parameter} {places : List Place} {words : List String}
    (refused : .refused error ∈ ofCommandLine waiting places words) : error.asks = none := by
  induction words generalizing waiting places with
  | nil => exact absurd refused (not_mem_unanswered waiting)
  | cons word words ih =>
    unfold ofCommandLine at refused
    split at refused
    · exact ih (by simpa using refused)
    · rcases List.mem_cons.mp refused with ofFirst | later
      · exact asks_of_ofWord ofFirst.symm
      · exact ih later
    · rename_i items next dashed
      split at refused
      · rcases List.mem_append.mp refused with first | later
        · exact absurd first (not_mem_unanswered _)
        · exact asks_of_mem_ofWords later
      · rcases List.mem_append.mp refused with first | later
        · rcases List.mem_append.mp first with first | own
          · exact absurd first (not_mem_unanswered _)
          · exact asks_of_mem_ofDashed? dashed own
        · exact ih later

end Item

section Parse

variable {words others : List String} {a : Arguments}

theorem outcome_parse (words : List String) :
    outcome (parse words) = outcome (Given.empty.takeEach (itemsOf words) >>= Given.finish) := by
  have each : outcome (Given.empty.takeAll (itemsOf words)) = _ :=
    Given.outcome_takeAll .empty fun error refused => Item.asks_of_mem refused
  rw [outcome_bind, ← each]
  exact outcome_bind ..

/-- What the words of a command line say besides the requests for more detail. -/
def plainItems (words : List String) : List Item :=
  (itemsOf words).filter (· ≠ .switch .verbose)

def verbosity (words : List String) : Nat := (itemsOf words).count (.switch .verbose)

theorem outcome_parse_plain (words : List String) :
    (outcome (parse words)).map Arguments.plain =
      outcome (Given.empty.takeEach (plainItems words) >>= Given.finish) := by
  have each : Given.empty.takeEach (plainItems words) =
      (Given.empty.takeEach (itemsOf words)).map Given.plain := (Given.takeEach_plain .empty _).symm
  rw [outcome_parse, ← outcome_map, each]
  cases Given.empty.takeEach (itemsOf words) with
  | error error => rfl
  | ok g => exact congrArg outcome (g.finish_present id fun _ => 0).symm

/-- Outcomes that are told apart by nothing but `f` and `g` are of one kind. -/
theorem alike_of_outcome {α β γ : Type} {read : Except UsageError α} {other : Except UsageError β}
    {f : α → γ} {g : β → γ} (agree : (outcome read).map f = (outcome other).map g) :
    (∃ a b, read = .ok a ∧ other = .ok b ∧ f a = g b) ∨
      ∃ error error', read = .error error ∧ other = .error error' ∧ error.asks = error'.asks := by
  cases read with
  | ok a =>
    cases other with
    | ok b => exact .inl ⟨a, b, rfl, rfl, Except.ok.inj agree⟩
    | error error' => contradiction
  | error error =>
    cases other with
    | ok b => contradiction
    | error error' => exact .inr ⟨error, error', rfl, rfl, Except.error.inj agree⟩

/-- Two command lines that differ in requests for more detail alone are read alike. -/
theorem parse_of_plainItems (sameItems : plainItems words = plainItems others) :
    (∃ a b, parse words = .ok a ∧ parse others = .ok b ∧ a.plain = b.plain) ∨
      ∃ error error', parse words = .error error ∧ parse others = .error error' ∧
        error.asks = error'.asks := by
  refine alike_of_outcome ?_
  rw [outcome_parse_plain, outcome_parse_plain, sameItems]

/-- The second command line has a switch that has no progress shown, and the first one has not.
There is no other difference. -/
def Hushes (words others : List String) : Prop :=
  (itemsOf others).count (.switch .quiet) = 1 ∧
    itemsOf words = (itemsOf others).filter (· ≠ .switch .quiet)

instance : Decidable (Hushes words others) := inferInstanceAs (Decidable (_ ∧ _))

theorem parse_of_hushes (hushes : Hushes words others) :
    (∃ a, parse words = .ok a ∧ parse others = .ok a.hushed) ∨
      ∃ error error', parse words = .error error ∧ parse others = .error error' ∧
        error.asks = error'.asks := by
  obtain ⟨once, rest⟩ := hushes
  have each : Given.empty.takeEach (itemsOf others) =
      (Given.empty.takeEach (itemsOf words)).map Given.hushed :=
    rest ▸ Given.takeEach_hushed rfl once
  have outcomes :
      (outcome (parse words)).map Arguments.hushed = (outcome (parse others)).map id := by
    rw [outcome_parse, outcome_parse, ← outcome_map, ← outcome_map, each]
    cases Given.empty.takeEach (itemsOf words) with
    | error error => rfl
    | ok g =>
      have finished : g.hushed.finish = g.finish.map Arguments.hushed :=
        g.finish_present (fun _ => true) id
      cases ended : g.finish <;>
        simp [bind, Except.bind, Except.map, finished, ended]
  rcases alike_of_outcome outcomes with ⟨a, b, parsed, parsed', hushed⟩ | refused
  · exact .inl ⟨a, parsed, hushed ▸ parsed'⟩
  · exact .inr refused

theorem exists_takeEach_of_parse (parsed : parse words = .ok a) :
    ∃ g, Given.empty.takeEach (itemsOf words) = .ok g ∧ g.finish = .ok a := by
  have each := outcome_parse words
  rw [parsed] at each
  have whole := outcome_eq_ok_iff.mp each.symm
  cases taken : Given.empty.takeEach (itemsOf words) with
  | error error =>
    rw [taken] at whole
    contradiction
  | ok g =>
    rw [taken] at whole
    exact ⟨g, rfl, whole⟩

theorem verbose_of_parse (parsed : parse words = .ok a) :
    a.verbose = min (verbosity words) mostVerbose := by
  obtain ⟨g, taken, finished⟩ := exists_takeEach_of_parse parsed
  have counted := Given.verbose_takeEach (Nat.zero_le _) taken
  rw [Given.finish] at finished
  split at finished
  · cases finished
    simpa [Given.empty, verbosity] using counted
  · contradiction

/-- Progress is shown if nothing on the command line is against it. -/
theorem quiet_of_parse (parsed : parse words = .ok a)
    (unhushed : (itemsOf words).count (.switch .quiet) = 0) : a.quiet = false := by
  obtain ⟨g, taken, finished⟩ := exists_takeEach_of_parse parsed
  have heard : g.quiet = false := Given.quiet_takeEach unhushed taken
  rw [Given.finish] at finished
  split at finished
  · cases finished
    exact heard
  · contradiction

end Parse

end CommandLine
end Multipath
