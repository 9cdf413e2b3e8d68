import Multipath.CommandLine.Item
import Multipath.Config.File

/-! The command line of a failure test: what to test and how often, the configuration file,
settings that go before those of the file, and what to show. -/
namespace Multipath

structure Arguments where
  bounds : String
  destination : String
  repetitions : Nat
  config : Option Path
  json : Option Path
  settings : Settings
  quiet : Bool
  /-- How often more detail is asked for. -/
  verbose : Nat
  deriving DecidableEq, Repr

namespace CommandLine

/-- The arguments so far. -/
structure Given where
  bounds : Option String
  destination : Option String
  repetitions : Option Nat
  config : Option Path
  json : Option Path
  settings : Settings
  quiet : Bool
  verbose : Nat
  deriving DecidableEq, Repr

def Given.empty : Given := ⟨none, none, none, none, none, ∅, false, 0⟩

/-- Requests for more detail are counted up to this number. -/
def mostVerbose : Nat := 255

def path (value : String) : Except UsageError Path :=
  if value.isEmpty then .error .invalidValue else .ok (.ofString value)

def mode (value : String) : Except UsageError Config.Mode :=
  match Config.Mode.ofName? value with
  | some mode => .ok mode
  | none => .error .invalidValue

/-- A natural number of sixty-four bits. -/
def repetitions (value : String) : Except UsageError Nat :=
  let digits := match value.toList with
    | '+' :: digits => digits
    | digits => digits
  match Text.natural? digits with
  | some n => if n ≤ Text.largestWord then .ok n else .error .valueValidation
  | none => .error .valueValidation

/-- An integer of thirty-two bits. -/
def exitCode (value : String) : Except UsageError Int :=
  match Text.integer? value.toList with
  | some i =>
    if -0x80000000 ≤ i ∧ i ≤ 0x7fffffff then .ok i else .error .valueValidation
  | none => .error .valueValidation

/-- The value of an option that is given once. That there is one is checked first, then
that there was none before, and then what it is. -/
def once (kind : String → Except UsageError α) (value : Option String) (before : Option α) :
    Except UsageError (Option α) :=
  match value, before with
  | none, _ => .error .invalidValue
  | some _, some _ => .error .argumentConflict
  | some value, none => (kind value).map some

namespace Given

def takeParameter (g : Given) (value : Option String) : Parameter → Except UsageError Given
  | .config => do pure { g with config := ← once path value g.config }
  | .json => do pure { g with json := ← once path value g.json }
  | .mode => do
    pure { g with settings.mode := ← once CommandLine.mode value g.settings.mode }
  | .launcher => do
    pure { g with settings.launcher := ← once path value g.settings.launcher }
  | .binary => do pure { g with settings.binary := ← once path value g.settings.binary }
  | .output => do pure { g with settings.output := ← once path value g.settings.output }
  | .targets => do pure { g with settings.targets := ← once path value g.settings.targets }
  | .topology => do pure { g with settings.topology := ← once path value g.settings.topology }
  | .dropCode => do
    pure { g with
      settings.dropCode := ← once exitCode value g.settings.dropCode }

def takeSwitch (g : Given) : Switch → Except UsageError Given
  | .quiet => if g.quiet then .error .argumentConflict else .ok { g with quiet := true }
  | .verbose => .ok { g with verbose := min (g.verbose + 1) mostVerbose }
  | .help => .error .displayHelp
  | .version => .error .displayVersion

def takePositional (g : Given) (value : String) : Place → Except UsageError Given
  | .bounds => .ok { g with bounds := some value }
  | .destination => .ok { g with destination := some value }
  | .repetitions => do pure { g with repetitions := some (← CommandLine.repetitions value) }

def take (g : Given) : Item → Except UsageError Given
  | .switch s => g.takeSwitch s
  | .attached p value => g.takeParameter (some value) p
  | .separate p value => g.takeParameter value p
  | .positional place value => g.takePositional value place
  | .refused error => .error error

def takeAll (g : Given) : List Item → Except UsageError Given
  | [] => .ok g
  | item :: items =>
    match item.isOpen, items with
    | true, .refused error :: _ => .error error
    | _, items => do (← g.take item).takeAll items

def finish (g : Given) : Except UsageError Arguments :=
  match g.bounds, g.destination, g.repetitions with
  | some bounds, some destination, some repetitions =>
    .ok ⟨bounds, destination, repetitions, g.config, g.json, g.settings, g.quiet, g.verbose⟩
  | _, _, _ => .error .missingRequiredArgument

end Given

def parse (words : List String) : Except UsageError Arguments := do
  (← Given.empty.takeAll (Item.ofCommandLine none Place.all words)).finish

end CommandLine

namespace Arguments

/-- The configuration in force: the usual values, then the file, then the command line. -/
def configure (t : FileTree) (a : Arguments) : Except Failure Config :=
  match a.config with
  | none => .ok (Config.standard.override a.settings)
  | some path => (Config.load t path).map (·.override a.settings)

def level (a : Arguments) (c : Config) : String := Config.levelFor c.logLevel a.verbose

end Arguments
end Multipath
