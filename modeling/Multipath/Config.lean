import Multipath.GroundTruth.Source

/-! The configuration of a test. Every value has a default that fits the usual test bed.
A configuration file and the command line each give settings for some of the values, and
a later setting replaces an earlier one. -/
namespace Multipath

inductive Config.Mode where
  /-- The launcher writes the output file and marks dropped runs by its exit code. -/
  | launcher
  /-- The binary is started itself, and what it prints is the output file. -/
  | direct
  deriving DecidableEq, Repr

namespace Config.Mode

def name : Config.Mode → String
  | .launcher => "launcher"
  | .direct => "direct"

def all : List Config.Mode := [.launcher, .direct]

def ofName? (name : String) : Option Config.Mode := all.find? fun mode => mode.name = name

@[simp] theorem ofName?_name (mode : Config.Mode) : ofName? mode.name = some mode := by
  cases mode <;> rfl

end Config.Mode

structure Config where
  mode : Config.Mode
  launcher : Path
  binary : Path
  /-- The file that every run writes anew. -/
  output : Path
  /-- The directory of target files, one for each destination. -/
  targets : Path
  /-- A target file, which goes before the directory of target files. -/
  topology : Option Path
  /-- The exit code that marks a dropped run. -/
  dropCode : Int
  /-- What to log, where nothing on the command line says so. -/
  logLevel : String
  deriving DecidableEq, Repr

/-- Values for a part of a configuration. -/
structure Settings where
  mode : Option Config.Mode
  launcher : Option Path
  binary : Option Path
  output : Option Path
  targets : Option Path
  topology : Option Path
  dropCode : Option Int
  logLevel : Option String
  deriving DecidableEq, Repr

namespace Settings

def empty : Settings := ⟨none, none, none, none, none, none, none, none⟩

instance : EmptyCollection Settings := ⟨empty⟩
instance : Inhabited Settings := ⟨empty⟩

end Settings

namespace Config

/-- The configuration for the usual test bed. -/
def standard : Config where
  mode := .launcher
  launcher := .ofString "./launch_fkrt_pt.sh"
  binary := .ofString "./paris-traceroute/paris-traceroute"
  output := .ofString "output.txt"
  targets := .ofString "../../paris-traceroute.fakeroute/fakeroute/targets/"
  topology := none
  dropCode := 23
  logLevel := "info"

def override (c : Config) (s : Settings) : Config where
  mode := s.mode.getD c.mode
  launcher := s.launcher.getD c.launcher
  binary := s.binary.getD c.binary
  output := s.output.getD c.output
  targets := s.targets.getD c.targets
  topology := s.topology.or c.topology
  dropCode := s.dropCode.getD c.dropCode
  logLevel := s.logLevel.getD c.logLevel

def program (c : Config) : Path :=
  match c.mode with
  | .launcher => c.launcher
  | .direct => c.binary

def truthSource (c : Config) : GroundTruth.Source :=
  match c.topology with
  | some path => .file path
  | none => .directory c.targets

def levelFor (configured : String) : Nat → String
  | 0 => configured
  | 1 => "debug"
  | _ => "trace"

@[simp] theorem override_empty (c : Config) : c.override ∅ = c := by
  cases c; simp [override, EmptyCollection.emptyCollection, Settings.empty]

end Config
end Multipath
