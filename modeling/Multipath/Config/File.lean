import Multipath.Config
import Multipath.Failure
import Multipath.Toml.Parser

/-! Configuration files. A file is a TOML document with a key for every value that it
sets. A key that is not known is refused, so that a misspelt one does not go unseen. -/
namespace Multipath

namespace Toml.Value

def string? : Value → Option String
  | .string s => some s
  | _ => none

def path? (v : Value) : Option Path := v.string?.map Path.ofString

/-- An integer of thirty-two bits. -/
def exitCode? : Value → Option Int
  | .integer i => if -0x80000000 ≤ i ∧ i ≤ 0x7fffffff then some i else none
  | _ => none

/-- A table or an array without content, the two ways to say that a choice has no more to
it than its name. -/
def isVoid : Value → Bool
  | .table _ [] | .array [] => true
  | _ => false

/-- A mode: its name, or a table with the name as its only key. -/
def mode? : Value → Option Config.Mode
  | .string name => Config.Mode.ofName? name
  | .table _ [(name, content)] => if content.isVoid then Config.Mode.ofName? name else none
  | _ => none

end Toml.Value

namespace Settings

def keys : List String :=
  ["mode", "launcher", "binary", "output", "targets_dir", "topology", "dropped_exit_code",
    "log_level"]

/-- The value under a key, if the key is there; none at all if it is not of its kind. -/
def read? (entries : Toml.Entries) (key : String) (kind : Toml.Value → Option α) :
    Option (Option α) :=
  match entries.lookup key with
  | none => some none
  | some value => (kind value).map some

def ofEntries? (entries : Toml.Entries) : Option Settings :=
  if entries.all fun entry => keys.contains entry.1 then do
    let mode ← read? entries "mode" (·.mode?)
    let launcher ← read? entries "launcher" (·.path?)
    let binary ← read? entries "binary" (·.path?)
    let output ← read? entries "output" (·.path?)
    let targets ← read? entries "targets_dir" (·.path?)
    let topology ← read? entries "topology" (·.path?)
    let dropCode ← read? entries "dropped_exit_code" (·.exitCode?)
    let logLevel ← read? entries "log_level" (·.string?)
    some ⟨mode, launcher, binary, output, targets, topology, dropCode, logLevel⟩
  else none

def parse? (text : String) : Option Settings := (Toml.parse? text).bind ofEntries?

def load (t : FileTree) (path : Path) : Except Failure Settings :=
  match t.readText path with
  | .error cause => .error (.config path (.unreadable cause))
  | .ok text =>
    match parse? text with
    | some settings => .ok settings
    | none => .error (.config path .rejected)

end Settings

namespace Config

/-- The configuration that a file gives, with the usual value for what it leaves out. -/
def load (t : FileTree) (path : Path) : Except Failure Config :=
  (Settings.load t path).map standard.override

end Config
end Multipath
