import Multipath.FileTree
import Multipath.Lattice

/-! Why a session cannot be run: its configuration is not readable, the prober does not
start, its report is not readable, or the report holds no lattice. -/
namespace Multipath

inductive ConfigFault where
  | unreadable (cause : Fault)
  /-- The text is read and is no configuration. -/
  | rejected
  deriving DecidableEq, Repr

def ConfigFault.message : ConfigFault → String
  | .unreadable cause => cause.message
  | .rejected => ""

inductive Failure where
  | config (path : Path) (cause : ConfigFault)
  | notStarted (program : Path) (cause : Fault)
  | outputUnreadable (path : Path) (cause : Fault)
  /-- Runs are numbered from one. -/
  | lattice (run : Nat) (cause : Lattice.Error)
  deriving DecidableEq, Repr

namespace Failure

def message : Failure → String
  | .config path cause => "invalid config " ++ path.display ++ ": " ++ cause.message
  | .notStarted program cause => "failed to launch " ++ program.display ++ ": " ++ cause.message
  | .outputUnreadable path cause =>
    "cannot read prober output " ++ path.display ++ ": " ++ cause.message
  | .lattice run cause => "run " ++ String.ofList (Text.decimal run) ++ ": " ++ cause.message

/-- The text of the error behind a failure. What is wrong with a configuration is part of
its message and stands behind nothing. -/
def cause? : Failure → Option String
  | .config _ _ => none
  | .notStarted _ cause | .outputUnreadable _ cause => some cause.message
  | .lattice _ cause => some cause.message

end Failure
end Multipath
