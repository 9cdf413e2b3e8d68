import Multipath.FailureTest.Course
import Multipath.Log.Filter

/-! Failure tests from the command line: the command line is read, the configuration is put
together, the test is carried out, and what there is to see of it is shown. How much is
shown has no influence on what is done. -/
namespace Multipath

/-- Why a command line did not lead to a completed test. -/
inductive Stop where
  | usage (error : CommandLine.UsageError)
  | error (error : TestError)
  deriving DecidableEq, Repr

def Stop.exitCode : Stop → Nat
  | .usage .displayHelp | .usage .displayVersion => 0
  | .usage _ => 2
  | .error _ => 1

/-- What there is to see of a run of the program, and the world that it leaves. -/
structure Transcript where
  printed : List FailureTest.Piece
  /-- Complaints about the log filter. -/
  complaints : List String
  logged : List Log.Event
  stop : Option Stop
  machine : Machine

namespace Transcript

def exitCode (t : Transcript) : Nat := (t.stop.map Stop.exitCode).getD 0

def stdout (t : Transcript) : String := String.join (t.printed.map (·.text))

def errorText (t : Transcript) : String :=
  match t.stop with
  | some (.error error) => error.text
  | _ => ""

def stderr (t : Transcript) : String :=
  String.join (t.complaints.map (· ++ "\n")) ++ String.join (t.logged.map (·.line)) ++ t.errorText

end Transcript

namespace FailureTest

/-- Leave out the progress if nothing is to be heard of it. -/
def heard (quiet : Bool) (pieces : List Piece) : List Piece :=
  if quiet then pieces.filter fun piece => !piece.isProgress else pieces

def present (quiet : Bool) (complaints : List String) (filter : Log.Filter) (course : Course) :
    Transcript where
  printed := heard quiet course.printed
  complaints := complaints
  logged := course.events.filter filter.shows
  stop := match course.result with
    | .ok () => none
    | .error error => some (.error error)
  machine := course.machine

def stopped (stop : Stop) (m : Machine) : Transcript := ⟨[], [], [], some stop, m⟩

/-- Run the program for the words of a command line and a log filter from the environment. -/
def run (words : List String) (environment : Option String) (program : Executable)
    (elapsed : Duration) (m : Machine) : Transcript :=
  match CommandLine.parse words with
  | .error error => stopped (.usage error) m
  | .ok a =>
    match a.configure m.tree with
    | .error failure => stopped (.error (.failure failure)) m
    | .ok c =>
      let (complaints, filter) := Log.Filter.choose environment (a.level c)
      present a.quiet complaints filter (perform c a program elapsed m)

end FailureTest
end Multipath
