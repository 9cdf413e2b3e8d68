import Multipath.CommandLine
import Multipath.Prober.Subprocess
import Multipath.Report.Json
import Multipath.Report.Summary
import Multipath.Session

/-! The course of a failure test: the ground truth is loaded, a session is run, its summary
is printed, and the report is written to a file if one is named. The first step that fails
ends the test, and the steps after it are not begun. What is shown of all that is decided
elsewhere and does not change it. -/
namespace Multipath

inductive TestError where
  | failure (cause : Failure)
  | groundTruth (destination : String) (cause : GroundTruth.Error)
  | reportNotWritten (path : Path) (cause : Fault)
  deriving DecidableEq, Repr

namespace TestError

def message : TestError → String
  | .failure cause => cause.message
  | .groundTruth destination _ => "loading ground truth for " ++ destination
  | .reportNotWritten path _ => "writing report to " ++ path.display

/-- The texts of the errors behind an error, the nearest first. -/
def causes : TestError → List String
  | .failure cause => cause.cause?.toList
  | .groundTruth _ cause => cause.message :: cause.cause?.toList
  | .reportNotWritten _ cause => [cause.message]

/-- A text with a margin before its lines after the first. -/
def indent (margin : String) (text : String) : String :=
  String.intercalate ("\n" ++ margin) ((text.toList.splitOn '\n').map String.ofList)

/-- The list of causes. A single cause has no number. -/
def causesText : List String → String
  | [] => ""
  | [cause] => "\n\nCaused by:\n    " ++ indent "    " cause
  | several =>
    "\n\nCaused by:" ++ String.join (several.zipIdx.map fun (cause, index) =>
      let number := numeral index
      "\n" ++ String.ofList (List.replicate (5 - number.length) ' ') ++ number ++ ": " ++
        indent "       " cause)

def text (e : TestError) : String := "Error: " ++ e.message ++ causesText e.causes ++ "\n"

end TestError

namespace FailureTest

inductive Piece where
  | opening (repetitions : Nat)
  | progress (p : Progress)
  | summary (text : String)
  deriving DecidableEq, Repr

def Piece.isProgress : Piece → Bool
  | .progress _ => true
  | _ => false

def Piece.text : Piece → String
  | .opening repetitions =>
    "Please wait, executing " ++ numeral repetitions ++ " runs of program\n\n"
  | .progress p =>
    "\rProcessing... " ++ numeral p.run ++ " / " ++ numeral p.total ++
      " runs ---> total of " ++ numeral p.dropped ++ " dropped"
  | .summary text => "\n" ++ text

structure Course where
  printed : List Piece
  events : List Log.Event
  result : Except TestError Unit
  machine : Machine

def logTarget : String := "failure_test"

def loadedEvent (path : Path) (actual : Topology) : Log.Event :=
  ⟨.info, logTarget, "ground truth loaded",
    [("file", .text path.display), ("edges", .number actual.edgeCount)]⟩

def writtenEvent (path : Path) : Log.Event :=
  ⟨.info, logTarget, "JSON report written", [("path", .text path.display)]⟩

def plan (a : Arguments) : Session.Plan := ⟨a.bounds, a.destination, a.repetitions⟩

/-- Write the report, if a file for it is named. -/
def publish (json : Option Path) (report : Report) (t : FileTree) :
    Except TestError (List Log.Event × FileTree) :=
  match json with
  | none => .ok ([], t)
  | some path =>
    match t.write path (Text.Utf8.encode report.render.toList) with
    | .error cause => .error (.reportNotWritten path cause)
    | .ok t => .ok ([writtenEvent path], t)

def conclude (json : Option Path) (trace : Session.Trace) (m : Machine) : Course :=
  match trace.result with
  | .error failure => ⟨[], [], .error (.failure failure), m⟩
  | .ok report =>
    let printed := [.summary (report.summary?.getD "")]
    match publish json report m.tree with
    | .error error => ⟨printed, [], .error error, m⟩
    | .ok (events, tree) => ⟨printed, events, .ok (), ⟨tree, m.starts⟩⟩

/-- Carry out a test. How long its session took is measured by the caller. -/
def perform (c : Config) (a : Arguments) (program : Executable) (elapsed : Duration)
    (m : Machine) : Course :=
  match c.truthSource.load m.tree a.destination with
  | .error cause => ⟨[], [], .error (.groundTruth a.destination cause), m⟩
  | .ok (path, actual) =>
    let (trace, m) := Session.run (plan a) actual (Subprocess.prober c program) elapsed m
    let rest := conclude a.json trace m
    { rest with
      printed := .opening a.repetitions :: trace.progress.map .progress ++ rest.printed
      events := loadedEvent path actual :: trace.events ++ rest.events }

end FailureTest
end Multipath
