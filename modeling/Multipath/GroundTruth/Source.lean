import Multipath.FileTree
import Multipath.GroundTruth

/-! Where the ground truth of a destination comes from: a file that is named, or a
directory with one target file for each destination, whose name begins with it. A
directory in which several files qualify gives no answer. -/
namespace Multipath

inductive GroundTruth.Error where
  | fileMissing (destination : String) (directory : Path)
  | ambiguous (destination : String) (candidates : List Path)
  | unreadable (path : Path) (cause : Fault)
  deriving DecidableEq, Repr

namespace GroundTruth.Error

def message : GroundTruth.Error → String
  | .fileMissing destination directory =>
    "no ground-truth file for destination " ++ destination ++ " in " ++ directory.display
  | .ambiguous destination candidates =>
    "ambiguous ground truth for destination " ++ destination ++ ": [" ++
      String.intercalate ", " (candidates.map Path.quoted) ++ "]"
  | .unreadable path cause => "IO error on " ++ path.display ++ ": " ++ cause.message

def cause? : GroundTruth.Error → Option String
  | .unreadable _ cause => some cause.message
  | _ => none

end GroundTruth.Error

namespace GroundTruth

inductive Source where
  | file (path : Path)
  | directory (path : Path)
  deriving DecidableEq, Repr

/-- The name of an entry begins with the destination. -/
def isNamedFor (destination : String) (name : Name) : Bool :=
  destination.toList.isPrefixOf (Text.Utf8.decodeLossy name)

def pathLe (p q : Path) : Bool := decide (p.bytes ≤ q.bytes)

/-- The files in a directory that are named for the destination, in order. -/
def candidates (t : FileTree) (directory : Path) (destination : String) :
    Except Fault (List Path) :=
  (t.list directory).map fun names =>
    (((names.filter (isNamedFor destination)).map directory.join).filter t.isFile).mergeSort pathLe

def Source.resolve (t : FileTree) (destination : String) : Source → Except GroundTruth.Error Path
  | .file path => .ok path
  | .directory path =>
    match candidates t path destination with
    | .error cause => .error (.unreadable path cause)
    | .ok [] => .error (.fileMissing destination path)
    | .ok [only] => .ok only
    | .ok several => .error (.ambiguous destination several)

def Source.load (t : FileTree) (destination : String) (source : Source) :
    Except GroundTruth.Error (Path × Topology) := do
  let path ← source.resolve t destination
  match t.readText path with
  | .error cause => .error (.unreadable path cause)
  | .ok text => .ok (path, parse text)

end GroundTruth
end Multipath
