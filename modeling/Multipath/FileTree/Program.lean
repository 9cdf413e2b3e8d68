import Multipath.FileTree

/-! Starting the programs of a file tree: which file a path stands for, and whether it holds
what can be run. A file that has been written over may name an interpreter in its first
line, which is then run in its place. -/
namespace Multipath.FileTree

def startableAt (t : FileTree) (p : Path) : Except Fault (Location × Entry) := do
  match ← t.walk .look p with
  | .directory _ => .error .permissionDenied
  | .entry location entry =>
    if entry.isStartable then .ok (location, entry) else .error .permissionDenied
  | .vacant _ => .error .notFound

/-- The file of a program. A path without a slash is a name to be looked for in the
directories of the installed programs, of which the tree holds none. -/
def startable (t : FileTree) (p : Path) : Except Fault (Location × Entry) :=
  if p.bytes.contains 0 then .error .zeroInArgument
  else if p.bytes.contains Path.slash then t.startableAt p
  else if longestName < p.bytes.length then .error .nameTooLong
  else match Step.ofName p.bytes, p.bytes with
    | .up, _ | .here, _ :: _ => .error .permissionDenied
    | _, _ => .error .notFound

/-- How many bytes of a file are looked at for an interpreter. Behind the end of a shorter
file there are zero bytes. -/
def lineRoom : Nat := 256

def isBlank (b : UInt8) : Bool := b = 0x20 || b = 0x09

def lineEnd : UInt8 := 0x0a

def endsPath (b : UInt8) : Bool := isBlank b || b = 0

/-- The line behind the mark of a file that names an interpreter. The line may be cut off,
but not inside of the path. -/
def interpreterLine? (bytes : List UInt8) : Option (List UInt8) :=
  if bytes.contains lineEnd then some (bytes.takeWhile (· ≠ lineEnd))
  else if (bytes.dropWhile isBlank).any endsPath then some bytes.dropLast
  else none

/-- The path of the interpreter that a file names. An empty one leads to the directory that
paths start from. -/
def interpreter? (content : List UInt8) : Option Path :=
  match (content ++ List.replicate lineRoom 0).take lineRoom with
  | 0x23 :: 0x21 :: bytes =>
    match (interpreterLine? bytes).map (·.dropWhile isBlank) with
    | none | some [] => none
    | some line =>
      match line.takeWhile fun b => !endsPath b with
      | [] => some ⟨[0x2e]⟩
      | bytes => some ⟨bytes⟩
  | _ => none

def mostInterpreters : Nat := 5

/-- Why an entry that may be started does not run, if it does not. -/
def loadFault? (t : FileTree) : Nat → Entry → Option Fault
  | _, .program _ => none
  | 0, _ => some .linkLoop
  | interpreters + 1, .overwritten content =>
    match interpreter? content with
    | none => some .notExecutable
    | some path =>
      match t.startableAt path with
      | .error fault => some fault
      | .ok (_, entry) => t.loadFault? interpreters entry
  | _, _ => some .permissionDenied

end Multipath.FileTree
