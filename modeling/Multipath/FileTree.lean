import Multipath.Path

/-! A file tree: a file system as it is seen from a working directory. A path is resolved
name by name, through symbolic links, and every operation fails for the reasons, and in the
order of reasons, of a POSIX system. Its user has all rights, so nothing fails for want of one.
Beyond the working directory a tree holds no more than what every system has there. -/
namespace Multipath

/-- Why a file operation failed, or a program did not start. -/
inductive Fault where
  | notFound
  | argumentTooLong
  /-- A file that may be started holds no program. -/
  | notExecutable
  /-- What is read has no end. -/
  | outOfMemory
  | permissionDenied
  | notDirectory
  | isDirectory
  | textFileBusy
  | noSpace
  | nameTooLong
  | linkLoop
  /-- A text file holds bytes that are no text. -/
  | notText
  /-- A path holds a zero byte. -/
  | zeroInPath
  /-- An argument of a program holds a zero byte. -/
  | zeroInArgument
  | other (message : String)
  deriving DecidableEq, Repr

def Fault.message : Fault → String
  | .notFound => "No such file or directory (os error 2)"
  | .argumentTooLong => "Argument list too long (os error 7)"
  | .notExecutable => "Exec format error (os error 8)"
  | .outOfMemory => "out of memory"
  | .permissionDenied => "Permission denied (os error 13)"
  | .notDirectory => "Not a directory (os error 20)"
  | .isDirectory => "Is a directory (os error 21)"
  | .textFileBusy => "Text file busy (os error 26)"
  | .noSpace => "No space left on device (os error 28)"
  | .nameTooLong => "File name too long (os error 36)"
  | .linkLoop => "Too many levels of symbolic links (os error 40)"
  | .notText => "stream did not contain valid UTF-8"
  | .zeroInPath => "file name contained an unexpected NUL byte"
  | .zeroInArgument => "nul byte found in provided data"
  | .other message => message

abbrev Name := List UInt8

/-- Where an entry is: the names on the way to it, the innermost first. The way begins in the
working directory. At the beginning it may leave it, by the mark of the root or by marks for
the directories above; no entry has a mark as its name. -/
abbrev Location := List Name

namespace Location

def rootMark : Name := []

def upMark : Name := [0x2e, 0x2e]

def root : Location := [rootMark]

/-- The directory above a directory. Nothing is above the root. -/
def parent : Location → Location
  | [] => [upMark]
  | name :: rest =>
    if name = rootMark then name :: rest
    else if name = upMark then upMark :: name :: rest
    else rest

end Location

inductive Entry where
  | file (content : List UInt8)
  /-- The file of a program that can be started. -/
  | program (content : List UInt8 := [])
  /-- The file of a program that has been written over: it may still be started. -/
  | overwritten (content : List UInt8)
  /-- A device that takes everything and holds nothing. -/
  | sink
  /-- A device that has no room for anything, and holds zero bytes without end. -/
  | full
  | directory
  | link (target : Path)
  deriving DecidableEq, Repr

namespace Entry

/-- The entry that is there after something has been written where there was one, or none.
What might be started may still be, and a device stays what it is. -/
def refill : Option Entry → List UInt8 → Entry
  | some (.program _), content | some (.overwritten _), content => .overwritten content
  | some .sink, _ => .sink
  | some .full, _ => .full
  | _, content => .file content

def isRegular : Entry → Bool
  | .file _ | .program _ | .overwritten _ => true
  | .sink | .full | .directory | .link _ => false

def isDevice : Entry → Bool
  | .sink | .full => true
  | .file _ | .program _ | .overwritten _ | .directory | .link _ => false

/-- A file that may be started, even if it holds no program. -/
def isStartable : Entry → Bool
  | .program _ | .overwritten _ => true
  | .file _ | .sink | .full | .directory | .link _ => false

end Entry

/-- Entries, each under its location. The root, the working directory and those above it
need none. -/
structure FileTree where
  entries : List (Location × Entry)
  /-- No location has two entries. -/
  distinct : (entries.map Prod.fst).Nodup
  deriving DecidableEq, Repr

namespace FileTree

def empty : FileTree := ⟨[], .nil⟩

instance : EmptyCollection FileTree := ⟨empty⟩
instance : Inhabited FileTree := ⟨empty⟩

def get? (t : FileTree) (location : Location) : Option Entry := t.entries.lookup location

def keep (t : FileTree) (test : Location → Bool) : FileTree :=
  ⟨t.entries.filter fun entry => test entry.1, t.distinct.sublist (List.filter_sublist.map _)⟩

theorem not_mem_keep (t : FileTree) (location : Location) :
    location ∉ (t.keep (· ≠ location)).entries.map Prod.fst := by
  simp [keep]

def set (t : FileTree) (location : Location) (entry : Entry) : FileTree :=
  ⟨(location, entry) :: (t.keep (· ≠ location)).entries,
    List.nodup_cons.2 ⟨t.not_mem_keep location, (t.keep _).distinct⟩⟩

def erase (t : FileTree) (location : Location) : FileTree := t.keep (· ≠ location)

/-- Dropping locations changes nothing at the others. -/
theorem get?_keep (t : FileTree) (test : Location → Bool) (location : Location) :
    (t.keep test).get? location = if test location then t.get? location else none := by
  simp only [get?, keep]
  induction t.entries with
  | nil => simp
  | cons entry rest ih =>
    obtain ⟨place, entry⟩ := entry
    by_cases isPlace : location = place
    · subst isPlace
      cases kept : test location
      · simpa [kept] using ih
      · simp [kept]
    · have elsewhere : (location == place) = false := by simpa using isPlace
      cases kept : test place
      · simpa [kept, List.lookup_cons, elsewhere] using ih
      · simpa [kept, List.lookup_cons, elsewhere] using ih

@[simp] theorem get?_set_self (t : FileTree) (location : Location) (entry : Entry) :
    (t.set location entry).get? location = some entry := by
  simp [get?, set]

theorem get?_set_of_ne (t : FileTree) {location other : Location} (h : other ≠ location)
    (entry : Entry) : (t.set location entry).get? other = t.get? other := by
  have differ : (other == location) = false := by simpa using h
  have kept := t.get?_keep (· ≠ location) other
  simpa [get?, set, List.lookup_cons, differ, h] using kept

@[simp] theorem get?_erase_self (t : FileTree) (location : Location) :
    (t.erase location).get? location = none := by
  simp [erase, get?_keep]

inductive Step where
  | here
  | up
  | down (name : Name)
  /-- A slash at the end of a path, which asks for a directory. -/
  | close
  deriving DecidableEq, Repr

def Step.ofName : Name → Step
  | [] => .here
  | [0x2e] => .here
  | [0x2e, 0x2e] => .up
  | name => .down name

inductive Found where
  | directory (location : Location)
  /-- A file, a program or a device. -/
  | entry (location : Location) (entry : Entry)
  /-- No entry has the last name of the path, but it could have one there. -/
  | vacant (location : Location)
  deriving DecidableEq, Repr

def isAbsolute (p : Path) : Bool := p.bytes.head? = some Path.slash

def names (p : Path) : List Name := (p.bytes.splitOn Path.slash).filter fun name => !name.isEmpty

def steps (p : Path) : List Step :=
  (names p).map Step.ofName ++ (if p.endsWithSlash then [.close] else [])

/-- Where a path starts that is met in a directory. -/
def origin (p : Path) (location : Location) : Location :=
  if isAbsolute p then .root else location

def longestName : Nat := 255

/-- What is to be done at the end of a path. -/
inductive Purpose where
  | look
  /-- A file is to be there, new or not. So the path must not ask for a directory. -/
  | create
  deriving DecidableEq, Repr

/-- A step is the last one, and asks for a directory. -/
def asksForDirectory (rest : List Step) : Bool := !rest.isEmpty && rest.all (· = .close)

/-- Go along steps from a directory. Links are followed: `jump` goes on from a directory
along what a link stands for. -/
def descend (t : FileTree) (purpose : Purpose)
    (jump : Location → List Step → Except Fault Found) :
    Location → List Step → Except Fault Found
  | here, [] => .ok (.directory here)
  | here, .here :: rest | here, .close :: rest => descend t purpose jump here rest
  | here, .up :: rest => descend t purpose jump (Location.parent here) rest
  | here, .down name :: rest =>
    if purpose = .create && asksForDirectory rest then .error .isDirectory
    else if longestName < name.length then .error .nameTooLong
    else match t.get? (name :: here) with
      | none => if rest.isEmpty then .ok (.vacant (name :: here)) else .error .notFound
      | some (.link target) => jump (origin target here) (steps target ++ rest)
      | some .directory => descend t purpose jump (name :: here) rest
      | some entry =>
        if rest.isEmpty then .ok (.entry (name :: here) entry) else .error .notDirectory

def mostLinks : Nat := 40

def walkFrom (t : FileTree) (purpose : Purpose) :
    Nat → Location → List Step → Except Fault Found
  | 0 => t.descend purpose fun _ _ => .error .linkLoop
  | links + 1 => t.descend purpose (t.walkFrom purpose links)

def longestPath : Nat := 4095

/-- Why a path leads nowhere in any tree. -/
def pathFault? (p : Path) : Option Fault :=
  if p.bytes.contains 0 then some .zeroInPath
  else if longestPath < p.bytes.length then some .nameTooLong
  else if p.bytes.isEmpty then some .notFound
  else none

def walk (t : FileTree) (purpose : Purpose) (p : Path) : Except Fault Found :=
  match pathFault? p with
  | some fault => .error fault
  | none => t.walkFrom purpose mostLinks (origin p []) (steps p)

def read (t : FileTree) (p : Path) : Except Fault (List UInt8) := do
  match ← t.walk .look p with
  | .entry _ (.file content) | .entry _ (.program content) | .entry _ (.overwritten content) =>
    .ok content
  | .entry _ .full => .error .outOfMemory
  | .entry _ _ => .ok []
  | .directory _ => .error .isDirectory
  | .vacant _ => .error .notFound

def readText (t : FileTree) (p : Path) : Except Fault String := do
  match Text.Utf8.decode? (← t.read p) with
  | some s => .ok (String.ofList s)
  | none => .error .notText

/-- A path leads to a regular file, through links. -/
def isFile (t : FileTree) (p : Path) : Bool :=
  match t.walk .look p with
  | .ok (.entry _ entry) => entry.isRegular
  | _ => false

/-- A path leads to something, through links. -/
def isPresent (t : FileTree) (p : Path) : Bool :=
  match t.walk .look p with
  | .ok (.entry _ _) | .ok (.directory _) => true
  | _ => false

def directoryAt (t : FileTree) (p : Path) (way : List Step) : Except Fault Location := do
  match ← t.walkFrom .look mostLinks (origin p []) way with
  | .directory location => .ok location
  | .entry _ _ => .error .notDirectory
  | .vacant _ => .error .notFound

/-- Where the last name of a path is to be looked up, that name, and whether a slash
follows it. A path whose last step is no name has none. -/
structure Aim where
  directory : Location
  name : Option Name
  slashed : Bool
  deriving DecidableEq, Repr

def aim (t : FileTree) (p : Path) : Except Fault Aim :=
  match pathFault? p, (names p).reverse with
  | some fault, _ => .error fault
  | none, [] => .ok ⟨origin p [], none, true⟩
  | none, last :: before => do
    let directory ← t.directoryAt p (before.reverse.map Step.ofName)
    match Step.ofName last with
    | .down name =>
      if longestName < name.length then .error .nameTooLong
      else .ok ⟨directory, some name, p.endsWithSlash⟩
    | _ => .ok ⟨directory, none, p.endsWithSlash⟩

/-- Where a file is opened for writing: an existing file, or a free name in an existing
directory. -/
def openForWriting (t : FileTree) (p : Path) : Except Fault Location := do
  match ← t.walk .create p with
  | .entry location _ | .vacant location => .ok location
  | .directory _ => .error .isDirectory

def fill (t : FileTree) (location : Location) (content : List UInt8) : FileTree :=
  t.set location (.refill (t.get? location) content)

@[simp] theorem get?_fill_self (t : FileTree) (location : Location) (content : List UInt8) :
    (t.fill location content).get? location = some (.refill (t.get? location) content) := by
  simp [fill]

/-- A file that has been opened for writing: it is there, and holds nothing. -/
def truncate (t : FileTree) (location : Location) : FileTree := t.fill location []

def write (t : FileTree) (p : Path) (content : List UInt8) : Except Fault FileTree := do
  let location ← t.openForWriting p
  if t.get? location = some .full && !content.isEmpty then .error .noSpace
  else pure (t.fill location content)

/-- Remove a file. A link is removed itself; a directory is not removed. -/
def remove (t : FileTree) (p : Path) : Except Fault FileTree := do
  match ← t.aim p with
  | ⟨directory, some name, slashed⟩ =>
    match t.get? (name :: directory) with
    | none => .error .notFound
    | some .directory => .error .isDirectory
    | some _ =>
      if slashed then .error .notDirectory else .ok (t.erase (name :: directory))
  | ⟨_, none, _⟩ => .error .isDirectory

def namesIn (t : FileTree) (directory : Location) : List Name :=
  t.entries.filterMap fun
    | (name :: up, _) => if up = directory then some name else none
    | ([], _) => none

/-- The names in a directory, in no particular order. -/
def list (t : FileTree) (p : Path) : Except Fault (List Name) := do
  match ← t.walk .look p with
  | .directory location => .ok (t.namesIn location)
  | .entry _ _ => .error .notDirectory
  | .vacant _ => .error .notFound

def makeDirectory (t : FileTree) (p : Path) (way : List Step) : FileTree :=
  match t.walkFrom .look mostLinks (origin p []) way with
  | .ok (.vacant location) => t.set location .directory
  | _ => t

def makeDirectories (t : FileTree) (p : Path) (way : List Step) : FileTree :=
  (List.range (way.length + 1)).foldl (fun t n => t.makeDirectory p (way.take n)) t

/-- The tree with an entry at a path, and with the directories on the way to it. A file is
written through links, a link is put in place of what was there. -/
def install (t : FileTree) (p : Path) (entry : Entry) : FileTree :=
  match entry with
  | .directory => t.makeDirectories p (steps p)
  | _ =>
    let t := t.makeDirectories p ((names p).dropLast.map Step.ofName)
    match entry, t.aim p, t.openForWriting p with
    | .link _, .ok ⟨directory, some name, _⟩, _ => t.set (name :: directory) entry
    | .link _, _, _ => t
    | .file content, _, .ok location => t.fill location content
    | _, _, .ok location => t.set location entry
    | _, _, .error _ => t

/-- The tree without what a path leads to and without all that is under it. -/
def uninstall (t : FileTree) (p : Path) : FileTree :=
  match t.aim p with
  | .ok ⟨directory, some name, _⟩ => t.keep fun other => !(name :: directory).isSuffixOf other
  | _ => t

/-- What every system has. -/
def standing : List (String × Entry) :=
  [("/dev/null", .sink), ("/dev/full", .full)] ++
    ["/bin", "/boot", "/etc", "/home", "/lib", "/media", "/mnt", "/opt", "/root", "/run", "/sbin",
      "/srv", "/tmp", "/usr", "/var"].map fun name => (name, .directory)

/-- The tree around a working directory that holds nothing. -/
def bare : FileTree := standing.foldl (fun t (name, entry) => t.install (.ofString name) entry) ∅

end FileTree
end Multipath
