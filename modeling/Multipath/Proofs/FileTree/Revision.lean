import Multipath.Proofs.FileTree.Opening
import Multipath.Proofs.FileTree.Writing

/-! Two versions of a file. Two trees that have a file in two versions, and are the same in all
else, cannot be told apart by where a path leads. Only who reads the file sees a difference. Writing
and removing keep the trees so, and make them the same at the place where it is done. -/
namespace Multipath

/-- Two files from which programs are started alike: from plain files none are, a program is what it
is, and files that were written over name the same interpreter, or none. -/
inductive Entry.Kin : Entry → Entry → Prop where
  | file (content other : List UInt8) : Kin (.file content) (.file other)
  | program (content other : List UInt8) : Kin (.program content) (.program other)
  | overwritten {content other : List UInt8}
    (interpreters : FileTree.interpreter? content = FileTree.interpreter? other) :
    Kin (.overwritten content) (.overwritten other)

structure Revision where
  place : Location
  old : Entry
  new : Entry
  kin : old.Kin new

namespace Entry.Kin

variable {one other : Entry} (kin : one.Kin other)

include kin

theorem isRegular : one.isRegular = true ∧ other.isRegular = true := by
  cases kin <;> exact ⟨rfl, rfl⟩

theorem ne_full : one ≠ .full ∧ other ≠ .full := by
  cases kin <;> exact ⟨nofun, nofun⟩

theorem isStartable : other.isStartable = one.isStartable := by
  cases kin <;> rfl

theorem refill (content : List UInt8) :
    Entry.refill (some other) content = Entry.refill (some one) content := by
  cases kin <;> rfl

end Entry.Kin

namespace FileTree

variable {r : Revision} {t u : FileTree} {place : Location} {p : Path} {purpose : Purpose}
  {content : List UInt8}

/-- The second tree may have the new version of the file where the first one has the old version. In
all else they are the same. -/
def Revised (r : Revision) (t u : FileTree) : Prop :=
  ∀ location, u.get? location = t.get? location ∨
    location = r.place ∧ t.get? location = some r.old ∧ u.get? location = some r.new

theorem revised_set (present : t.get? r.place = some r.old) :
    Revised r t (t.set r.place r.new) := by
  intro location
  by_cases isPlace : location = r.place
  · subst isPlace
    exact .inr ⟨rfl, present, t.get?_set_self ..⟩
  · exact .inl (t.get?_set_of_ne isPlace _)

section Walk

def EndAlike (r : Revision) (one other : Except Fault Found) : Prop :=
  other = one ∨ one = .ok (.entry r.place r.old) ∧ other = .ok (.entry r.place r.new)

theorem descend_revised (revised : Revised r t u)
    {jump jump' : Location → List Step → Except Fault Found} {here : Location} {way : List Step}
    (jumps : ∀ here way, EndAlike r (jump here way) (jump' here way)) :
    EndAlike r (t.descend purpose jump here way) (u.descend purpose jump' here way) := by
  induction way generalizing here with
  | nil => exact .inl rfl
  | cons step way ih =>
    cases step with
    | here => exact ih
    | close => exact ih
    | up => exact ih
    | down name =>
      rw [descend, descend]
      split
      · exact .inl rfl
      · split
        · exact .inl rfl
        · rcases revised (name :: here) with unchanged | ⟨isPlace, old, new⟩
          · rw [unchanged]
            cases t.get? (name :: here) with
            | none => exact .inl rfl
            | some entry =>
              cases entry with
              | link target => exact jumps _ _
              | directory => exact ih
              | file | program | overwritten | sink | full => exact .inl rfl
          · -- A file ends the way, whatever its version.
            rw [old, new, isPlace]
            obtain ⟨place, old, new, kin⟩ := r
            cases kin <;>
            · dsimp only
              split
              · exact .inr ⟨rfl, rfl⟩
              · exact .inl rfl

theorem walkFrom_revised (revised : Revised r t u) (links : Nat) (here : Location)
    (way : List Step) :
    EndAlike r (t.walkFrom purpose links here way) (u.walkFrom purpose links here way) := by
  induction links generalizing here way with
  | zero => exact descend_revised revised fun _ _ => .inl rfl
  | succ links ih => exact descend_revised revised ih

theorem walk_revised (revised : Revised r t u) (purpose : Purpose) (p : Path) :
    EndAlike r (t.walk purpose p) (u.walk purpose p) := by
  unfold walk
  split
  · exact .inl rfl
  · exact walkFrom_revised revised ..

theorem get?_of_walk {entry : Entry} (led : t.walk purpose p = .ok (.entry place entry)) :
    t.get? place = some entry := by
  unfold walk at led
  split at led
  · contradiction
  · exact get?_of_foundAt (foundAt_of_walkFrom led rfl).1.symm

end Walk

section Read

/-- A path leads to no file that the two trees have in different versions. -/
def OneVersion (t u : FileTree) (p : Path) : Prop :=
  ∀ location entry, t.walk .look p = .ok (.entry location entry) →
    u.get? location = t.get? location

theorem walk_of_oneVersion (revised : Revised r t u) (single : OneVersion t u p) :
    u.walk .look p = t.walk .look p := by
  rcases walk_revised revised .look p with unchanged | ⟨old, new⟩
  · exact unchanged
  · have oneEntry := single _ _ old
    rw [get?_of_walk old, get?_of_walk new, Option.some.injEq] at oneEntry
    rw [old, new, oneEntry]

theorem read_of_oneVersion (revised : Revised r t u) (single : OneVersion t u p) :
    u.read p = t.read p := by
  rw [read, read, walk_of_oneVersion revised single]

theorem readText_of_oneVersion (revised : Revised r t u) (single : OneVersion t u p) :
    u.readText p = t.readText p := by
  rw [readText, readText, read_of_oneVersion revised single]

theorem isFile_revised (revised : Revised r t u) (p : Path) : u.isFile p = t.isFile p := by
  rcases walk_revised revised .look p with unchanged | ⟨old, new⟩
  · rw [isFile, isFile, unchanged]
  · rw [isFile, isFile, old, new]
    exact r.kin.isRegular.2.trans r.kin.isRegular.1.symm

theorem namesIn_revised (revised : Revised r t u) (place : Location) :
    (t.namesIn place).Perm (u.namesIn place) := by
  refine (List.perm_ext_iff_of_nodup (t.nodup_namesIn place) (u.nodup_namesIn place)).mpr
    fun name => ?_
  rw [mem_namesIn_iff, mem_namesIn_iff]
  rcases revised (name :: place) with unchanged | ⟨-, old, new⟩
  · rw [unchanged]
  · simp [old, new]

theorem list_revised (revised : Revised r t u) (p : Path) :
    Alike List.Perm (t.list p) (u.list p) := by
  rw [list, list]
  rcases walk_revised revised .look p with unchanged | ⟨old, new⟩
  · rw [unchanged]
    cases t.walk .look p with
    | error cause => exact .error cause
    | ok found =>
      cases found with
      | directory place => exact .ok (namesIn_revised revised place)
      | entry | vacant => exact .error _
  · rw [old, new]
    exact .error _

end Read

section Write

theorem openForWriting_revised (revised : Revised r t u) (p : Path) :
    u.openForWriting p = t.openForWriting p := by
  rw [openForWriting_eq_placed, openForWriting_eq_placed]
  rcases walk_revised revised .create p with unchanged | ⟨old, new⟩
  · rw [unchanged]
  · rw [old, new]
    rfl

theorem directoryAt_revised (revised : Revised r t u) (p : Path) (way : List Step) :
    u.directoryAt p way = t.directoryAt p way := by
  rw [directoryAt, directoryAt]
  rcases walkFrom_revised revised mostLinks (origin p []) way with unchanged | ⟨old, new⟩
  · rw [unchanged]
  · rw [old, new]
    rfl

theorem aim_revised (revised : Revised r t u) (p : Path) : u.aim p = t.aim p := by
  simp only [aim.eq_def, directoryAt_revised revised]

theorem erase_revised (revised : Revised r t u) (place : Location) :
    Revised r (t.erase place) (u.erase place) := by
  intro location
  by_cases isPlace : location = place
  · simp [isPlace]
  · simpa [erase, get?_keep, isPlace] using revised location

/-- What is written makes the trees the same at its place. -/
theorem get?_fill_revised (revised : Revised r t u) (place : Location) (content : List UInt8) :
    (u.fill place content).get? place = (t.fill place content).get? place := by
  rw [get?_fill_self, get?_fill_self]
  rcases revised place with unchanged | ⟨-, old, new⟩
  · rw [unchanged]
  · rw [old, new, r.kin.refill]

theorem fill_revised (revised : Revised r t u) (place : Location) (content : List UInt8) :
    Revised r (t.fill place content) (u.fill place content) := by
  intro location
  by_cases isPlace : location = place
  · exact .inl (isPlace ▸ get?_fill_revised revised place content)
  · rw [t.agreeOff_fill place content location isPlace,
      u.agreeOff_fill place content location isPlace]
    exact revised location

/-- A file is removed whatever its version. -/
theorem remove_revised (revised : Revised r t u) (p : Path) :
    Alike (Revised r) (t.remove p) (u.remove p) := by
  rw [remove, remove, aim_revised revised]
  cases t.aim p with
  | error cause => exact .error cause
  | ok aim =>
    obtain ⟨directory, _ | name, slashed⟩ := aim
    · exact .error _
    · have erased := erase_revised revised (name :: directory)
      have kin := r.kin
      simp only [bind, Except.bind]
      rcases revised (name :: directory) with unchanged | ⟨-, old, new⟩
      · rw [unchanged]
        repeat' split
        all_goals first | exact .error _ | exact .ok erased
      · rw [old, new]
        generalize r.old = one, r.new = other at kin
        cases kin <;> cases slashed <;> first | exact .error _ | exact .ok erased

/-- A file that a path leads to is in one version once it was opened and written. -/
theorem oneVersion_of_openForWriting (revised : Revised r t u)
    (opened : t.openForWriting p = .ok place) (content : List UInt8) :
    OneVersion (t.fill place content) (u.fill place content) p := by
  intro location entry led
  cases (walk_fill opened content).symm.trans led
  exact get?_fill_revised revised place content

/-- Writing brings no other version. -/
theorem OneVersion.fill (single : OneVersion t u p) (revised : Revised r t u) (place : Location)
    (content : List UInt8) : OneVersion (t.fill place content) (u.fill place content) p := by
  intro location entry led
  by_cases isPlace : location = place
  · exact isPlace ▸ get?_fill_revised revised place content
  · -- What is elsewhere was found there before.
    have apart : (Found.entry location entry).place? ≠ some place := by
      simpa [Found.place?] using isPlace
    have before : t.walk .look p = .ok (.entry location entry) :=
      walk_of_agreeOff (t.agreeOff_fill place content).symm (t.isEnd_fill place content) apart led
    rw [t.agreeOff_fill place content location isPlace,
      u.agreeOff_fill place content location isPlace]
    exact single location entry before

/-- What becomes of two trees: they differ as before, and what was in one version is so still. -/
structure StillRevised (r : Revision) (t u t' u' : FileTree) : Prop where
  tree : Revised r t' u'
  single : ∀ p, OneVersion t u p → OneVersion t' u' p

theorem stillRevised_fill (revised : Revised r t u) (place : Location) (content : List UInt8) :
    StillRevised r t u (t.fill place content) (u.fill place content) :=
  ⟨fill_revised revised place content, fun _ single => single.fill revised place content⟩

theorem write_revised (revised : Revised r t u) (p : Path) (content : List UInt8) :
    Alike (StillRevised r t u) (t.write p content) (u.write p content) := by
  rw [write, write, openForWriting_revised revised]
  cases t.openForWriting p with
  | error cause => exact .error cause
  | ok place =>
    have full : (u.get? place = some .full) = (t.get? place = some .full) := by
      rcases revised place with unchanged | ⟨-, old, new⟩
      · rw [unchanged]
      · simp [old, new, r.kin.ne_full]
    simp only [bind, Except.bind, full]
    split
    · exact .error _
    · exact .ok (stillRevised_fill revised place content)

/-- What was removed is in no version. -/
theorem oneVersion_of_remove {t' : FileTree} (removed : t.remove p = .ok t') (u : FileTree) :
    OneVersion t' u p :=
  fun _ _ led => absurd led (walk_of_remove removed)

theorem oneVersion_of_remove_notFound (nothing : t.remove p = .error .notFound) (u : FileTree) :
    OneVersion t u p :=
  fun _ _ led => absurd led (walk_of_remove_notFound nothing)

end Write

section Programs

def SameOrKin (one other : Entry) : Prop := other = one ∨ one.Kin other

def SamePlace (one other : Location × Entry) : Prop :=
  other.1 = one.1 ∧ SameOrKin one.2 other.2

theorem startableAt_revised (revised : Revised r t u) (p : Path) :
    Alike SamePlace (t.startableAt p) (u.startableAt p) := by
  rw [startableAt, startableAt]
  rcases walk_revised revised .look p with unchanged | ⟨old, new⟩
  · rw [unchanged]
    cases t.walk .look p with
    | error cause => exact .error cause
    | ok found =>
      cases found with
      | directory | vacant => exact .error _
      | entry place file =>
        simp only [bind, Except.bind]
        split
        · exact .ok ⟨rfl, .inl rfl⟩
        · exact .error _
  · simp only [old, new, bind, Except.bind, r.kin.isStartable]
    split
    · exact .ok ⟨rfl, .inr r.kin⟩
    · exact .error _

theorem startable_revised (revised : Revised r t u) (p : Path) :
    Alike SamePlace (t.startable p) (u.startable p) := by
  unfold startable
  repeat' split
  all_goals first | exact .error _ | exact startableAt_revised revised p

/-- Whether a program runs does not depend on its version. -/
theorem loadFault?_revised (revised : Revised r t u) (interpreters : Nat) {one other : Entry}
    (alike : SameOrKin one other) :
    u.loadFault? interpreters other = t.loadFault? interpreters one := by
  induction interpreters generalizing one other with
  | zero =>
    rcases alike with rfl | kin
    · cases other <;> simp only [loadFault?]
    · cases kin <;> simp only [loadFault?]
  | succ interpreters ih =>
    -- What counts of a file that was written over is the interpreter that it names.
    have named {content content' : List UInt8}
        (sameInterpreter : interpreter? content = interpreter? content') :
        u.loadFault? (interpreters + 1) (.overwritten content') =
          t.loadFault? (interpreters + 1) (.overwritten content) := by
      rw [loadFault?, loadFault?, sameInterpreter]
      cases interpreter? content' with
      | none => rfl
      | some path =>
        dsimp only
        rcases (startableAt_revised revised path).cases with
          ⟨cause, failed, failed'⟩ | ⟨one, other, found, found', -, kinOfFound⟩
        · rw [failed, failed']
        · rw [found, found']
          exact ih kinOfFound
    rcases alike with rfl | kin
    · cases other with
      | overwritten content => exact named rfl
      | file | program | sink | full | directory | link => simp only [loadFault?]
    · cases kin with
      | file | program => simp only [loadFault?]
      | overwritten interpreters => exact named interpreters

end Programs

end FileTree
end Multipath
