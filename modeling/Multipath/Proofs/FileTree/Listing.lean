import Mathlib.Data.List.Nodup
import Multipath.Proofs.Except
import Multipath.Proofs.FileTree
import Multipath.Proofs.Text

/-! The names in a directory, and the paths that they make with a path of the directory. A directory
lists each of its entries once, in an order that says nothing: whatever a path leads to is the same
in a tree whose entries are in another order. The path of a name in a directory leads to the
directory first, and goes on from there. -/
namespace Multipath.FileTree

variable {t u : FileTree} {here place : Location} {way rest : List Step} {p directory : Path}
  {name : Name} {entry : Entry}

section Entries

theorem get?_eq_some_iff {location : Location} :
    t.get? location = some entry ↔ (location, entry) ∈ t.entries := by
  rw [get?, List.lookup_eq_some_iff]
  constructor
  · rintro ⟨before, after, split, -⟩
    rw [split]
    exact List.mem_append_right _ List.mem_cons_self
  · intro member
    obtain ⟨before, after, split⟩ := List.append_of_mem member
    refine ⟨before, after, split, fun other earlier => ?_⟩
    have apart := t.distinct
    rw [split, List.map_append, List.map_cons] at apart
    have ne := (List.nodup_append.mp apart).2.2 other.1 (List.mem_map_of_mem earlier) location
      List.mem_cons_self
    simpa using ne.symm

theorem mem_namesIn_iff :
    name ∈ t.namesIn place ↔ ∃ entry, t.get? (name :: place) = some entry := by
  simp only [namesIn, List.mem_filterMap, get?_eq_some_iff]
  constructor
  · rintro ⟨⟨location, entry⟩, member, named⟩
    cases location with
    | nil => contradiction
    | cons first up =>
      simp only [Option.ite_none_right_eq_some, Option.some.injEq] at named
      obtain ⟨rfl, rfl⟩ := named
      exact ⟨entry, member⟩
  · rintro ⟨entry, member⟩
    exact ⟨_, member, by simp⟩

/-- A directory can be listed if its path leads to a directory. -/
theorem list_eq_ok_iff {names : List Name} :
    t.list directory = .ok names ↔
      ∃ place, t.walk .look directory = .ok (.directory place) ∧ names = t.namesIn place := by
  cases led : t.walk .look directory with
  | error fault => simp [list, led, bind, Except.bind]
  | ok found => cases found <;> simp [list, led, bind, Except.bind, eq_comm]

theorem isFile_iff : t.isFile p = true ↔
    ∃ location entry, t.walk .look p = .ok (.entry location entry) ∧ entry.isRegular = true := by
  cases led : t.walk .look p with
  | error fault => simp [isFile, led]
  | ok found => cases found <;> simp [isFile, led]

theorem nodup_namesIn (t : FileTree) (place : Location) : (t.namesIn place).Nodup := by
  have byLocation : t.namesIn place = (t.entries.map Prod.fst).filterMap fun
      | first :: up => if up = place then some first else none
      | [] => none := by
    rw [namesIn, List.filterMap_map]
    refine List.filterMap_congr fun entry _ => ?_
    obtain ⟨location, kind⟩ := entry
    cases location <;> rfl
  rw [byLocation]
  refine t.distinct.filterMap fun one other found atOne atOther => ?_
  cases one <;> cases other <;> simp_all

end Entries

section Order

variable {purpose : Purpose} {jump jump' : Location → List Step → Except Fault Found}

/-- Going along a way looks at the entries of a tree, and at nothing else of it. -/
theorem descend_congr (agree : ∀ location, u.get? location = t.get? location)
    (jumps : ∀ here way, jump' here way = jump here way) :
    u.descend purpose jump' here way = t.descend purpose jump here way := by
  induction way generalizing here with
  | nil => rfl
  | cons step way ih =>
    cases step with
    | here => exact ih
    | close => exact ih
    | up => exact ih
    | down name => simp only [descend, agree, jumps, ih]

theorem walkFrom_congr (agree : ∀ location, u.get? location = t.get? location) (links : Nat) :
    u.walkFrom purpose links here way = t.walkFrom purpose links here way := by
  induction links generalizing here way with
  | zero => exact descend_congr agree fun _ _ => rfl
  | succ links ih => exact descend_congr agree fun _ _ => ih

variable (perm : u.entries.Perm t.entries)

include perm

theorem get?_of_perm (location : Location) : u.get? location = t.get? location := by
  apply Option.ext
  intro entry
  rw [get?_eq_some_iff, get?_eq_some_iff, perm.mem_iff]

theorem walk_of_perm (purpose : Purpose) (p : Path) : u.walk purpose p = t.walk purpose p := by
  unfold walk
  split
  · rfl
  · exact walkFrom_congr (get?_of_perm perm) mostLinks

theorem readText_of_perm (p : Path) : u.readText p = t.readText p := by
  rw [readText, read, walk_of_perm perm, readText, read]

/-- A directory lists the same names, if it can be listed. -/
theorem list_of_perm (directory : Path) :
    Alike List.Perm (t.list directory) (u.list directory) := by
  rw [list, list, walk_of_perm perm]
  cases t.walk .look directory with
  | error cause => exact .error cause
  | ok found =>
    cases found with
    | directory place => exact .ok (perm.symm.filterMap _)
    | entry | vacant => exact .error _

end Order

section Way

variable {jump : Location → List Step → Except Fault Found}

/-- What is to be done at the end of a way makes no difference before its last part. -/
def Open (purpose : Purpose) (rest : List Step) : Prop :=
  purpose = .look ∨ ∃ step ∈ rest, step ≠ .close

theorem Open.not_asks {purpose : Purpose} (unasking : Open purpose rest) (way : List Step) :
    ¬(purpose = .create && asksForDirectory (way ++ rest)) = true := by
  rcases unasking with rfl | ⟨step, member, further⟩
  · simp
  · have notAll : ¬(way ++ rest).all (· = .close) = true := by
      rw [List.all_eq_true]
      intro closing
      exact further (of_decide_eq_true (closing step (List.mem_append_right way member)))
    simp [asksForDirectory, notAll]

/-- A way that leads into a directory goes through directories, or along a link. So does all that
begins with it. -/
theorem descend_append (led : t.descend .look jump here way = .ok (.directory place)) :
    (∀ purpose jump' rest, Open purpose rest →
      t.descend purpose jump' here (way ++ rest) = t.descend purpose jump' place rest) ∨
    ∃ here' way', jump here' way' = .ok (.directory place) ∧
      ∀ purpose jump' rest, Open purpose rest →
        t.descend purpose jump' here (way ++ rest) = jump' here' (way' ++ rest) := by
  induction way generalizing here with
  | nil =>
    cases led
    exact .inl fun _ _ _ _ => rfl
  | cons step way ih =>
    cases step with
    | here => exact ih led
    | close => exact ih led
    | up => exact ih led
    | down name =>
      obtain ⟨allowed, ⟨-, isEntry, -⟩ | ⟨present, led⟩ | ⟨target, present, led⟩⟩ :=
        of_descend_down led
      · -- Where the path ends there is a place, but the way led into a directory.
        have somewhere := t.place?_foundAt (name :: here)
        rw [← isEntry] at somewhere
        contradiction
      · have enter {purpose : Purpose} {jump' : Location → List Step → Except Fault Found}
            {rest : List Step} (free : Open purpose rest) :
            t.descend purpose jump' here (.down name :: way ++ rest) =
              t.descend purpose jump' (name :: here) (way ++ rest) :=
          descend_directory ⟨free.not_asks way, allowed.2⟩ present
        rcases ih led with within | ⟨here', way', jumped, along⟩
        · exact .inl fun purpose jump' rest free => (enter free).trans (within _ _ _ free)
        · exact .inr ⟨here', way', jumped,
            fun purpose jump' rest free => (enter free).trans (along _ _ _ free)⟩
      · refine .inr ⟨origin target here, steps target ++ way, led,
          fun purpose jump' rest free => ?_⟩
        rw [List.append_assoc]
        exact descend_link ⟨free.not_asks way, allowed.2⟩ present

/-- Behind a way into a directory one goes on from there, with the links that are left. -/
theorem walkFrom_append {links : Nat}
    (led : t.walkFrom .look links here way = .ok (.directory place)) :
    ∃ left ≤ links, ∀ purpose rest, Open purpose rest →
      t.walkFrom purpose links here (way ++ rest) = t.walkFrom purpose left place rest := by
  induction links generalizing here way with
  | zero =>
    rcases descend_append led with within | ⟨_, _, jumped, -⟩
    · exact ⟨0, le_rfl, fun purpose rest free => within _ _ _ free⟩
    · contradiction
  | succ links ih =>
    rcases descend_append led with within | ⟨_, _, jumped, along⟩
    · exact ⟨links + 1, le_rfl, fun purpose rest free => within _ _ _ free⟩
    · obtain ⟨left, fewer, goesOn⟩ := ih jumped
      refine ⟨left, fewer.trans (Nat.le_succ links), fun purpose rest free => ?_⟩
      exact (along _ _ _ free).trans (goesOn _ _ free)

theorem exists_jump (t : FileTree) (purpose : Purpose) (links : Nat) :
    ∃ jump, t.walkFrom purpose links = t.descend purpose jump := by
  cases links <;> exact ⟨_, rfl⟩

theorem descend_of_closed
    (jumps : ∀ here way, jump here (way ++ [.close]) = .ok (.directory place) →
      jump here way = .ok (.directory place))
    (led : t.descend .look jump here (way ++ [.close]) = .ok (.directory place)) :
    t.descend .look jump here way = .ok (.directory place) := by
  induction way generalizing here with
  | nil => exact led
  | cons step way ih =>
    cases step with
    | here => exact ih led
    | close => exact ih led
    | up => exact ih led
    | down name =>
      obtain ⟨allowed, ⟨ended, -, -⟩ | ⟨present, led⟩ | ⟨target, present, led⟩⟩ :=
        of_descend_down led
      · simp at ended
      · rw [descend_directory ⟨by simp, allowed.2⟩ present]
        exact ih led
      · rw [descend_link ⟨by simp, allowed.2⟩ present]
        exact jumps _ _ (by rwa [List.append_assoc])

/-- A slash at the end of a way into a directory makes no difference. -/
theorem walkFrom_of_closed {links : Nat}
    (led : t.walkFrom .look links here (way ++ [.close]) = .ok (.directory place)) :
    t.walkFrom .look links here way = .ok (.directory place) := by
  induction links generalizing here way with
  | zero => exact descend_of_closed (fun _ _ jumped => by contradiction) led
  | succ links ih => exact descend_of_closed (fun _ _ => ih) led

end Way

section Join

structure IsFileName (name : Name) : Prop where
  down : Step.ofName name = .down name
  single : Path.slash ∉ name
  noZero : 0 ∉ name
  short : name.length ≤ longestName

instance : DecidablePred IsFileName := fun _ =>
  decidable_of_iff (_ ∧ _ ∧ _ ∧ _)
    ⟨fun ⟨down, single, noZero, short⟩ => ⟨down, single, noZero, short⟩,
      fun proper => ⟨proper.down, proper.single, proper.noZero, proper.short⟩⟩

theorem IsFileName.ne_nil (proper : IsFileName name) : name ≠ [] := by
  rintro rfl
  have down := proper.down
  contradiction

theorem splitOn_append_slash (front back : List UInt8) :
    (front ++ Path.slash :: back).splitOn Path.slash =
      front.splitOn Path.slash ++ back.splitOn Path.slash :=
  List.splitOnP_append_cons front back (beq_self_eq_true Path.slash)

/-- The bytes of a path before a name that is put behind it. -/
theorem exists_front (directory : Path) :
    ∃ front, (∀ name, (directory.join name).bytes = front ++ name) ∧
      (directory.bytes = [] ∧ front = [] ∨
        ∃ before, front = before ++ [Path.slash] ∧
          (directory.bytes = before ∨ directory.bytes = front)) := by
  by_cases empty : directory.bytes = []
  · exact ⟨[], fun name => by simp [Path.join, empty], .inl ⟨empty, rfl⟩⟩
  · by_cases slashed : directory.endsWithSlash = true
    · refine ⟨directory.bytes, fun name => by simp [Path.join, slashed], .inr ?_⟩
      have last : directory.bytes.getLast? = some Path.slash := by
        simpa [Path.endsWithSlash] using slashed
      obtain ⟨before, bytes⟩ := List.getLast?_eq_some_iff.mp last
      exact ⟨before, bytes, .inr rfl⟩
    · exact ⟨directory.bytes ++ [Path.slash], fun name => by simp [Path.join, empty, slashed],
        .inr ⟨directory.bytes, rfl, .inl rfl⟩⟩

theorem join_injective (directory : Path) : Function.Injective directory.join := by
  intro name other equal
  obtain ⟨front, join, -⟩ := exists_front directory
  have bytes := congrArg Path.bytes equal
  rw [join, join] at bytes
  exact List.append_cancel_left bytes

theorem names_join (proper : IsFileName name) :
    names (directory.join name) = names directory ++ [name] := by
  obtain ⟨front, join, shape⟩ := exists_front directory
  have alone : name.splitOn Path.slash = [name] := List.splitOn_eq_singleton proper.single
  have kept : [name].filter (fun name => !name.isEmpty) = [name] := by
    simpa using proper.ne_nil
  rw [names, names, join]
  rcases shape with ⟨empty, rfl⟩ | ⟨before, rfl, shape⟩
  · rw [List.nil_append, alone, kept, empty]
    rfl
  · have whole : before ++ [Path.slash] ++ name = before ++ Path.slash :: name := by simp
    rw [whole, splitOn_append_slash, alone, List.filter_append, kept]
    rcases shape with shape | shape
    · rw [shape]
    · rw [shape, splitOn_append_slash, List.filter_append]
      simp

theorem steps_join (proper : IsFileName name) :
    steps (directory.join name) = (names directory).map Step.ofName ++ [.down name] := by
  have unslashed : (directory.join name).endsWithSlash = false := by
    obtain ⟨front, join, -⟩ := exists_front directory
    obtain ⟨before, last, rfl⟩ := (List.eq_nil_or_concat' name).resolve_left proper.ne_nil
    have notSlash : last ≠ Path.slash := fun isSlash => proper.single (by simp [isSlash])
    simp [Path.endsWithSlash, join, notSlash]
  rw [steps, names_join proper, unslashed, List.map_append, List.map_singleton, proper.down]
  simp

theorem origin_join (nonempty : directory.bytes ≠ []) (name : Name) :
    origin (directory.join name) here = origin directory here := by
  obtain ⟨front, join, shape⟩ := exists_front directory
  rw [origin, origin, isAbsolute, isAbsolute, join]
  rcases shape with ⟨empty, -⟩ | ⟨before, rfl, bytes | bytes⟩
  · contradiction
  · rw [← bytes, List.append_assoc, List.head?_append_of_ne_nil _ nonempty]
  · rw [bytes, List.head?_append_of_ne_nil _ (by simp)]

theorem pathFault?_eq_none_iff :
    pathFault? p = none ↔ 0 ∉ p.bytes ∧ p.bytes.length ≤ longestPath ∧ p.bytes ≠ [] := by
  unfold pathFault?
  by_cases zero : 0 ∈ p.bytes
  · simp [zero]
  · by_cases long : longestPath < p.bytes.length
    · simp [zero, long, Nat.not_le.mpr long]
    · simp [zero, long, Nat.not_lt.mp long]

theorem pathFault?_join (sound : pathFault? directory = none) (proper : IsFileName name)
    (fits : (directory.join name).bytes.length ≤ longestPath) :
    pathFault? (directory.join name) = none := by
  obtain ⟨noZero, -, -⟩ := pathFault?_eq_none_iff.mp sound
  refine pathFault?_eq_none_iff.mpr ⟨?_, fits, ?_⟩
  all_goals
    obtain ⟨front, join, shape⟩ := exists_front directory
    rw [join]
  · have before : 0 ∉ front := by
      rcases shape with ⟨-, rfl⟩ | ⟨before, rfl, bytes | bytes⟩
      · simp
      · simpa [← bytes, Path.slash] using noZero
      · rwa [← bytes]
    simpa using ⟨before, proper.noZero⟩
  · simp [proper.ne_nil]

/-- The path of a name in a directory leads into the directory, and on from there. -/
theorem walk_join (led : t.walk .look directory = .ok (.directory place)) :
    ∃ left ≤ mostLinks, ∀ name, IsFileName name →
      (directory.join name).bytes.length ≤ longestPath →
      t.walk .look (directory.join name) = t.walkFrom .look left place [.down name] := by
  unfold walk at led
  split at led
  · contradiction
  · rename_i sound
    have entered : t.walkFrom .look mostLinks (origin directory [])
        ((names directory).map Step.ofName) = .ok (.directory place) := by
      rw [steps] at led
      split at led
      · exact walkFrom_of_closed led
      · rwa [List.append_nil] at led
    obtain ⟨left, fewer, goesOn⟩ := walkFrom_append entered
    refine ⟨left, fewer, fun name proper fits => ?_⟩
    have nonempty := (pathFault?_eq_none_iff.mp sound).2.2
    rw [walk, pathFault?_join sound proper fits, origin_join nonempty, steps_join proper]
    exact goesOn .look _ (.inl rfl)

/-- What is no link is reached by its name, and is a file or is none. -/
theorem isFile_join (led : t.walk .look directory = .ok (.directory place))
    (proper : IsFileName name) (fits : (directory.join name).bytes.length ≤ longestPath)
    (present : t.get? (name :: place) = some entry) (noLink : ∀ target, entry ≠ .link target) :
    t.isFile (directory.join name) = entry.isRegular := by
  obtain ⟨left, -, goesOn⟩ := walk_join led
  obtain ⟨jump, step⟩ := t.exists_jump .look left
  rw [isFile, goesOn name proper fits, step]
  cases entry with
  | link target => exact absurd rfl (noLink target)
  | directory =>
    rw [descend_directory ⟨by simp, proper.short⟩ present]
    rfl
  | file | program | overwritten | sink | full =>
    have ends : t.IsEnd (name :: place) := by simp [IsEnd, present, Entry.isRegular, Entry.isDevice]
    rw [descend_end ends proper.short, foundAt, present]

end Join
end Multipath.FileTree
