import Multipath.Proofs.FileTree.Listing

/-! Where a file is that is opened for writing. The directory that it is to be in must be there. In
it there may be a file of its name, or none; a directory is not opened, and a link is followed. To
remove a file is something else: a link is removed itself. -/
namespace Multipath.FileTree

variable {t : FileTree} {p : Path} {here directory : Location} {way rest : List Step} {name : Name}
  {fault : Fault}

section Astray

variable {purpose : Purpose} {jump jump' : Location → List Step → Except Fault Found}

def astray? : Except Fault Found → Option Fault
  | .ok (.directory _) => none
  | .ok (.entry _ _) => some .notDirectory
  | .ok (.vacant _) => some .notFound
  | .error fault => some fault

theorem directoryAt_eq_error_iff :
    t.directoryAt p way = .error fault ↔
      astray? (t.walkFrom .look mostLinks (origin p []) way) = some fault := by
  cases led : t.walkFrom .look mostLinks (origin p []) way with
  | error cause => simp [directoryAt, led, bind, Except.bind, astray?]
  | ok found => cases found <;> simp [directoryAt, led, bind, Except.bind, astray?]

theorem descend_of_astray (goesOn : rest ≠ []) (free : Open purpose rest)
    (jumps : ∀ here way, astray? (jump here way) = some fault →
      jump' here (way ++ rest) = .error fault)
    (astray : astray? (t.descend .look jump here way) = some fault) :
    t.descend purpose jump' here (way ++ rest) = .error fault := by
  induction way generalizing here with
  | nil => contradiction
  | cons step way ih =>
    cases step with
    | here => exact ih astray
    | close => exact ih astray
    | up => exact ih astray
    | down name =>
      have further : (way ++ rest).isEmpty = false := by simp [goesOn]
      rw [descend, if_neg (by simp)] at astray
      rw [List.cons_append, descend, if_neg (free.not_asks way)]
      split at astray
      · rename_i long
        cases astray
        rw [if_pos long]
      · rename_i short
        rw [if_neg short]
        cases present : t.get? (name :: here) with
        | none =>
          rw [present] at astray
          -- What is missing is so whether it is looked for or gone through.
          have missing : fault = .notFound := by
            dsimp only at astray
            split at astray <;> cases astray <;> rfl
          simp [further, missing]
        | some entry =>
          rw [present] at astray
          cases entry with
          | directory => exact ih astray
          | link target =>
            simpa only [List.append_assoc] using jumps _ _ astray
          | file | program | overwritten | sink | full =>
            have noDirectory : fault = .notDirectory := by
              dsimp only at astray
              split at astray <;> cases astray <;> rfl
            simp [further, noDirectory]

/-- Nothing is found behind a way that leads into no directory. -/
theorem walkFrom_of_astray (goesOn : rest ≠ []) (free : Open purpose rest) {links : Nat}
    (astray : astray? (t.walkFrom .look links here way) = some fault) :
    t.walkFrom purpose links here (way ++ rest) = .error fault := by
  induction links generalizing here way with
  | zero =>
    refine descend_of_astray goesOn free (fun _ _ jumped => ?_) astray
    cases jumped
    rfl
  | succ links ih => exact descend_of_astray goesOn free (fun _ _ => ih) astray

end Astray

section Opened

def placed : Except Fault Found → Except Fault Location
  | .ok (.entry place _) | .ok (.vacant place) => .ok place
  | .ok (.directory _) => .error .isDirectory
  | .error fault => .error fault

theorem openForWriting_eq_placed (t : FileTree) (p : Path) :
    t.openForWriting p = placed (t.walk .create p) := by
  cases led : t.walk .create p with
  | error cause => simp [openForWriting, led, bind, Except.bind, placed]
  | ok found => cases found <;> simp [openForWriting, led, bind, Except.bind, placed]

/-- Where no name can be looked up, no file is opened. -/
theorem openForWriting_of_astray (plain : p.endsWithSlash = false)
    (lost : t.aim p = .error fault) : t.openForWriting p = .error fault := by
  rw [openForWriting_eq_placed, walk]
  unfold aim at lost
  split at lost
  · rename_i cause _ unsound
    cases lost
    rw [unsound]
    rfl
  · contradiction
  · rename_i last before sound named
    have along : steps p = before.reverse.map Step.ofName ++ [Step.ofName last] := by
      simp [steps_of_names named, plain]
    have further : Step.ofName last ≠ .close := by
      unfold Step.ofName
      split <;> simp
    have free : Open .create [Step.ofName last] := .inr ⟨_, List.mem_singleton_self _, further⟩
    -- Opening walks to the last name, so it fails where the way there does, or at this name itself.
    rw [sound, along]
    cases walked : t.directoryAt p (before.reverse.map Step.ofName) with
    | error cause =>
      rw [walked] at lost
      cases lost
      dsimp only
      rw [walkFrom_of_astray (by simp) free (directoryAt_eq_error_iff.mp walked)]
      rfl
    | ok directory =>
      obtain ⟨left, -, goesOn⟩ := walkFrom_append (directoryAt_eq_ok_iff.mp walked)
      obtain ⟨jump, step⟩ := t.exists_jump .create left
      dsimp only
      rw [goesOn .create _ free, step]
      simp only [walked, bind, Except.bind] at lost
      split at lost
      · rename_i name down
        split at lost
        · rename_i long
          cases lost
          rw [down, descend, if_pos long]
          simp [asksForDirectory, placed]
        · contradiction
      · contradiction

variable (aimed : t.aim p = .ok ⟨directory, some name, false⟩)

include aimed

/-- A file is opened where its name is looked up, with some links left to follow. -/
theorem openForWriting_of_aim :
    ∃ left ≤ mostLinks, ∃ jump, t.walkFrom .create left = t.descend .create jump ∧
      t.openForWriting p = placed (t.walkFrom .create left directory [.down name]) := by
  obtain ⟨sound, -, way, along, led⟩ := exists_way_of_aim aimed
  obtain ⟨left, fewer, goesOn⟩ := walkFrom_append led
  obtain ⟨jump, step⟩ := t.exists_jump .create left
  refine ⟨left, fewer, jump, step, ?_⟩
  rw [openForWriting_eq_placed, walk, sound, along]
  exact congrArg placed (goesOn .create _ (.inr ⟨_, List.mem_singleton_self _, by simp⟩))

theorem allowed_of_aim (purpose : Purpose) : Allowed purpose name [] := by
  obtain ⟨-, short, -⟩ := exists_way_of_aim aimed
  exact ⟨by simp [asksForDirectory], short⟩

theorem openForWriting_of_isEnd (ends : t.IsEnd (name :: directory)) :
    t.openForWriting p = .ok (name :: directory) := by
  obtain ⟨left, -, jump, step, opened⟩ := openForWriting_of_aim aimed
  rw [opened, step, descend_end ends (allowed_of_aim aimed .create).2, foundAt]
  cases t.get? (name :: directory) <;> rfl

theorem openForWriting_of_directory (present : t.get? (name :: directory) = some .directory) :
    t.openForWriting p = .error .isDirectory := by
  obtain ⟨left, -, jump, step, opened⟩ := openForWriting_of_aim aimed
  rw [opened, step, descend_directory (allowed_of_aim aimed .create) present]
  rfl

/-- A link that is followed leads to where the file is. -/
theorem openForWriting_of_link {target : Path}
    (present : t.get? (name :: directory) = some (.link target)) :
    t.openForWriting p = .error .linkLoop ∨
      ∃ links < mostLinks, t.openForWriting p =
        placed (t.walkFrom .create links (origin target directory) (steps target)) := by
  obtain ⟨left, fewer, -, -, opened⟩ := openForWriting_of_aim aimed
  have allowed := allowed_of_aim aimed .create
  cases left with
  | zero =>
    left
    rw [opened, walkFrom, descend_link allowed present]
    rfl
  | succ links =>
    right
    refine ⟨links, fewer, ?_⟩
    rw [opened, walkFrom, descend_link allowed present, List.append_nil]

/-- A link is removed itself, as a file is. -/
theorem remove_of_aim :
    t.remove p = match t.get? (name :: directory) with
      | none => .error .notFound
      | some .directory => .error .isDirectory
      | some _ => .ok (t.erase (name :: directory)) := by
  simp only [remove, aimed, bind, Except.bind]
  cases t.get? (name :: directory) with
  | none => rfl
  | some entry => cases entry <;> rfl

end Opened

theorem remove_of_astray (lost : t.aim p = .error fault) : t.remove p = .error fault := by
  rw [remove, lost]
  rfl

section Removed

variable {u : FileTree} {location : Location} {entry : Entry} {last : Name} {before : List Name}

/-- A path that is given a last name has one, also if a slash follows it. -/
theorem aim_of_directoryAt (sound : pathFault? p = none)
    (named : (names p).reverse = last :: before) (down : Step.ofName last = .down name)
    (short : name.length ≤ longestName)
    (walked : t.directoryAt p (before.reverse.map Step.ofName) = .ok directory) :
    t.aim p = .ok ⟨directory, some name, p.endsWithSlash⟩ := by
  rw [aim.eq_def, sound, named]
  simp only [walked, down, bind, Except.bind]
  rw [if_neg (Nat.not_lt.mpr short)]

theorem present_of_descend_down {jump : Location → List Step → Except Fault Found}
    (led : t.descend .look jump here (.down name :: way) = .ok (.entry location entry)) :
    name.length ≤ longestName ∧ ∃ found, t.get? (name :: here) = some found := by
  obtain ⟨allowed, ⟨-, isEntry, -⟩ | ⟨present, -⟩ | ⟨target, present, -⟩⟩ := of_descend_down led
  · refine ⟨allowed.2, Option.ne_none_iff_exists'.mp fun absent => ?_⟩
    rw [foundAt, absent] at isEntry
    contradiction
  · exact ⟨allowed.2, _, present⟩
  · exact ⟨allowed.2, _, present⟩

/-- A path that leads to an entry has a last name, and there is an entry of that name, which may be
a link. -/
theorem exists_aim_of_walk (led : t.walk .look p = .ok (.entry location entry)) :
    ∃ directory name slashed, t.aim p = .ok ⟨directory, some name, slashed⟩ ∧
      ∃ found, t.get? (name :: directory) = some found := by
  -- Where no name is left to be looked up the walk has ended in a directory, not at an entry.
  have inDirectory {jump : Location → List Step → Except Fault Found} {here : Location} :
      t.descend .look jump here (if p.endsWithSlash then [.close] else []) ≠
        .ok (.entry location entry) := by
    split <;> simp [descend]
  unfold walk at led
  split at led
  · contradiction
  · rename_i sound
    cases named : (names p).reverse with
    | nil =>
      have unnamed : names p = [] := List.reverse_eq_nil_iff.mp named
      obtain ⟨jump, step⟩ := t.exists_jump .look mostLinks
      rw [steps, unnamed, step] at led
      exact absurd led inDirectory
    | cons last before =>
      rw [steps_of_names named] at led
      cases walked : t.directoryAt p (before.reverse.map Step.ofName) with
      | error cause =>
        rw [walkFrom_of_astray (List.cons_ne_nil _ _) (.inl rfl)
          (directoryAt_eq_error_iff.mp walked)] at led
        contradiction
      | ok directory =>
        obtain ⟨left, -, goesOn⟩ := walkFrom_append (directoryAt_eq_ok_iff.mp walked)
        obtain ⟨jump, step⟩ := t.exists_jump .look left
        rw [goesOn .look _ (.inl rfl), step] at led
        cases down : Step.ofName last with
        | down name =>
          rw [down] at led
          obtain ⟨short, present⟩ := present_of_descend_down led
          exact ⟨directory, name, _, aim_of_directoryAt sound named down short walked, present⟩
        | here | up | close =>
          rw [down] at led
          exact absurd led inDirectory

theorem exists_aim_of_remove (removed : t.remove p = .ok u) :
    ∃ directory name slashed, t.aim p = .ok ⟨directory, some name, slashed⟩ ∧
      u = t.erase (name :: directory) := by
  cases aimed : t.aim p with
  | error cause =>
    rw [remove_of_astray aimed] at removed
    contradiction
  | ok aim =>
    obtain ⟨directory, name, slashed⟩ := aim
    simp only [remove, aimed, bind, Except.bind] at removed
    split at removed
    · rename_i named
      cases named
      refine ⟨_, _, _, rfl, ?_⟩
      repeat' split at removed
      all_goals cases removed
      rfl
    · contradiction

/-- What was removed is not found any more, even if it was a link to something. -/
theorem walk_of_remove (removed : t.remove p = .ok u) :
    u.walk .look p ≠ .ok (.entry location entry) := by
  intro led
  obtain ⟨directory, name, slashed, aimed, found, present⟩ := exists_aim_of_walk led
  obtain ⟨directory', name', slashed', aimed', rfl⟩ := exists_aim_of_remove removed
  have absent := t.get?_erase_self (name' :: directory')
  have aimedAlike := aim_of_agreeOff (t.agreeOff_erase _).symm (isLeaf_of_get?_eq_none absent) aimed
  cases aimed'.symm.trans aimedAlike
  exact absurd (present.symm.trans absent) nofun

/-- Where there is nothing to remove, nothing is found. -/
theorem walk_of_remove_notFound (nothing : t.remove p = .error .notFound) :
    t.walk .look p ≠ .ok (.entry location entry) := by
  intro led
  obtain ⟨directory, name, slashed, aimed, found, present⟩ := exists_aim_of_walk led
  cases found <;> cases slashed <;>
    simp [remove, aimed, present, bind, Except.bind] at nothing

end Removed

end Multipath.FileTree
