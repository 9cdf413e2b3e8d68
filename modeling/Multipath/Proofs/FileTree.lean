import Multipath.FileTree.Program

/-! Places in a file tree. A path that names a place where there is no directory and no link ends
there, so a change at the place changes what that path leads to and nothing else. -/
namespace Multipath

namespace Entry

def content : Entry → List UInt8
  | .file content | .program content | .overwritten content => content
  | .sink | .full | .directory | .link _ => []

variable {old : Option Entry}

theorem content_refill (regular : ∀ entry ∈ old, entry.isRegular = true) (bytes : List UInt8) :
    (refill old bytes).content = bytes := by
  cases old with
  | none => rfl
  | some entry => cases entry <;> simp_all [isRegular, refill, content]

theorem isRegular_refill (regular : ∀ entry ∈ old, entry.isRegular = true) (bytes : List UInt8) :
    (refill old bytes).isRegular = true := by
  cases old with
  | none => rfl
  | some entry => cases entry <;> simp_all [isRegular, refill]

end Entry

namespace FileTree

variable {t u : FileTree} {place : Location}

/-- The entries of two trees are the same but for one place. -/
def AgreeOff (place : Location) (t u : FileTree) : Prop :=
  ∀ location, location ≠ place → u.get? location = t.get? location

theorem AgreeOff.symm (agree : AgreeOff place t u) : AgreeOff place u t :=
  fun location other => (agree location other).symm

theorem AgreeOff.trans {v : FileTree} (first : AgreeOff place t u) (second : AgreeOff place u v) :
    AgreeOff place t v :=
  fun location other => (second location other).trans (first location other)

theorem agreeOff_erase (t : FileTree) (place : Location) : AgreeOff place t (t.erase place) := by
  intro location other
  simp [erase, get?_keep, other]

theorem agreeOff_fill (t : FileTree) (place : Location) (content : List UInt8) :
    AgreeOff place t (t.fill place content) :=
  fun _ other => t.get?_set_of_ne other _

/-- There is nothing at a place, or a regular file. -/
def IsLeaf (t : FileTree) (place : Location) : Prop :=
  ∀ entry ∈ t.get? place, entry.isRegular = true

theorem isLeaf_of_get?_eq_none (absent : t.get? place = none) : t.IsLeaf place := by
  simp [IsLeaf, absent]

/-- There is nothing at a place, or neither a directory nor a link. So a path ends there. -/
def IsEnd (t : FileTree) (place : Location) : Prop :=
  ∀ entry ∈ t.get? place, entry.isRegular = true ∨ entry.isDevice = true

theorem IsLeaf.isEnd (leaf : t.IsLeaf place) : t.IsEnd place :=
  fun entry present => .inl (leaf entry present)

def Found.place? : Found → Option Location
  | .directory _ => none
  | .entry location _ | .vacant location => some location

def foundAt (t : FileTree) (place : Location) : Found :=
  match t.get? place with
  | none => .vacant place
  | some entry => .entry place entry

theorem place?_foundAt (t : FileTree) (place : Location) :
    (t.foundAt place).place? = some place := by
  unfold foundAt
  split <;> rfl

theorem get?_of_foundAt {location : Location} {entry : Entry}
    (found : t.foundAt place = .entry location entry) : t.get? location = some entry := by
  unfold foundAt at found
  split at found
  · contradiction
  · cases found
    assumption

theorem foundAt_of_agreeOff (agree : AgreeOff place t u) {location : Location}
    (elsewhere : location ≠ place) : u.foundAt location = t.foundAt location := by
  rw [foundAt, foundAt, agree location elsewhere]

section Walk

variable {purpose : Purpose} {jump jump' : Location → List Step → Except Fault Found}
  {here directory : Location} {way : List Step} {name : Name} {found : Found}

/-- A name can be looked up, and what is to be done at the end of the way can be done behind it. -/
def Allowed (purpose : Purpose) (name : Name) (way : List Step) : Prop :=
  ¬(purpose = .create && asksForDirectory way) ∧ name.length ≤ longestName

theorem Allowed.look (allowed : Allowed purpose name way) : Allowed .look name way :=
  ⟨by simp, allowed.2⟩

theorem Allowed.append_down (allowed : Allowed .look name way) (last : Name) :
    Allowed purpose name (way ++ [.down last]) :=
  ⟨by simp [asksForDirectory], allowed.2⟩

/-- What a step to a name comes to: the path ends there, or goes on in a directory or along a
link. -/
theorem of_descend_down (led : t.descend purpose jump here (.down name :: way) = .ok found) :
    Allowed purpose name way ∧
    ((way = [] ∧ found = t.foundAt (name :: here) ∧ t.IsEnd (name :: here)) ∨
      (t.get? (name :: here) = some .directory ∧
        t.descend purpose jump (name :: here) way = .ok found) ∨
      ∃ target, t.get? (name :: here) = some (.link target) ∧
        jump (origin target here) (steps target ++ way) = .ok found) := by
  rw [descend] at led
  split at led
  · contradiction
  · rename_i unasked
    split at led
    · contradiction
    · rename_i short
      refine ⟨⟨unasked, Nat.not_lt.mp short⟩, ?_⟩
      cases present : t.get? (name :: here) with
      | none =>
        rw [present] at led
        cases way with
        | nil =>
          cases led
          exact .inl ⟨rfl, by rw [foundAt, present], by simp [IsEnd, present]⟩
        | cons => contradiction
      | some entry =>
        rw [present] at led
        cases entry with
        | link target => exact .inr (.inr ⟨target, rfl, led⟩)
        | directory => exact .inr (.inl ⟨rfl, led⟩)
        | file | program | overwritten | sink | full =>
          cases way with
          | nil =>
            cases led
            exact .inl ⟨rfl, by rw [foundAt, present],
              by simp [IsEnd, present, Entry.isRegular, Entry.isDevice]⟩
          | cons => contradiction

theorem descend_end (ends : t.IsEnd (name :: here)) (short : name.length ≤ longestName) :
    t.descend purpose jump here [.down name] = .ok (t.foundAt (name :: here)) := by
  have asks : asksForDirectory [] = false := rfl
  rw [descend, asks, Bool.and_false, if_neg Bool.false_ne_true, if_neg (Nat.not_lt.mpr short),
    foundAt]
  cases present : t.get? (name :: here) with
  | none => rfl
  | some entry =>
    have ending := ends entry present
    cases entry with
    | link | directory => simp [Entry.isRegular, Entry.isDevice] at ending
    | file | program | overwritten | sink | full => rfl

theorem descend_directory (allowed : Allowed purpose name way)
    (present : t.get? (name :: here) = some .directory) :
    t.descend purpose jump here (.down name :: way) =
      t.descend purpose jump (name :: here) way := by
  rw [descend, if_neg allowed.1, if_neg (Nat.not_lt.mpr allowed.2), present]

theorem descend_link (allowed : Allowed purpose name way) {target : Path}
    (present : t.get? (name :: here) = some (.link target)) :
    t.descend purpose jump here (.down name :: way) =
      jump (origin target here) (steps target ++ way) := by
  rw [descend, if_neg allowed.1, if_neg (Nat.not_lt.mpr allowed.2), present]

theorem IsEnd.ne_of_goesOn (ends : t.IsEnd place) {location : Location} {entry : Entry}
    (present : t.get? location = some entry)
    (goesOn : entry.isRegular = false ∧ entry.isDevice = false) : location ≠ place := by
  rintro rfl
  have ending := ends entry present
  simp [goesOn] at ending

/-- A path that does not lead to a place does not look at it. -/
theorem descend_of_agreeOff (agree : AgreeOff place t u) (ends : t.IsEnd place)
    (jumps : ∀ here way, jump here way = .ok found → jump' here way = .ok found)
    (apart : found.place? ≠ some place) (led : t.descend purpose jump here way = .ok found) :
    u.descend purpose jump' here way = .ok found := by
  induction way generalizing here with
  | nil => exact led
  | cons step way ih =>
    cases step with
    | here => exact ih led
    | close => exact ih led
    | up => exact ih led
    | down name =>
      obtain ⟨allowed, ⟨rfl, rfl, last⟩ | ⟨present, led⟩ | ⟨target, present, led⟩⟩ :=
        of_descend_down led
      · have elsewhere : name :: here ≠ place := fun isPlace => apart (isPlace ▸ t.place?_foundAt _)
        rw [← foundAt_of_agreeOff agree elsewhere]
        exact descend_end (fun entry present => last entry (agree _ elsewhere ▸ present)) allowed.2
      · have notEnd := ends.ne_of_goesOn present ⟨rfl, rfl⟩
        rw [descend_directory allowed (agree _ notEnd ▸ present)]
        exact ih led
      · have notEnd := ends.ne_of_goesOn present ⟨rfl, rfl⟩
        rw [descend_link allowed (agree _ notEnd ▸ present)]
        exact jumps _ _ led

theorem walkFrom_of_agreeOff (agree : AgreeOff place t u) (ends : t.IsEnd place) {links : Nat}
    (apart : found.place? ≠ some place) (led : t.walkFrom purpose links here way = .ok found) :
    u.walkFrom purpose links here way = .ok found := by
  induction links generalizing here way with
  | zero => exact descend_of_agreeOff agree ends (fun _ _ led => led) apart led
  | succ links ih => exact descend_of_agreeOff agree ends (fun _ _ => ih) apart led

/-- A path that leads to a place leads to what there is, and ends there. -/
theorem foundAt_of_descend
    (jumps : ∀ here way, jump here way = .ok found → found = t.foundAt place ∧ t.IsEnd place)
    (led : t.descend purpose jump here way = .ok found) (reaches : found.place? = some place) :
    found = t.foundAt place ∧ t.IsEnd place := by
  induction way generalizing here with
  | nil =>
    cases led
    contradiction
  | cons step way ih =>
    cases step with
    | here => exact ih led
    | close => exact ih led
    | up => exact ih led
    | down name =>
      obtain ⟨-, ⟨-, rfl, ends⟩ | ⟨-, led⟩ | ⟨target, -, led⟩⟩ := of_descend_down led
      · rw [place?_foundAt, Option.some.injEq] at reaches
        exact reaches ▸ ⟨rfl, ends⟩
      · exact ih led
      · exact jumps _ _ led

theorem foundAt_of_walkFrom {links : Nat} (led : t.walkFrom purpose links here way = .ok found)
    (reaches : found.place? = some place) : found = t.foundAt place ∧ t.IsEnd place := by
  induction links generalizing here way with
  | zero => exact foundAt_of_descend (fun _ _ led => by contradiction) led reaches
  | succ links ih => exact foundAt_of_descend (fun _ _ led => ih led) led reaches

/-- A path that leads to a place, for whatever purpose, does not look at it before its end. So what
is at the place can be found along it, whatever it is. -/
theorem descend_to_place (agree : AgreeOff place t u) (before : t.IsEnd place)
    (after : u.IsEnd place)
    (jumps : ∀ here way, jump here way = .ok found → jump' here way = .ok (u.foundAt place))
    (led : t.descend purpose jump here way = .ok found) (reaches : found.place? = some place) :
    u.descend .look jump' here way = .ok (u.foundAt place) := by
  -- What is on the way is a directory or a link, so it is not the place at the end of the way.
  induction way generalizing here with
  | nil =>
    cases led
    contradiction
  | cons step way ih =>
    cases step with
    | here => exact ih led
    | close => exact ih led
    | up => exact ih led
    | down name =>
      obtain ⟨allowed, ⟨rfl, rfl, -⟩ | ⟨present, led⟩ | ⟨target, present, led⟩⟩ :=
        of_descend_down led
      · rw [place?_foundAt, Option.some.injEq] at reaches
        subst reaches
        exact descend_end after allowed.2
      · have notEnd := before.ne_of_goesOn present ⟨rfl, rfl⟩
        rw [descend_directory allowed.look (agree _ notEnd ▸ present)]
        exact ih led
      · have notEnd := before.ne_of_goesOn present ⟨rfl, rfl⟩
        rw [descend_link allowed.look (agree _ notEnd ▸ present)]
        exact jumps _ _ led

theorem walkFrom_to_place (agree : AgreeOff place t u) (before : t.IsEnd place)
    (after : u.IsEnd place) {links : Nat} (led : t.walkFrom purpose links here way = .ok found)
    (reaches : found.place? = some place) :
    u.walkFrom .look links here way = .ok (u.foundAt place) := by
  induction links generalizing here way with
  | zero => exact descend_to_place agree before after (fun _ _ led => by contradiction) led reaches
  | succ links ih => exact descend_to_place agree before after (fun _ _ led => ih led) led reaches

/-- A way leads into a directory, and on to a name in it. Behind a way there is no slash, so what
is to be done there makes no difference before. -/
theorem descend_append_down (leaf : t.IsLeaf (name :: directory))
    (short : name.length ≤ longestName)
    (jumps : ∀ here way, jump here way = .ok (.directory directory) →
      jump' here (way ++ [.down name]) = .ok (t.foundAt (name :: directory)))
    (led : t.descend .look jump here way = .ok (.directory directory)) :
    t.descend purpose jump' here (way ++ [.down name]) =
      .ok (t.foundAt (name :: directory)) := by
  induction way generalizing here with
  | nil =>
    cases led
    exact descend_end leaf.isEnd short
  | cons step way ih =>
    cases step with
    | here => exact ih led
    | close => exact ih led
    | up => exact ih led
    | down next =>
      obtain ⟨allowed, ⟨-, isEntry, -⟩ | ⟨present, led⟩ | ⟨target, present, led⟩⟩ :=
        of_descend_down led
      · have somewhere := t.place?_foundAt (next :: here)
        rw [← isEntry] at somewhere
        contradiction
      · rw [List.cons_append, descend_directory (allowed.append_down name) present]
        exact ih led
      · rw [List.cons_append, descend_link (allowed.append_down name) present, ← List.append_assoc]
        exact jumps _ _ led

theorem walkFrom_append_down (leaf : t.IsLeaf (name :: directory))
    (short : name.length ≤ longestName) {links : Nat}
    (led : t.walkFrom .look links here way = .ok (.directory directory)) :
    t.walkFrom purpose links here (way ++ [.down name]) =
      .ok (t.foundAt (name :: directory)) := by
  induction links generalizing here way with
  | zero => exact descend_append_down leaf short (fun _ _ led => by contradiction) led
  | succ links ih => exact descend_append_down leaf short (fun _ _ => ih) led

end Walk

/-- A path names a place: the directory is there, and in it there is nothing of that name, or a
regular file. -/
structure Names (t : FileTree) (p : Path) (place : Location) : Prop where
  aims : ∃ directory name, t.aim p = .ok ⟨directory, some name, false⟩ ∧ place = name :: directory
  leaf : t.IsLeaf place

section Names

variable {p : Path} {directory : Location} {name : Name}

theorem directoryAt_eq_ok_iff {way : List Step} :
    t.directoryAt p way = .ok directory ↔
      t.walkFrom .look mostLinks (origin p []) way = .ok (.directory directory) := by
  cases led : t.walkFrom .look mostLinks (origin p []) way with
  | error fault => simp [directoryAt, led, bind, Except.bind]
  | ok found => cases found <;> simp [directoryAt, led, bind, Except.bind]

theorem directoryAt_of_agreeOff (agree : AgreeOff place t u) (leaf : t.IsLeaf place)
    {way : List Step} (led : t.directoryAt p way = .ok directory) :
    u.directoryAt p way = .ok directory := by
  rw [directoryAt_eq_ok_iff] at led ⊢
  exact walkFrom_of_agreeOff agree leaf.isEnd (by simp [Found.place?]) led

theorem aim_of_agreeOff (agree : AgreeOff place t u) (leaf : t.IsLeaf place) {aim : Aim}
    (led : t.aim p = .ok aim) : u.aim p = .ok aim := by
  unfold FileTree.aim at led ⊢
  split at led
  · contradiction
  · exact led
  · rename_i last before sound named
    cases walked : t.directoryAt p (before.reverse.map Step.ofName) with
    | error fault =>
      rw [walked] at led
      contradiction
    | ok directory =>
      rw [walked] at led
      rw [directoryAt_of_agreeOff agree leaf walked]
      exact led

/-- The last step along a path is to its last name, but for a slash at the end. -/
theorem steps_of_names {last : Name} {before : List Name}
    (named : (names p).reverse = last :: before) :
    steps p = before.reverse.map Step.ofName ++
      Step.ofName last :: (if p.endsWithSlash then [.close] else []) := by
  have listed : names p = before.reverse ++ [last] := by
    rw [← List.reverse_reverse (names p), named, List.reverse_cons]
  simp [steps, listed]

/-- A path that names something goes along the names before the last one into a directory. -/
theorem exists_way_of_aim (led : t.aim p = .ok ⟨directory, some name, false⟩) :
    pathFault? p = none ∧ name.length ≤ longestName ∧ ∃ way, steps p = way ++ [.down name] ∧
      t.walkFrom .look mostLinks (origin p []) way = .ok (.directory directory) := by
  unfold FileTree.aim at led
  split at led
  · contradiction
  · cases led
  · rename_i last before sound named
    cases walked : t.directoryAt p (before.reverse.map Step.ofName) with
    | error fault =>
      rw [walked] at led
      contradiction
    | ok reached =>
      rw [walked] at led
      cases step : Step.ofName last with
      | down next =>
        simp only [step, bind, Except.bind] at led
        split at led
        · contradiction
        · rename_i fits
          simp only [Except.ok.injEq, Aim.mk.injEq, Option.some.injEq] at led
          obtain ⟨rfl, rfl, plain⟩ := led
          refine ⟨sound, Nat.not_lt.mp fits, before.reverse.map Step.ofName, ?_,
            directoryAt_eq_ok_iff.mp walked⟩
          simp [steps_of_names named, step, plain]
      | here | up | close => simp [step, bind, Except.bind] at led

namespace Names

/-- What a path leads to is what there is at the place that it names. -/
theorem walk (named : t.Names p place) (purpose : Purpose) :
    t.walk purpose p = .ok (t.foundAt place) := by
  obtain ⟨⟨directory, name, aimed, rfl⟩, leaf⟩ := named
  obtain ⟨sound, short, way, split, led⟩ := exists_way_of_aim aimed
  simp only [FileTree.walk, sound, split]
  exact walkFrom_append_down leaf short led

theorem of_agreeOff (named : t.Names p place) (agree : AgreeOff place t u)
    (leaf : u.IsLeaf place) : u.Names p place := by
  obtain ⟨⟨directory, name, aimed, isPlace⟩, was⟩ := named
  exact ⟨⟨directory, name, aim_of_agreeOff agree was aimed, isPlace⟩, leaf⟩

theorem openForWriting (named : t.Names p place) : t.openForWriting p = .ok place := by
  rw [FileTree.openForWriting, named.walk, foundAt]
  cases t.get? place <;> rfl

theorem read_of_absent (named : t.Names p place) (absent : t.get? place = none) :
    t.read p = .error .notFound := by
  rw [read, named.walk, foundAt, absent]
  rfl

theorem read_of_present (named : t.Names p place) {entry : Entry}
    (present : t.get? place = some entry) : t.read p = .ok entry.content := by
  have regular := named.leaf entry present
  rw [read, named.walk, foundAt, present]
  cases entry with
  | file | program | overwritten => rfl
  | sink | full | directory | link => contradiction

theorem isPresent_of_absent (named : t.Names p place) (absent : t.get? place = none) :
    t.isPresent p = false := by
  rw [isPresent, named.walk, foundAt, absent]

theorem remove_of_absent (named : t.Names p place) (absent : t.get? place = none) :
    t.remove p = .error .notFound := by
  obtain ⟨directory, name, aimed, rfl⟩ := named.aims
  simp only [remove, aimed, bind, Except.bind, absent]

theorem remove_of_present (named : t.Names p place) {entry : Entry}
    (present : t.get? place = some entry) : t.remove p = .ok (t.erase place) := by
  have regular := named.leaf entry present
  obtain ⟨directory, name, aimed, rfl⟩ := named.aims
  cases entry with
  | link | directory | sink | full => contradiction
  | file | program | overwritten => simp [remove, aimed, bind, Except.bind, present]

/-- A file is written in place of what was there. -/
theorem write (named : t.Names p place) (content : List UInt8) :
    t.write p content = .ok (t.fill place content) := by
  have roomy : t.get? place ≠ some .full := fun full => Bool.false_ne_true (named.leaf _ full)
  simp [FileTree.write, named.openForWriting, bind, Except.bind, roomy, pure, Except.pure]

end Names

end Names

section Programs

variable {p : Path} {location : Location} {entry : Entry}

theorem walk_of_agreeOff (agree : AgreeOff place t u) (ends : t.IsEnd place) {purpose : Purpose}
    {found : Found} (apart : found.place? ≠ some place) (led : t.walk purpose p = .ok found) :
    u.walk purpose p = .ok found := by
  unfold walk at led ⊢
  split at led
  · contradiction
  · exact walkFrom_of_agreeOff agree ends apart led

theorem startableAt_eq_ok_iff :
    t.startableAt p = .ok (location, entry) ↔
      t.walk .look p = .ok (.entry location entry) ∧ entry.isStartable = true := by
  cases led : t.walk .look p with
  | error fault => simp [startableAt, led, bind, Except.bind]
  | ok found =>
    cases found with
    | directory | vacant => simp [startableAt, led, bind, Except.bind]
    | entry other file =>
      simp only [startableAt, led, bind, Except.bind, Except.ok.injEq, Found.entry.injEq]
      constructor
      · intro able
        split at able
        · cases able
          exact ⟨⟨rfl, rfl⟩, ‹_›⟩
        · contradiction
      · rintro ⟨⟨rfl, rfl⟩, startable⟩
        rw [if_pos startable]

theorem startableAt_of_agreeOff (agree : AgreeOff place t u) (leaf : t.IsLeaf place)
    (apart : location ≠ place) (able : t.startableAt p = .ok (location, entry)) :
    u.startableAt p = .ok (location, entry) := by
  obtain ⟨led, startable⟩ := startableAt_eq_ok_iff.mp able
  have elsewhere : (Found.entry location entry).place? ≠ some place := by
    simpa [Found.place?] using apart
  exact startableAt_eq_ok_iff.mpr ⟨walk_of_agreeOff agree leaf.isEnd elsewhere led, startable⟩

theorem startable_of_agreeOff (agree : AgreeOff place t u) (leaf : t.IsLeaf place)
    (apart : location ≠ place) (able : t.startable p = .ok (location, entry)) :
    u.startable p = .ok (location, entry) := by
  unfold startable at able ⊢
  split at able
  · contradiction
  · rename_i noZero
    rw [if_neg noZero]
    split at able
    · rename_i slashed
      rw [if_pos slashed]
      exact startableAt_of_agreeOff agree leaf apart able
    · rename_i plain
      rw [if_neg plain]
      exact able

theorem ne_of_startableAt (absent : t.get? place = none)
    (able : t.startableAt p = .ok (location, entry)) : location ≠ place := by
  rintro rfl
  have led := (startableAt_eq_ok_iff.mp able).1
  unfold walk at led
  split at led
  · contradiction
  · have present := get?_of_foundAt (foundAt_of_walkFrom led rfl).1.symm
    rw [absent] at present
    contradiction

/-- What runs a program without something at a place runs it whatever there is. -/
theorem loadFault?_of_agreeOff (agree : AgreeOff place t u) (absent : t.get? place = none)
    {interpreters : Nat} (loads : t.loadFault? interpreters entry = none) :
    u.loadFault? interpreters entry = none := by
  induction interpreters generalizing entry with
  | zero => cases entry <;> simp_all [loadFault?]
  | succ interpreters ih =>
    cases entry with
    | program => rfl
    | file | sink | full | directory | link => cases loads
    | overwritten content =>
      rw [loadFault?] at loads ⊢
      split at loads
      · contradiction
      · split at loads
        · contradiction
        · rename_i interpreter _ location next able
          have elsewhere := ne_of_startableAt absent able
          rw [startableAt_of_agreeOff agree (isLeaf_of_get?_eq_none absent) elsewhere able]
          exact ih loads

end Programs
end FileTree
end Multipath
