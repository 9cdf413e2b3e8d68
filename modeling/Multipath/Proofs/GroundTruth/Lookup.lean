import Multipath.GroundTruth.Source
import Multipath.Proofs.FileTree.Listing
import Multipath.Proofs.FileTree.Writing

/-! Finding the target file of a destination in a directory. The candidates are known by their names
and by what their paths lead to, so the order in which the directory lists them makes no
difference: the only candidate is the answer, and otherwise there is none. -/
namespace Multipath.GroundTruth

/-- An entry of a directory that may be the target file of a destination. -/
structure Qualifies (t : FileTree) (directory : Path) (destination : String) (name : Name) :
    Prop where
  listed : ∃ place entry, t.walk .look directory = .ok (.directory place) ∧
    t.get? (name :: place) = some entry
  named : destination.toList <+: Text.Utf8.decodeLossy name
  /-- Links are followed. -/
  regular : ∃ location entry,
    t.walk .look (directory.join name) = .ok (.entry location entry) ∧ entry.isRegular = true

/-- The paths of some names in a directory, in order and each once. -/
structure Lists (chosen : Name → Prop) (directory : Path) (paths : List Path) : Prop where
  members : ∀ p, p ∈ paths ↔ ∃ name, chosen name ∧ p = directory.join name
  ordered : paths.Pairwise fun p q => pathLe p q = true ∧ p ≠ q

section Order

variable {p q r : Path}

theorem pathLe_trans (first : pathLe p q = true) (second : pathLe q r = true) :
    pathLe p r = true := by
  simp only [pathLe, decide_eq_true_eq] at first second ⊢
  exact List.le_trans first second

theorem pathLe_total (p q : Path) : (pathLe p q || pathLe q p) = true := by
  simp only [pathLe, Bool.or_eq_true, decide_eq_true_eq]
  exact List.le_total p.bytes q.bytes

theorem pathLe_antisymm (first : pathLe p q = true) (second : pathLe q p = true) : p = q := by
  simp only [pathLe, decide_eq_true_eq] at first second
  have bytes := List.le_antisymm first second
  cases p; cases q
  exact congrArg _ bytes

end Order

variable {t u : FileTree} {directory : Path} {destination : String} {name : Name}

theorem Lists.unique {chosen : Name → Prop} {paths others : List Path}
    (lists : Lists chosen directory paths) (also : Lists chosen directory others) :
    paths = others := by
  have distinct {ps : List Path} (these : Lists chosen directory ps) : ps.Nodup :=
    List.nodup_iff_pairwise_ne.mpr (these.ordered.imp And.right)
  have perm : paths.Perm others := by
    refine (List.perm_ext_iff_of_nodup (distinct lists) (distinct also)).mpr fun p => ?_
    rw [lists.members, also.members]
  have antisymm (p q : Path) (_ : p ∈ paths) (_ : q ∈ others) (le : pathLe p q = true ∧ p ≠ q)
      (ge : pathLe q p = true ∧ q ≠ p) : p = q := pathLe_antisymm le.1 ge.1
  exact perm.eq_of_pairwise antisymm lists.ordered also.ordered

theorem isNamedFor_iff : isNamedFor destination name = true ↔
    destination.toList <+: Text.Utf8.decodeLossy name := List.isPrefixOf_iff_prefix

/-- The candidates are all that qualify. -/
theorem candidates_eq_ok (destination : String) {names : List Name}
    (listed : t.list directory = .ok names) :
    ∃ paths, candidates t directory destination = .ok paths ∧
      Lists (Qualifies t directory destination) directory paths := by
  obtain ⟨place, led, rfl⟩ := FileTree.list_eq_ok_iff.mp listed
  refine ⟨_, by rw [candidates, listed]; rfl, fun p => ?_, ?_⟩
  · simp only [List.mem_mergeSort, List.mem_filter, List.mem_map, isNamedFor_iff,
      FileTree.isFile_iff, FileTree.mem_namesIn_iff]
    constructor
    · rintro ⟨⟨name, ⟨⟨entry, present⟩, named⟩, rfl⟩, regular⟩
      exact ⟨name, ⟨⟨place, entry, led, present⟩, named, regular⟩, rfl⟩
    · rintro ⟨name, ⟨⟨other, entry, also, present⟩, named, regular⟩, rfl⟩
      cases led.symm.trans also
      exact ⟨⟨name, ⟨⟨entry, present⟩, named⟩, rfl⟩, regular⟩
  · have sorted (ps : List Path) : (ps.mergeSort pathLe).Pairwise (pathLe · · = true) :=
      List.pairwise_mergeSort (@pathLe_trans) pathLe_total ps
    have once : ((((t.namesIn place).filter (isNamedFor destination)).map directory.join).filter
        t.isFile).Nodup :=
      (((t.nodup_namesIn place).filter _).map (FileTree.join_injective directory)).filter _
    have distinct := (List.mergeSort_perm _ pathLe).nodup_iff.mpr once
    exact (sorted _).and (List.nodup_iff_pairwise_ne.mp distinct)

/-- The candidates depend on which names are listed, in whatever order, and on which paths lead to
files. -/
theorem candidates_congr (lists : Alike List.Perm (t.list directory) (u.list directory))
    (files : ∀ p, u.isFile p = t.isFile p) (destination : String) :
    candidates u directory destination = candidates t directory destination := by
  rw [candidates, candidates, funext files]
  generalize t.list directory = names, u.list directory = others at lists
  cases lists with
  | error => rfl
  | ok perm =>
    have sorted (ps : List Path) : (ps.mergeSort pathLe).Pairwise (pathLe · · = true) :=
      List.pairwise_mergeSort (@pathLe_trans) pathLe_total ps
    have listed := ((perm.filter (isNamedFor destination)).map directory.join).filter t.isFile
    have reordered := (List.mergeSort_perm _ pathLe).trans
      (listed.symm.trans (List.mergeSort_perm _ pathLe).symm)
    exact congrArg Except.ok
      (reordered.eq_of_pairwise (fun _ _ _ _ => pathLe_antisymm) (sorted _) (sorted _))

theorem candidates_of_perm (perm : u.entries.Perm t.entries) (directory : Path)
    (destination : String) :
    candidates u directory destination = candidates t directory destination :=
  candidates_congr (FileTree.list_of_perm perm directory)
    (fun p => by rw [FileTree.isFile, FileTree.isFile, FileTree.walk_of_perm perm]) destination

theorem Lists.eq_singleton {chosen : Name → Prop} {paths : List Path}
    (lists : Lists chosen directory paths) (only : ∀ other, chosen other ↔ other = name) :
    paths = [directory.join name] := by
  refine lists.unique ⟨fun p => ?_, List.pairwise_singleton ..⟩
  simp [only]

section Choice

variable {names : List Name} (listed : t.list directory = .ok names)

include listed

/-- A file is found if it is the only one that qualifies. -/
theorem resolve_eq_ok_iff {p : Path} :
    (Source.directory directory).resolve t destination = .ok p ↔
      ∃ name, (∀ other, Qualifies t directory destination other ↔ other = name) ∧
        p = directory.join name := by
  obtain ⟨paths, found, lists⟩ := candidates_eq_ok destination listed
  constructor
  · intro chosen
    match paths with
    | [] => simp [Source.resolve, found] at chosen
    | [only] =>
      simp only [Source.resolve, found, Except.ok.injEq] at chosen
      subst chosen
      obtain ⟨name, qualifies, rfl⟩ := (lists.members only).mp List.mem_cons_self
      refine ⟨name, fun other => ⟨fun also => ?_, fun isName => isName ▸ qualifies⟩, rfl⟩
      have listed := (lists.members (directory.join other)).mpr ⟨other, also, rfl⟩
      exact FileTree.join_injective directory (List.mem_singleton.mp listed)
    | _ :: _ :: _ => simp [Source.resolve, found] at chosen
  · rintro ⟨name, only, rfl⟩
    simp [Source.resolve, found, lists.eq_singleton only]

theorem resolve_eq_fileMissing_iff :
    (Source.directory directory).resolve t destination =
        .error (.fileMissing destination directory) ↔
      ∀ name, ¬Qualifies t directory destination name := by
  obtain ⟨paths, found, lists⟩ := candidates_eq_ok destination listed
  constructor
  · intro missing name qualifies
    have listed := (lists.members (directory.join name)).mpr ⟨name, qualifies, rfl⟩
    match paths with
    | [] => contradiction
    | [only] => simp [Source.resolve, found] at missing
    | _ :: _ :: _ => simp [Source.resolve, found] at missing
  · intro unqualified
    have empty : paths = [] := by
      refine List.eq_nil_iff_forall_not_mem.mpr fun p member => ?_
      obtain ⟨name, qualifies, -⟩ := (lists.members p).mp member
      exact unqualified name qualifies
    simp [Source.resolve, found, empty]

/-- Two files that qualify are told with all others, and none is taken. -/
theorem resolve_of_several {one other : Name} (first : Qualifies t directory destination one)
    (second : Qualifies t directory destination other) (apart : one ≠ other) :
    ∃ paths, Lists (Qualifies t directory destination) directory paths ∧
      (Source.directory directory).resolve t destination =
        .error (.ambiguous destination paths) := by
  obtain ⟨paths, found, lists⟩ := candidates_eq_ok destination listed
  refine ⟨paths, lists, ?_⟩
  have listsOne := (lists.members (directory.join one)).mpr ⟨one, first, rfl⟩
  have listsOther := (lists.members (directory.join other)).mpr ⟨other, second, rfl⟩
  match paths with
  | [] => contradiction
  | [only] =>
    have sameName := (List.mem_singleton.mp listsOne).trans (List.mem_singleton.mp listsOther).symm
    exact absurd (FileTree.join_injective directory sameName) apart
  | _ :: _ :: _ => simp [Source.resolve, found]

end Choice

/-- What is no link qualifies by its name if it is a regular file, and never otherwise. -/
theorem qualifies_iff {place : Location} {entry : Entry}
    (led : t.walk .look directory = .ok (.directory place))
    (present : t.get? (name :: place) = some entry) (proper : FileTree.IsFileName name)
    (fits : (directory.join name).bytes.length ≤ FileTree.longestPath)
    (noLink : ∀ target, entry ≠ .link target) :
    Qualifies t directory destination name ↔
      destination.toList <+: Text.Utf8.decodeLossy name ∧ entry.isRegular = true := by
  have kind := FileTree.isFile_join led proper fits present noLink
  rw [← kind, FileTree.isFile_iff]
  constructor
  · intro qualifies
    exact ⟨qualifies.named, qualifies.regular⟩
  · rintro ⟨named, regular⟩
    exact ⟨⟨place, entry, led, present⟩, named, regular⟩

section Load

variable {source : Source} {p : Path}

theorem load_eq_ok {text : String} (found : source.resolve t destination = .ok p)
    (read : t.readText p = .ok text) : source.load t destination = .ok (p, parse text) := by
  simp [Source.load, found, bind, Except.bind, read]

theorem load_eq_unreadable {cause : Fault} (found : source.resolve t destination = .ok p)
    (unread : t.readText p = .error cause) :
    source.load t destination = .error (.unreadable p cause) := by
  simp [Source.load, found, bind, Except.bind, unread]

theorem load_of_perm (perm : u.entries.Perm t.entries) (source : Source) :
    source.resolve u destination = source.resolve t destination ∧
      source.load u destination = source.load t destination := by
  have resolved : source.resolve u destination = source.resolve t destination := by
    cases source with
    | file path => rfl
    | directory path => simp only [Source.resolve, candidates_of_perm perm]
  refine ⟨resolved, ?_⟩
  simp only [Source.load, resolved, FileTree.readText_of_perm perm]

end Load

structure Answers (candidate : Name → Prop) (directory : Path) (destination : String)
    (result : Except GroundTruth.Error Path) : Prop where
  only : ∀ name, (∀ other, candidate other ↔ other = name) → result = .ok (directory.join name)
  missing : (∀ name, ¬candidate name) → result = .error (.fileMissing destination directory)
  several : ∀ one other, candidate one → candidate other → one ≠ other →
    ∃ paths, Lists candidate directory paths ∧ result = .error (.ambiguous destination paths)
  among : ∀ p, result = .ok p → ∃ name, candidate name ∧ p = directory.join name

/-- A directory has the answer for a destination if just one entry of it qualifies: a regular file,
or a link to one, whose name begins with the destination. If none qualifies the destination is told,
and if several do so are all of them. Of what is no link, regular files alone qualify, by their
names. A file that was found is read, and if it cannot be read as text its path is told. The order
of the entries makes no difference to any of that. -/
theorem lookup_exact (t : FileTree) (directory : Path) (destination : String) :
    (∀ cause, t.list directory = .error cause →
      (Source.directory directory).resolve t destination = .error (.unreadable directory cause)) ∧
    (∀ names, t.list directory = .ok names →
      Answers (Qualifies t directory destination) directory destination
        ((Source.directory directory).resolve t destination)) ∧
    (∀ place name entry, t.walk .look directory = .ok (.directory place) →
      t.get? (name :: place) = some entry → FileTree.IsFileName name →
      (directory.join name).bytes.length ≤ FileTree.longestPath → (∀ target, entry ≠ .link target) →
      (Qualifies t directory destination name ↔
        destination.toList <+: Text.Utf8.decodeLossy name ∧ entry.isRegular = true)) ∧
    (∀ source : Source, ∀ p, source.resolve t destination = .ok p →
      (∀ cause, t.read p = .error cause →
        source.load t destination = .error (.unreadable p cause)) ∧
      ∀ bytes, t.read p = .ok bytes →
        (∀ text : String, bytes = Text.Utf8.encode text.toList →
          source.load t destination = .ok (p, parse text)) ∧
        ((∀ text : String, bytes ≠ Text.Utf8.encode text.toList) →
          source.load t destination = .error (.unreadable p .notText))) ∧
    ∀ u : FileTree, u.entries.Perm t.entries → ∀ source : Source,
      source.resolve u destination = source.resolve t destination ∧
        source.load u destination = source.load t destination := by
  refine ⟨fun cause unlisted => ?_, fun names listed => ?_, fun place name entry => qualifies_iff,
    fun source p found => ⟨fun cause unread => ?_, fun bytes read => ⟨fun text written => ?_,
      fun noText => ?_⟩⟩, fun u perm source => load_of_perm perm source⟩
  · simp [Source.resolve, candidates, unlisted, Except.map]
  · exact {
      only := fun name only => (resolve_eq_ok_iff listed).mpr ⟨name, only, rfl⟩
      missing := (resolve_eq_fileMissing_iff listed).mpr
      several := fun one other first second apart => resolve_of_several listed first second apart
      among := by
        intro p chosen
        obtain ⟨name, only, isPath⟩ := (resolve_eq_ok_iff listed).mp chosen
        exact ⟨name, (only name).mpr rfl, isPath⟩ }
  · exact load_eq_unreadable found (by simp [FileTree.readText, unread, bind, Except.bind])
  · exact load_eq_ok found (FileTree.readText_eq_ok (written ▸ read))
  · exact load_eq_unreadable found (FileTree.readText_eq_notText read noText)

end Multipath.GroundTruth
