import Multipath.Proofs.GroundTruth.Lookup

/-! Directories with a target file for each address. A lookup takes the files whose names begin with
the destination, so what it finds depends on which addresses begin with it. The file of the
destination is found if its address alone does, and is never passed over for another one. -/
namespace Multipath.GroundTruth

structure IsAddress (s : String) : Prop where
  full : s.toList ≠ []
  plain : ∀ c ∈ s.toList, c.isDigit = true ∨ c = '.'

instance : DecidablePred IsAddress := fun s =>
  decidable_of_iff (s.toList ≠ [] ∧ s.toList.all (fun c => c.isDigit || c = '.') = true)
    ⟨fun ⟨full, plain⟩ => ⟨full, by simpa using plain⟩,
      fun address => ⟨address.full, by simpa using address.plain⟩⟩

def suffixMark : Char := '_'

/-- The name of a file is the address, or the address with a suffix behind the mark. -/
def IsFileOf (address : String) (name : Name) : Prop :=
  name = Text.Utf8.encode address.toList ∨
    ∃ suffix, name = Text.Utf8.encode (address.toList ++ [suffixMark]) ++ suffix

def Begins (destination : String) (name : Name) : Prop :=
  ∃ address, IsAddress address ∧ IsFileOf address name ∧ destination.toList <+: address.toList

/-- A directory of regular files, each named for an address, and none for an address that another
one is named for. -/
structure IsTargets (t : FileTree) (directory : Path) (names : List Name) : Prop where
  listed : t.list directory = .ok names
  regular : ∀ name ∈ names, t.isFile (directory.join name) = true
  addressed : ∀ name ∈ names, ∃ address, IsAddress address ∧ IsFileOf address name
  single : ∀ address, IsAddress address → ∀ one ∈ names, ∀ other ∈ names,
    IsFileOf address one → IsFileOf address other → one = other

section Names

variable {address other destination : String} {name : Name}

theorem IsAddress.ne_suffixMark (isAddress : IsAddress address) :
    ∀ c ∈ address.toList, (c ≠ suffixMark : Bool) = true := by
  intro c member
  rcases isAddress.plain c member with digit | rfl
  · refine decide_eq_true fun isSuffix => ?_
    subst isSuffix
    contradiction
  · rfl

/-- What stands before the mark in the name of a file is its address. -/
theorem takeWhile_of_isFileOf (isAddress : IsAddress address) (named : IsFileOf address name) :
    (Text.Utf8.decodeLossy name).takeWhile (· ≠ suffixMark) = address.toList := by
  have before := isAddress.ne_suffixMark
  rcases named with rfl | ⟨suffix, rfl⟩
  · have whole := Text.Utf8.decodeLossy_encode_append address.toList []
    rw [List.append_nil] at whole
    rw [whole, List.takeWhile_append_of_pos before]
    simp
  · rw [Text.Utf8.decodeLossy_encode_append, List.append_assoc,
      List.takeWhile_append_of_pos before]
    simp

theorem IsFileOf.unique (isAddress : IsAddress address) (named : IsFileOf address name)
    (isOther : IsAddress other) (also : IsFileOf other name) : address = other := by
  have ofAddress := takeWhile_of_isFileOf isAddress named
  have ofOther := takeWhile_of_isFileOf isOther also
  exact String.toList_injective (ofAddress.symm.trans ofOther)

/-- What an address begins with is before the mark, if it is an address itself. -/
theorem isPrefix_decodeLossy_iff (isDestination : IsAddress destination)
    (isAddress : IsAddress address) (named : IsFileOf address name) :
    destination.toList <+: Text.Utf8.decodeLossy name ↔ destination.toList <+: address.toList := by
  have cut := takeWhile_of_isFileOf isAddress named
  constructor
  · rintro ⟨rest, whole⟩
    rw [← whole, List.takeWhile_append_of_pos isDestination.ne_suffixMark] at cut
    exact ⟨_, cut⟩
  · intro begins
    rw [← cut] at begins
    exact begins.trans (List.takeWhile_prefix _)

/-- What a file's address begins with does not depend on how it is read off its name. -/
theorem IsFileOf.begins_iff (isAddress : IsAddress address) (named : IsFileOf address name) :
    Begins destination name ↔ destination.toList <+: address.toList := by
  constructor
  · rintro ⟨other, isOther, also, begins⟩
    rwa [named.unique isAddress isOther also]
  · intro begins
    exact ⟨address, isAddress, named, begins⟩

end Names

section Targets

variable {t : FileTree} {directory : Path} {names : List Name} {destination : String} {name : Name}

/-- The candidates for an address are the files whose addresses begin with it. -/
theorem IsTargets.qualifies_iff (targets : IsTargets t directory names)
    (isDestination : IsAddress destination) :
    Qualifies t directory destination name ↔ name ∈ names ∧ Begins destination name := by
  obtain ⟨place, led, rfl⟩ := FileTree.list_eq_ok_iff.mp targets.listed
  constructor
  · intro qualifies
    obtain ⟨other, entry, also, present⟩ := qualifies.listed
    cases led.symm.trans also
    have member := FileTree.mem_namesIn_iff.mpr ⟨entry, present⟩
    obtain ⟨address, isAddress, named⟩ := targets.addressed name member
    exact ⟨member, (named.begins_iff isAddress).mpr
      ((isPrefix_decodeLossy_iff isDestination isAddress named).mp qualifies.named)⟩
  · rintro ⟨member, address, isAddress, named, begins⟩
    obtain ⟨entry, present⟩ := FileTree.mem_namesIn_iff.mp member
    exact ⟨⟨place, entry, led, present⟩,
      (isPrefix_decodeLossy_iff isDestination isAddress named).mpr begins,
      FileTree.isFile_iff.mp (targets.regular name member)⟩

/-- A file for each of some addresses, no two of them the same. -/
theorem IsTargets.of_files (files : List (String × Name))
    (listed : t.list directory = .ok (files.map Prod.snd))
    (regular : ∀ file ∈ files, t.isFile (directory.join file.2) = true)
    (named : ∀ file ∈ files, IsAddress file.1 ∧ IsFileOf file.1 file.2)
    (apart : (files.map Prod.fst).Nodup) : IsTargets t directory (files.map Prod.snd) where
  listed := listed
  regular := by simpa using fun name address member => regular (address, name) member
  addressed := by
    intro name member
    obtain ⟨file, among, rfl⟩ := List.mem_map.mp member
    exact ⟨file.1, named file among⟩
  single := by
    intro address isAddress one first other second ofOne ofOther
    obtain ⟨file, among, rfl⟩ := List.mem_map.mp first
    obtain ⟨next, alsoAmong, rfl⟩ := List.mem_map.mp second
    have sameFirst := (named file among).2.unique (named file among).1 isAddress ofOne
    have sameNext := (named next alsoAmong).2.unique (named next alsoAmong).1 isAddress ofOther
    rw [List.inj_on_of_nodup_map apart among alsoAmong (sameFirst.trans sameNext.symm)]

/-- The file of an address is found if no other address with a file begins with it, and if there is
none that is told. If other addresses do so, the file of the address is not passed over for one of
theirs: among several files whose addresses begin with it none is taken. The only such file is. -/
theorem resolve_by_address (targets : IsTargets t directory names)
    (isDestination : IsAddress destination) :
    ((∀ name ∈ names, Begins destination name → IsFileOf destination name) →
      (∀ p, (Source.directory directory).resolve t destination = .ok p ↔
        ∃ name ∈ names, IsFileOf destination name ∧ p = directory.join name) ∧
      ((∀ name ∈ names, ¬IsFileOf destination name) →
        (Source.directory directory).resolve t destination =
          .error (.fileMissing destination directory))) ∧
    (∀ name ∈ names, IsFileOf destination name →
      ∀ p, (Source.directory directory).resolve t destination = .ok p → p = directory.join name) ∧
    (∀ one ∈ names, ∀ other ∈ names, Begins destination one → Begins destination other →
      one ≠ other →
      ∃ paths, Lists (fun name => name ∈ names ∧ Begins destination name) directory paths ∧
        (Source.directory directory).resolve t destination =
          .error (.ambiguous destination paths)) ∧
    ∀ only ∈ names, Begins destination only →
      (∀ name ∈ names, Begins destination name → name = only) →
      (Source.directory directory).resolve t destination = .ok (directory.join only) := by
  have qualifies {name : Name} :
      Qualifies t directory destination name ↔ name ∈ names ∧ Begins destination name :=
    targets.qualifies_iff isDestination
  have begins {name : Name} (named : IsFileOf destination name) : Begins destination name :=
    (named.begins_iff isDestination).mpr List.prefix_rfl
  refine ⟨fun apart => ⟨fun p => ?_, fun absent => ?_⟩, fun name member named p found => ?_,
    fun one first other second ofOne ofOther differ => ?_, fun only member ofOnly alone => ?_⟩
  · rw [resolve_eq_ok_iff targets.listed]
    constructor
    · rintro ⟨name, only, rfl⟩
      obtain ⟨member, ofName⟩ := qualifies.mp ((only name).mpr rfl)
      exact ⟨name, member, apart name member ofName, rfl⟩
    · rintro ⟨name, member, named, rfl⟩
      refine ⟨name, fun other => ⟨fun also => ?_, ?_⟩, rfl⟩
      · obtain ⟨among, ofOther⟩ := qualifies.mp also
        exact targets.single destination isDestination other among name member
          (apart other among ofOther) named
      · rintro rfl
        exact qualifies.mpr ⟨member, begins named⟩
  · refine (resolve_eq_fileMissing_iff targets.listed).mpr fun name also => ?_
    obtain ⟨member, ofName⟩ := qualifies.mp also
    exact absent name member (apart name member ofName)
  · obtain ⟨only, alone, rfl⟩ := (resolve_eq_ok_iff targets.listed).mp found
    rw [(alone name).mp (qualifies.mpr ⟨member, begins named⟩)]
  · have candidates : Qualifies t directory destination =
        fun name => name ∈ names ∧ Begins destination name := funext fun _ => propext qualifies
    rw [← candidates]
    exact resolve_of_several targets.listed (qualifies.mpr ⟨first, ofOne⟩)
      (qualifies.mpr ⟨second, ofOther⟩) differ
  · refine (resolve_eq_ok_iff targets.listed).mpr ⟨only, fun other => ⟨fun also => ?_, ?_⟩, rfl⟩
    · obtain ⟨among, ofOther⟩ := qualifies.mp also
      exact alone other among ofOther
    · rintro rfl
      exact qualifies.mpr ⟨member, ofOnly⟩

/-- Of three addresses one begins with another one. The third one is found. -/
theorem resolve_by_address_between :
    let directory := Path.ofString "targets"
    let diamond := (Path.ofString "10.0.9.9_diamond").bytes
    let chain := (Path.ofString "10.0.9.91_chain").bytes
    let plain := (Path.ofString "10.0.8.8").bytes
    let t := [diamond, chain, plain].foldl
      (fun t name => t.install (directory.join name) (.file [])) (∅ : FileTree)
    let names := [plain, chain, diamond]
    IsTargets t directory names ∧ IsAddress "10.0.8.8" ∧
      (Source.directory directory).resolve t "10.0.8.8" = .ok (directory.join plain) := by
  intro directory diamond chain plain t names
  have address : IsAddress "10.0.8.8" := by decide
  have ofLonger : IsAddress "10.0.9.91" := by decide
  have ofShorter : IsAddress "10.0.9.9" := by decide
  have ofPlain : IsFileOf "10.0.8.8" plain := .inl rfl
  have ofChain : IsFileOf "10.0.9.91" chain :=
    .inr ⟨(Path.ofString "chain").bytes, by decide +kernel⟩
  have ofDiamond : IsFileOf "10.0.9.9" diamond :=
    .inr ⟨(Path.ofString "diamond").bytes, by decide +kernel⟩
  have targets : IsTargets t directory names :=
    .of_files [("10.0.8.8", plain), ("10.0.9.91", chain), ("10.0.9.9", diamond)]
      (by decide +kernel) (by decide +kernel)
      (by simpa using ⟨⟨address, ofPlain⟩, ⟨ofLonger, ofChain⟩, ⟨ofShorter, ofDiamond⟩⟩)
      (by decide)
  have alone : ∀ name ∈ names, Begins "10.0.8.8" name → IsFileOf "10.0.8.8" name := by
    have notChain : ¬Begins "10.0.8.8" chain := (ofChain.begins_iff ofLonger).not.mpr (by decide)
    have notDiamond : ¬Begins "10.0.8.8" diamond :=
      (ofDiamond.begins_iff ofShorter).not.mpr (by decide)
    simp [names, ofPlain, notChain, notDiamond]
  refine ⟨targets, address, ?_⟩
  have found := ((resolve_by_address targets address).1 alone).1
  exact (found _).mpr ⟨plain, by simp [names], ofPlain, rfl⟩

end Targets

/-- A directory with a file for a longer address has none for the address that it begins with. The
file is taken nevertheless. -/
theorem resolve_takes_longer_address :
    let directory := Path.ofString "targets"
    let name := (Path.ofString "10.0.9.91_chain").bytes
    let t := (∅ : FileTree).install (directory.join name) (.file [])
    IsTargets t directory [name] ∧ IsAddress "10.0.9.9" ∧ ¬IsFileOf "10.0.9.9" name ∧
      (Source.directory directory).resolve t "10.0.9.9" = .ok (directory.join name) := by
  intro directory name t
  have longer : IsAddress "10.0.9.91" := by decide
  have shorter : IsAddress "10.0.9.9" := by decide
  have named : IsFileOf "10.0.9.91" name :=
    .inr ⟨(Path.ofString "chain").bytes, by decide +kernel⟩
  have targets : IsTargets t directory [name] :=
    .of_files [("10.0.9.91", name)] (by decide +kernel) (by decide +kernel)
      (by simpa using ⟨longer, named⟩) (by simp)
  refine ⟨targets, shorter, fun also => ?_, by decide +kernel⟩
  have equal := named.unique longer shorter also
  contradiction

end Multipath.GroundTruth
