import Multipath.Proofs.FailureTest.Configured

/-! Where the ground truth of a test comes from. A target file goes before a directory of target
files, wherever each of them is named, and only between two files or two directories the command
line goes before the configuration file. So a directory that is named on the command line is passed
over if the configuration file names a target file. -/
namespace Multipath

open CommandLine (Parameter parse valueOf?)

namespace Toml.Value

theorem path?_eq_some_iff {v : Value} {path : Path} :
    v.path? = some path ↔ ∃ name, v = .string name ∧ path = .ofString name := by
  cases v <;> simp [path?, string?, eq_comm]

end Toml.Value

namespace Config

variable {flag : Parameter → Option String} {entries : Toml.Entries}

/-- The sources that may be selected, the first before the others. -/
inductive Selects (flag : Parameter → Option String) (entries : Toml.Entries) :
    GroundTruth.Source → Prop where
  | file {name : String} (given : flag .topology = some name) :
    Selects flag entries (.file (.ofString name))
  | keyFile {name : String} (noFile : flag .topology = none)
    (key : entries.lookup "topology" = some (.string name)) :
    Selects flag entries (.file (.ofString name))
  | directory {name : String} (noFile : flag .topology = none)
    (noKey : entries.lookup "topology" = none) (given : flag .targets = some name) :
    Selects flag entries (.directory (.ofString name))
  | keyDirectory {name : String} (noFile : flag .topology = none)
    (noKey : entries.lookup "topology" = none) (noDirectory : flag .targets = none)
    (key : entries.lookup "targets_dir" = some (.string name)) :
    Selects flag entries (.directory (.ofString name))
  | usual (noFile : flag .topology = none) (noKey : entries.lookup "topology" = none)
    (noDirectory : flag .targets = none) (noDirectoryKey : entries.lookup "targets_dir" = none) :
    Selects flag entries
      (.directory (.ofString "../../paris-traceroute.fakeroute/fakeroute/targets/"))

/-- The sources in the order of who names them: all that the command line names go before those that
the file names. -/
inductive Asks (flag : Parameter → Option String) (entries : Toml.Entries) :
    GroundTruth.Source → Prop where
  | file {name : String} (given : flag .topology = some name) :
    Asks flag entries (.file (.ofString name))
  | directory {name : String} (noFile : flag .topology = none)
    (given : flag .targets = some name) : Asks flag entries (.directory (.ofString name))
  | configured {source : GroundTruth.Source} (noFile : flag .topology = none)
    (noDirectory : flag .targets = none) (selected : Selects flag entries source) :
    Asks flag entries source

theorem Selects.unique {source other : GroundTruth.Source} (one : Selects flag entries source)
    (two : Selects flag entries other) : source = other := by
  cases one <;> cases two <;> simp_all

/-- A target file that is selected is named on the command line or in the file. -/
theorem Selects.named {path : Path} (selected : Selects flag entries (.file path)) :
    flag .topology ≠ none ∨ entries.lookup "topology" ≠ none := by
  cases selected with
  | file given => exact .inl (by simp [given])
  | keyFile noFile key => exact .inr (by simp [key])

/-- Where a path comes from. -/
theorem Decided.path_cases {text : Option String} {value : Option Toml.Value}
    {usual path : Option Path}
    (decided : Decided (text.map CommandLine.path) (value.map (·.path?)) usual path) :
    (∃ name, text = some name ∧ path = some (.ofString name)) ∨
      text = none ∧ ((∃ name, value = some (.string name) ∧ path = some (.ofString name)) ∨
        value = none ∧ path = usual) := by
  generalize given : text.map CommandLine.path = flag, keyed : value.map (·.path?) = key at decided
  cases decided with
  | flag path =>
    obtain ⟨name, isText, read⟩ := Option.map_eq_some_iff.mp given
    exact .inl ⟨name, isText, congrArg some (CommandLine.eq_of_path read)⟩
  | key path =>
    obtain ⟨v, isValue, read⟩ := Option.map_eq_some_iff.mp keyed
    obtain ⟨name, rfl, rfl⟩ := Toml.Value.path?_eq_some_iff.mp read
    exact .inr ⟨Option.map_eq_none_iff.mp given, .inl ⟨name, isValue, rfl⟩⟩
  | usual path =>
    exact .inr ⟨Option.map_eq_none_iff.mp given, .inr ⟨Option.map_eq_none_iff.mp keyed, rfl⟩⟩

/-- The source of a configuration is the one that the command line and the file select. -/
theorem Merged.selects {c : Config} (merged : c.Merged flag entries) :
    Selects flag entries c.truthSource := by
  rw [truthSource]
  rcases merged.topology.path_cases with
    ⟨name, given, file⟩ | ⟨noFile, ⟨name, key, file⟩ | ⟨noKey, unnamed⟩⟩
  · rw [file]
    exact .file given
  · rw [file]
    exact .keyFile noFile key
  · rw [unnamed]
    rcases merged.targets.path_cases with
      ⟨name, given, directory⟩ | ⟨noDirectory, ⟨name, key, directory⟩ | ⟨noDirectoryKey, unnamed'⟩⟩
    · rw [Option.some.inj directory]
      exact .directory noFile noKey given
    · rw [Option.some.inj directory]
      exact .keyDirectory noFile noKey noDirectory key
    · rw [Option.some.inj unnamed']
      exact .usual noFile noKey noDirectory noDirectoryKey

/-- A target file is configured if the command line or the file names one. -/
theorem Merged.exists_topology {c : Config} (merged : c.Merged flag entries)
    (named : flag .topology ≠ none ∨ entries.lookup "topology" ≠ none) :
    ∃ path, c.topology = some path := by
  rcases merged.topology.path_cases with
    ⟨name, -, file⟩ | ⟨noFile, ⟨name, -, file⟩ | ⟨noKey, -⟩⟩
  · exact ⟨_, file⟩
  · exact ⟨_, file⟩
  · exact absurd named (by simp [noFile, noKey])

/-- The source that is asked for is the one of the configuration, unless the file names a target
file and the command line only a directory. -/
theorem Merged.eq_truthSource_iff {c : Config} (merged : c.Merged flag entries)
    {source : GroundTruth.Source} (asked : Asks flag entries source) :
    source = c.truthSource ↔
      ¬(flag .topology = none ∧ flag .targets ≠ none ∧ entries.lookup "topology" ≠ none) := by
  have selected := merged.selects
  cases asked with
  | file given => simp [given, (Selects.file given).unique selected]
  | configured noFile noDirectory asked => simp [noDirectory, asked.unique selected]
  | directory noFile given =>
    cases key : entries.lookup "topology" with
    | none => simp [(Selects.directory noFile key given).unique selected]
    | some value =>
      obtain ⟨path, file⟩ := merged.exists_topology (.inr (by simp [key]))
      simp [noFile, given, truthSource, file]

end Config

namespace Arguments

/-- The arguments without the directory of target files. -/
def undirected (a : Arguments) : Arguments := { a with settings.targets := none }

theorem exists_targets_of_undirected {a b : Arguments} (alike : a.undirected = b.undirected) :
    ∃ targets, b = { a with settings.targets := targets } := by
  refine ⟨b.settings.targets, ?_⟩
  obtain ⟨_, _, _, _, _, s, _, _⟩ := a
  obtain ⟨_, _, _, _, _, s', _, _⟩ := b
  cases s
  cases s'
  simp_all [undirected]

/-- The directory on the command line has a part in nothing else that is configured. -/
theorem configure_of_targets {a : Arguments} {t : FileTree} {c : Config}
    (configured : a.configure t = .ok c) (targets : Option Path) :
    ∃ directory, { a with settings.targets := targets }.configure t =
      .ok { c with targets := directory } := by
  unfold configure at configured ⊢
  cases named : a.config with
  | none =>
    rw [named] at configured
    cases configured
    exact ⟨_, rfl⟩
  | some path =>
    rw [named] at configured
    obtain ⟨base, loaded, rfl⟩ := exists_of_map_eq_ok configured
    exact ⟨_, by simp only [loaded]; rfl⟩

end Arguments

namespace FailureTest

variable {words others : List String} {a b : Arguments} {c : Config} {m : Machine}

/-- Beside a target file a directory of target files has no part in what is done. -/
theorem perform_of_topology {path : Path} (named : c.topology = some path) (directory : Path)
    (targets : Option Path) (program : Executable) (elapsed : Duration) (m : Machine) :
    perform { c with targets := directory } { a with settings.targets := targets } program elapsed
      m = perform c a program elapsed m := by
  have source : { c with targets := directory }.truthSource = c.truthSource := by
    simp only [Config.truthSource, named]
  rw [perform, perform, source]
  rfl

theorem run_of_undirected (parsed : parse words = .ok a) (parsed' : parse others = .ok b)
    (alike : a.undirected = b.undirected) {path : Path} (configured : a.configure m.tree = .ok c)
    (named : c.topology = some path) (environment : Option String) (program : Executable)
    (elapsed : Duration) :
    run others environment program elapsed m = run words environment program elapsed m := by
  obtain ⟨targets, rfl⟩ := Arguments.exists_targets_of_undirected alike
  obtain ⟨directory, configured'⟩ := Arguments.configure_of_targets configured targets
  simp only [run, parsed, parsed', configured, configured', perform_of_topology named]
  rfl

/-- The ground truth comes from the target file on the command line, else from that in the
configuration file, else from the directory on the command line, else from that in the file, and
else from the usual one. So it comes from where the command line asks for it, unless that names only
a directory and the file names a target file. If a target file is named in either of them, then
whether a directory is named on the command line, and which one, makes no difference to anything. -/
theorem takes_file_before_directory (environment : Option String) (program : Executable)
    (m : Machine) (elapsed : Duration) {words : List String} {a : Arguments}
    (parsed : parse words = .ok a) :
    let t := run words environment program elapsed m
    let flag := valueOf? words
    (∀ c, a.configure m.tree = .ok c →
      TakesTruth c.truthSource a (results a c program m) elapsed m t ∧
      ∃ entries, Config.Said m.tree (flag .config) entries ∧
        (∀ source, Config.Selects flag entries source ↔ source = c.truthSource) ∧
        ∀ source, Config.Asks flag entries source → (source = c.truthSource ↔
          ¬(flag .topology = none ∧ flag .targets ≠ none ∧ entries.lookup "topology" ≠ none))) ∧
    ∀ entries, Config.Said m.tree (flag .config) entries →
      flag .topology ≠ none ∨ entries.lookup "topology" ≠ none →
      ∀ others b, parse others = .ok b → a.undirected = b.undirected →
        run others environment program elapsed m = t := by
  refine ⟨fun c configured => ⟨?_, ?_⟩, fun entries said named others b parsed' alike => ?_⟩
  · exact run_takesTruth parsed environment program elapsed configured
  · obtain ⟨entries, said, merged⟩ := (Arguments.configure_eq_ok_iff parsed).mp configured
    refine ⟨entries, said, fun source => ⟨fun selected => selected.unique merged.selects, ?_⟩,
      fun source asked => merged.eq_truthSource_iff asked⟩
    rintro rfl
    exact merged.selects
  · obtain ⟨c, configured, merged⟩ := Arguments.configure_of_said parsed said
    obtain ⟨path, file⟩ := merged.exists_topology named
    exact run_of_undirected parsed parsed' alike configured file environment program elapsed

/-- The configuration file names a target file. -/
theorem takes_file_before_directory_of_key :
    let words := ["1", "A", "0", "-c", "c", "--targets", "d"]
    let others := ["1", "A", "0", "-c", "c"]
    let tree := ((∅ : FileTree).install (.ofString "c")
      (.file (Text.Utf8.encode "topology=\"f\"\n".toList))).install (.ofString "f")
      (.file [0x68, 0x0a])
    let t := run words none (.scripted none []) .zero ⟨tree, []⟩
    run others none (.scripted none []) .zero ⟨tree, []⟩ = t ∧
      ∀ a, parse words = .ok a →
        TakesTruth (.file (.ofString "f")) a [] .zero ⟨tree, []⟩ t := by
  intro words others tree t
  let settings : Settings := { (∅ : Settings) with targets := some (.ofString "d") }
  let a : Arguments := ⟨"1", "A", 0, some (.ofString "c"), none, settings, false, 0⟩
  let c : Config := { Config.standard with
    targets := .ofString "d", topology := some (.ofString "f") }
  have parsed : parse words = .ok a := rfl
  have configured : a.configure tree = .ok c := eq_ok_of_toOption (by decide +kernel)
  obtain ⟨takes, passes⟩ :=
    takes_file_before_directory none (.scripted none []) ⟨tree, []⟩ .zero parsed
  obtain ⟨scored, entries, said, selects, -⟩ := takes c configured
  refine ⟨?_, fun a' parsed' => ?_⟩
  · have named := Config.Selects.named ((selects c.truthSource).mpr rfl)
    exact passes entries said named others _ (show parse others = .ok _ from rfl) rfl
  · obtain rfl : a = a' := Except.ok.inj (parsed.symm.trans parsed')
    exact scored

/-- A directory is named on the command line and holds the only target file of the destination. The
ground truth is read off the file that the configuration file names. -/
theorem targets_option_passed_over :
    let words := ["1", "A", "0", "-c", "c", "--targets", "d"]
    let tree := (((∅ : FileTree).install (.ofString "c")
      (.file (Text.Utf8.encode "topology=\"f\"\n".toList))).install (.ofString "f")
      (.file [0x68, 0x0a])).install (.ofString "d/A")
      (.file (Text.Utf8.encode "h\nstart end\n".toList))
    let lines := (run words none (.scripted none []) .zero ⟨tree, []⟩).logged.map Log.Event.line
    valueOf? words .topology = none ∧ valueOf? words .targets = some "d" ∧
      (GroundTruth.Source.resolve tree "A" (.directory (.ofString "d"))).toOption =
        some (.ofString "d/A") ∧
      "INFO failure_test: ground truth loaded file=f edges=0\n" ∈ lines ∧
      "INFO failure_test: ground truth loaded file=d/A edges=1\n" ∉ lines := by
  decide +kernel

end FailureTest
end Multipath
