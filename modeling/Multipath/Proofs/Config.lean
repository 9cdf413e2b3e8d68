import Multipath.Proofs.CommandLine.Options

/-! How a configuration is put together. The command line, the configuration file and the usual
configuration have a say in every value, and the first of them that gives it decides. A file says
something only if it can be read, all its keys are known and each of them has a value of its kind.
-/
namespace Multipath

open CommandLine (UsageError Parameter parse valueOf? map_read_valueOf?)

namespace Settings

def suits (value : Toml.Value) : String → Bool
  | "mode" => value.mode?.isSome
  | "launcher" | "binary" | "output" | "targets_dir" | "topology" => value.path?.isSome
  | "dropped_exit_code" => value.exitCode?.isSome
  | "log_level" => value.string?.isSome
  | _ => false

def Usable (entries : Toml.Entries) : Prop :=
  ∀ key value, entries.lookup key = some value → suits value key = true

/-- The settings are the values under the keys of a document. -/
structure From (entries : Toml.Entries) (s : Settings) : Prop where
  mode : (entries.lookup "mode").map (·.mode?) = s.mode.map some
  launcher : (entries.lookup "launcher").map (·.path?) = s.launcher.map some
  binary : (entries.lookup "binary").map (·.path?) = s.binary.map some
  output : (entries.lookup "output").map (·.path?) = s.output.map some
  targets : (entries.lookup "targets_dir").map (·.path?) = s.targets.map some
  topology : (entries.lookup "topology").map (·.path?) = s.topology.map some
  dropCode : (entries.lookup "dropped_exit_code").map (·.exitCode?) = s.dropCode.map some
  logLevel : (entries.lookup "log_level").map (·.string?) = s.logLevel.map some

variable {entries : Toml.Entries} {s : Settings} {key : String} {value : Toml.Value}

theorem mem_keys_of_suits (suited : suits value key = true) : key ∈ keys := by
  unfold suits at suited
  split at suited
  all_goals first | contradiction | decide

/-- An unknown key makes a document useless. -/
theorem Usable.mem_keys (usable : Usable entries) {entry : String × Toml.Value}
    (member : entry ∈ entries) : entry.1 ∈ keys := by
  obtain ⟨value, found⟩ : ∃ value, entries.lookup entry.1 = some value := by
    rw [← Option.isSome_iff_exists, List.lookup_isSome_iff]
    exact ⟨entry, member, beq_self_eq_true _⟩
  exact mem_keys_of_suits (usable _ value found)

theorem read?_eq_some_iff {kind : Toml.Value → Option α} {x : Option α} :
    read? entries key kind = some x ↔ (entries.lookup key).map kind = x.map some := by
  unfold read?
  cases entries.lookup key with
  | none => cases x <;> simp
  | some value => cases kind value <;> cases x <;> simp

/-- A value that a setting was read off is of its kind. -/
theorem isSome_of_read {kind : Toml.Value → Option α} {x : Option α}
    (read : (entries.lookup key).map kind = x.map some) (found : entries.lookup key = some value) :
    (kind value).isSome = true := by
  rw [found] at read
  cases x with
  | none => contradiction
  | some x => exact Option.isSome_of_eq_some (Option.some.inj read)

theorem map_lookup_eq {kind : Toml.Value → Option α}
    (suited : ∀ value, entries.lookup key = some value → (kind value).isSome = true) :
    (entries.lookup key).map kind = ((entries.lookup key).bind kind).map some := by
  cases found : entries.lookup key with
  | none => rfl
  | some value =>
    obtain ⟨x, read⟩ := Option.isSome_iff_exists.mp (suited value found)
    simp [read]

theorem Usable.exists_from (usable : Usable entries) : ∃ s, From entries s :=
  ⟨⟨_, _, _, _, _, _, _, _⟩, map_lookup_eq (usable "mode"), map_lookup_eq (usable "launcher"),
    map_lookup_eq (usable "binary"), map_lookup_eq (usable "output"),
    map_lookup_eq (usable "targets_dir"), map_lookup_eq (usable "topology"),
    map_lookup_eq (usable "dropped_exit_code"), map_lookup_eq (usable "log_level")⟩

theorem From.usable (read : From entries s) (known : ∀ entry ∈ entries, entry.1 ∈ keys) :
    Usable entries := by
  intro key value found
  obtain ⟨entry, member, isKey⟩ : ∃ entry ∈ entries, (key == entry.1) = true :=
    List.lookup_isSome_iff.mp (Option.isSome_of_eq_some found)
  have listed : key ∈ keys := eq_of_beq isKey ▸ known entry member
  simp only [keys, List.mem_cons, List.not_mem_nil, or_false] at listed
  -- Each key has a kind of its own, so the keys are gone through one by one.
  rcases listed with rfl | rfl | rfl | rfl | rfl | rfl | rfl | rfl
  · exact isSome_of_read read.mode found
  · exact isSome_of_read read.launcher found
  · exact isSome_of_read read.binary found
  · exact isSome_of_read read.output found
  · exact isSome_of_read read.targets found
  · exact isSome_of_read read.topology found
  · exact isSome_of_read read.dropCode found
  · exact isSome_of_read read.logLevel found

theorem ofEntries?_eq_some_iff :
    ofEntries? entries = some s ↔ Usable entries ∧ From entries s := by
  constructor
  · intro read
    unfold ofEntries? at read
    split at read
    · rename_i known
      simp only [bind, Option.bind_eq_some_iff, read?_eq_some_iff] at read
      obtain ⟨_, mode, _, launcher, _, binary, _, output, _, targets, _, topology, _, dropCode, _,
        logLevel, made⟩ := read
      have readings : From entries s := by
        cases made
        exact ⟨mode, launcher, binary, output, targets, topology, dropCode, logLevel⟩
      exact ⟨readings.usable (by simpa using known), readings⟩
    · contradiction
  · rintro ⟨usable, read⟩
    have known : (entries.all fun entry => keys.contains entry.1) = true := by
      simpa using fun name value member => usable.mem_keys member
    rw [ofEntries?, if_pos known, read?_eq_some_iff.mpr read.mode,
      read?_eq_some_iff.mpr read.launcher, read?_eq_some_iff.mpr read.binary,
      read?_eq_some_iff.mpr read.output, read?_eq_some_iff.mpr read.targets,
      read?_eq_some_iff.mpr read.topology, read?_eq_some_iff.mpr read.dropCode,
      read?_eq_some_iff.mpr read.logLevel]
    rfl

variable {t : FileTree} {path : Path}

theorem load_eq_ok_iff : load t path = .ok s ↔ ∃ text entries, t.readText path = .ok text ∧
    Toml.parse? text = some entries ∧ Usable entries ∧ From entries s := by
  simp only [← ofEntries?_eq_some_iff]
  unfold load
  cases t.readText path with
  | error cause => simp
  | ok text =>
    have through : parse? text = some s ↔
        ∃ entries, Toml.parse? text = some entries ∧ ofEntries? entries = some s :=
      Option.bind_eq_some_iff
    simp only [Except.ok.injEq, exists_and_left, exists_eq_left', ← through]
    cases parse? text <;> simp

theorem load_of_unreadable {cause : Fault} (lost : t.readText path = .error cause) :
    load t path = .error (.config path (.unreadable cause)) := by
  rw [load, lost]

theorem load_of_rejected {text : String} (found : t.readText path = .ok text)
    (useless : ∀ entries, Toml.parse? text = some entries → ¬Usable entries) :
    load t path = .error (.config path .rejected) := by
  have unreadable : parse? text = none := by
    refine Option.bind_eq_none_iff.mpr fun entries read => ?_
    refine Option.eq_none_iff_forall_ne_some.mpr fun s settings => ?_
    exact useless entries read (ofEntries?_eq_some_iff.mp settings).1
  simp only [load, found, unreadable]

end Settings

namespace Config

/-- Where a value comes from. The command line goes before the file, and the file before what is
usual. -/
inductive Decided {α : Type} : (flag : Option (Except UsageError α)) → (key : Option (Option α)) →
    (usual : Option α) → Option α → Prop where
  | flag (value : α) {key : Option (Option α)} {usual : Option α} :
    Decided (some (.ok value)) key usual (some value)
  | key (value : α) {usual : Option α} : Decided none (some (some value)) usual (some value)
  | usual (value : Option α) : Decided none none value value

/-- What a configuration is made of: the values of options, the keys of a document, and the usual
values. -/
structure Merged (flag : Parameter → Option String) (entries : Toml.Entries) (c : Config) :
    Prop where
  mode : Decided ((flag .mode).map CommandLine.mode) ((entries.lookup "mode").map (·.mode?))
    (some .launcher) (some c.mode)
  launcher : Decided ((flag .launcher).map CommandLine.path)
    ((entries.lookup "launcher").map (·.path?)) (some (.ofString "./launch_fkrt_pt.sh"))
    (some c.launcher)
  binary : Decided ((flag .binary).map CommandLine.path)
    ((entries.lookup "binary").map (·.path?))
    (some (.ofString "./paris-traceroute/paris-traceroute")) (some c.binary)
  output : Decided ((flag .output).map CommandLine.path)
    ((entries.lookup "output").map (·.path?)) (some (.ofString "output.txt")) (some c.output)
  targets : Decided ((flag .targets).map CommandLine.path)
    ((entries.lookup "targets_dir").map (·.path?))
    (some (.ofString "../../paris-traceroute.fakeroute/fakeroute/targets/")) (some c.targets)
  topology : Decided ((flag .topology).map CommandLine.path)
    ((entries.lookup "topology").map (·.path?)) none c.topology
  dropCode : Decided ((flag .dropCode).map CommandLine.exitCode)
    ((entries.lookup "dropped_exit_code").map (·.exitCode?)) (some 23) (some c.dropCode)
  logLevel : Decided none ((entries.lookup "log_level").map (·.string?)) (some "info")
    (some c.logLevel)

/-- What the configuration file says that is named on a command line. If none is named, nothing is
said. -/
inductive Said (t : FileTree) : Option String → Toml.Entries → Prop where
  | nothing : Said t none []
  | file {name text : String} {entries : Toml.Entries}
    (found : t.readText (.ofString name) = .ok text) (read : Toml.parse? text = some entries)
    (usable : Settings.Usable entries) : Said t (some name) entries

/-- What is wrong with a configuration file. It cannot be read, it is no document, or it has a key
that is not known or that does not suit its value. -/
inductive Refused (t : FileTree) (name : String) : ConfigFault → Prop where
  | unreadable {cause : Fault} (lost : t.readText (.ofString name) = .error cause) :
    Refused t name (.unreadable cause)
  | noDocument {text : String} (found : t.readText (.ofString name) = .ok text)
    (read : Toml.parse? text = none) : Refused t name .rejected
  | unknown {text : String} {entries : Toml.Entries} {entry : String × Toml.Value}
    (found : t.readText (.ofString name) = .ok text) (read : Toml.parse? text = some entries)
    (member : entry ∈ entries) (unknown : entry.1 ∉ Settings.keys) : Refused t name .rejected
  | unsuited {text key : String} {entries : Toml.Entries} {value : Toml.Value}
    (found : t.readText (.ofString name) = .ok text) (read : Toml.parse? text = some entries)
    (bound : entries.lookup key = some value) (unsuited : Settings.suits value key = false) :
    Refused t name .rejected

theorem said_or_refused (t : FileTree) (name : String) :
    (∃ entries, Said t (some name) entries) ∨ ∃ fault, Refused t name fault := by
  cases found : t.readText (.ofString name) with
  | error cause => exact .inr ⟨_, .unreadable found⟩
  | ok text =>
    cases read : Toml.parse? text with
    | none => exact .inr ⟨_, .noDocument found read⟩
    | some entries =>
      by_cases usable : Settings.Usable entries
      · exact .inl ⟨entries, .file found read usable⟩
      · simp only [Settings.Usable, Classical.not_forall, Bool.not_eq_true] at usable
        obtain ⟨key, value, bound, unsuited⟩ := usable
        exact .inr ⟨_, .unsuited found read bound unsuited⟩

/-- A file that is refused is not loaded. -/
theorem Refused.load {t : FileTree} {name : String} {fault : ConfigFault}
    (refused : Refused t name fault) :
    Config.load t (.ofString name) = .error (.config (.ofString name) fault) := by
  have useless {text : String} {entries : Toml.Entries} (read : Toml.parse? text = some entries)
      (not : ¬Settings.Usable entries) :
      ∀ others, Toml.parse? text = some others → ¬Settings.Usable others := by
    intro others readAgain
    rwa [← Option.some.inj (read.symm.trans readAgain)]
  rw [Config.load, map_eq_error_iff]
  cases refused with
  | unreadable lost => exact Settings.load_of_unreadable lost
  | noDocument found read => exact Settings.load_of_rejected found (by simp [read])
  | unknown found read member unknown =>
    exact Settings.load_of_rejected found
      (useless read fun usable => unknown (usable.mem_keys member))
  | unsuited found read bound unsuited =>
    refine Settings.load_of_rejected found (useless read fun usable => ?_)
    rw [usable _ _ bound] at unsuited
    contradiction

section Decided

variable {α : Type} {flag : Option (Except UsageError α)} {key : Option (Option α)}
  {usual x y : Option α}

theorem Decided.unique (one : Decided flag key usual x) (other : Decided flag key usual y) :
    x = y := by
  cases one <;> cases other <;> rfl

theorem decided_or {upper lower : Option α} (given : flag = upper.map .ok)
    (keyed : key = lower.map some) : Decided flag key usual (upper.or (lower.or usual)) := by
  subst given keyed
  cases upper with
  | some value => exact .flag value
  | none =>
    cases lower with
    | some value => exact .key value
    | none => exact .usual usual

theorem decided_getD {upper lower : Option α} {usual : α} (given : flag = upper.map .ok)
    (keyed : key = lower.map some) :
    Decided flag key (some usual) (some (upper.getD (lower.getD usual))) := by
  have decided : Decided flag key (some usual) (upper.or (lower.or (some usual))) :=
    decided_or given keyed
  cases upper with
  | some value => exact decided
  | none => cases lower <;> exact decided

end Decided

/-- Flags and keys leave no choice. -/
theorem Merged.unique {flag : Parameter → Option String} {entries : Toml.Entries} {c d : Config}
    (one : Merged flag entries c) (other : Merged flag entries d) : c = d := by
  have mode := Option.some.inj (one.mode.unique other.mode)
  have launcher := Option.some.inj (one.launcher.unique other.launcher)
  have binary := Option.some.inj (one.binary.unique other.binary)
  have output := Option.some.inj (one.output.unique other.output)
  have targets := Option.some.inj (one.targets.unique other.targets)
  have topology := one.topology.unique other.topology
  have dropCode := Option.some.inj (one.dropCode.unique other.dropCode)
  have logLevel := Option.some.inj (one.logLevel.unique other.logLevel)
  cases c
  cases d
  simp_all

end Config

section Configure

variable {words : List String} {a : Arguments} {t : FileTree} {c : Config} {entries : Toml.Entries}

theorem CommandLine.eq_of_path {value : String} {p : Path} (read : path value = .ok p) :
    p = .ofString value := by
  unfold path at read
  split at read
  · contradiction
  · exact (Except.ok.inj read).symm

/-- The path that is held for an option is what its value spells. -/
theorem CommandLine.map_ofString_of_map_path {value : Option String} {p : Option Path}
    (read : value.map path = p.map .ok) : p = value.map .ofString := by
  cases value with
  | none =>
    cases p with
    | none => rfl
    | some p => contradiction
  | some value =>
    cases p with
    | none => contradiction
    | some p => exact congrArg some (eq_of_path (Option.some.inj read))

theorem Arguments.config_of_parse (parsed : parse words = .ok a) :
    a.config = (valueOf? words .config).map .ofString :=
  CommandLine.map_ofString_of_map_path (map_read_valueOf? parsed .config)

/-- The settings of a command line go before those of a file, value by value. -/
theorem Config.merged_override (parsed : parse words = .ok a) {s : Settings}
    (file : Settings.From entries s) :
    Merged (valueOf? words) entries ((standard.override s).override a.settings) where
  mode := decided_getD (map_read_valueOf? parsed .mode) file.mode
  launcher := decided_getD (map_read_valueOf? parsed .launcher) file.launcher
  binary := decided_getD (map_read_valueOf? parsed .binary) file.binary
  output := decided_getD (map_read_valueOf? parsed .output) file.output
  targets := decided_getD (map_read_valueOf? parsed .targets) file.targets
  topology := decided_or (map_read_valueOf? parsed .topology) file.topology
  dropCode := decided_getD (map_read_valueOf? parsed .dropCode) file.dropCode
  logLevel := by
    have silent : a.settings.logLevel = none := (CommandLine.accounts_of_parse parsed).logLevel
    have given : (none : Option (Except UsageError String)) = a.settings.logLevel.map .ok := by
      rw [silent]
      rfl
    exact decided_getD given file.logLevel

/-- What is said can be merged with the command line, whatever that gives. -/
theorem Arguments.configure_of_said (parsed : parse words = .ok a)
    (said : Config.Said t (valueOf? words .config) entries) :
    ∃ c, a.configure t = .ok c ∧ c.Merged (valueOf? words) entries := by
  have named := config_of_parse parsed
  generalize valueOf? words .config = name at named said
  cases said with
  | nothing =>
    have usual : Settings.From [] ∅ := ⟨rfl, rfl, rfl, rfl, rfl, rfl, rfl, rfl⟩
    refine ⟨_, ?_, Config.merged_override parsed usual⟩
    rw [configure, show a.config = none from named, Config.override_empty]
  | file found read usable =>
    obtain ⟨s, file⟩ := usable.exists_from
    have loaded := Settings.load_eq_ok_iff.mpr ⟨_, _, found, read, usable, file⟩
    refine ⟨_, ?_, Config.merged_override parsed file⟩
    simp only [configure, show a.config = some _ from named, Config.load, loaded, Except.map]

theorem Arguments.said_of_configure (parsed : parse words = .ok a)
    (configured : a.configure t = .ok c) :
    ∃ entries, Config.Said t (valueOf? words .config) entries := by
  have named := config_of_parse parsed
  cases flag : valueOf? words .config with
  | none => exact ⟨[], .nothing⟩
  | some name =>
    rw [flag] at named
    simp only [configure, show a.config = some _ from named, Config.load] at configured
    obtain ⟨base, loaded, -⟩ := exists_of_map_eq_ok configured
    obtain ⟨s, loaded, -⟩ := exists_of_map_eq_ok loaded
    obtain ⟨text, entries, found, read, usable, -⟩ := Settings.load_eq_ok_iff.mp loaded
    exact ⟨entries, .file found read usable⟩

/-- The configuration in force is merged from the command line and what its file says. -/
theorem Arguments.configure_eq_ok_iff (parsed : parse words = .ok a) :
    a.configure t = .ok c ↔ ∃ entries, Config.Said t (valueOf? words .config) entries ∧
      c.Merged (valueOf? words) entries := by
  constructor
  · intro configured
    obtain ⟨entries, said⟩ := said_of_configure parsed configured
    obtain ⟨d, configured', merged⟩ := configure_of_said parsed said
    obtain rfl : c = d := Except.ok.inj (configured.symm.trans configured')
    exact ⟨entries, said, merged⟩
  · rintro ⟨entries, said, merged⟩
    obtain ⟨d, configured, merged'⟩ := configure_of_said parsed said
    rwa [merged.unique merged']

/-- A file that is refused is an error, whatever else the command line gives. -/
theorem Arguments.configure_of_refused (parsed : parse words = .ok a) {name : String}
    {fault : ConfigFault} (named : valueOf? words .config = some name)
    (refused : Config.Refused t name fault) :
    a.configure t = .error (.config (.ofString name) fault) := by
  have path : a.config = some (.ofString name) := by
    rw [config_of_parse parsed, named]
    rfl
  simp only [configure, path, refused.load, Except.map]

end Configure

end Multipath
