import Phrasebook.Proofs.CommandLine.Stream
import Phrasebook.Proofs.CommandLine.Validation
import Phrasebook.Proofs.Settings.Loading

/-!
# What commands leave as it is

No command does anything before the settings are loaded: if they cannot be loaded, then the command
prints nothing, leaves all files as they are, and ends with the code one (`run_of_error`). After
that, files are made by the preparation only, which the settings can turn off
(`files_run_of_not_createDefaults`), and by `init`, which is there to make them.

Settings that are there but cannot be loaded stop a command only if their path can be looked up
(`found_of_unfit`). A path of the configuration directory that is as long as a path may be leaves no
room for the name of the settings file, and then the command goes on with the default settings.
-/

set_option autoImplicit false

namespace Phrasebook.CommandLine

open FileSystem

variable {fs : FileSystem} {loaded : LoadedSettings} {input : Bytes} {s : Surroundings}
variable {command : Command} {i : Invocation}

/-! ## Carrying out a command -/

theorem bootstrap_of_not_createDefaults (h : loaded.settings.createDefaults = false) :
    bootstrap fs loaded = (fs, []) := by
  rw [bootstrap, h]
  rfl

/-- **One command.** Any command but `init` leaves the files as the preparation made them. -/
theorem files_runPlain (hinit : ∀ force, command ≠ .init force) :
    (runPlain fs loaded input command).files = fs := by
  cases command with
  | apply words => rfl
  | stream token => rfl
  | init force => exact absurd rfl (hinit force)
  | list => rfl
  | validate => exact files_runValidate fs loaded

theorem files_runLoaded (hinit : ∀ force, command ≠ .init force) :
    (runLoaded fs loaded input command).files = (bootstrap fs loaded).1 := by
  have hplain : (runPlain (bootstrap fs loaded).1 loaded input command).files
      = (bootstrap fs loaded).1 := files_runPlain hinit
  -- Whether there is a preparation at all depends on the command.
  cases command with
  | init force => exact absurd rfl (hinit force)
  | apply words => exact hplain
  | stream token => exact hplain
  | list => exact hplain
  | validate => exact hplain

/-! ## Finding the settings first -/

/-- The settings that a command finds. -/
def Surroundings.found (s : Surroundings) (i : Invocation) : Except ConfigError LoadedSettings :=
  Settings.discover s.files s.environment i.configDirectory s.files.workingPath

/-- The configuration directory in which a command looks. -/
def Surroundings.directory (s : Surroundings) (i : Invocation) : Except ConfigError Path :=
  Settings.resolveDirectory s.files s.environment i.configDirectory s.files.workingPath

theorem found_of_directory {d : Path} (h : s.directory i = .ok d) :
    s.found i = Settings.load s.files d := by
  rw [Surroundings.directory] at h
  rw [Surroundings.found, Settings.discover, h]

theorem found_eq_ok_iff :
    s.found i = .ok loaded ↔
      ∃ directory, s.directory i = .ok directory ∧ Settings.Holds s.files directory loaded := by
  cases hdirectory : s.directory i with
  | error e =>
      rw [Surroundings.directory] at hdirectory
      rw [Surroundings.found, Settings.discover, hdirectory]
      simp
  | ok d =>
      rw [found_of_directory hdirectory, Settings.load_eq_ok_iff]
      simp

theorem run_of_error {e : ConfigError} (h : s.found i = .error e) :
    run s i = ⟨1, [], [failureNotice "Failed to load settings".toList e], s.files⟩ := by
  rw [Surroundings.found] at h
  rw [run, h]

theorem run_of_found (h : s.found i = .ok loaded) :
    (run s i).code = (runLoaded s.files loaded s.input i.command).code ∧
      (run s i).output = (runLoaded s.files loaded s.input i.command).output ∧
      (run s i).files = (runLoaded s.files loaded s.input i.command).files := by
  rw [Surroundings.found] at h
  rw [run, h]
  exact ⟨rfl, rfl, rfl⟩

/-- What a command finds where something that is unfit for settings stands in the directory. -/
theorem found_of_unfit {d : Path} {l : Location} {n : Node} {kind : Path → ConfigError}
    (hdirectory : s.directory i = .ok d) (hplace : s.files.locate? d = some l)
    (hthere : s.files.node? l = some .directory)
    (hnode : s.files.node? (l ++ [Settings.fileName]) = some n) (hunfit : Settings.Unfit n kind) :
    s.found i =
      if Text.byteLength (Path.join d Settings.fileName) ≤ Path.maxLength
      then .error (kind (Path.join d Settings.fileName)) else .ok ⟨{}, d, none⟩ := by
  rw [found_of_directory hdirectory]
  exact Settings.load_of_unfit hplace hthere hnode hunfit

theorem files_run_of_not_createDefaults (h : s.found i = .ok loaded)
    (hoff : loaded.settings.createDefaults = false) (hinit : ∀ force, i.command ≠ .init force) :
    (run s i).files = s.files := by
  rw [(run_of_found h).2.2, files_runLoaded hinit, bootstrap_of_not_createDefaults hoff]

theorem respond_of_run {arguments : List Text}
    (h : readArguments s.configVariable arguments = .ok (.run i)) :
    (respond s arguments).code = (run s i).code ∧
      (respond s arguments).output = (run s i).output ∧
      (respond s arguments).files = (run s i).files := by
  rw [respond, h]
  exact ⟨rfl, rfl, rfl⟩

/-- **Effects need settings.** Whatever command a command line asks for: if there is something under
the name of the settings file in the configuration directory that cannot be read as UTF-8, is not
TOML, or has an unknown key or a value of the wrong kind, and if its path is not too long to be
looked up, then the response is the code one, with nothing on standard output and all files as they
were; no settings are found then, also not the default ones. If its path is too long, then the
default settings are found. Settings are found just where `Settings.Holds` says so. If the settings
that are found turn the making of rule files off, then every command but `init` leaves all files as
they were. -/
theorem effects_need_settings (s : Surroundings) (arguments : List Text) (i : Invocation)
    (h : readArguments s.configVariable arguments = .ok (.run i)) :
    (∀ directory l n kind, s.directory i = .ok directory →
      s.files.locate? directory = some l → s.files.node? l = some .directory →
      s.files.node? (l ++ [Settings.fileName]) = some n → Settings.Unfit n kind →
      (Text.byteLength (Path.join directory Settings.fileName) ≤ Path.maxLength →
        s.found i = .error (kind (Path.join directory Settings.fileName)) ∧
          (respond s arguments).code = 1 ∧ (respond s arguments).output = [] ∧
          (respond s arguments).files = s.files) ∧
      (Path.maxLength < Text.byteLength (Path.join directory Settings.fileName) →
        s.found i = .ok ⟨{}, directory, none⟩)) ∧
    (∀ loaded, s.found i = .ok loaded ↔
      ∃ directory, s.directory i = .ok directory ∧ Settings.Holds s.files directory loaded) ∧
    (∀ loaded, s.found i = .ok loaded → loaded.settings.createDefaults = false →
      (∀ force, i.command ≠ .init force) → (respond s arguments).files = s.files) := by
  obtain ⟨hcode, houtput, hfiles⟩ := respond_of_run h
  rw [hcode, houtput, hfiles]
  refine ⟨?_, fun loaded => found_eq_ok_iff, ?_⟩
  · intro directory l n kind hdirectory hplace hthere hnode hunfit
    have hfound := found_of_unfit hdirectory hplace hthere hnode hunfit
    constructor
    · intro hlength
      rw [if_pos hlength] at hfound
      rw [run_of_error hfound]
      exact ⟨hfound, rfl, rfl, rfl⟩
    · intro hlength
      rwa [if_neg (Nat.not_le.2 hlength)] at hfound
  · intro loaded hfound hoff hinit
    exact files_run_of_not_createDefaults hfound hoff hinit

/-- A program in a directory with this settings file in its own directory `config`. -/
def besideSettings (content : Text) : Surroundings where
  files := ⟨[(["w".toList], .directory), (["w".toList, "config".toList], .directory),
    (["w".toList, "config".toList, Settings.fileName], .file (Text.encode content))], ["w".toList]⟩
  values := []
  accountHome := none
  onTerminal := false
  input := []

/-- The only key in the settings file is misspelt. -/
def misspelt : Surroundings := besideSettings "create_defaults = false\n".toList

/-- The settings file turns the making of rule files off. -/
def switchedOff : Surroundings := besideSettings "create-defaults = false\n".toList

/-- The directory in which the misspelt settings are. -/
def misspeltPlace : Location := ["w".toList, "config".toList]

theorem node?_misspelt :
    misspelt.files.node? (misspeltPlace ++ [Settings.fileName])
      = some (.file (Text.encode "create_defaults = false\n".toList)) := by
  decide +kernel

theorem unfit_misspelt :
    Settings.Unfit (.file (Text.encode "create_defaults = false\n".toList)) .settings := by
  have hparse : Toml.parse? "create_defaults = false\n".toList
      = some [("create_defaults".toList, .flag false)] := by decide +kernel
  exact .refused (Text.decode?_encode _) hparse List.mem_cons_self (.unknownKey (by decide))

/-- The misspelt key stops even `init`, and the switch keeps `rules list` from making files. -/
theorem effects_need_settings_beside :
    readArguments misspelt.configVariable ["init".toList, "--force".toList]
        = .ok (.run ⟨.init true, none, 0⟩) ∧
      (respond misspelt ["init".toList, "--force".toList]).code = 1 ∧
      (respond misspelt ["init".toList, "--force".toList]).output = [] ∧
      (respond misspelt ["init".toList, "--force".toList]).files = misspelt.files ∧
      readArguments switchedOff.configVariable ["rules".toList, "list".toList]
        = .ok (.run ⟨.list, none, 0⟩) ∧
      (respond switchedOff ["rules".toList, "list".toList]).files = switchedOff.files := by
  have hinit : readArguments misspelt.configVariable ["init".toList, "--force".toList]
      = .ok (.run ⟨.init true, none, 0⟩) := by decide +kernel
  have hdirectory : misspelt.directory ⟨.init true, none, 0⟩ = .ok "/w/config".toList := by
    decide +kernel
  have hplace : misspelt.files.locate? "/w/config".toList = some misspeltPlace := by
    decide +kernel
  have hthere : misspelt.files.node? misspeltPlace = some .directory := by decide +kernel
  obtain ⟨hstop, -, -⟩ := effects_need_settings misspelt _ _ hinit
  obtain ⟨hreached, -⟩ :=
    hstop _ _ _ _ hdirectory hplace hthere node?_misspelt unfit_misspelt
  obtain ⟨-, hcode, houtput, hfiles⟩ := hreached (by decide +kernel)
  have hlist : readArguments switchedOff.configVariable ["rules".toList, "list".toList]
      = .ok (.run ⟨.list, none, 0⟩) := by decide +kernel
  have hfound : switchedOff.found ⟨.list, none, 0⟩ = .ok
      ⟨{ createDefaults := false }, "/w/config".toList,
        some "/w/config/chatswap.toml".toList⟩ := by decide +kernel
  obtain ⟨-, -, hkeep⟩ := effects_need_settings switchedOff _ _ hlist
  exact ⟨hinit, hcode, houtput, hfiles, hlist, hkeep _ hfound rfl nofun⟩

/-! ## Settings out of reach -/

/-- In a directory whose entries have paths that are too long, the default settings lead to no
rules, so that a message stays as it is. -/
theorem output_apply_of_too_long {d : Path} {words : List Text}
    (h : ∀ name, Path.IsName name → 2 ≤ Text.byteLength name →
      Path.maxLength < Text.byteLength (Path.join d name)) :
    (runLoaded fs ⟨{}, d, none⟩ input (.apply words)).output
      = unlines [Text.joinWith [' '] words] := by
  have hsensitive := h "rules.txt".toList ⟨by decide, by decide, by decide⟩ (by decide)
  have hinsensitive :=
    h "rules-case-insensitive.txt".toList ⟨by decide, by decide, by decide⟩ (by decide)
  rw [output_apply, Rulebook.ofFiles_of_unreadable (readText?_of_too_long hsensitive)
    (readText?_of_too_long hinsensitive)]
  rfl

/-- The directory `config`, under a path of which just the directory itself is within reach. -/
def longWay : Path := Path.dotted "config".toList 2044

theorem byteLength_longWay : Text.byteLength longWay = 4094 := by
  have hconfig : Text.byteLength "config".toList = 6 := by decide
  rw [longWay, Path.byteLength_dotted (by decide) (by decide), hconfig]

theorem too_long_below_longWay (name : Text) (h : Path.IsName name)
    (hname : 2 ≤ Text.byteLength name) :
    Path.maxLength < Text.byteLength (Path.join longWay name) := by
  have hne : longWay ≠ [] := by
    intro hnil
    have hlength := byteLength_longWay
    rw [hnil] at hlength
    cases hlength
  have hjoin := Path.le_byteLength_join hne h
  rw [byteLength_longWay] at hjoin
  show 4095 < _
  omega

/-- The misspelt settings are passed over if the path of the directory leaves no room for their
name: the command ends well, and prints its message. -/
theorem misspelt_out_of_reach :
    readArguments misspelt.configVariable
        ["--config-dir".toList, longWay, "apply".toList, "hi".toList]
          = .ok (.run ⟨.apply ["hi".toList], some longWay, 0⟩) ∧
      misspelt.directory ⟨.apply ["hi".toList], some longWay, 0⟩ = .ok longWay ∧
      misspelt.files.locate? longWay = some misspeltPlace ∧
      misspelt.files.node? misspeltPlace = some .directory ∧
      misspelt.files.node? (misspeltPlace ++ [Settings.fileName])
        = some (.file (Text.encode "create_defaults = false\n".toList)) ∧
      Settings.Unfit (.file (Text.encode "create_defaults = false\n".toList)) .settings ∧
      misspelt.found ⟨.apply ["hi".toList], some longWay, 0⟩ = .ok ⟨{}, longWay, none⟩ ∧
      (respond misspelt ["--config-dir".toList, longWay, "apply".toList, "hi".toList]).code = 0 ∧
      (respond misspelt ["--config-dir".toList, longWay, "apply".toList, "hi".toList]).output
        = "hi\n".toList := by
  have hread : readArguments misspelt.configVariable
      ["--config-dir".toList, longWay, "apply".toList, "hi".toList]
        = .ok (.run ⟨.apply ["hi".toList], some longWay, 0⟩) := by
    have hprefix : "config".toList <+: longWay := Path.prefix_dotted (by decide) (by decide) 2044
    -- The reader looks at the start of the path only, to see that it is no option.
    obtain ⟨rest, hrest⟩ := hprefix
    rw [← hrest]
    rfl
  have hthere : misspelt.files.node? misspeltPlace = some .directory := by decide +kernel
  have hplace : misspelt.files.locate? longWay = some misspeltPlace :=
    locate?_dotted (by decide +kernel) hthere (by decide) (by decide)
  have hlong : Path.maxLength < Text.byteLength (Path.join longWay Settings.fileName) :=
    too_long_below_longWay _ Settings.isName_fileName (by decide)
  have hfound : misspelt.found ⟨.apply ["hi".toList], some longWay, 0⟩
      = .ok ⟨{}, longWay, none⟩ := by
    rw [found_of_unfit rfl hplace hthere node?_misspelt unfit_misspelt,
      if_neg (Nat.not_le.2 hlong)]
  obtain ⟨hcode, houtput, -⟩ := respond_of_run hread
  obtain ⟨hcode', houtput', -⟩ := run_of_found hfound
  rw [hcode, houtput, hcode', houtput']
  exact ⟨hread, rfl, hplace, hthere, node?_misspelt, unfit_misspelt, hfound, rfl,
    output_apply_of_too_long too_long_below_longWay⟩

end Phrasebook.CommandLine
