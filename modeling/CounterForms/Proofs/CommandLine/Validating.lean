import CounterForms.CommandLine.Run
import CounterForms.Proofs.Outcome

/-!
Judging the configuration in use. A run expands the path that it is given and then looks for the
file. A validation looks for the path as it is written and expands the path of the file that it has
found. Both come to the same file if the path asked for leads somewhere as it is written, or if the
path of a file that was found by itself is left as it is by expanding; otherwise the validation
judges another path or none.
-/

namespace CounterForms

theorem Environment.substitute_plain (environment : Environment) (budget : Nat)
    (text : List Char) (enough : text.length < budget) (noDollar : '$' ∉ text) :
    environment.substitute budget text = .ok text := by
  induction text generalizing budget with
  | nil =>
      cases budget with
      | zero => simp at enough
      | succ budget => rfl
  | cons character later induction =>
      simp only [List.mem_cons, not_or] at noDollar
      cases budget with
      | zero => simp at enough
      | succ budget =>
          have behind := induction budget (by simpa using enough) noDollar.2
          have other : ¬character = '$' := fun same => noDollar.1 same.symm
          rw [substitute]
          · rw [behind]
            rfl
          · intro rest same
            exact absurd same other
          · intro rest same
            exact absurd same other
          · intro same
            exact absurd same other

namespace Path

structure Plain (path : Path) : Prop where
  noDollar : '$' ∉ path.chars
  noTilde : path.chars.head? ≠ some '~'

theorem Plain.expand {path : Path} (plain : path.Plain) (environment : Environment) :
    path.expand environment = .ok path := by
  have text := environment.substitute_plain (path.chars.length + 1) path.chars (by omega)
    plain.noDollar
  have expanded : environment.expand path = .ok path := by
    simp only [Environment.expand, text, bind, Except.bind, if_neg plain.noTilde]
    simp [chars]
  rw [Path.expand, expanded]
  rfl

theorem expand_fault (path : Path) (environment : Environment) (failure : Failure)
    (failed : path.expand environment = .error failure) : failure.attempts = [.expandPath] := by
  unfold Path.expand at failed
  cases expanded : environment.expand path with
  | ok other =>
      rw [expanded] at failed
      cases failed
  | error fault =>
      rw [expanded] at failed
      cases failed
      rfl

end Path

namespace CommandLine

/-- The judgement on the configuration file at a path: what is printed, or why it is refused. -/
def judgeConfig (disk : Disk) (path : Path) : Attempted String := do
  let config ← during (.loadConfigFile path) (Config.load disk path)
  during (.checkConfigFile path) config.check
  .ok ("✓ Config file is valid: " ++ path.text ++ "\n")

/-- A judgement names the path that it is on. -/
theorem judge_config_names (disk : Disk) (path : Path) :
    (∃ attempt earlier cause, judgeConfig disk path = .error ⟨attempt :: earlier, cause⟩ ∧
      (attempt = .loadConfigFile path ∨ attempt = .checkConfigFile path)) ∨
    judgeConfig disk path = .ok ("✓ Config file is valid: " ++ path.text ++ "\n") := by
  unfold judgeConfig
  cases Config.load disk path with
  | error failure => exact .inl ⟨_, failure.attempts, failure.cause, rfl, .inl rfl⟩
  | ok config =>
      simp only [during, bind, Except.bind]
      cases config.check with
      | error failure => exact .inl ⟨_, failure.attempts, failure.cause, rfl, .inr rfl⟩
      | ok _ => exact .inr rfl

theorem judge_config_injective (disk : Disk) (one other : Path)
    (same : judgeConfig disk one = judgeConfig disk other) : one = other := by
  rcases judge_config_names disk one with ⟨attempt, earlier, cause, refused, names⟩ | printed
  · rcases judge_config_names disk other with ⟨again, before, reason, refuses, named⟩ | prints
    · rw [refused, refuses] at same
      cases same
      rcases names with rfl | rfl <;> rcases named with first | first <;> cases first <;> rfl
    · rw [refused, prints] at same
      cases same
  · rcases judge_config_names disk other with ⟨again, before, reason, refuses, named⟩ | prints
    · rw [printed, refuses] at same
      cases same
    · rw [printed, prints] at same
      obtain ⟨text⟩ := one
      obtain ⟨otherText⟩ := other
      simpa using Except.ok.inj same

theorem validate_config_at (environment : Environment) (disk : Disk) (path : Path) :
    validateConfigAt environment disk path = path.expand environment >>= judgeConfig disk := rfl

/-- A validation without a path of its own leads to the configuration file in use: the path that was
asked for leads somewhere as it is written, or expanding leaves the path of the file as it is. -/
def LeadsAsWritten (environment : Environment) (disk : Disk) (asked : Option Path)
    (found : Path) : Prop :=
  match asked with
  | some path => disk.contains path = true
  | none => found.expand environment = .ok found

theorem find_config_asked (environment : Environment) (disk : Disk) (path found : Path)
    (finds : findConfig environment disk (some path) = .ok (some found)) :
    path.expand environment = .ok found ∧ disk.contains found = true := by
  unfold findConfig at finds
  cases expanded : path.expand environment with
  | error failure =>
      simp only [Option.mapM_some, expanded] at finds
      cases finds
  | ok other =>
      simp only [Option.mapM_some, expanded] at finds
      change during .findConfig (Config.findFile environment disk (some other)) = _ at finds
      simp only [Config.findFile] at finds
      by_cases there : disk.contains other = true
      · rw [if_pos there] at finds
        cases finds
        exact ⟨rfl, there⟩
      · rw [if_neg there] at finds
        cases finds

theorem find_config_unasked (environment : Environment) (disk : Disk) (found : Path)
    (finds : findConfig environment disk none = .ok (some found)) :
    Config.findFile environment disk none = .ok (some found) := by
  change during .findConfig (Config.findFile environment disk none) = _ at finds
  generalize Config.findFile environment disk none = outcome at finds ⊢
  cases outcome with
  | error failure => cases finds
  | ok path => exact finds

theorem validate_config_found (environment : Environment) (disk : Disk) (asked : Option Path)
    (found : Path) (finds : findConfig environment disk asked = .ok (some found)) :
    validateConfig environment disk none asked =
      match asked with
      | some path =>
          if disk.contains path then judgeConfig disk found else failBy (.missingConfig path)
      | none => found.expand environment >>= judgeConfig disk := by
  cases asked with
  | none =>
      simp only [validateConfig, find_config_unasked environment disk found finds]
      rfl
  | some path =>
      obtain ⟨expanded, -⟩ := find_config_asked environment disk path found finds
      simp only [validateConfig, Config.findFile]
      split
      · show validateConfigAt environment disk path = _
        rw [validate_config_at, expanded]
        rfl
      · rfl

theorem validate_config_iff (environment : Environment) (disk : Disk) (asked : Option Path)
    (found : Path) (finds : findConfig environment disk asked = .ok (some found)) :
    validateConfig environment disk none asked = judgeConfig disk found ↔
      LeadsAsWritten environment disk asked found := by
  rw [validate_config_found environment disk asked found finds]
  have named := judge_config_names disk found
  cases asked with
  | some path =>
      simp only [LeadsAsWritten]
      by_cases there : disk.contains path = true
      · simp [there]
      · simp only [there, iff_false, Bool.false_eq_true]
        intro same
        rw [← same] at named
        rcases named with ⟨attempt, earlier, cause, refused, -⟩ | printed
        · cases refused
        · cases printed
  | none =>
      simp only [LeadsAsWritten]
      constructor
      · intro same
        cases expanded : found.expand environment with
        | ok other =>
            rw [expanded] at same
            exact congrArg _ (judge_config_injective disk other found same)
        | error failure =>
            -- A path that cannot be expanded is refused before any file is judged.
            rw [expanded] at same
            rw [← same] at named
            have attempts := found.expand_fault environment failure expanded
            obtain ⟨earlier, cause⟩ := failure
            cases attempts
            rcases named with ⟨attempt, others, reason, refused, names⟩ | printed
            · cases refused
              rcases names with same | same <;> cases same
            · cases printed
      · intro left
        rw [left]
        rfl

theorem leads_of_plain (environment : Environment) (disk : Disk) (asked : Option Path)
    (found : Path) (finds : findConfig environment disk asked = .ok (some found))
    (plain : (asked.getD found).Plain) : LeadsAsWritten environment disk asked found := by
  cases asked with
  | none => exact plain.expand environment
  | some path =>
      obtain ⟨expanded, there⟩ := find_config_asked environment disk path found finds
      have same : path = found := Except.ok.inj ((plain.expand environment).symm.trans expanded)
      show disk.contains path = true
      rw [same]
      exact there

theorem judge_config_ok (arguments : Arguments) (environment : Environment) (disk : Disk)
    (found : Path)
    (finds : findConfig environment disk arguments.places.config = .ok (some found)) :
    (∃ text, judgeConfig disk found = .ok text) ↔
      ∃ config, arguments.config environment disk = .ok config := by
  have checks (config : Config) : (arguments.override config).check = config.check := rfl
  unfold Arguments.config judgeConfig
  rw [finds]
  simp only [loadConfig, bind, Except.bind]
  cases Config.load disk found with
  | error failure => simp [during]
  | ok config =>
      simp only [during, checks]
      cases config.check with
      | error failure => simp
      | ok _ => simp

theorem conclude_injective (disk : Disk) (one other : Attempted String)
    (same : conclude disk one = conclude disk other) : one = other := by
  cases one with
  | ok text =>
      cases other with
      | ok otherText =>
          simp only [conclude, Progress.ended.injEq, Outcome.mk.injEq] at same
          exact congrArg _ same.1
      | error failure => simp [conclude] at same
  | error failure =>
      cases other with
      | ok text => simp [conclude] at same
      | error otherFailure => simpa [conclude] using same

/-- A validation of the configuration in use, on a disk and with a command line for which a run
finds a file. The judgement on that file is good exactly if a run gets a configuration. The
validation comes to this judgement exactly if the path that was asked for leads somewhere as it is
written, or, where none was asked for, if expanding leaves the path of the file as it is; and so it
does where that path has no dollar sign and no tilde in front. -/
theorem validation_follows_run (arguments : Arguments) (environment : Environment) (disk : Disk)
    (found : Path) (validates : arguments.command = .validateConfig none)
    (finds : findConfig environment disk arguments.places.config = .ok (some found)) :
    ((∃ text, judgeConfig disk found = .ok text) ↔
      ∃ config, arguments.config environment disk = .ok config) ∧
    (arguments.begin environment disk = conclude disk (judgeConfig disk found) ↔
      LeadsAsWritten environment disk arguments.places.config found) ∧
    ((arguments.places.config.getD found).Plain →
      arguments.begin environment disk = conclude disk (judgeConfig disk found)) := by
  have begins : arguments.begin environment disk =
      conclude disk (validateConfig environment disk none arguments.places.config) := by
    rw [Arguments.begin, validates]
  have agrees := validate_config_iff environment disk arguments.places.config found finds
  refine ⟨judge_config_ok arguments environment disk found finds, ?_, fun plain => ?_⟩
  · rw [begins, ← agrees]
    exact ⟨conclude_injective disk _ _, congrArg _⟩
  · rw [begins]
    exact congrArg _ (agrees.mpr (leads_of_plain environment disk _ found finds plain))

def homeDisk : Disk where
  entries :=
    [(["home"], .directory), (["home", "tally.toml"], .file "save_on_exit = false\n".toUTF8),
      (["home", "$x"], .directory), (["home", "$x", "tally"], .directory),
      (["home", "$x", "tally", "tally.toml"], .file "".toUTF8)]
  workingDirectory := []

def homeEnvironment : Environment where
  values := [("HOME", "/home")]

def validationOf (path : Option Path) : Arguments where
  places := { config := path }
  command := .validateConfig none

theorem validation_follows_run_home :
    findConfig homeEnvironment homeDisk (some ⟨"/home/tally.toml"⟩) =
      .ok (some ⟨"/home/tally.toml"⟩) ∧
    (validationOf (some ⟨"/home/tally.toml"⟩)).begin homeEnvironment homeDisk =
      .ended { printed := "✓ Config file is valid: /home/tally.toml\n", disk := homeDisk } := by
  have evaluated :
      (findConfig homeEnvironment homeDisk (some ⟨"/home/tally.toml"⟩)).toOption =
        some (some ⟨"/home/tally.toml"⟩) ∧
      (judgeConfig homeDisk ⟨"/home/tally.toml"⟩).toOption =
        some "✓ Config file is valid: /home/tally.toml\n" := by
    decide +kernel
  have finds := ok_of_to_option _ _ evaluated.1
  have good := ok_of_to_option _ _ evaluated.2
  obtain ⟨-, -, follows⟩ := validation_follows_run (validationOf (some ⟨"/home/tally.toml"⟩))
    homeEnvironment homeDisk ⟨"/home/tally.toml"⟩ rfl finds
  refine ⟨finds, ?_⟩
  rw [follows ⟨by decide, by decide⟩, good]
  rfl

/-- A run gets its configuration from a file that a validation with the same command line does not
judge: the path asked for has a tilde, or the path of the file found by itself has a dollar sign. -/
theorem used_config_not_validated :
    (findConfig homeEnvironment homeDisk (some ⟨"~/tally.toml"⟩)).toOption =
      some (some ⟨"/home/tally.toml"⟩) ∧
    ((validationOf (some ⟨"~/tally.toml"⟩)).config homeEnvironment homeDisk).toOption.isSome ∧
    (validateConfig homeEnvironment homeDisk none (some ⟨"~/tally.toml"⟩)).toOption = none ∧
    (findConfig { values := [("XDG_CONFIG_HOME", "/home/$x")] } homeDisk none).toOption =
      some (some ⟨"/home/$x/tally/tally.toml"⟩) ∧
    ((validationOf none).config { values := [("XDG_CONFIG_HOME", "/home/$x")] }
      homeDisk).toOption.isSome ∧
    (validateConfig { values := [("XDG_CONFIG_HOME", "/home/$x")] } homeDisk none
      none).toOption = none := by
  decide +kernel

end CommandLine

end CounterForms
