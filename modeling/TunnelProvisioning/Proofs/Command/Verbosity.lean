import Mathlib.Data.List.Basic
import TunnelProvisioning.Proofs.Command.Telling

/-! # How much is logged

The settings hold a level for the log, and with a filter in the environment not even the log depends
on it. Without one, the filter for a level lets through what is at least as severe as the level. So
the log of a run is a selection from the events of setting up, which are the same at every level,
and nothing else that a run leaves behind depends on the level.
-/

namespace TunnelProvisioning

/-! ## Levels as filters -/

/-- The word by which the settings name a level. -/
def Level.word : Level → String
  | .error => "error"
  | .warn => "warn"
  | .info => "info"
  | .debug => "debug"
  | .trace => "trace"

theorem Level.word_injective : Function.Injective word := by
  intro level other same
  cases level <;> cases other <;> first | rfl | exact absurd same (by decide)

/-- An accepted level is one that has a word. -/
theorem LoggingSection.exists_word {logging : LoggingSection}
    (accepted : logging.validate = .ok ()) : ∃ level : Level, logging.level = level.word := by
  have known := LoggingSection.validate_eq_ok_iff.mp accepted
  simp only [List.mem_cons, List.not_mem_nil, or_false] at known
  rcases known with named | named | named | named | named
  · exact ⟨.trace, named⟩
  · exact ⟨.debug, named⟩
  · exact ⟨.info, named⟩
  · exact ⟨.warn, named⟩
  · exact ⟨.error, named⟩

namespace LogFilter

theorem passes_upTo (ceiling : Ceiling) (event : Event) :
    (upTo ceiling).passes event = admits ceiling event.level := by
  rfl

/-- The word of a level is read as a directive that concerns everything. -/
theorem ofLevel_word (level : Level) : ofLevel level.word = upTo (some level) := by
  cases level <;> decide

/-- The filter for a level lets through what is at least as severe. -/
theorem passes_ofLevel_word (level : Level) :
    (ofLevel level.word).passes =
      fun event => decide (event.level.verbosity ≤ level.verbosity) := by
  funext event
  rw [ofLevel_word, passes_upTo]
  rfl

/-- A more verbose level lets through more. -/
theorem filter_ofLevel_sublist {level more : Level} (le : level.verbosity ≤ more.verbosity)
    (events : List Event) :
    (events.filter (ofLevel level.word).passes).Sublist
      (events.filter (ofLevel more.word).passes) := by
  rw [passes_ofLevel_word, passes_ofLevel_word]
  apply List.monotone_filter_right
  intro event passed
  rw [decide_eq_true_eq] at passed ⊢
  exact passed.trans le

end LogFilter

/-! ## What does not depend on the level -/

/-- Settings that differ in nothing but the level of the log. -/
structure Settings.SameButLevel (first second : Settings) : Prop where
  tunnel : first.tunnel = second.tunnel
  tap : first.tap = second.tap
  addressing : first.addressing = second.addressing

theorem Settings.SameButLevel.tunnelConfig {first second : Settings}
    (same : first.SameButLevel second) : first.tunnelConfig = second.tunnelConfig := by
  simp only [Settings.tunnelConfig, same.tunnel, same.tap, same.addressing]

variable {κ : Type} {files files' : FileSystem}

namespace Binder

variable {path : Path} (node : files.openNode path = files'.openNode path)
include node

theorem openNode_congr :
    openNode (κ := κ) files path = openNode files' path := by
  funext host
  simp only [openNode, node]

/-- Of a file system only the node that is opened matters. -/
theorem openAndBind_of_sameNode (binder : Binder κ) :
    binder.openAndBind files path = binder.openAndBind files' path := by
  simp only [openAndBind, openOwned, openNode_congr node]

end Binder

namespace CommandLine

variable {options options' : Options} {settings settings' : Settings}

theorem provision_congr (same : settings.SameButLevel settings')
    (node : files.openNode settings.tunnel.devicePath = files'.openNode settings.tunnel.devicePath)
    (control : InterfaceControl κ) (descriptor? : Option Int32) :
    provision control files settings descriptor? =
      provision control files' settings' descriptor? := by
  cases descriptor? with
  | some descriptor => simp only [provision, same.tunnelConfig]
  | none =>
    simp only [provision, same.tunnelConfig, ← same.tunnel, Binder.openAndBind_of_sameNode node]

/-- The options and the level of the log do not matter for setting up, apart from the descriptor. -/
theorem setupAction_congr (descriptor : options.descriptor? = options'.descriptor?)
    (same : settings.SameButLevel settings')
    (node : files.openNode settings.tunnel.devicePath = files'.openNode settings.tunnel.devicePath)
    (control : InterfaceControl κ) :
    setupAction control files options settings = setupAction control files' options' settings' := by
  simp only [setupAction, descriptor, ← same.tunnel, provision_congr same node control]

/-! ## Runs at two levels -/

variable {arguments arguments' : List String} {logSetting : Option String}

/-- A command line that asks for `setup` and whose settings are loaded. -/
structure Loads (files : FileSystem) (arguments : List String) (options : Options)
    (settings : Settings) : Prop where
  asks : Invocation.ofArguments arguments = .setup options
  loaded : loadedSettings files options.config = .ok settings

theorem Loads.run_eq (loads : Loads files arguments options settings)
    (control : InterfaceControl κ) (host : Host κ) :
    run control files logSetting host arguments =
      setupWith control files logSetting host options settings := by
  rw [run, loads.asks]
  exact setup_of_ok options loads.loaded control logSetting host

theorem Loads.exists_word (loads : Loads files arguments options settings) :
    ∃ level : Level, settings.logging.level = level.word := by
  have usable := Settings.validate_of_loadOrStandard loads.loaded
  have known := (Settings.validate_eq_ok_iff_sections.mp usable).2.2.2
  exact LoggingSection.exists_word known

/-- With a filter, a run tells the outcome and logs what the filter lets through. -/
theorem Loads.run_of_some (loads : Loads files arguments options settings) {filter : LogFilter}
    (found : LogFilter.ofEnvironment? logSetting settings.logging.level = some filter)
    (control : InterfaceControl κ) (host : Host κ) :
    run control files logSetting host arguments =
      tell options.json ((provision control files settings options.descriptor?).run host).outcome
        (((setupAction control files options settings).run host).events.filter filter.passes) := by
  rw [loads.run_eq, setupWith, found]
  exact setupFiltered_eq_tell control files filter host options settings

/-- Without a filter a run ends before anything is provisioned. -/
theorem Loads.run_of_none (loads : Loads files arguments options settings)
    (missing : LogFilter.ofEnvironment? logSetting settings.logging.level = none)
    (control : InterfaceControl κ) (host : Host κ) :
    run control files logSetting host arguments = crash := by
  rw [loads.run_eq, setupWith, missing]

/-- The level of the log matters for nothing but the selection of the events that are logged. Two
runs of `setup` with the same descriptor and form of output, whose settings are loaded from any two
files and differ in nothing but the level, do the same to the host, print the same and end with the
same status. Their logs are selections from the same events, in the same order. A filter that the
environment sets selects the same in both. If there is none or if it is malformed, each run logs
what is at least as severe as its level, so the more verbose one logs all that the other one does.
-/
theorem run_level_only_selects (loads : Loads files arguments options settings)
    (loads' : Loads files' arguments' options' settings')
    (descriptor : options.descriptor? = options'.descriptor?) (json : options.json = options'.json)
    (same : settings.SameButLevel settings')
    (node : files.openNode settings.tunnel.devicePath = files'.openNode settings.tunnel.devicePath)
    (control : InterfaceControl κ) (logSetting : Option String) (host : Host κ) :
    let done := run control files logSetting host arguments
    let done' := run control files' logSetting host arguments'
    let report := (setupAction control files options settings).run host
    let selectsByLevel : Prop := ∃ level level' : Level,
      settings.logging.level = level.word ∧ settings'.logging.level = level'.word ∧
      done.events = report.events.filter (·.level.verbosity ≤ level.verbosity) ∧
      done'.events = report.events.filter (·.level.verbosity ≤ level'.verbosity) ∧
      (level.verbosity ≤ level'.verbosity → done.events.Sublist done'.events)
    report = (setupAction control files' options' settings').run host ∧
    done.status = done'.status ∧ done.output = done'.output ∧
    match logSetting.map LogFilter.read with
    | none => selectsByLevel
    | some (.error .malformed) => selectsByLevel
    | some (.ok filter) =>
      done.events = report.events.filter filter.passes ∧ done'.events = done.events
    | some (.error .splitCharacter) => done = crash ∧ done' = crash := by
  intro done done' report selectsByLevel
  have sameAction := setupAction_congr descriptor same node control
  have sameOutcome : (provision control files settings options.descriptor?).run host =
      (provision control files' settings' options'.descriptor?).run host := by
    rw [descriptor, provision_congr same node]
  have selects {filter filter' : LogFilter}
      (found : LogFilter.ofEnvironment? logSetting settings.logging.level = some filter)
      (found' : LogFilter.ofEnvironment? logSetting settings'.logging.level = some filter') :
      done.status = done'.status ∧ done.output = done'.output ∧
        done.events = report.events.filter filter.passes ∧
        done'.events = report.events.filter filter'.passes := by
    have told := loads.run_of_some found control host
    have told' := loads'.run_of_some found' control host
    rw [← sameAction, ← sameOutcome, ← json] at told'
    simp only [done, done', told, told']
    exact ⟨rfl, rfl, rfl, rfl⟩
  have byLevel
      (found : ∀ level, LogFilter.ofEnvironment? logSetting level = some (.ofLevel level)) :
      done.status = done'.status ∧ done.output = done'.output ∧ selectsByLevel := by
    obtain ⟨level, named⟩ := loads.exists_word
    obtain ⟨level', named'⟩ := loads'.exists_word
    obtain ⟨status, output, events, events'⟩ := selects (found _) (found _)
    rw [named] at events
    rw [named'] at events'
    refine ⟨status, output, level, level', named, named', ?_, ?_, ?_⟩
    · rw [events, LogFilter.passes_ofLevel_word]
    · rw [events', LogFilter.passes_ofLevel_word]
    · intro le
      rw [events, events']
      exact LogFilter.filter_ofLevel_sublist le report.events
  refine ⟨congrArg (Action.run · host) sameAction, ?_⟩
  cases environment : logSetting.map LogFilter.read with
  | none => exact byLevel fun level => by rw [LogFilter.ofEnvironment?, environment]
  | some setting =>
    rcases setting with (_ | _) | filter
    · exact byLevel fun level => by rw [LogFilter.ofEnvironment?, environment]
    · have missing (level : String) : LogFilter.ofEnvironment? logSetting level = none := by
        rw [LogFilter.ofEnvironment?, environment]
      have crashed : done = crash := loads.run_of_none (missing _) control host
      have crashed' : done' = crash := loads'.run_of_none (missing _) control host
      rw [crashed, crashed']
      exact ⟨rfl, rfl, rfl, rfl⟩
    · have found (level : String) :
          LogFilter.ofEnvironment? logSetting level = some filter := by
        rw [LogFilter.ofEnvironment?, environment]
      obtain ⟨status, output, events, events'⟩ := selects (found _) (found _)
      exact ⟨status, output, events, events'.trans events.symm⟩

/-- A file that asks for errors only and one that asks for everything, on a kernel that attaches
nothing: both runs fail alike, but only the second one shows how. -/
theorem run_level_only_selects_extremes :
    let document (level : Level) := "[logging]\nlevel = \"" ++ level.word ++ "\"\n"
    let files (level : Level) : FileSystem :=
      ⟨fun _ => true, fun _ => .ok (Utf8.encode (document level).toList), fun _ => .error .missing⟩
    let settings (level : Level) : Settings := { logging := ⟨level.word⟩ }
    let arguments := ["setup", "--fd", "9999", "--json"]
    let options : Options := { descriptor? := some 9999, json := true }
    let done (level : Level) :=
      run .withoutDevices (files level) none { interfaces := () } arguments
    Loads (files .error) arguments options (settings .error) ∧
      Loads (files .trace) arguments options (settings .trace) ∧
      (settings .error).SameButLevel (settings .trace) ∧
      (done .error).output = (done .trace).output ∧ (done .error).status = (done .trace).status ∧
      (done .error).events = [] ∧
      (done .trace).events.map (·.level) = [.info, .debug, .debug, .warn, .warn] := by
  intro document files settings arguments options done
  have asks : Invocation.ofArguments arguments = .setup options := by decide
  have loads : Loads (files .error) arguments options (settings .error) :=
    ⟨asks, by decide +kernel⟩
  have loads' : Loads (files .trace) arguments options (settings .trace) :=
    ⟨asks, by decide +kernel⟩
  have same : (settings .error).SameButLevel (settings .trace) := ⟨rfl, rfl, rfl⟩
  obtain ⟨-, status, output, level, level', named, named', events, events', -⟩ :=
    run_level_only_selects loads loads' rfl rfl same rfl .withoutDevices none { interfaces := () }
  obtain rfl : .error = level := Level.word_injective named
  obtain rfl : .trace = level' := Level.word_injective named'
  refine ⟨loads, loads', same, output, status, ?_, ?_⟩
  · rw [events]
    decide
  · rw [events']
    decide

end CommandLine

end TunnelProvisioning
