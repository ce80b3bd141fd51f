import TunnelProvisioning.Proofs.Command.Loading
import TunnelProvisioning.Proofs.WireOutcome

/-! # How an outcome is told

A run of `setup` tells its outcome three times: in a line for a program or in a text for a person,
by advice on privileges, and by its status. The three are worked out apart from one another, the
advice before the outcome is flattened into the form that is handed over and the rest after it, and
they agree, whatever the outcome is and whatever texts it holds.

Nothing is told where the environment sets a filter that splits a character, because then the run
ends when its log is set up.
-/

namespace TunnelProvisioning

/-- An outcome in the form in which it is handed over is read back from its text. -/
theorem WireOutcome.reads_text {outcome : WireOutcome} (fits : outcome.Fits) :
    ofText outcome.text = .ok outcome :=
  ofText_of_value (Json.value_render (readable_toJson fits)) (ofJson?_toJson fits)

theorem WireOutcome.lineFeed_notMem_text {outcome : WireOutcome} (fits : outcome.Fits) :
    '\n' ∉ outcome.text.toList := by
  intro member
  rw [text, Json.Value.render, String.toList_ofList] at member
  have printable := List.all_eq_true.mp (readable_toJson fits).isPrintable '\n' member
  exact absurd printable (by decide)

namespace CommandLine

variable {κ : Type}

/-- What a person reads first. -/
def spoken : WireOutcome → String
  | .interface name descriptor => s!"✅ Interface {name} bound to fd {descriptor}"
  | .handle raw => s!"✅ TAP adapter is up (handle {raw})"
  | .error text => s!"❌ {text}"

/-- A run tells a program an outcome: by one line that holds it, and by the status. -/
structure TellsProgram (outcome : Except ProvisionError Provisioned) (run : Run) : Prop where
  line : ∃ line, run.output = line ++ "\n" ∧ '\n' ∉ line.toList ∧
    WireOutcome.ofText line = .ok (.ofOutcome outcome)
  status : run.status = if outcome.isOk then 0 else 1

/-- A run tells a person an outcome: by a text, after which there is advice exactly if more
privileges would help, and by the status. -/
structure TellsPerson (outcome : Except ProvisionError Provisioned) (run : Run) : Prop where
  text : ∃ hint, run.output = spoken (.ofOutcome outcome) ++ "\n" ++ hint ∧
    (hint = privilegeHint ∨ hint = "") ∧
    (hint = privilegeHint ↔ ∃ fault, outcome = .error fault ∧ fault.requiresPrivileges = true)
  status : run.status = if outcome.isOk then 0 else 1

def tell (json : Bool) (outcome : Except ProvisionError Provisioned) (events : List Event) : Run :=
  ⟨outcomeStatus outcome, if json then outcomeLine outcome else outcomeText outcome, events⟩

theorem lines_singleton (text : String) : lines [text] = text ++ "\n" := by
  simp [lines, String.join]

theorem needsPrivileges_iff {outcome : Except ProvisionError Provisioned} :
    needsPrivileges outcome = true ↔
      ∃ fault, outcome = .error fault ∧ fault.requiresPrivileges = true := by
  cases outcome with
  | ok provisioned => simp [needsPrivileges]
  | error fault => simp [needsPrivileges]

/-- A text for a person is what is read first, and advice on privileges where they would help. -/
theorem outcomeText_eq (outcome : Except ProvisionError Provisioned) :
    outcomeText outcome = spoken (.ofOutcome outcome) ++ "\n" ++
      (if needsPrivileges outcome then privilegeHint else "") := by
  have without (text : String) : lines [text] = text ++ "\n" ++ "" := by
    rw [lines_singleton, String.append_empty]
  cases outcome with
  | ok provisioned =>
    cases provisioned with
    | bound interface => exact without _
    | opened adapter handle => exact without _
  | error fault => exact congrArg (· ++ _) (lines_singleton _)

theorem outcomeStatus_eq (outcome : Except ProvisionError Provisioned) :
    outcomeStatus outcome = if outcome.isOk then 0 else 1 := by
  cases outcome <;> rfl

theorem privilegeHint_ne_empty : privilegeHint ≠ "" := by
  decide

/-- Every outcome whose handle is a number of 64 bits is told to a program. -/
theorem tellsProgram_tell {outcome : Except ProvisionError Provisioned}
    (fits : (WireOutcome.ofOutcome outcome).Fits) (events : List Event) :
    TellsProgram outcome (tell true outcome events) where
  line := ⟨_, lines_singleton _, WireOutcome.lineFeed_notMem_text fits, WireOutcome.reads_text fits⟩
  status := outcomeStatus_eq outcome

/-- Every outcome is told to a person. -/
theorem tellsPerson_tell (outcome : Except ProvisionError Provisioned) (events : List Event) :
    TellsPerson outcome (tell false outcome events) where
  text := by
    refine ⟨_, outcomeText_eq outcome, ?_, ?_⟩
    · split
      · exact .inl rfl
      · exact .inr rfl
    · rw [← needsPrivileges_iff]
      split
      · next helps => exact iff_of_true rfl helps
      · next helpless => exact iff_of_false privilegeHint_ne_empty.symm helpless
  status := outcomeStatus_eq outcome

/-! ## Runs of `setup` -/

/-- What is provisioned here is an interface, so an outcome holds no handle. -/
theorem fits_provision {settings : Settings} (usable : settings.validate = .ok ())
    (control : InterfaceControl κ) (files : FileSystem) (descriptor? : Option Int32)
    (host : Host κ) :
    (WireOutcome.ofOutcome
      ((provision control files settings descriptor?).run host).outcome).Fits := by
  have accepted := (Settings.validate_eq_ok_iff.mp usable).1
  cases descriptor? with
  | some descriptor =>
    have settled := settled_setupTunnel accepted control (some descriptor) host
    change (WireOutcome.ofOutcome
      ((setupTunnel control (some descriptor) settings.tunnelConfig).run host).outcome).Fits
    generalize ((setupTunnel control (some descriptor) settings.tunnelConfig).run host).outcome =
      outcome at settled ⊢
    cases settled <;> trivial
  | none =>
    rw [outcome_provision_none accepted]
    generalize ((Binder.openAndBind _ files settings.tunnel.devicePath).run host).outcome = outcome
    cases outcome <;> trivial

/-- With a filter, `setup` tells the outcome of provisioning. -/
theorem setupFiltered_eq_tell (control : InterfaceControl κ) (files : FileSystem)
    (filter : LogFilter) (host : Host κ) (options : Options) (settings : Settings) :
    setupFiltered control files filter host options settings =
      tell options.json ((provision control files settings options.descriptor?).run host).outcome
        (((setupAction control files options settings).run host).events.filter filter.passes) := by
  have outcome := outcome_setupAction control files options settings host
  simp only [setupFiltered, tell]
  split
  next told ran =>
    rw [outcome] at ran
    obtain rfl := Except.ok.inj ran
    rfl

theorem setup_of_ok {files : FileSystem} (options : Options) {settings : Settings}
    (loaded : loadedSettings files options.config = .ok settings) (control : InterfaceControl κ)
    (logSetting : Option String) (host : Host κ) :
    setup control files logSetting host options =
      setupWith control files logSetting host options settings := by
  rw [setup, loaded]

/-- Whatever the outcome of provisioning with loaded settings is, a program is told it in one line
and a person in a text for the same outcome, after which there is advice exactly if the outcome is
an error that calls for more privileges; and the status is 0 exactly if there is a tunnel, and 1
otherwise. This holds of every outcome, those of other platforms included. But nothing is
provisioned or told, and the status is another one, where the environment sets a filter that splits
a character. -/
theorem setup_tells (control : InterfaceControl κ) (files : FileSystem)
    (logSetting : Option String) (host : Host κ) (options : Options) {settings : Settings}
    (loaded : loadedSettings files options.config = .ok settings) :
    let done (json : Bool) := setup control files logSetting host { options with json }
    let outcome := ((provision control files settings options.descriptor?).run host).outcome
    (match LogFilter.ofEnvironment? logSetting settings.logging.level with
      | some _ => TellsProgram outcome (done true) ∧ TellsPerson outcome (done false)
      | none => ∀ json, done json = ⟨101, "", []⟩) ∧
    ∀ (other : Except ProvisionError Provisioned) (events : List Event),
      (WireOutcome.ofOutcome other).Fits →
        TellsProgram other (tell true other events) ∧
          TellsPerson other (tell false other events) := by
  intro done outcome
  have usable : settings.validate = .ok () := Settings.validate_of_loadOrStandard loaded
  have started (json : Bool) :
      done json = setupWith control files logSetting host { options with json } settings :=
    setup_of_ok { options with json } loaded control logSetting host
  refine ⟨?_, fun other events fits =>
    ⟨tellsProgram_tell fits events, tellsPerson_tell other events⟩⟩
  simp only [started, setupWith]
  cases LogFilter.ofEnvironment? logSetting settings.logging.level with
  | none => exact fun _ => rfl
  | some filter =>
    have fits := fits_provision usable control files options.descriptor? host
    simp only [setupFiltered_eq_tell]
    exact ⟨tellsProgram_tell fits _, tellsPerson_tell _ _⟩

/-- A device node that may not be opened. -/
theorem setup_tells_forbidden :
    let files : FileSystem :=
      ⟨fun _ => false, fun _ => .error .missing, fun _ => .error (.numbered 13)⟩
    let done (json : Bool) := setup .withoutDevices files none { interfaces := () } { json }
    let outcome : Except ProvisionError Provisioned :=
      .error (.nodeUnavailable "/dev/net/tun" (.numbered 13))
    loadedSettings files ({} : Options).config = .ok .standard ∧
      TellsProgram outcome (done true) ∧ TellsPerson outcome (done false) := by
  intro files done outcome
  have loaded : loadedSettings files ({} : Options).config = .ok .standard := rfl
  have told := (setup_tells .withoutDevices files none { interfaces := () } {} loaded).1
  have failed : ((provision .withoutDevices files .standard none).run
      { interfaces := () }).outcome = outcome := by decide
  exact ⟨loaded, failed ▸ told⟩

/-- A filter that splits a character keeps the line from a program, although the settings load. -/
theorem setup_tells_splitting :
    let files : FileSystem :=
      ⟨fun _ => false, fun _ => .error .missing, fun _ => .error .missing⟩
    let options : Options := { descriptor? := some 9999, json := true }
    let done := setup .withoutDevices files (some " é=info") { interfaces := () } options
    loadedSettings files options.config = .ok .standard ∧
      ((provision .withoutDevices files .standard options.descriptor?).run
        { interfaces := () }).outcome = .error (.attachRejected 9) ∧
      done.output = "" ∧ done.status = 101 := by
  decide

end CommandLine

end TunnelProvisioning
