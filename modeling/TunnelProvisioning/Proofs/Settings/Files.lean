import TunnelProvisioning.FileSystem.Tree
import TunnelProvisioning.Proofs.Settings.Document
import TunnelProvisioning.Proofs.Settings.Validation

/-! # Settings in files

A file that holds a text is loaded as the text alone is parsed, but for the place that is blamed
where the text is no document for settings. A file that is found and cannot be read as a text is an
error that names it; only where nothing is found do the defaults take its place.
-/

namespace TunnelProvisioning

namespace FileSystem

variable {files : FileSystem} {path : Path}

theorem readText_of_error {fault : IoError} (refused : files.read path = .error fault) :
    files.readText path = .error fault := by
  rw [readText, refused]
  rfl

/-- A file that holds the octets of no text is not read as one. -/
theorem readText_of_undecoded {octets : List UInt8} (holds : files.read path = .ok octets)
    (undecoded : Utf8.decode? octets = none) :
    files.readText path =
      .error (.described .invalidData "stream did not contain valid UTF-8") := by
  simp only [readText, holds, bind, Except.bind, undecoded]
  rfl

theorem readText_of_decoded {octets : List UInt8} {cs : List Char}
    (holds : files.read path = .ok octets) (decoded : Utf8.decode? octets = some cs) :
    files.readText path = .ok (String.ofList cs) := by
  simp only [readText, holds, bind, Except.bind, decoded]
  rfl

/-- A file is read as a text exactly if it holds the octets of that text. -/
theorem readText_eq_ok_iff {text : String} :
    files.readText path = .ok text ↔ files.read path = .ok (Utf8.encode text.toList) := by
  constructor
  · intro given
    cases holds : files.read path with
    | error fault =>
      rw [readText_of_error holds] at given
      cases given
    | ok octets =>
      cases decoded : Utf8.decode? octets with
      | none =>
        rw [readText_of_undecoded holds decoded] at given
        cases given
      | some cs =>
        rw [readText_of_decoded holds decoded] at given
        obtain rfl := Except.ok.inj given
        rw [String.toList_ofList, Utf8.decode?_eq_some_iff.mp decoded]
  · intro holds
    rw [readText_of_decoded holds (Utf8.decode?_eq_some_iff.mpr rfl), String.ofList_toList]

theorem readText_of_no_text {octets : List UInt8} (holds : files.read path = .ok octets)
    (noText : ∀ text : String, octets ≠ Utf8.encode text.toList) :
    files.readText path =
      .error (.described .invalidData "stream did not contain valid UTF-8") := by
  apply readText_of_undecoded holds
  rw [Option.eq_none_iff_forall_ne_some]
  intro cs decoded
  apply noText (String.ofList cs)
  rw [String.toList_ofList, Utf8.decode?_eq_some_iff.mp decoded]

end FileSystem

/-- A directory is found, and cannot be read. -/
theorem FileTree.read_directory {root current : FileTree} {path : Path}
    {entries : List (List UInt8 × FileTree)}
    (found : resolve root current path = .ok (.directory entries)) :
    (fileSystem root current).isPresent path = true ∧
      (fileSystem root current).read path = .error (.numbered 21) := by
  constructor
  · simp only [fileSystem, found]
  · simp only [fileSystem, found]
    rfl

namespace Settings

/-- What the same text gives at two places: settings that can be used, the field or the addressing
for which they cannot, or a fault that is blamed on the place. -/
inductive ReadAlike (place other : String) :
    Except SettingsError Settings → Except SettingsError Settings → Prop where
  | usable {settings : Settings} (accepted : settings.validate = .ok ()) :
      ReadAlike place other (.ok settings) (.ok settings)
  | invalid {settings : Settings} {field reason : String}
      (refused : settings.validate = .error (.invalid field reason)) :
      ReadAlike place other (.error (.invalid field reason)) (.error (.invalid field reason))
  | invalidInput {settings : Settings} {fault : InvalidInput}
      (refused : settings.validate = .error (.invalidInput fault)) :
      ReadAlike place other (.error (.invalidInput fault)) (.error (.invalidInput fault))
  | unread (fault : LoadFault) :
      ReadAlike place other (.error (.load place fault)) (.error (.load other fault))

theorem ReadAlike.eq_ok_iff {place other : String} {result result' : Except SettingsError Settings}
    (alike : ReadAlike place other result result') (settings : Settings) :
    result = .ok settings ↔ result' = .ok settings := by
  cases alike with
  | usable accepted => rfl
  | invalid refused => rfl
  | invalidInput refused => rfl
  | unread fault => exact iff_of_false nofun nofun

/-- The place of a text matters for nothing but for the blame. -/
theorem readAlike_ofDocument (place other text : String) :
    ReadAlike place other (ofDocument place text) (ofDocument other text) := by
  cases given : read text with
  | error fault =>
    rw [ofDocument_of_error given, ofDocument_of_error given]
    exact .unread fault
  | ok settings =>
    rw [ofDocument_of_ok given, ofDocument_of_ok given]
    cases checked : settings.validate with
    | error error =>
      rcases validate_eq_error_cases checked with ⟨field, reason, rfl⟩ | ⟨fault, rfl⟩
      · exact .invalid checked
      · exact .invalidInput checked
    | ok => exact .usable checked

variable {files : FileSystem} {path : Path}

theorem ofFile_of_ok {text : String} (holds : files.readText path = .ok text) :
    ofFile files path = ofDocument path.text text := by
  rw [ofFile, holds]
  rfl

theorem ofFile_of_error {fault : IoError} (unreadable : files.readText path = .error fault) :
    ofFile files path = .error (.load path.text (.unreadable fault)) := by
  rw [ofFile, unreadable]
  rfl

/-- Loading a file and parsing its text give the same, but for the place that is blamed. A file that
cannot be read, or not as a text, is an error that names it. The defaults are taken only where
nothing is found; what is found is loaded, with the same outcome and the same log, so a file that
cannot be read, for instance a directory, is an error there too. So settings that can be used and
are written to a file are loaded from it as they were. -/
theorem load_agrees {σ : Type} (files : FileSystem) (path : Path) (state : σ) :
    let loaded := ((load files path).run state).outcome
    let unloaded fault : Except SettingsError Settings :=
      .error (.load path.text (.unreadable fault))
    (∀ text : String, files.read path = .ok (Utf8.encode text.toList) →
      ReadAlike path.text "<string>" loaded (parse text) ∧
      ∀ settings, loaded = .ok settings ↔ parse text = .ok settings) ∧
    (∀ fault, files.read path = .error fault → loaded = unloaded fault) ∧
    (∀ octets, files.read path = .ok octets → (∀ text : String, octets ≠ Utf8.encode text.toList) →
      loaded = unloaded (.described .invalidData "stream did not contain valid UTF-8")) ∧
    (∀ root current entries, files = FileTree.fileSystem root current →
      FileTree.resolve root current path = .ok (.directory entries) →
        files.isPresent path = true ∧ loaded = unloaded (.numbered 21)) ∧
    (loadOrStandard files path).run state =
      (if files.isPresent path then (load files path).run state
      else ⟨.ok standard, state,
        [⟨.info, .settings, "Config file " ++ path.text ++ " not found, using defaults"⟩]⟩) ∧
    ∀ settings : Settings, settings.validate = .ok () → settings.tunnel.devicePath.IsText →
      ∃ document, settings.toDocument = .ok document ∧
        (files.read path = .ok (Utf8.encode document.toList) → loaded = .ok settings) := by
  intro loaded unloaded
  have given : loaded = ofFile files path := outcome_load
  have unread {fault : IoError} (refused : files.read path = .error fault) :
      loaded = unloaded fault := by
    rw [given]
    exact ofFile_of_error (FileSystem.readText_of_error refused)
  have ofText {text : String} (holds : files.read path = .ok (Utf8.encode text.toList)) :
      loaded = ofDocument path.text text := by
    rw [given]
    exact ofFile_of_ok (FileSystem.readText_eq_ok_iff.mpr holds)
  refine ⟨?_, fun fault => unread, ?_, ?_, ?_, ?_⟩
  · intro text holds
    have alike : ReadAlike path.text "<string>" loaded (parse text) := by
      rw [ofText holds]
      exact readAlike_ofDocument path.text "<string>" text
    exact ⟨alike, alike.eq_ok_iff⟩
  · intro octets holds noText
    rw [given]
    exact ofFile_of_error (FileSystem.readText_of_no_text holds noText)
  · rintro root current entries rfl found
    obtain ⟨present, refused⟩ := FileTree.read_directory found
    exact ⟨present, unread refused⟩
  · rw [loadOrStandard]
    split <;> rfl
  · intro settings accepted isText
    have written := settings.read_toDocument
    rw [if_pos isText] at written
    obtain ⟨document, wrote, readBack, _⟩ := written
    refine ⟨document, wrote, fun holds => ?_⟩
    rw [ofText holds, ofDocument_of_ok readBack, accepted]
    rfl

/-- A value of a wrong kind is found at the same position in the file and in the text. -/
theorem load_agrees_misfit :
    let text := "\n[tunnel]\npersist = 1\n"
    let path := Path.ofText "tunsmith.toml"
    let files : FileSystem :=
      ⟨fun _ => true, fun _ => .ok (Utf8.encode text.toList), fun _ => .error .missing⟩
    let fault := LoadFault.misfit 3 11 "invalid type: integer `1`, expected a boolean"
    files.read path = .ok (Utf8.encode text.toList) ∧
      parse text = .error (.load "<string>" fault) ∧
      ((load files path).run ()).outcome = .error (.load "tunsmith.toml" fault) := by
  intro text path files fault
  have holds : files.read path = .ok (Utf8.encode text.toList) := rfl
  have parsed : parse text = .error (.load "<string>" fault) := by decide +kernel
  have named : path.text = "tunsmith.toml" := by decide +kernel
  have alike := ((load_agrees files path ()).1 text holds).1
  rw [parsed, named] at alike
  generalize ((load files path).run ()).outcome = loaded at alike ⊢
  cases alike with
  | unread => exact ⟨holds, parsed, rfl⟩

end Settings

end TunnelProvisioning
