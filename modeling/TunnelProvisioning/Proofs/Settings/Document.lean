import TunnelProvisioning.Proofs.Addressing.Ipv4
import TunnelProvisioning.Proofs.FileSystem.Path
import TunnelProvisioning.Proofs.Toml.Sections
import TunnelProvisioning.Settings.Document

/-! # Settings read back

Settings that are written as a document are read back from it in every field, whatever their texts
hold and whether or not they can be used. Whether the document is accepted is therefore decided by
the settings alone.
-/

namespace TunnelProvisioning

open Toml

namespace Setting

variable {α : Type} {settings : List (Setting α)} {name : String} {member : Key × Node}

theorem foldlM_assignKey_cons {members : Members} {current next : α}
    (assigned : assignKey settings current member = .ok next) :
    (member :: members).foldlM (assignKey settings) current =
      members.foldlM (assignKey settings) next := by
  rw [List.foldlM_cons, assigned]
  rfl

theorem assignKey_text {expected content : String} {assign : String → α → α}
    (found : settings.find? (·.name = name) = some (.ofText name expected assign))
    (holds : HoldsEntry (name, .text content) member) (current : α) :
    assignKey settings current member = .ok (assign content current) := by
  cases holds with
  | intro _ _ start place =>
    simp only [assignKey, found]
    rfl

theorem assignKey_boolean {truth : Bool} {assign : Bool → α → α}
    (found : settings.find? (·.name = name) = some (.ofBoolean name assign))
    (holds : HoldsEntry (name, .boolean truth) member) (current : α) :
    assignKey settings current member = .ok (assign truth current) := by
  cases holds with
  | intro _ _ start place =>
    simp only [assignKey, found]
    rfl

/-- The text of an address gives the setting that address. -/
theorem assignKey_address {address : Ipv4} {assign : Ipv4 → α → α}
    (found : settings.find? (·.name = name) = some (.ofAddress name assign))
    (holds : HoldsEntry (name, .text address.text) member) (current : α) :
    assignKey settings current member = .ok (assign address current) := by
  cases holds with
  | intro _ _ start place =>
    simp only [assignKey, found]
    simp only [ofAddress, Literal.scalar, Ipv4.ofText?_text]

theorem assignKey_section {β : Type} {expected : String} {inner : List (Setting β)}
    {first last : β} {assign : β → α → α} {entries : List (String × Literal)}
    (found : settings.find? (·.name = name) = some (.ofSection name expected inner first assign))
    (holds : HoldsSection ⟨name, entries⟩ member)
    (assigned : ∀ members, List.Forall₂ HoldsEntry entries members →
      members.foldlM (assignKey inner) first = .ok last) (current : α) :
    assignKey settings current member = .ok (assign last current) := by
  cases holds with
  | intro start place held =>
    simp only [assignKey, found]
    simp only [ofSection, assigned _ held]
    rfl

end Setting

/-! ## Sections -/

section

open Setting

variable {members : Members}

theorem TunnelSection.foldlM_assignKey {interfaceName devicePath : String} {persist : Bool}
    (held : List.Forall₂ HoldsEntry [("interface_name", .text interfaceName),
      ("device_path", .text devicePath), ("persist", .boolean persist)] members) :
    members.foldlM (assignKey settings) {} =
      .ok ⟨interfaceName, .ofText devicePath, persist⟩ := by
  simp only [List.forall₂_cons_left_iff, List.forall₂_nil_left_iff] at held
  obtain ⟨first, _, name, ⟨second, _, path, ⟨third, _, kept, rfl, rfl⟩, rfl⟩, rfl⟩ := held
  rw [foldlM_assignKey_cons (assignKey_text rfl name _),
    foldlM_assignKey_cons (assignKey_text rfl path _),
    foldlM_assignKey_cons (assignKey_boolean rfl kept _)]
  rfl

theorem TapSection.foldlM_assignKey {componentId : String} {strictControl : Bool}
    (held : List.Forall₂ HoldsEntry [("component_id", .text componentId),
      ("strict_control", .boolean strictControl)] members) :
    members.foldlM (assignKey settings) {} = .ok ⟨componentId, strictControl⟩ := by
  simp only [List.forall₂_cons_left_iff, List.forall₂_nil_left_iff] at held
  obtain ⟨first, _, id, ⟨second, _, strict, rfl, rfl⟩, rfl⟩ := held
  rw [foldlM_assignKey_cons (assignKey_text rfl id _),
    foldlM_assignKey_cons (assignKey_boolean rfl strict _)]
  rfl

theorem GivenAddresses.foldlM_assignKey {localAddress network netmask : Ipv4}
    (held : List.Forall₂ HoldsEntry [("local_address", .text localAddress.text),
      ("network", .text network.text), ("netmask", .text netmask.text)] members) :
    members.foldlM (assignKey settings) {} =
      .ok ⟨some localAddress, some network, some netmask⟩ := by
  simp only [List.forall₂_cons_left_iff, List.forall₂_nil_left_iff] at held
  obtain ⟨first, _, own, ⟨second, _, net, ⟨third, _, mask, rfl, rfl⟩, rfl⟩, rfl⟩ := held
  rw [foldlM_assignKey_cons (assignKey_address rfl own _),
    foldlM_assignKey_cons (assignKey_address rfl net _),
    foldlM_assignKey_cons (assignKey_address rfl mask _)]
  rfl

theorem LoggingSection.foldlM_assignKey {level : String}
    (held : List.Forall₂ HoldsEntry [("level", .text level)] members) :
    members.foldlM (assignKey settings) {} = .ok ⟨level⟩ := by
  simp only [List.forall₂_cons_left_iff, List.forall₂_nil_left_iff] at held
  obtain ⟨first, _, shown, rfl, rfl⟩ := held
  rw [foldlM_assignKey_cons (assignKey_text rfl shown _)]
  rfl

end

namespace Settings

open Setting

variable (settings : Settings) (devicePath : String)

/-- The sections of the document of settings whose device path is the given text. -/
def tables : List Section :=
  [⟨"tunnel", [("interface_name", .text settings.tunnel.interfaceName),
      ("device_path", .text devicePath), ("persist", .boolean settings.tunnel.persist)]⟩,
    ⟨"tap", [("component_id", .text settings.tap.componentId),
      ("strict_control", .boolean settings.tap.strictControl)]⟩,
    ⟨"addressing", [("local_address", .text settings.addressing.localAddress.text),
      ("network", .text settings.addressing.network.text),
      ("netmask", .text settings.addressing.netmask.text)]⟩,
    ⟨"logging", [("level", .text settings.logging.level)]⟩]

/-- The lines of the document of settings whose device path is the given text. -/
def lines : List Line :=
  List.intercalate [.blank] ((settings.tables devicePath).map Section.lines)

theorem document_eq : settings.document devicePath =
    (settings.lines devicePath).flatMap Line.chars := by
  simp only [document, lines, tables, Section.lines, heading, textAssignment, assignment,
    List.map_cons, List.map_nil, List.intercalate, List.intersperse, List.flatten_cons,
    List.flatten_nil, List.flatMap_cons, List.flatMap_nil, Line.chars,
    Literal.chars, List.append_assoc, List.cons_append, List.nil_append, List.append_nil]

/-- The document is read as the tree with the tables of the settings. -/
theorem parse?_document :
    ∃ members, parse? (String.ofList (settings.document devicePath)) = some members ∧
      List.Forall₂ HoldsSection (settings.tables devicePath) members := by
  rw [document_eq]
  apply parse?_lines
  · simp only [lines, tables, Section.lines, List.map_cons, List.map_nil, List.intercalate,
      List.intersperse, List.flatten_cons, List.flatten_nil, List.cons_append, List.nil_append,
      List.all_cons, List.all_nil, Line.isBare]
    decide
  · simp [lines, tables, Section.lines, List.intercalate]
  · simp [tables]
  · simp [tables]

/-- The tables of settings give these settings. -/
theorem ofMembers_tables {members : Members}
    (path : settings.tunnel.devicePath = .ofText devicePath)
    (held : List.Forall₂ HoldsSection (settings.tables devicePath) members) :
    ofMembers members = .ok settings := by
  rw [tables] at held
  simp only [List.forall₂_cons_left_iff, List.forall₂_nil_left_iff] at held
  obtain ⟨first, _, tunnel, ⟨second, _, tap, ⟨third, _, addressing, ⟨fourth, _, logging, rfl, rfl⟩,
    rfl⟩, rfl⟩, rfl⟩ := held
  rw [ofMembers,
    foldlM_assignKey_cons
      (assignKey_section rfl tunnel (fun _ => TunnelSection.foldlM_assignKey) _),
    foldlM_assignKey_cons (assignKey_section rfl tap (fun _ => TapSection.foldlM_assignKey) _),
    foldlM_assignKey_cons
      (assignKey_section rfl addressing (fun _ => GivenAddresses.foldlM_assignKey) _),
    foldlM_assignKey_cons
      (assignKey_section rfl logging (fun _ => LoggingSection.foldlM_assignKey) _)]
  rw [← path]
  rfl

theorem read_document (path : settings.tunnel.devicePath = .ofText devicePath) :
    read (String.ofList (settings.document devicePath)) = .ok settings := by
  obtain ⟨members, parsed, held⟩ := settings.parse?_document devicePath
  simp only [read, parsed, settings.ofMembers_tables devicePath path held]

/-- Settings whose device path is a text are written, are read back as they were, and are accepted
exactly if they can be used, and otherwise refused for the reason why they cannot. Settings with any
other device path are not written. -/
theorem read_toDocument :
    if settings.tunnel.devicePath.IsText then
      ∃ document, settings.toDocument = .ok document ∧ read document = .ok settings ∧
        parse document = settings.validate.map fun _ => settings
    else settings.toDocument = .error (.internal "path contains invalid UTF-8 characters") := by
  split
  · next isText =>
    obtain ⟨devicePath, path⟩ := isText
    have readBack := settings.read_document devicePath path
    refine ⟨String.ofList (settings.document devicePath), ?_, readBack, ?_⟩
    · rw [toDocument, Path.text?_eq_some_iff.mpr path]
    · rw [parse, ofDocument, readBack]
      change (settings.validate.bind fun _ => .ok settings) = _
      cases settings.validate <;> rfl
  · next noText =>
    have missing := Option.not_isSome_iff_eq_none.mp (mt Path.isSome_text?_iff.mp noText)
    rw [toDocument, missing]

end Settings

end TunnelProvisioning
