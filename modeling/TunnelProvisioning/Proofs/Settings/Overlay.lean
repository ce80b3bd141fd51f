import TunnelProvisioning.Proofs.Settings.Kinds
import TunnelProvisioning.Proofs.Settings.Validation
import TunnelProvisioning.Proofs.Toml.Nesting

/-! # Settings as an overlay

A document need not give all settings. What it gives of the nine known keys is laid over the
defaults, and nothing else in it matters: not the order of tables and keys, and not the keys and
tables that are unknown. Only the network has a default that depends on the document, since it
follows from the local address and the netmask, given or not.
-/

namespace TunnelProvisioning

open Toml

/-- The known tables, each with its known keys. -/
def knownKeys : List (String × List (String × ValueKind)) :=
  [("tunnel", [("interface_name", .text), ("device_path", .text), ("persist", .boolean)]),
    ("tap", [("component_id", .text), ("strict_control", .boolean)]),
    ("addressing", [("local_address", .address), ("network", .address), ("netmask", .address)]),
    ("logging", [("level", .text)])]

/-- What a document gives of the settings. -/
structure GivenSettings where
  interfaceName : Option String
  devicePath : Option Path
  persist : Option Bool
  componentId : Option String
  strictControl : Option Bool
  localAddress : Option Ipv4
  network : Option Ipv4
  netmask : Option Ipv4
  level : Option String

def Toml.Members.given (members : Members) : GivenSettings where
  interfaceName := (members.at? "tunnel" "interface_name").bind Node.text?
  devicePath := (members.at? "tunnel" "device_path").bind Node.path?
  persist := (members.at? "tunnel" "persist").bind Node.boolean?
  componentId := (members.at? "tap" "component_id").bind Node.text?
  strictControl := (members.at? "tap" "strict_control").bind Node.boolean?
  localAddress := (members.at? "addressing" "local_address").bind Node.address?
  network := (members.at? "addressing" "network").bind Node.address?
  netmask := (members.at? "addressing" "netmask").bind Node.address?
  level := (members.at? "logging" "level").bind Node.text?

/-- Whether each known key of a document has a value of its kind. -/
def Toml.Members.Fits (members : Members) : Prop :=
  ∀ group ∈ knownKeys, ∀ key ∈ group.2, ∀ node,
    members.Gives group.1 key.1 node → key.2.accepts node = true

/-- Whether two documents have the same values under the known keys, wherever these stand. -/
def Toml.Members.SameKnown (members others : Members) : Prop :=
  ∀ group ∈ knownKeys, ∀ key ∈ group.2,
    (members.at? group.1 key.1).map Node.scalar? = (others.at? group.1 key.1).map Node.scalar?

/-- Given settings laid over the defaults. -/
def GivenSettings.overlay (given : GivenSettings) : Settings :=
  let standard := Settings.standard
  let localAddress := given.localAddress.getD standard.addressing.localAddress
  let netmask := given.netmask.getD standard.addressing.netmask
  { tunnel :=
      { interfaceName := given.interfaceName.getD standard.tunnel.interfaceName
        devicePath := given.devicePath.getD standard.tunnel.devicePath
        persist := given.persist.getD standard.tunnel.persist }
    tap :=
      { componentId := given.componentId.getD standard.tap.componentId
        strictControl := given.strictControl.getD standard.tap.strictControl }
    addressing :=
      { localAddress
        network := given.network.getD (localAddress.land netmask)
        netmask }
    logging := { level := given.level.getD standard.logging.level } }

open Setting

/-! ## Parts of the settings -/

section

variable {members : Members}

theorem TunnelSection.eq_of_foldlM {filled : TunnelSection} (distinct : members.Distinct)
    (ran : members.foldlM (assignKey settings) {} = .ok filled) :
    filled =
      { interfaceName := ((members.get? "interface_name").bind Node.text?).getD "tun"
        devicePath := ((members.get? "device_path").bind Node.path?).getD (.ofText "/dev/net/tun")
        persist := ((members.get? "persist").bind Node.boolean?).getD false } := by
  have takes_devicePath := (takes_ofText "device_path" "path string" _).map Path.ofText
    fun path (tunnel : TunnelSection) => { tunnel with devicePath := path }
  have named : Governs settings "interface_name" interfaceName fun node part =>
      node.text? = some part :=
    .head ((takes_ofText ..).gives fun _ _ => rfl)
      (List.forall_mem_cons.mpr ⟨(takes_ofText ..).keeps fun _ _ => rfl,
        List.forall_mem_singleton.mpr ((takes_ofBoolean ..).keeps fun _ _ => rfl)⟩)
  have opened : Governs settings "device_path" devicePath fun node part =>
      node.path? = some part :=
    .tail ((takes_ofText ..).keeps fun _ _ => rfl) (by decide)
      (.head (takes_devicePath.gives fun _ _ => rfl)
        (List.forall_mem_singleton.mpr ((takes_ofBoolean ..).keeps fun _ _ => rfl)))
  have kept : Governs settings "persist" persist fun node part => node.boolean? = some part :=
    .tail ((takes_ofText ..).keeps fun _ _ => rfl) (by decide)
      (.tail ((takes_ofText ..).keeps fun _ _ => rfl) (by decide)
        (.head ((takes_ofBoolean ..).gives fun _ _ => rfl) (List.forall_mem_nil _)))
  rw [← named.get_eq distinct ran, ← opened.get_eq distinct ran, ← kept.get_eq distinct ran]

theorem TapSection.eq_of_foldlM {filled : TapSection} (distinct : members.Distinct)
    (ran : members.foldlM (assignKey settings) {} = .ok filled) :
    filled =
      { componentId := ((members.get? "component_id").bind Node.text?).getD "tap0901"
        strictControl := ((members.get? "strict_control").bind Node.boolean?).getD false } := by
  have identified : Governs settings "component_id" componentId fun node part =>
      node.text? = some part :=
    .head ((takes_ofText ..).gives fun _ _ => rfl)
      (List.forall_mem_singleton.mpr ((takes_ofBoolean ..).keeps fun _ _ => rfl))
  have strict : Governs settings "strict_control" strictControl fun node part =>
      node.boolean? = some part :=
    .tail ((takes_ofText ..).keeps fun _ _ => rfl) (by decide)
      (.head ((takes_ofBoolean ..).gives fun _ _ => rfl) (List.forall_mem_nil _))
  rw [← identified.get_eq distinct ran, ← strict.get_eq distinct ran]

theorem LoggingSection.eq_of_foldlM {filled : LoggingSection} (distinct : members.Distinct)
    (ran : members.foldlM (assignKey settings) {} = .ok filled) :
    filled = { level := ((members.get? "level").bind Node.text?).getD "info" } := by
  have leveled : Governs settings "level" level fun node part => node.text? = some part :=
    .head ((takes_ofText ..).gives fun _ _ => rfl) (List.forall_mem_nil _)
  rw [← leveled.get_eq distinct ran]

theorem GivenAddresses.eq_of_foldlM {filled : GivenAddresses} (distinct : members.Distinct)
    (ran : members.foldlM (assignKey settings) {} = .ok filled) :
    filled =
      { localAddress := (members.get? "local_address").bind Node.address?
        network := (members.get? "network").bind Node.address?
        netmask := (members.get? "netmask").bind Node.address? } := by
  have own : Governs settings "local_address" localAddress fun node part =>
      node.address?.map some = some part :=
    .head (((takes_ofAddress ..).map some fun address (given : GivenAddresses) =>
        { given with localAddress := address }).gives fun _ _ => rfl)
      (List.forall_mem_cons.mpr ⟨(takes_ofAddress ..).keeps fun _ _ => rfl,
        List.forall_mem_singleton.mpr ((takes_ofAddress ..).keeps fun _ _ => rfl)⟩)
  have net : Governs settings "network" network fun node part =>
      node.address?.map some = some part :=
    .tail ((takes_ofAddress ..).keeps fun _ _ => rfl) (by decide)
      (.head (((takes_ofAddress ..).map some fun address (given : GivenAddresses) =>
          { given with network := address }).gives fun _ _ => rfl)
        (List.forall_mem_singleton.mpr ((takes_ofAddress ..).keeps fun _ _ => rfl)))
  have mask : Governs settings "netmask" netmask fun node part =>
      node.address?.map some = some part :=
    .tail ((takes_ofAddress ..).keeps fun _ _ => rfl) (by decide)
      (.tail ((takes_ofAddress ..).keeps fun _ _ => rfl) (by decide)
        (.head (((takes_ofAddress ..).map some fun address (given : GivenAddresses) =>
            { given with netmask := address }).gives fun _ _ => rfl)
          (List.forall_mem_nil _)))
  have present (found : Option Node) :
      (found.bind fun node => node.address?.map some).getD none = found.bind Node.address? := by
    rcases found with _ | node
    · rfl
    · dsimp only [Option.bind_some]
      cases node.address? <;> rfl
  rw [← present, ← present, ← present, ← own.get_eq distinct ran, ← net.get_eq distinct ran,
    ← mask.get_eq distinct ran]

end

/-! ## Known keys -/

theorem TunnelSection.ofKeys : OfKeys settings
    [("interface_name", .text), ("device_path", .text), ("persist", .boolean)] where
  kinds := .cons ⟨rfl, (takes_ofText ..).ofKind fun _ => rfl⟩
    (.cons ⟨rfl, (takes_ofText ..).ofKind fun _ => rfl⟩
      (.cons ⟨rfl, (takes_ofBoolean ..).ofKind fun _ => rfl⟩ .nil))
  distinct := by decide

theorem TapSection.ofKeys : OfKeys settings
    [("component_id", .text), ("strict_control", .boolean)] where
  kinds := .cons ⟨rfl, (takes_ofText ..).ofKind fun _ => rfl⟩
    (.cons ⟨rfl, (takes_ofBoolean ..).ofKind fun _ => rfl⟩ .nil)
  distinct := by decide

theorem GivenAddresses.ofKeys : OfKeys settings
    [("local_address", .address), ("network", .address), ("netmask", .address)] where
  kinds := .cons ⟨rfl, (takes_ofAddress ..).ofKind fun _ => rfl⟩
    (.cons ⟨rfl, (takes_ofAddress ..).ofKind fun _ => rfl⟩
      (.cons ⟨rfl, (takes_ofAddress ..).ofKind fun _ => rfl⟩ .nil))
  distinct := by decide

theorem LoggingSection.ofKeys : OfKeys settings [("level", .text)] where
  kinds := .cons ⟨rfl, (takes_ofText ..).ofKind fun _ => rfl⟩ .nil
  distinct := by decide

/-! ## Documents -/

namespace Settings

variable {members : Members} {settings : Settings}

theorem governs_tunnel : Governs sections "tunnel" tunnel (Fills TunnelSection.settings {} id) :=
  .head ((encloses_ofSection ..).gives fun _ _ => rfl)
    (List.forall_mem_cons.mpr ⟨(encloses_ofSection ..).keeps fun _ _ => rfl,
      List.forall_mem_cons.mpr ⟨(encloses_ofSection ..).keeps fun _ _ => rfl,
        List.forall_mem_singleton.mpr ((encloses_ofSection ..).keeps fun _ _ => rfl)⟩⟩)

theorem governs_tap : Governs sections "tap" tap (Fills TapSection.settings {} id) :=
  .tail ((encloses_ofSection ..).keeps fun _ _ => rfl) (by decide)
    (.head ((encloses_ofSection ..).gives fun _ _ => rfl)
      (List.forall_mem_cons.mpr ⟨(encloses_ofSection ..).keeps fun _ _ => rfl,
        List.forall_mem_singleton.mpr ((encloses_ofSection ..).keeps fun _ _ => rfl)⟩))

theorem governs_addressing : Governs sections "addressing" addressing
    (Fills GivenAddresses.settings {} GivenAddresses.addressing) :=
  .tail ((encloses_ofSection ..).keeps fun _ _ => rfl) (by decide)
    (.tail ((encloses_ofSection ..).keeps fun _ _ => rfl) (by decide)
      (.head ((encloses_ofSection ..).gives fun _ _ => rfl)
        (List.forall_mem_singleton.mpr ((encloses_ofSection ..).keeps fun _ _ => rfl))))

theorem governs_logging : Governs sections "logging" logging
    (Fills LoggingSection.settings {} id) :=
  .tail ((encloses_ofSection ..).keeps fun _ _ => rfl) (by decide)
    (.tail ((encloses_ofSection ..).keeps fun _ _ => rfl) (by decide)
      (.tail ((encloses_ofSection ..).keeps fun _ _ => rfl) (by decide)
        (.head ((encloses_ofSection ..).gives fun _ _ => rfl) (List.forall_mem_nil _))))

theorem steady_sections : ∀ setting ∈ sections, setting.Steady := by
  simp only [sections, List.forall_mem_cons]
  exact ⟨(encloses_ofSection ..).steady, (encloses_ofSection ..).steady,
    (encloses_ofSection ..).steady, (encloses_ofSection ..).steady, List.forall_mem_nil _⟩

/-- The settings that a document gives are what its known keys give, laid over the defaults. -/
theorem eq_overlay_of_ofMembers (distinct : members.Distinct)
    (tables : ∀ group ∈ knownKeys, members.HasTable group.1)
    (ran : ofMembers members = .ok settings) : settings = members.given.overlay := by
  simp only [knownKeys, List.forall_mem_cons] at tables
  obtain ⟨tunnelTable, tapTable, addressingTable, loggingTable, _⟩ := tables
  obtain ⟨tunnel, tunnelRan, isTunnel⟩ := governs_tunnel.filled distinct tunnelTable rfl ran
  obtain ⟨tap, tapRan, isTap⟩ := governs_tap.filled distinct tapTable rfl ran
  obtain ⟨given, givenRan, isAddressing⟩ :=
    governs_addressing.filled distinct addressingTable rfl ran
  obtain ⟨logging, loggingRan, isLogging⟩ :=
    governs_logging.filled distinct loggingTable rfl ran
  obtain rfl := TunnelSection.eq_of_foldlM (distinct.within _) tunnelRan
  obtain rfl := TapSection.eq_of_foldlM (distinct.within _) tapRan
  obtain rfl := GivenAddresses.eq_of_foldlM (distinct.within _) givenRan
  obtain rfl := LoggingSection.eq_of_foldlM (distinct.within _) loggingRan
  have parts : settings = ⟨settings.tunnel, settings.tap, settings.addressing, settings.logging⟩ :=
    rfl
  rw [parts, isTunnel, isTap, isAddressing, isLogging]
  rfl

/-- The settings of a document are read exactly if its known keys have values of their kinds. -/
theorem ofMembers_ok_iff (distinct : members.Distinct)
    (tables : ∀ group ∈ knownKeys, members.HasTable group.1) :
    (∃ settings, ofMembers members = .ok settings) ↔ members.Fits := by
  have fits {outer : Key × Node} (listed : outer ∈ members) :
      (∃ next, assignKey sections standard outer = .ok next) ↔
        ∀ group ∈ knownKeys, group.1 = outer.1.name → KeysFit group.2 outer.2 := by
    have table : ∀ group ∈ knownKeys, group.1 = outer.1.name → outer.2.IsTable :=
      fun group known own => tables group known _
        ((Members.get?_eq_some_iff distinct.names).mpr ⟨outer, listed, own.symm, rfl⟩)
    simp only [knownKeys, List.forall_mem_cons] at table
    refine assignKey_ok_iff (P := fun keys => KeysFit keys outer.2) ?_ (by decide)
    exact .cons ⟨rfl, fun own => (encloses_ofSection ..).ok_iff TunnelSection.ofKeys (table.1 own)⟩
      (.cons ⟨rfl, fun own => (encloses_ofSection ..).ok_iff TapSection.ofKeys (table.2.1 own)⟩
        (.cons ⟨rfl, fun own =>
            (encloses_ofSection ..).ok_iff GivenAddresses.ofKeys (table.2.2.1 own)⟩
          (.cons ⟨rfl, fun own =>
              (encloses_ofSection ..).ok_iff LoggingSection.ofKeys (table.2.2.2.1 own)⟩ .nil)))
  rw [ofMembers, foldlM_eq_ok_iff steady_sections]
  constructor
  · rintro accepted group known key keyKnown node
      ⟨outer, listed, named, kind, place, inner, is, member, keyListed, keyNamed, rfl⟩
    exact (fits listed).mp (accepted outer listed) group known named.symm kind place inner is
      member keyListed key keyKnown keyNamed.symm
  · intro accepted outer listed
    refine (fits listed).mpr fun group known own kind place inner is member keyListed key keyKnown
      keyOwn => accepted group known key keyKnown member.2 ?_
    exact ⟨outer, listed, own.symm, kind, place, inner, is, member, keyListed, keyOwn.symm, rfl⟩

theorem bind_congr_of_scalar {β : Type} {read? : Node → Option β} {first second : Option Node}
    (own : ∀ {node other : Node}, node.scalar? = other.scalar? → read? node = read? other)
    (alike : first.map Node.scalar? = second.map Node.scalar?) :
    first.bind read? = second.bind read? := by
  rcases first with _ | node
  · rcases second with _ | other
    · rfl
    · cases alike
  · rcases second with _ | other
    · cases alike
    · exact own (Option.some.inj alike)

theorem accepts_congr (kind : ValueKind) {node other : Node} (same : node.scalar? = other.scalar?) :
    kind.accepts node = kind.accepts other := by
  cases kind with
  | text => rw [ValueKind.accepts, ValueKind.accepts, Node.text?, Node.text?, same]
  | boolean => rw [ValueKind.accepts, ValueKind.accepts, Node.boolean?, Node.boolean?, same]
  | address => rw [ValueKind.accepts, ValueKind.accepts, Node.address?, Node.address?, same]

/-- Documents with the same values under the known keys give the same. -/
theorem given_congr {others : Members} (same : members.SameKnown others) :
    members.given = others.given := by
  have text {node other : Node} (alike : node.scalar? = other.scalar?) :
      node.text? = other.text? := by rw [Node.text?, alike, Node.text?]
  have path {node other : Node} (alike : node.scalar? = other.scalar?) :
      node.path? = other.path? := by rw [Node.path?, text alike, Node.path?]
  have boolean {node other : Node} (alike : node.scalar? = other.scalar?) :
      node.boolean? = other.boolean? := by rw [Node.boolean?, alike, Node.boolean?]
  have address {node other : Node} (alike : node.scalar? = other.scalar?) :
      node.address? = other.address? := by rw [Node.address?, alike, Node.address?]
  simp only [Members.SameKnown, knownKeys, List.forall_mem_cons] at same
  obtain ⟨⟨named, opened, kept, _⟩, ⟨identified, strict, _⟩, ⟨own, net, mask, _⟩,
    ⟨leveled, _⟩, _⟩ := same
  rw [Members.given, Members.given, bind_congr_of_scalar text named,
    bind_congr_of_scalar path opened, bind_congr_of_scalar boolean kept,
    bind_congr_of_scalar text identified, bind_congr_of_scalar boolean strict,
    bind_congr_of_scalar address own, bind_congr_of_scalar address net,
    bind_congr_of_scalar address mask, bind_congr_of_scalar text leveled]

theorem fits_iff_at? (distinct : members.Distinct) :
    members.Fits ↔ ∀ group ∈ knownKeys, ∀ key ∈ group.2,
      ((members.at? group.1 key.1).all key.2.accepts) = true := by
  refine forall₄_congr fun group _ key _ => ?_
  rw [Option.all_eq_true]
  exact forall_congr' fun node => by rw [Members.at?_eq_some_iff distinct]

theorem fits_congr {others : Members} (distinct : members.Distinct)
    (othersDistinct : others.Distinct) (same : members.SameKnown others) :
    members.Fits ↔ others.Fits := by
  rw [fits_iff_at? distinct, fits_iff_at? othersDistinct]
  refine forall₄_congr fun group known key keyKnown => ?_
  have alike := same group known key keyKnown
  cases first : members.at? group.1 key.1 with
  | none =>
    rw [first] at alike
    rw [Option.map_eq_none_iff.mp alike.symm]
  | some node =>
    rw [first] at alike
    obtain ⟨other, second, scalar⟩ := Option.map_eq_some_iff.mp alike.symm
    rw [second, Option.all_some, Option.all_some, accepts_congr key.2 scalar]

/-- What is wrong with settings is never an internal error. -/
theorem isConfigError_of_validate {error : SettingsError}
    (refused : settings.validate = .error error) : error.isConfigError = true := by
  rcases validate_eq_error_cases refused with ⟨field, reason, rfl⟩ | ⟨fault, rfl⟩
  · rfl
  · rfl

theorem parse_of_error {text : String} {fault : LoadFault} (given : read text = .error fault) :
    parse text = .error (.load "<string>" fault) :=
  ofDocument_of_error given

/-- Settings that are read are checked. -/
theorem parse_of_ok {text : String} (given : read text = .ok settings) :
    parse text = settings.validate.map fun _ => settings :=
  ofDocument_of_ok given

/-- A text that is a document is read as its known keys laid over the defaults if these have values
of their kinds, and otherwise the first value of a wrong kind is reported. -/
theorem read_of_document {text : String} (document : parse? text = some members)
    (tables : ∀ group ∈ knownKeys, members.HasTable group.1) :
    (members.Fits ∧ read text = .ok members.given.overlay) ∨
      (¬members.Fits ∧ ∃ line column detail, read text = .error (.misfit line column detail)) := by
  have distinct := distinct_of_parse? document
  have fits := ofMembers_ok_iff distinct tables
  simp only [read, document]
  cases ran : ofMembers members with
  | ok settings =>
    obtain rfl := eq_overlay_of_ofMembers distinct tables ran
    exact .inl ⟨fits.mp ⟨_, ran⟩, rfl⟩
  | error misfit =>
    refine .inr ⟨fun fit => ?_, _, _, misfit.detail, rfl⟩
    obtain ⟨settings, read⟩ := fits.mpr fit
    rw [ran] at read
    cases read

/-- A document is an overlay on the defaults. -/
theorem parse_overlay (text : String) :
    (∀ reason, parse text ≠ .error (.internal reason)) ∧
    (parse? text = none → parse text = .error (.load "<string>" .malformed)) ∧
    ∀ members, parse? text = some members → (∀ group ∈ knownKeys, members.HasTable group.1) →
      (∀ table key node, members.at? table key = some node ↔ members.Gives table key node) ∧
      (members.Fits → read text = .ok members.given.overlay ∧
        parse text = members.given.overlay.validate.map fun _ => members.given.overlay) ∧
      (¬members.Fits → ∃ line column detail, read text = .error (.misfit line column detail) ∧
        parse text = .error (.load "<string>" (.misfit line column detail))) ∧
      ∀ other others, parse? other = some others →
        (∀ group ∈ knownKeys, others.HasTable group.1) → members.SameKnown others →
          (read text).toOption = (read other).toOption := by
  refine ⟨fun reason => ?_, fun missing => ?_, fun members document tables => ?_⟩
  · intro internal
    cases given : read text with
    | error fault =>
      rw [parse_of_error given] at internal
      cases internal
    | ok settings =>
      rw [parse_of_ok given] at internal
      cases checked : settings.validate with
      | ok =>
        rw [checked] at internal
        cases internal
      | error error =>
        rw [checked] at internal
        obtain rfl := Except.error.inj internal
        exact absurd (isConfigError_of_validate checked) Bool.false_ne_true
  · exact parse_of_error (by rw [read, missing])
  · have distinct := distinct_of_parse? document
    refine ⟨fun _ _ _ => Members.at?_eq_some_iff distinct, fun fits => ?_, fun misfits => ?_,
      fun other others otherDocument otherTables same => ?_⟩
    · rcases read_of_document document tables with ⟨_, given⟩ | ⟨misfits, _⟩
      · exact ⟨given, parse_of_ok given⟩
      · exact absurd fits misfits
    · rcases read_of_document document tables with ⟨fits, _⟩ | ⟨_, line, column, detail, given⟩
      · exact absurd fits misfits
      · exact ⟨line, column, detail, given, parse_of_error given⟩
    · have alike := fits_congr distinct (distinct_of_parse? otherDocument) same
      rcases read_of_document document tables with ⟨fits, given⟩ | ⟨misfits, _, _, _, given⟩
      · rcases read_of_document otherDocument otherTables with ⟨_, otherGiven⟩ | ⟨misfits, _⟩
        · rw [given, otherGiven, given_congr same]
        · exact absurd (alike.mp fits) misfits
      · rcases read_of_document otherDocument otherTables with ⟨fits, _⟩ | ⟨_, _, _, _, otherGiven⟩
        · exact absurd (alike.mpr fits) misfits
        · rw [given, otherGiven]
          rfl

/-- A netmask without a network: the network follows from it, and an unknown key has no effect. -/
theorem parse_overlay_netmask :
    let text := "x = 1\n[addressing]\nnetmask = \"255.255.255.255\"\n[tunnel]\npersist = true\n"
    ∃ members, parse? text = some members ∧ (∀ group ∈ knownKeys, members.HasTable group.1) ∧
      members.Fits ∧
      parse text = .ok
        { tunnel := { persist := true }
          addressing := ⟨⟨10, 0, 0, 1⟩, ⟨10, 0, 0, 1⟩, ⟨255, 255, 255, 255⟩⟩ } := by
  intro text
  have checked : (parse? text).any (fun members =>
      (∀ group ∈ knownKeys, members.HasTable group.1) ∧
      (∀ group ∈ knownKeys, ∀ key ∈ group.2,
        (members.at? group.1 key.1).all key.2.accepts = true) ∧
      members.given.overlay =
        { tunnel := { persist := true }
          addressing := ⟨⟨10, 0, 0, 1⟩, ⟨10, 0, 0, 1⟩, ⟨255, 255, 255, 255⟩⟩ }) = true := by
    decide +kernel
  obtain ⟨members, document, holds⟩ := (Option.any_eq_true _ _).mp checked
  obtain ⟨tables, accepted, overlay⟩ := of_decide_eq_true holds
  have fits := (fits_iff_at? (distinct_of_parse? document)).mpr accepted
  have parsed := (((parse_overlay text).2.2 members document tables).2.1 fits).2
  have usable : members.given.overlay.validate = .ok () := by
    rw [overlay]
    decide
  rw [usable, overlay] at parsed
  exact ⟨members, document, tables, fits, parsed⟩

theorem read_of_nestedArray {name : String} (bare : isBareName name = true) {levels : Nat}
    (deep : deepest ≤ levels) :
    read (String.ofList (name.toList ++ (" = ".toList ++ nestedArray levels []))) =
      .error .malformed := by
  rw [read, parse?_nestedArray bare deep]

/-- An array under an unknown key that is nested too deep makes a document unreadable, although it
is an array like any other. -/
theorem parse_overlay_nested :
    (value? 200 (nestedArray 199 [])).map Prod.snd = some [] ∧
      read (String.ofList ("x".toList ++ (" = ".toList ++ nestedArray 199 []))) =
        .error .malformed ∧
      read "x = []" = .ok standard := by
  have deep : deepest ≤ 199 := by decide
  refine ⟨?_, read_of_nestedArray (by decide) deep, by decide +kernel⟩
  rw [value?_nestedArray, if_pos (Nat.lt_succ_self 199)]

end Settings

end TunnelProvisioning
