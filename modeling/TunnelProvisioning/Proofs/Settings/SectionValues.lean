import TunnelProvisioning.Proofs.Settings.Overlay

/-! # Sections that are no tables

A section that is given as a text, a number or a truth value is refused, whatever else the document
holds. A moment is not: it counts as a table without known keys, so a document in which a section is
a moment is read as if that section had been left out.
-/

namespace TunnelProvisioning

open Toml

namespace Toml

def Node.isMoment : Node → Bool
  | .scalar _ .moment => true
  | _ => false

def Members.moments (members : Members) : Members :=
  members.filter (·.2.isMoment)

def Members.withoutMoments (members : Members) : Members :=
  members.filter (!·.2.isMoment)

theorem Node.eq_of_isMoment {node : Node} (moment : node.isMoment = true) :
    ∃ place, node = .scalar place .moment := by
  rcases node with ⟨place, _ | _ | _ | _ | _⟩ | _ | _ | _
  case scalar.moment => exact ⟨place, rfl⟩
  all_goals cases moment

end Toml

namespace Setting

variable {α β : Type} {assign : β → α → α} {start : β} {current next : α}

/-- A section refuses every value without parts that is no moment. -/
theorem assign_ofSection_of_scalar (name expected : String) (settings : List (Setting β))
    (place own : Nat) {value : Scalar} (noMoment : value ≠ .moment) (current : α) :
    (Setting.ofSection name expected settings start assign).assign place (.scalar own value)
      current = .error (refuse place (.scalar own value) expected) := by
  cases value with
  | moment => exact absurd rfl noMoment
  | text content => rfl
  | integer number => rfl
  | real number => rfl
  | boolean truth => rfl

/-- A section that is a moment gets its default, which changes nothing if that is what it has. -/
theorem assign_ofSection_of_moment (name expected : String) (settings : List (Setting β))
    (place own : Nat) (idle : assign start current = current) :
    (Setting.ofSection name expected settings start assign).assign place (.scalar own .moment)
      current = .ok current :=
  congrArg Except.ok idle

/-- A part of the settings that has some value as long as its key is to come keeps that value while
another key is gone through. -/
theorem Governs.keeps_awaited {settings : List (Setting α)} {name : String} {get : α → β}
    {gives : Node → β → Prop} (governs : Governs settings name get gives) {member : Key × Node}
    {members : Members} (distinct : (Members.names (member :: members)).Nodup)
    (assigned : assignKey settings current member = .ok next) {value : β}
    (awaited : name ∈ Members.names (member :: members) → get current = value) :
    name ∈ members.names → get next = value := by
  intro listed
  have other : member.1.name ≠ name := by
    rintro rfl
    exact (List.nodup_cons.mp distinct).1 listed
  rw [governs.other other assigned]
  exact awaited (List.mem_cons_of_mem _ listed)

end Setting

namespace Settings

open Setting

def sectionNames : List String :=
  ["tunnel", "tap", "addressing", "logging"]

variable {member : Key × Node} {members : Members} {current next : Settings}

/-! ## Texts, numbers and truth values -/

theorem exists_section {name : String} (known : name ∈ sectionNames) :
    ∃ setting ∈ sections, sections.find? (·.name = name) = some setting := by
  simp only [sectionNames, List.mem_cons, List.not_mem_nil, or_false] at known
  rcases known with rfl | rfl | rfl | rfl
  · exact ⟨_, .head _, rfl⟩
  · exact ⟨_, .tail _ (.head _), rfl⟩
  · exact ⟨_, .tail _ (.tail _ (.head _)), rfl⟩
  · exact ⟨_, .tail _ (.tail _ (.tail _ (.head _))), rfl⟩

/-- Every section refuses a value without parts that is no moment. -/
theorem sections_refuse {value : Scalar} (noMoment : value ≠ .moment) (place own : Nat)
    (current : Settings) :
    ∀ setting ∈ sections, ∃ misfit,
      setting.assign place (.scalar own value) current = .error misfit := by
  simp only [sections, List.forall_mem_cons]
  exact ⟨⟨_, assign_ofSection_of_scalar _ _ _ place own noMoment current⟩,
    ⟨_, assign_ofSection_of_scalar _ _ _ place own noMoment current⟩,
    ⟨_, assign_ofSection_of_scalar _ _ _ place own noMoment current⟩,
    ⟨_, assign_ofSection_of_scalar _ _ _ place own noMoment current⟩, List.forall_mem_nil _⟩

/-- A document with a section that is such a value is refused, whatever else it holds. -/
theorem ofMembers_of_scalar {value : Scalar} (listed : member ∈ members)
    (known : member.1.name ∈ sectionNames) (scalar : member.2.scalar? = some value)
    (noMoment : value ≠ .moment) : ∃ misfit, ofMembers members = .error misfit := by
  cases ran : ofMembers members with
  | error misfit => exact ⟨misfit, rfl⟩
  | ok settings =>
    obtain ⟨next, assigned⟩ := (foldlM_eq_ok_iff steady_sections).mp ⟨settings, ran⟩ member listed
    obtain ⟨own, is⟩ := Node.eq_of_scalar? scalar
    obtain ⟨setting, isSection, found⟩ := exists_section known
    obtain ⟨misfit, refused⟩ := sections_refuse noMoment own own standard setting isSection
    have same : assignKey sections standard member = .error misfit := by
      rw [assignKey, found, is]
      exact refused
    rw [same] at assigned
    cases assigned

/-! ## Moments -/

/-- Whether the sections whose keys are among the given ones have their defaults. -/
structure HasDefaults (members : Members) (settings : Settings) : Prop where
  tunnel : "tunnel" ∈ members.names → settings.tunnel = {}
  tap : "tap" ∈ members.names → settings.tap = {}
  addressing : "addressing" ∈ members.names → settings.addressing = .standard
  logging : "logging" ∈ members.names → settings.logging = {}

theorem hasDefaults_standard (members : Members) : HasDefaults members standard :=
  ⟨fun _ => rfl, fun _ => rfl, fun _ => rfl, fun _ => rfl⟩

/-- A key leaves the sections alone whose keys come after it. -/
theorem HasDefaults.step (defaults : HasDefaults (member :: members) current)
    (distinct : (Members.names (member :: members)).Nodup)
    (assigned : assignKey sections current member = .ok next) : HasDefaults members next where
  tunnel := governs_tunnel.keeps_awaited distinct assigned defaults.tunnel
  tap := governs_tap.keeps_awaited distinct assigned defaults.tap
  addressing := governs_addressing.keeps_awaited distinct assigned defaults.addressing
  logging := governs_logging.keeps_awaited distinct assigned defaults.logging

/-- A moment gives a section the default that it has already, and means nothing elsewhere. -/
theorem assignKey_of_moment (defaults : HasDefaults (member :: members) current)
    (moment : member.2.isMoment = true) : assignKey sections current member = .ok current := by
  obtain ⟨key, node⟩ := member
  obtain ⟨own, rfl⟩ := Node.eq_of_isMoment moment
  have listed {name : String} (same : name = key.name) :
      name ∈ Members.names ((key, .scalar own .moment) :: members) :=
    List.mem_cons.mpr (.inl same)
  rw [sections]
  by_cases tunnel : "tunnel" = key.name
  · rw [assignKey_cons_of_eq tunnel]
    apply assign_ofSection_of_moment
    rw [← defaults.tunnel (listed tunnel)]
  rw [assignKey_cons_of_ne tunnel]
  by_cases tap : "tap" = key.name
  · rw [assignKey_cons_of_eq tap]
    apply assign_ofSection_of_moment
    rw [← defaults.tap (listed tap)]
  rw [assignKey_cons_of_ne tap]
  by_cases addressing : "addressing" = key.name
  · rw [assignKey_cons_of_eq addressing]
    apply assign_ofSection_of_moment
    have default : GivenAddresses.addressing {} = current.addressing :=
      (defaults.addressing (listed addressing)).symm
    rw [default]
  rw [assignKey_cons_of_ne addressing]
  by_cases logging : "logging" = key.name
  · rw [assignKey_cons_of_eq logging]
    apply assign_ofSection_of_moment
    rw [← defaults.logging (listed logging)]
  rw [assignKey_cons_of_ne logging]
  rfl

/-- Going through the keys of a document, moments make no difference. The induction is on the keys
that are left; the invariant is that the sections among them have their defaults. -/
theorem foldlM_withoutMoments (distinct : members.names.Nodup)
    (defaults : HasDefaults members current) :
    members.withoutMoments.foldlM (assignKey sections) current =
      members.foldlM (assignKey sections) current := by
  induction members generalizing current with
  | nil => rfl
  | cons member members ih =>
    have later : (Members.names members).Nodup := (List.nodup_cons.mp distinct).2
    rw [List.foldlM_cons]
    cases moment : member.2.isMoment with
    | true =>
      have idle := assignKey_of_moment defaults moment
      have dropped : Members.withoutMoments (member :: members) =
          Members.withoutMoments members := List.filter_cons_of_neg (by rw [moment]; decide)
      rw [dropped, idle]
      exact ih later (defaults.step distinct idle)
    | false =>
      have kept : Members.withoutMoments (member :: members) =
          member :: Members.withoutMoments members :=
        List.filter_cons_of_pos (by rw [moment]; decide)
      rw [kept, List.foldlM_cons]
      cases assigned : assignKey sections current member with
      | error misfit => rfl
      | ok next => exact ih later (defaults.step distinct assigned)

/-- A document gives the same settings, or the same misfit, as without its moments. -/
theorem ofMembers_withoutMoments (distinct : members.names.Nodup) :
    ofMembers members.withoutMoments = ofMembers members :=
  foldlM_withoutMoments distinct (hasDefaults_standard members)

theorem notMem_withoutMoments {name : String} (distinct : members.names.Nodup)
    (moment : name ∈ members.moments.names) : name ∉ members.withoutMoments.names := by
  have parts : (members.moments ++ members.withoutMoments).Perm members :=
    List.filter_append_perm _ _
  have apart : (members.moments.names ++ members.withoutMoments.names).Nodup := by
    rw [← Members.names_append]
    exact (parts.map _).nodup_iff.mpr distinct
  intro other
  exact (List.nodup_append.mp apart).2.2 name moment name other rfl

/-- A section that is a moment has its default in the settings that a document gives. -/
theorem hasDefaults_moments (distinct : members.names.Nodup)
    (ran : ofMembers members = .ok current) : HasDefaults members.moments current := by
  rw [← ofMembers_withoutMoments distinct] at ran
  constructor
  · intro moment
    exact governs_tunnel.get_of_fresh (notMem_withoutMoments distinct moment) ran
  · intro moment
    exact governs_tap.get_of_fresh (notMem_withoutMoments distinct moment) ran
  · intro moment
    exact governs_addressing.get_of_fresh (notMem_withoutMoments distinct moment) ran
  · intro moment
    exact governs_logging.get_of_fresh (notMem_withoutMoments distinct moment) ran

/-- A value of a wrong kind is reported with its place in the text. -/
theorem parse_of_misfit {text : String} {misfit : Misfit} (document : parse? text = some members)
    (refused : ofMembers members = .error misfit) :
    ∃ line column, parse text = .error (.load "<string>" (.misfit line column misfit.detail)) := by
  refine ⟨(position text misfit.place).1, (position text misfit.place).2, parse_of_error ?_⟩
  simp only [read, document, refused]

/-- A text that is no document is refused, and so is every document in which a section is a text, a
number or a truth value. A section that is a moment is not refused: whether the document is read,
and as what, is decided without the moments in it, and in what it is read as such a section has its
default. -/
theorem parse_scalar_section (text : String) :
    (parse? text = none → parse text = .error (.load "<string>" .malformed)) ∧
    ∀ members, parse? text = some members →
      (∀ member ∈ members, member.1.name ∈ sectionNames →
        ∀ value, member.2.scalar? = some value → value ≠ .moment →
          ∃ line column detail,
            parse text = .error (.load "<string>" (.misfit line column detail))) ∧
      (∀ settings, ofMembers members.withoutMoments = .ok settings →
        HasDefaults members.moments settings ∧
        parse text = settings.validate.map fun _ => settings) ∧
      (∀ misfit, ofMembers members.withoutMoments = .error misfit →
        ∃ line column,
          parse text = .error (.load "<string>" (.misfit line column misfit.detail))) := by
  refine ⟨fun none => parse_of_error (by rw [read, none]), fun members document => ?_⟩
  have distinct := (distinct_of_parse? document).names
  refine ⟨?_, ?_, ?_⟩
  · intro member listed known value scalar noMoment
    obtain ⟨misfit, refused⟩ := ofMembers_of_scalar listed known scalar noMoment
    obtain ⟨line, column, told⟩ := parse_of_misfit document refused
    exact ⟨line, column, misfit.detail, told⟩
  · intro settings ran
    rw [ofMembers_withoutMoments distinct] at ran
    refine ⟨hasDefaults_moments distinct ran, parse_of_ok ?_⟩
    simp only [read, document, ran]
  · intro misfit refused
    rw [ofMembers_withoutMoments distinct] at refused
    exact parse_of_misfit document refused

/-- A number for one section beside a moment for another one, and a moment beside a table. -/
theorem parse_scalar_section_beside :
    let refused := "logging = 07:32:00\ntap = 1.5\n"
    let accepted := "logging = 1979-05-27 07:32:00Z\n[tap]\nstrict_control = true\n"
    (∃ members, parse? refused = some members ∧
      ∃ member ∈ members, member.1.name ∈ sectionNames ∧
        ∃ value, member.2.scalar? = some value ∧ value ≠ .moment) ∧
    (∃ line column detail, parse refused = .error (.load "<string>" (.misfit line column detail))) ∧
    (∃ members, parse? accepted = some members ∧
      ofMembers members.withoutMoments = .ok { tap := { strictControl := true } }) ∧
    parse accepted = .ok { tap := { strictControl := true } } := by
  intro refused accepted
  have numbered : (parse? refused).any (fun members => members.any fun member =>
      member.1.name ∈ sectionNames ∧ member.2.scalar?.any (· ≠ .moment) = true) = true := by
    decide +kernel
  have timed : (parse? accepted).any (fun members =>
      ofMembers members.withoutMoments = .ok { tap := { strictControl := true } }) = true := by
    decide +kernel
  obtain ⟨members, document, holds⟩ := (Option.any_eq_true _ _).mp numbered
  obtain ⟨member, listed, fits⟩ := List.any_eq_true.mp holds
  obtain ⟨known, other⟩ := of_decide_eq_true fits
  obtain ⟨value, scalar, noMoment⟩ := (Option.any_eq_true _ _).mp other
  have differs : value ≠ .moment := of_decide_eq_true noMoment
  obtain ⟨others, otherDocument, otherHolds⟩ := (Option.any_eq_true _ _).mp timed
  have given := of_decide_eq_true otherHolds
  have told := ((parse_scalar_section refused).2 members document).1 member listed known value
    scalar differs
  have result := ((parse_scalar_section accepted).2 others otherDocument).2.1 _ given
  exact ⟨⟨members, document, member, listed, known, value, scalar, differs⟩, told,
    ⟨others, otherDocument, given⟩, result.2⟩

/-- A date as a section is read as the section's defaults. -/
theorem parse_moment_section :
    (parse? "tap = 1979-05-27").any (fun members => members.any fun member =>
      member.1.name = "tap" ∧ member.2.scalar? = some .moment) = true ∧
      parse "tap = 1979-05-27" = .ok standard := by
  decide +kernel

end Settings

end TunnelProvisioning
