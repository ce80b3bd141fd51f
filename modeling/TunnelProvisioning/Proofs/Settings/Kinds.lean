import TunnelProvisioning.Proofs.Settings.Keys
import TunnelProvisioning.Proofs.Toml.Lookup

/-! # Kinds of settings

A setting takes the values of one kind and refuses all others, or it is a section, which consists of
settings. Either way what it does with a value does not depend on the settings before.
-/

namespace TunnelProvisioning

open Toml

namespace Toml

def Scalar.address? (value : Scalar) : Option Ipv4 :=
  value.text?.bind Ipv4.ofText?

def Node.address? (node : Node) : Option Ipv4 :=
  node.scalar?.bind Scalar.address?

def Node.path? (node : Node) : Option Path :=
  node.text?.map Path.ofText

end Toml

inductive ValueKind where
  | text
  | boolean
  | address
  deriving DecidableEq, Repr

def ValueKind.accepts : ValueKind → Node → Bool
  | text, node => node.text?.isSome
  | boolean, node => node.boolean?.isSome
  | address, node => node.address?.isSome

/-! ## Values of each kind -/

namespace Setting

variable {α β γ : Type} {settings : List (Setting α)} {setting : Setting α} {name : String}
  {read? : Node → Option β} {assign : β → α → α} {get : α → β} {members : Members}
  {start final : α}

/-- A setting that takes the values of a kind, and no others. -/
structure OfKind (kind : ValueKind) (setting : Setting α) : Prop where
  ok_iff : ∀ (place : Nat) (node : Node) (current : α),
    (∃ next, setting.assign place node current = .ok next) ↔ kind.accepts node = true

theorem OfKind.steady {kind : ValueKind} (ofKind : setting.OfKind kind) : setting.Steady := by
  intro place node before after current assigned
  have accepted := (ofKind.ok_iff place node before).mp ⟨after, assigned⟩
  exact (ofKind.ok_iff place node current).mpr accepted

/-- A setting that takes the values that can be read in some way, and no others. -/
structure Takes (read? : Node → Option β) (assign : β → α → α) (setting : Setting α) : Prop where
  cases : ∀ (place : Nat) (node : Node) (current : α),
    (∃ value, read? node = some value ∧
      setting.assign place node current = .ok (assign value current)) ∨
    (read? node = none ∧ ∃ misfit, setting.assign place node current = .error misfit)

theorem takes_ofText (name expected : String) (assign : String → α → α) :
    Takes Node.text? assign (.ofText name expected assign) where
  cases place node current := by
    rcases node with ⟨_, content | _ | _ | _ | _⟩ | _ | _ | _
    case scalar.text => exact .inl ⟨content, rfl, rfl⟩
    all_goals exact .inr ⟨rfl, _, rfl⟩

theorem takes_ofBoolean (name : String) (assign : Bool → α → α) :
    Takes Node.boolean? assign (.ofBoolean name assign) where
  cases place node current := by
    rcases node with ⟨_, _ | _ | _ | truth | _⟩ | _ | _ | _
    case scalar.boolean => exact .inl ⟨truth, rfl, rfl⟩
    all_goals exact .inr ⟨rfl, _, rfl⟩

theorem takes_ofAddress (name : String) (assign : Ipv4 → α → α) :
    Takes Node.address? assign (.ofAddress name assign) where
  cases place node current := by
    rcases node with ⟨_, content | _ | _ | _ | _⟩ | _ | _ | _
    case scalar.text =>
      simp only [ofAddress]
      cases spelled : Ipv4.ofText? content with
      | some address => exact .inl ⟨address, spelled, rfl⟩
      | none => exact .inr ⟨spelled, _, rfl⟩
    all_goals exact .inr ⟨rfl, _, rfl⟩

namespace Takes

/-- What is read may be seen as what is made of it. -/
theorem map (make : β → γ) (assign : γ → α → α)
    (takes : Takes read? (fun value => assign (make value)) setting) :
    Takes (fun node => (read? node).map make) assign setting where
  cases place node current := by
    rcases takes.cases place node current with ⟨value, read, taken⟩ | ⟨read, refused⟩
    · exact .inl ⟨make value, by rw [read]; rfl, taken⟩
    · exact .inr ⟨by rw [read]; rfl, refused⟩

theorem of_ok (takes : Takes read? assign setting) {place : Nat} {node : Node} {current next : α}
    (assigned : setting.assign place node current = .ok next) :
    ∃ value, read? node = some value ∧ next = assign value current := by
  rcases takes.cases place node current with ⟨value, read, taken⟩ | ⟨_, misfit, refused⟩
  · rw [taken] at assigned
    exact ⟨value, read, (Except.ok.inj assigned).symm⟩
  · rw [refused] at assigned
    cases assigned

theorem ok_iff (takes : Takes read? assign setting) (place : Nat) (node : Node) (current : α) :
    (∃ next, setting.assign place node current = .ok next) ↔ (read? node).isSome = true := by
  rcases takes.cases place node current with ⟨value, read, taken⟩ | ⟨read, misfit, refused⟩
  · exact iff_of_true ⟨_, taken⟩ (by rw [read]; rfl)
  · rw [refused, read]
    exact iff_of_false nofun nofun

theorem ofKind {kind : ValueKind} (takes : Takes read? assign setting)
    (reads : ∀ node, kind.accepts node = (read? node).isSome) : setting.OfKind kind where
  ok_iff place node current := by rw [reads, takes.ok_iff]

theorem gives (takes : Takes read? assign setting)
    (own : ∀ value current, get (assign value current) = value) :
    setting.Gives get fun node part => read? node = some part := by
  intro place node current next assigned
  obtain ⟨value, read, rfl⟩ := takes.of_ok assigned
  rw [read, own]

theorem keeps {get : α → γ} (takes : Takes read? assign setting)
    (other : ∀ value current, get (assign value current) = get current) : setting.Keeps get := by
  intro place node current next assigned
  obtain ⟨value, _, rfl⟩ := takes.of_ok assigned
  exact other value current

end Takes

/-- What a table makes of a part of the settings that one key governs. -/
theorem Governs.get_eq (governs : Governs settings name get fun node part => read? node = some part)
    (distinct : members.Distinct)
    (ran : members.foldlM (assignKey settings) start = .ok final) :
    get final = ((members.get? name).bind read?).getD (get start) := by
  have decided := governs.get_of_foldlM distinct.names ran
  split at decided
  · next missing =>
    rw [missing]
    exact decided
  · next node found =>
    rw [found, Option.bind_some, decided]
    rfl

/-! ## Tables of known keys -/

/-- Whether a key changes the settings without an error is decided by the setting of its name. -/
theorem assignKey_ok_iff {κ : Type} {keys : List (String × κ)} {P : κ → Prop}
    {member : Key × Node} {current : α}
    (answers : List.Forall₂ (fun setting key => setting.name = key.1 ∧
      (key.1 = member.1.name → ∀ place,
        (∃ next, setting.assign place member.2 current = .ok next) ↔ P key.2)) settings keys)
    (distinct : (keys.map Prod.fst).Nodup) :
    (∃ next, assignKey settings current member = .ok next) ↔
      ∀ key ∈ keys, key.1 = member.1.name → P key.2 := by
  induction answers with
  | nil => exact iff_of_true ⟨current, rfl⟩ fun _ listed => absurd listed List.not_mem_nil
  | @cons setting key settings keys answer others ih =>
    rw [List.map_cons, List.nodup_cons] at distinct
    rw [List.forall_mem_cons]
    by_cases own : key.1 = member.1.name
    · have alone : ∀ later ∈ keys, later.1 = member.1.name → P later.2 :=
        fun later listed same =>
          absurd (List.mem_map.mpr ⟨later, listed, same.trans own.symm⟩) distinct.1
      rw [assignKey_cons_of_eq (answer.1.trans own), answer.2 own]
      exact ⟨fun accepted => ⟨fun _ => accepted, alone⟩, fun accepted => accepted.1 own⟩
    · rw [assignKey_cons_of_ne (answer.1 ▸ own), ih distinct.2]
      exact ⟨fun accepted => ⟨fun same => absurd same own, accepted⟩, fun accepted => accepted.2⟩

/-- Settings that have the given names and are of the given kinds. -/
structure OfKeys (settings : List (Setting α)) (keys : List (String × ValueKind)) : Prop where
  kinds : List.Forall₂ (fun setting key => setting.name = key.1 ∧ setting.OfKind key.2)
    settings keys
  distinct : (keys.map Prod.fst).Nodup

variable {keys : List (String × ValueKind)}

theorem OfKeys.steady (ofKeys : OfKeys settings keys) : ∀ setting ∈ settings, setting.Steady := by
  have kinds := ofKeys.kinds
  clear ofKeys
  induction kinds with
  | nil => exact fun _ listed => absurd listed List.not_mem_nil
  | cons answer _ ih => exact List.forall_mem_cons.mpr ⟨answer.2.steady, ih⟩

/-- A table is accepted if each of its known keys has a value of its kind. -/
theorem OfKeys.ok_iff (ofKeys : OfKeys settings keys) :
    (∃ final, members.foldlM (assignKey settings) start = .ok final) ↔
      ∀ member ∈ members, ∀ key ∈ keys, key.1 = member.1.name → key.2.accepts member.2 = true := by
  rw [foldlM_eq_ok_iff ofKeys.steady]
  refine forall₂_congr fun member _ => ?_
  exact assignKey_ok_iff (P := fun kind => kind.accepts member.2 = true)
    (ofKeys.kinds.imp fun _ _ answer =>
      ⟨answer.1, fun _ place => answer.2.ok_iff place member.2 start⟩)
    ofKeys.distinct

/-! ## Sections -/

/-- A part of the settings is what the keys of a table give, if the section is a table. -/
def Fills (settings : List (Setting α)) (start : α) (finish : α → β) (node : Node) (part : β) :
    Prop :=
  ∀ kind place inner, node = .table kind place inner →
    ∃ filled, inner.foldlM (assignKey settings) start = .ok filled ∧ part = finish filled

/-- Whether the known keys of a section, if it is a table, have values of their kinds. -/
def KeysFit (keys : List (String × ValueKind)) (node : Node) : Prop :=
  ∀ kind place inner, node = .table kind place inner →
    ∀ member ∈ inner, ∀ key ∈ keys, key.1 = member.1.name → key.2.accepts member.2 = true

/-- A setting that consists of settings: what it becomes does not depend on what was before, and
the keys of a table decide it if it is one. -/
structure Encloses (inner : List (Setting β)) (first : β) (assign : β → α → α)
    (setting : Setting α) : Prop where
  outcome : ∀ (place : Nat) (node : Node), ∃ outcome : Except Misfit β,
    (∀ current, setting.assign place node current = outcome.map (assign · current)) ∧
      ∀ kind own members, node = .table kind own members →
        outcome = members.foldlM (assignKey inner) first

theorem encloses_ofSection (name expected : String) (inner : List (Setting β)) (first : β)
    (assign : β → α → α) :
    Encloses inner first assign (.ofSection name expected inner first assign) where
  outcome place node := by
    rcases node with ⟨_, _ | _ | _ | _ | _⟩ | ⟨_, items⟩ | ⟨kind, own, members⟩ | elements
    case scalar.moment => exact ⟨.ok first, fun _ => rfl, nofun⟩
    case array => exact ⟨assignItems inner place first items, fun _ => rfl, nofun⟩
    case tables => exact ⟨assignItems inner place first elements, fun _ => rfl, nofun⟩
    case table =>
      refine ⟨members.foldlM (assignKey inner) first, fun _ => rfl, fun _ _ _ same => ?_⟩
      cases same
      rfl
    all_goals exact ⟨.error _, fun _ => rfl, nofun⟩

namespace Encloses

variable {inner : List (Setting β)} {first : β} {node : Node} {current : α}

theorem of_ok (encloses : Encloses inner first assign setting) {place : Nat} {next : α}
    (assigned : setting.assign place node current = .ok next) :
    ∃ filled, next = assign filled current ∧ ∀ kind own members, node = .table kind own members →
      members.foldlM (assignKey inner) first = .ok filled := by
  obtain ⟨outcome, made, ran⟩ := encloses.outcome place node
  rw [made] at assigned
  cases outcome with
  | error misfit => cases assigned
  | ok filled =>
    exact ⟨filled, (Except.ok.inj assigned).symm, fun _ _ _ table => (ran _ _ _ table).symm⟩

theorem steady (encloses : Encloses inner first assign setting) : setting.Steady := by
  intro place node before after current assigned
  obtain ⟨outcome, made, _⟩ := encloses.outcome place node
  rw [made] at assigned ⊢
  cases outcome with
  | error misfit => cases assigned
  | ok filled => exact ⟨_, rfl⟩

theorem gives {get : α → γ} {finish : β → γ} (encloses : Encloses inner first assign setting)
    (own : ∀ filled current, get (assign filled current) = finish filled) :
    setting.Gives get (Fills inner first finish) := by
  intro place node current next assigned kind at? members table
  obtain ⟨filled, rfl, ran⟩ := encloses.of_ok assigned
  exact ⟨filled, ran kind at? members table, own filled current⟩

theorem keeps {get : α → γ} (encloses : Encloses inner first assign setting)
    (other : ∀ filled current, get (assign filled current) = get current) : setting.Keeps get := by
  intro place node current next assigned
  obtain ⟨filled, rfl, _⟩ := encloses.of_ok assigned
  exact other filled current

/-- A table is accepted as a section if its known keys have values of their kinds. -/
theorem ok_iff {keys : List (String × ValueKind)} (encloses : Encloses inner first assign setting)
    (ofKeys : OfKeys inner keys) (table : node.IsTable) (place : Nat) :
    (∃ next, setting.assign place node current = .ok next) ↔ KeysFit keys node := by
  obtain ⟨kind, own, members, rfl⟩ := table
  obtain ⟨outcome, made, ran⟩ := encloses.outcome place (.table kind own members)
  have fits : KeysFit keys (.table kind own members) ↔ ∃ filled, outcome = .ok filled := by
    rw [ran kind own members rfl, ofKeys.ok_iff]
    refine ⟨fun fit => fit kind own members rfl, fun fit _ _ _ same => ?_⟩
    cases same
    exact fit
  rw [made, fits]
  cases outcome with
  | error misfit => exact iff_of_false nofun nofun
  | ok filled => exact iff_of_true ⟨_, rfl⟩ ⟨_, rfl⟩

end Encloses

/-- What a document makes of a part of the settings that one of its tables governs. -/
theorem Governs.filled {get : α → γ} {finish : β → γ} {inner : List (Setting β)} {first : β}
    (governs : Governs settings name get (Fills inner first finish)) (distinct : members.Distinct)
    (table : members.HasTable name) (standard : get start = finish first)
    (ran : members.foldlM (assignKey settings) start = .ok final) :
    ∃ filled, (members.within name).foldlM (assignKey inner) first = .ok filled ∧
      get final = finish filled := by
  have decided := governs.get_of_foldlM distinct.names ran
  split at decided
  · next missing =>
    rw [Members.within, missing]
    exact ⟨first, rfl, decided.trans standard⟩
  · next node found =>
    obtain ⟨kind, place, inner, rfl⟩ := table node found
    rw [Members.within, found]
    exact decided kind place inner rfl

end Setting

end TunnelProvisioning
