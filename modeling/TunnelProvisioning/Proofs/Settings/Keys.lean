import TunnelProvisioning.Proofs.Toml.Distinct
import TunnelProvisioning.Settings.Document

/-! # Settings by their keys

The keys of a table are gone through in order, and each gives one setting its value. What becomes of
one part of the settings depends on its own key alone: the other keys leave that part as it is, and
no key is there twice. Whether a value is accepted does not depend on the values before it either,
so a table is accepted if each of its known keys has a value of its kind.
-/

namespace TunnelProvisioning

open Toml

namespace Setting

variable {α β : Type} {settings : List (Setting α)} {setting : Setting α} {name : String}
  {get : α → β} {gives : Node → β → Prop} {members : Members} {start : α}

theorem assignKey_cons_of_eq {member : Key × Node} (own : setting.name = member.1.name)
    (current : α) :
    assignKey (setting :: settings) current member =
      setting.assign (member.2.place?.getD member.1.place) member.2 current := by
  rw [assignKey, List.find?_cons_of_pos (by simpa using own)]

theorem assignKey_cons_of_ne {member : Key × Node} (other : setting.name ≠ member.1.name)
    (current : α) :
    assignKey (setting :: settings) current member = assignKey settings current member := by
  rw [assignKey, List.find?_cons_of_neg (by simpa using other), assignKey]

/-! ## One part of the settings -/

/-- A setting leaves a part of the settings as it is. -/
def Keeps (get : α → β) (setting : Setting α) : Prop :=
  ∀ ⦃place : Nat⦄ ⦃node : Node⦄ ⦃current next : α⦄,
    setting.assign place node current = .ok next → get next = get current

/-- A setting gives a part of the settings what a value says. -/
def Gives (get : α → β) (gives : Node → β → Prop) (setting : Setting α) : Prop :=
  ∀ ⦃place : Nat⦄ ⦃node : Node⦄ ⦃current next : α⦄,
    setting.assign place node current = .ok next → gives node (get next)

/-- The key of a name, and no other, decides about a part of the settings. -/
structure Governs (settings : List (Setting α)) (name : String) (get : α → β)
    (gives : Node → β → Prop) : Prop where
  own : ∀ {member : Key × Node} {current next : α}, member.1.name = name →
    assignKey settings current member = .ok next → gives member.2 (get next)
  other : ∀ {member : Key × Node} {current next : α}, member.1.name ≠ name →
    assignKey settings current member = .ok next → get next = get current

theorem keeps_assignKey (keeps : ∀ setting ∈ settings, setting.Keeps get) {member : Key × Node}
    {current next : α} (assigned : assignKey settings current member = .ok next) :
    get next = get current := by
  rw [assignKey] at assigned
  split at assigned
  · next found => exact keeps _ (List.mem_of_find?_eq_some found) assigned
  · rw [Except.ok.inj assigned]

theorem Governs.head (own : setting.Gives get gives)
    (others : ∀ setting ∈ settings, setting.Keeps get) :
    Governs (setting :: settings) setting.name get gives where
  own same assigned := by
    rw [assignKey_cons_of_eq same.symm] at assigned
    exact own assigned
  other differs assigned := by
    rw [assignKey_cons_of_ne differs.symm] at assigned
    exact keeps_assignKey others assigned

theorem Governs.tail (first : setting.Keeps get) (apart : setting.name ≠ name)
    (governs : Governs settings name get gives) : Governs (setting :: settings) name get gives where
  own same assigned := by
    rw [assignKey_cons_of_ne (same ▸ apart)] at assigned
    exact governs.own same assigned
  other {member _ _} differs assigned := by
    by_cases own : setting.name = member.1.name
    · rw [assignKey_cons_of_eq own] at assigned
      exact first assigned
    · rw [assignKey_cons_of_ne own] at assigned
      exact governs.other differs assigned

theorem ok_of_foldlM_cons {member : Key × Node} {final : α}
    (ran : (member :: members).foldlM (assignKey settings) start = .ok final) :
    ∃ next, assignKey settings start member = .ok next ∧
      members.foldlM (assignKey settings) next = .ok final := by
  rw [List.foldlM_cons] at ran
  cases assigned : assignKey settings start member with
  | error misfit =>
    rw [assigned] at ran
    cases ran
  | ok next =>
    rw [assigned] at ran
    exact ⟨next, rfl, ran⟩

/-- A part of the settings that the keys of a table do not concern stays as it is. -/
theorem Governs.get_of_fresh (governs : Governs settings name get gives)
    (fresh : name ∉ members.names) {final : α}
    (ran : members.foldlM (assignKey settings) start = .ok final) : get final = get start := by
  induction members generalizing start with
  | nil => rw [Except.ok.inj ran]
  | cons member members ih =>
    rw [Members.names, List.map_cons, List.mem_cons, not_or] at fresh
    obtain ⟨next, assigned, ran⟩ := ok_of_foldlM_cons ran
    exact (ih fresh.2 ran).trans (governs.other (Ne.symm fresh.1) assigned)

/-- What becomes of a part of the settings depends on its own key alone. -/
theorem Governs.get_of_foldlM (governs : Governs settings name get gives)
    (distinct : members.names.Nodup) {final : α}
    (ran : members.foldlM (assignKey settings) start = .ok final) :
    match members.get? name with
    | none => get final = get start
    | some node => gives node (get final) := by
  induction members generalizing start with
  | nil => exact congrArg get (Except.ok.inj ran).symm
  | cons member members ih =>
    rw [Members.names, List.map_cons, List.nodup_cons] at distinct
    obtain ⟨next, assigned, ran⟩ := ok_of_foldlM_cons ran
    by_cases same : member.1.name = name
    · have found : Members.get? (member :: members) name = some member.2 := by
        rw [Members.get?, List.find?_cons_of_pos (by simpa using same)]
        rfl
      have later := governs.get_of_fresh (same ▸ distinct.1) ran
      rw [found]
      dsimp only
      rw [later]
      exact governs.own same assigned
    · have passed : Members.get? (member :: members) name = Members.get? members name := by
        rw [Members.get?, List.find?_cons_of_neg (by simpa using same)]
        rfl
      have kept := governs.other same assigned
      rw [passed, ← kept]
      exact ih distinct.2 ran

/-! ## Accepted values -/

/-- A setting accepts a value or not whatever the settings are before. -/
def Steady (setting : Setting α) : Prop :=
  ∀ ⦃place : Nat⦄ ⦃node : Node⦄ ⦃before after : α⦄ (current : α),
    setting.assign place node before = .ok after →
      ∃ next, setting.assign place node current = .ok next

theorem assignKey_steady (steady : ∀ setting ∈ settings, setting.Steady) {member : Key × Node}
    {before after : α} (assigned : assignKey settings before member = .ok after) (current : α) :
    ∃ next, assignKey settings current member = .ok next := by
  rw [assignKey] at assigned ⊢
  split at assigned
  · next found => exact steady _ (List.mem_of_find?_eq_some found) current assigned
  · exact ⟨current, rfl⟩

/-- A table is accepted if each of its keys is. -/
theorem foldlM_eq_ok_iff (steady : ∀ setting ∈ settings, setting.Steady) :
    (∃ final, members.foldlM (assignKey settings) start = .ok final) ↔
      ∀ member ∈ members, ∃ next, assignKey settings start member = .ok next := by
  induction members generalizing start with
  | nil => exact iff_of_true ⟨start, rfl⟩ fun _ listed => absurd listed List.not_mem_nil
  | cons member members ih =>
    rw [List.forall_mem_cons]
    constructor
    · rintro ⟨final, ran⟩
      obtain ⟨next, assigned, ran⟩ := ok_of_foldlM_cons ran
      refine ⟨⟨next, assigned⟩, fun later listed => ?_⟩
      obtain ⟨after, accepted⟩ := ih.mp ⟨final, ran⟩ later listed
      exact assignKey_steady steady accepted start
    · rintro ⟨⟨next, assigned⟩, others⟩
      rw [List.foldlM_cons, assigned]
      refine ih.mpr fun later listed => ?_
      obtain ⟨after, accepted⟩ := others later listed
      exact assignKey_steady steady accepted next

end Setting

end TunnelProvisioning
