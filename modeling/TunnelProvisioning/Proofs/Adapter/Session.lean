import Mathlib.Data.List.Nodup
import Mathlib.Data.List.Perm.Basic
import Mathlib.Data.List.Range
import TunnelProvisioning.Adapter.Session
import TunnelProvisioning.Proofs.Adapter.Provisioner

/-! # What a session holds

The books of a session balance after every step. Each key that was opened is closed, since no
operation leaves one open; each device that was opened belongs to the caller, is closed, or is
released, and is so in one way only. The handles of the devices are counted up and never used again,
so it makes sense to tell devices apart by them.
-/

namespace TunnelProvisioning

namespace KeyLedger

/-- A ledger of keys that are all listed and closed again. -/
structure Settled (ledger : KeyLedger) : Prop where
  opened_eq_closed : ledger.opened = ledger.closed
  length_paths : ledger.paths.length = ledger.opened

theorem Settled.visit {ledger : KeyLedger} (settled : ledger.Settled) (paths : List String) :
    (ledger.visit paths).Settled where
  opened_eq_closed := congrArg (· + paths.length) settled.opened_eq_closed
  length_paths := by
    simp only [KeyLedger.visit, List.length_append, settled.length_paths]

end KeyLedger

namespace SimulatedDevices

/-- The handles of all devices that were opened, in order. -/
def issued (devices : SimulatedDevices) : List Int :=
  (List.range devices.opened).map fun count => handleOf (count + 1)

theorem length_issued (devices : SimulatedDevices) :
    devices.issued.length = devices.opened := by
  simp only [issued, List.length_map, List.length_range]

theorem nodup_issued (devices : SimulatedDevices) : devices.issued.Nodup := by
  have distinct : Function.Injective fun count : Nat => handleOf (count + 1) := by
    intro first second same
    simp only [handleOf] at same
    omega
  exact List.Nodup.map distinct List.nodup_range

theorem issued_register (path : String) (options : OpenOptions) (devices : SimulatedDevices) :
    (devices.register path options).2.issued =
      devices.issued ++ [(devices.register path options).1] := by
  simp only [issued, register, List.range_succ, List.map_append, List.map_cons, List.map_nil]

/-- Every device that was opened is closed, released, or one of those that are owned. -/
structure Accounted (owned : List Int) (devices : SimulatedDevices) : Prop where
  length_opens : devices.opens.length = devices.opened
  perm_issued : (owned ++ devices.closed ++ devices.released).Perm devices.issued

namespace Accounted

variable {owned : List Int} {devices : SimulatedDevices}

theorem of_perm {other : List Int} (same : owned.Perm other) (accounted : devices.Accounted owned) :
    devices.Accounted other where
  length_opens := accounted.length_opens
  perm_issued :=
    ((same.symm.append_right devices.closed).append_right devices.released).trans
      accounted.perm_issued

theorem requested (accounted : devices.Accounted owned) (handle : Int) (code : UInt32)
    (input : List UInt8) : (devices.requested handle code input).Accounted owned :=
  ⟨accounted.length_opens, accounted.perm_issued⟩

/-- A device that is opened belongs to whoever opened it. -/
theorem register (accounted : devices.Accounted owned) (path : String) (options : OpenOptions) :
    (devices.register path options).2.Accounted ((devices.register path options).1 :: owned) where
  length_opens := by
    simp only [SimulatedDevices.register, List.length_append, List.length_singleton,
      accounted.length_opens]
  perm_issued := by
    rw [issued_register]
    exact (accounted.perm_issued.cons _).trans (List.perm_append_singleton _ _).symm

theorem close {handle : Int} (accounted : devices.Accounted (handle :: owned)) :
    (devices.close handle).Accounted owned where
  length_opens := accounted.length_opens
  perm_issued := by
    refine List.Perm.trans ?_ accounted.perm_issued
    simp only [SimulatedDevices.close, List.perm_iff_count, List.count_append, List.count_cons,
      List.count_nil]
    omega

theorem release {handle : Int} (accounted : devices.Accounted (handle :: owned)) :
    (devices.release handle).Accounted owned where
  length_opens := accounted.length_opens
  perm_issued := by
    refine List.Perm.trans ?_ accounted.perm_issued
    simp only [SimulatedDevices.release, List.perm_iff_count, List.count_append, List.count_cons,
      List.count_nil]
    omega

/-- Bringing up a device opens at most one, which is closed again or answered. -/
theorem broughtUp (accounted : devices.Accounted owned) (instanceId : String)
    (addressing : Addressing) (strict : Bool) :
    let up := devices.broughtUp instanceId addressing strict
    up.2.Accounted (owned ++ up.1.toOption.toList) := by
  obtain ⟨opens, requests, count, closed, released, refusal, fault?, refused?⟩ := devices
  intro up
  have nothing : owned.Perm (owned ++ []) := .of_eq (List.append_nil owned).symm
  cases refusal with
  | some code => exact accounted.of_perm nothing
  | none =>
    have opened := accounted.register ("\\\\.\\Global\\" ++ instanceId ++ ".tap") .adapter
    have plugged := opened.requested (handleOf (count + 1)) 0x00220018 [1, 0, 0, 0]
    have addressed := plugged.requested (handleOf (count + 1)) 0x00220028
      (addressing.localAddress.octets ++ addressing.network.octets ++ addressing.netmask.octets)
    have kept := addressed.of_perm (List.perm_append_singleton (handleOf (count + 1)) owned).symm
    simp only [up, SimulatedDevices.broughtUp]
    cases strict with
    | false => exact kept
    | true =>
      cases SimulatedDevices.refusal? _ 0x00220018 with
      | some code => exact plugged.close.of_perm nothing
      | none =>
        cases SimulatedDevices.refusal? _ 0x00220028 with
        | some code => exact addressed.close.of_perm nothing
        | none => exact kept

end Accounted

end SimulatedDevices

namespace AdapterSession

open SimulatedDevices (bus issued)

/-- The books of a session are in order. -/
structure Accounted (session : AdapterSession) : Prop where
  keys : session.ledger.Settled
  devices : session.devices.Accounted session.owned

theorem handle?_map_opened (adapter : AdapterDescriptor) (outcome : Except ProvisionError Int) :
    handle? (outcome.map (.opened adapter)) = outcome.toOption := by
  cases outcome <;> rfl

theorem accounted_give {session : AdapterSession} {handle : Int}
    {operation : SimulatedDevices → SimulatedDevices} (accounted : session.Accounted)
    (taken : ∀ owned, session.devices.Accounted (handle :: owned) →
      (operation session.devices).Accounted owned) :
    (session.give handle operation).Accounted := by
  rw [give]
  split
  · next member =>
    have first := accounted.devices.of_perm (List.perm_cons_erase member)
    exact ⟨accounted.keys, taken _ first⟩
  · exact accounted

/-- What one step of a caller keeps. -/
theorem accounted_perform {session : AdapterSession} (accounted : session.Accounted)
    (operation : AdapterOperation) : (session.perform operation).Accounted := by
  obtain ⟨keys, devices⟩ := accounted
  have nothing : session.owned.Perm (session.owned ++ []) :=
    .of_eq (List.append_nil session.owned).symm
  cases operation with
  | find componentId =>
    obtain ⟨_, visited⟩ := session.tree.registry.run_findAdapter componentId session.ledger
    refine ⟨?_, devices⟩
    simp only [perform, visited]
    exact keys.visit _
  | lookUp instanceId =>
    obtain ⟨_, visited⟩ := session.tree.registry.run_connectionName instanceId session.ledger
    refine ⟨?_, devices⟩
    simp only [perform, visited]
    exact keys.visit _
  | resolve config =>
    obtain ⟨_, visited⟩ :=
      session.tree.registry.run_resolveAdapter config.componentId session.ledger
    refine ⟨?_, devices⟩
    simp only [perform, adapters, AdapterProvisioner.resolve, Action.run_onFirst, visited]
    exact keys.visit _
  | configure instanceId addressing strict =>
    have brought := Device.run_configure strict session.devices instanceId addressing
    have up := devices.broughtUp instanceId addressing strict
    rw [← brought] at up
    exact ⟨keys, up⟩
  | provision config descriptor? =>
    obtain ⟨ran, visited⟩ := AdapterProvisioner.run_provision session.tree.registry config
      descriptor? session.ledger session.devices
    let report := ((session.adapters config).provisioner.provision descriptor?).run
      (session.ledger, session.devices)
    have answered := congrArg Prod.fst ran
    have left := congrArg Prod.snd ran
    dsimp only at answered left
    refine ⟨?_, ?_⟩
    · simp only [perform, adapters, visited]
      exact keys.visit _
    · change report.state.2.Accounted (session.owned ++ (handle? report.outcome).toList)
      rw [show report.outcome = _ from answered, show report.state.2 = _ from left]
      cases session.tree.registry.adapterAnswer config.componentId with
      | error fault => exact devices.of_perm nothing
      | ok adapter =>
        have up := devices.broughtUp adapter.instanceId config.addressing config.strictControl
        simpa only [handle?_map_opened] using up
  | openDevice path =>
    have opened := devices.register path .adapter
    exact ⟨keys, opened.of_perm (List.perm_append_singleton _ _).symm⟩
  | close handle => exact accounted_give ⟨keys, devices⟩ fun _ first => first.close
  | release handle => exact accounted_give ⟨keys, devices⟩ fun _ first => first.release
  | handOver outcome =>
    rcases outcome with fault | ⟨bound⟩ | ⟨adapter, handle⟩
    · exact ⟨keys, devices⟩
    · exact ⟨keys, devices⟩
    · exact accounted_give ⟨keys, devices⟩ fun _ first => first.release

/-- What a sequence of steps keeps. -/
theorem accounted_run {session : AdapterSession} (accounted : session.Accounted)
    (operations : List AdapterOperation) : (session.run operations).Accounted := by
  induction operations generalizing session with
  | nil => exact accounted
  | cons operation rest ih => exact ih (accounted_perform accounted operation)

/-- What the counters and the handles of a session show. -/
structure Balanced (session : AdapterSession) : Prop where
  keys_held : session.ledger.held = 0
  keys_closed : session.ledger.opened = session.ledger.closed
  keys_listed : session.ledger.paths.length = session.ledger.opened
  devices_listed : session.devices.opens.length = session.devices.opened
  devices_balance : session.devices.opened =
    session.devices.closed.length + session.devices.released.length + session.owned.length
  devices_held : session.devices.held = session.owned.length
  /-- Each device that was opened is in one place. -/
  handles_placed :
    (session.owned ++ session.devices.closed ++ session.devices.released).Perm
      session.devices.issued
  handles_distinct :
    (session.owned ++ session.devices.closed ++ session.devices.released).Nodup
  /-- No device gets the handle of a device that was opened before. -/
  handle_fresh : ∀ path options, (session.devices.register path options).1 ∉
    session.owned ++ session.devices.closed ++ session.devices.released

theorem Accounted.balanced {session : AdapterSession} (accounted : session.Accounted) :
    session.Balanced := by
  obtain ⟨⟨closed, listed⟩, ⟨opens, placed⟩⟩ := accounted
  have balance := placed.length_eq
  simp only [List.length_append, SimulatedDevices.length_issued] at balance
  have fresh (path : String) (options : OpenOptions) :
      (session.devices.register path options).1 ∉ session.devices.issued := by
    intro member
    have distinct := (session.devices.register path options).2.nodup_issued
    rw [SimulatedDevices.issued_register] at distinct
    exact (List.nodup_append.mp distinct).2.2 _ member _ (List.mem_singleton_self _) rfl
  exact {
    keys_held := by simp only [KeyLedger.held, closed, Nat.sub_self]
    keys_closed := closed
    keys_listed := listed
    devices_listed := opens
    devices_balance := by omega
    devices_held := by
      simp only [SimulatedDevices.held]
      omega
    handles_placed := placed
    handles_distinct := placed.nodup_iff.mpr session.devices.nodup_issued
    handle_fresh := fun path options member => fresh path options (placed.mem_iff.mp member) }

/-- Whatever a caller does and in whatever order, with any tree and any refusals, no key stays open,
and each device that was opened belongs to the caller, is closed or is released, but only one of
these and only once. -/
theorem balanced_run (tree : RegistryTree) (openRefusal controlRefusal : Option Int)
    (refusedCode : Option UInt32) (operations : List AdapterOperation) :
    let session : AdapterSession :=
      { tree, devices := { openRefusal, controlRefusal, refusedCode } }
    (session.run operations).Balanced := by
  intro session
  have start : session.Accounted := ⟨⟨rfl, rfl⟩, ⟨rfl, .refl _⟩⟩
  exact (accounted_run start operations).balanced

end AdapterSession

end TunnelProvisioning
