import Mathlib.Data.List.Nodup
import Mathlib.Data.List.Perm.Subperm
import TunnelProvisioning.Interface.Custody
import TunnelProvisioning.Interface.Journal
import TunnelProvisioning.Interface.Simulated
import TunnelProvisioning.Proofs.Interface.Binding

/-! # Who closes a descriptor

A device node that is opened adds one descriptor to the table, which goes away again if no interface
can be attached to it, and otherwise belongs to the handle that is answered. Nothing else is ever
closed: a caller that opens nodes, binds descriptors, drops handles and gives them up, in any order,
finds open what was open before it started, what it holds and what it gave up.
-/

namespace TunnelProvisioning

variable {κ : Type}

/-! ## The table -/

namespace Descriptors

variable {table : Descriptors} {descriptor other : Int32}

theorem contains_iff : table.contains descriptor = true ↔ descriptor ∈ table.opened :=
  List.contains_iff_mem

theorem contains_insert :
    (table.insert descriptor).contains other = (other == descriptor || table.contains other) :=
  List.contains_cons

theorem contains_close_self : (table.close descriptor).contains descriptor = false := by
  rw [Bool.eq_false_iff, Ne, contains_iff]
  intro member
  simpa using List.of_mem_filter member

theorem contains_close_of_ne (different : other ≠ descriptor) :
    (table.close descriptor).contains other = table.contains other := by
  rw [Bool.eq_iff_iff, contains_iff, contains_iff, close, List.mem_filter]
  simp [different]

/-- A descriptor that was not open before is closed without a trace. -/
theorem close_insert (closed : table.contains descriptor = false) :
    (table.insert descriptor).close descriptor = table := by
  have absent : descriptor ∉ table.opened := by
    rw [← contains_iff, closed]
    exact Bool.false_ne_true
  have others : table.opened.filter (· ≠ descriptor) = table.opened := by
    rw [List.filter_eq_self]
    intro other member
    have different : other ≠ descriptor := ne_of_mem_of_not_mem member absent
    simpa using different
  cases table
  simpa [insert, close] using others

/-- A new descriptor is none of the open ones. -/
theorem contains_of_fresh? (fresh : table.fresh? = some descriptor) :
    table.contains descriptor = false := by
  rw [fresh?] at fresh
  split at fresh
  · next number found =>
    split at fresh
    · obtain rfl := Option.some.inj fresh
      simpa using List.find?_some found
    · cases fresh
  · cases fresh

theorem ofNat_injOn {first second : Nat} (small : first < 0x100000000)
    (small' : second < 0x100000000) (same : Int32.ofNat first = Int32.ofNat second) :
    first = second := by
  have numbers := congrArg (fun value : Int32 => value.toUInt32.toNat) same
  simpa [Nat.mod_eq_of_lt small, Nat.mod_eq_of_lt small'] using numbers

/-- There is a new descriptor as long as not all of them are open. -/
theorem fresh?_isSome (room : table.opened.length < 0x80000000) : table.fresh?.isSome = true := by
  rw [fresh?]
  split
  · next number found =>
    have below := List.mem_range.mp (List.mem_of_find?_eq_some found)
    have small : number < 0x80000000 := by omega
    rw [if_pos small]
    rfl
  · next exhausted =>
    -- One number more than there are open descriptors cannot all be open.
    let numbers := (List.range (table.opened.length + 1)).map Int32.ofNat
    have distinct : numbers.Nodup := by
      apply List.Nodup.map_on _ List.nodup_range
      intro first inFirst second inSecond same
      have := List.mem_range.mp inFirst
      have := List.mem_range.mp inSecond
      exact ofNat_injOn (by omega) (by omega) same
    have allOpen : numbers ⊆ table.opened := by
      intro descriptor member
      obtain ⟨number, inRange, rfl⟩ := List.mem_map.mp member
      simpa [contains_iff] using List.find?_eq_none.mp exhausted number inRange
    have atMost := (List.subperm_of_subset distinct allOpen).length_le
    simp only [numbers, List.length_map, List.length_range] at atMost
    omega

end Descriptors

/-! ## One call -/

/-- A host with one more open descriptor. -/
def Host.opening (host : Host κ) (descriptor : Int32) : Host κ :=
  { host with descriptors := host.descriptors.insert descriptor }

namespace InterfaceControl

variable (control : InterfaceControl κ) (descriptor : Int32)

theorem descriptors_attachOn (request : InterfaceRequest) (host : Host κ) :
    (control.attachOn descriptor request host).2.descriptors = host.descriptors := rfl

theorem descriptors_persistOn (keep : Bool) (host : Host κ) :
    (control.persistOn descriptor keep host).2.descriptors = host.descriptors := rfl

end InterfaceControl

namespace Binder

section

variable (binder : Binder κ) (files : FileSystem) (path : Path) (descriptor : Int32)
  (host : Host κ)

/-- Keeping an interface alive leaves the table as it is. -/
theorem descriptors_keepAlive (name : String) :
    ((binder.keepAlive descriptor name).run host).state.descriptors = host.descriptors := by
  have kept := binder.control.descriptors_persistOn descriptor true host
  rw [run_keepAlive]
  split
  · generalize binder.control.persistOn descriptor true host = answered at kept ⊢
    rcases answered with ⟨fault | _, after⟩ <;> exact kept
  · rfl

/-- Binding a descriptor leaves the table as it is. -/
theorem descriptors_bind :
    ((binder.bind descriptor).run host).state.descriptors = host.descriptors := by
  have kept := binder.control.descriptors_attachOn descriptor (asked binder.config) host
  rw [run_bind]
  cases binder.config.validateInterfaceName with
  | error fault => rfl
  | ok =>
    dsimp only
    generalize binder.control.attachOn descriptor (asked binder.config) host = answered at kept ⊢
    rcases answered with ⟨⟨fault | _, left⟩, after⟩
    · exact kept
    · exact (binder.descriptors_keepAlive descriptor after left.name).trans kept

/-- Nothing is opened, or one new descriptor is. -/
theorem openNode_eq :
    openNode files path host =
      match files.openNode path, host.descriptors.fresh? with
      | .error fault, _ => (.error fault, host)
      | .ok (), none => (.error (.numbered 24), host)
      | .ok (), some descriptor =>
        (.ok descriptor, host.opening descriptor) := by
  rw [openNode]
  cases files.openNode path with
  | error fault => rfl
  | ok => cases host.descriptors.fresh? <;> rfl

variable {binder files path descriptor host}

theorem run_openOwned_of_refused {fault : IoError} (refused : files.openNode path = .error fault) :
    (binder.openOwned files path).run host =
      ⟨.error (.nodeUnavailable path.text fault), host, []⟩ := by
  simp only [run_openOwned, openNode_eq, refused]

theorem run_openOwned_of_full (opens : files.openNode path = .ok ())
    (full : host.descriptors.fresh? = none) :
    (binder.openOwned files path).run host =
      ⟨.error (.nodeUnavailable path.text (.numbered 24)), host, []⟩ := by
  simp only [run_openOwned, openNode_eq, opens, full]

/-- Between opening a device node and answering its handle the descriptor is bound. If that fails,
the table is as before the call. -/
theorem run_openOwned_of_fresh (opens : files.openNode path = .ok ())
    (fresh : host.descriptors.fresh? = some descriptor) :
    let binding := (binder.bind descriptor).run (host.opening descriptor)
    (binder.openOwned files path).run host =
      match binding.outcome with
      | .error fault =>
        ⟨.error fault, { binding.state with descriptors := host.descriptors }, binding.events⟩
      | .ok interface => ⟨.ok (⟨descriptor⟩, interface), binding.state, binding.events⟩ := by
  intro binding
  have kept : binding.state.descriptors = host.descriptors.insert descriptor :=
    binder.descriptors_bind descriptor (host.opening descriptor)
  have closed := Descriptors.close_insert (Descriptors.contains_of_fresh? fresh)
  simp only [run_openOwned, openNode_eq, opens, fresh]
  change Report.mk (binding.outcome.map (DescriptorHandle.mk descriptor, ·))
    (if binding.outcome.isOk then binding.state else closeNode descriptor binding.state)
    binding.events = _
  cases binding.outcome with
  | error fault => simp [Except.map, Except.isOk, Except.toBool, closeNode, kept, closed]
  | ok interface => rfl

theorem run_openOwned_of_error (opens : files.openNode path = .ok ())
    (fresh : host.descriptors.fresh? = some descriptor) {fault : ProvisionError}
    (failed : ((binder.bind descriptor).run (host.opening descriptor)).outcome = .error fault) :
    let binding := (binder.bind descriptor).run (host.opening descriptor)
    (binder.openOwned files path).run host =
      ⟨.error fault, { binding.state with descriptors := host.descriptors }, binding.events⟩ := by
  intro binding
  rw [run_openOwned_of_fresh opens fresh, failed]

theorem run_openOwned_of_ok (opens : files.openNode path = .ok ())
    (fresh : host.descriptors.fresh? = some descriptor) {interface : BoundInterface}
    (bound : ((binder.bind descriptor).run (host.opening descriptor)).outcome = .ok interface) :
    let binding := (binder.bind descriptor).run (host.opening descriptor)
    (binder.openOwned files path).run host =
      ⟨.ok (⟨descriptor⟩, interface), binding.state, binding.events⟩ := by
  intro binding
  rw [run_openOwned_of_fresh opens fresh, bound]

/-- An interface is attached to the descriptor that was passed in. -/
theorem descriptor_of_bind {interface : BoundInterface}
    (bound : ((binder.bind descriptor).run host).outcome = .ok interface) :
    interface.descriptor = descriptor := by
  obtain ⟨calls, exchange, _⟩ := exists_exchange binder.control binder.config descriptor host
  generalize ((Binder.bind ⟨binder.control, binder.config⟩ descriptor).run host).events = events
    at exchange
  rw [bound] at exchange
  cases exchange with
  | attached nonempty short left keeping => rfl

/-- A call that fails leaves the table as it was, and one that succeeds adds the descriptor of the
handle, which was not open before. -/
theorem descriptors_openOwned (binder : Binder κ) (files : FileSystem) (path : Path)
    (host : Host κ) :
    let report := (binder.openOwned files path).run host
    match report.outcome with
    | .error _ => report.state.descriptors = host.descriptors
    | .ok (handle, _) =>
      host.descriptors.contains handle.descriptor = false ∧
        report.state.descriptors = host.descriptors.insert handle.descriptor := by
  intro report
  cases opens : files.openNode path with
  | error fault =>
    simp only [report, run_openOwned_of_refused opens]
  | ok =>
    cases fresh : host.descriptors.fresh? with
    | none => simp only [report, run_openOwned_of_full opens fresh]
    | some descriptor =>
      cases bound : ((binder.bind descriptor).run (host.opening descriptor)).outcome with
      | error fault => simp only [report, run_openOwned_of_error opens fresh bound]
      | ok interface =>
        simp only [report, run_openOwned_of_ok opens fresh bound]
        exact ⟨Descriptors.contains_of_fresh? fresh, binder.descriptors_bind descriptor _⟩

end

/-- A kernel is asked only what binding the new descriptor asks it. -/
theorem callsOf_openOwned (control : InterfaceControl κ) (config : TunnelConfig)
    (files : FileSystem) (path : Path) (host : Host κ) :
    control.callsOf (openOwned ⟨·, config⟩ files path) host =
      match files.openNode path, host.descriptors.fresh? with
      | .ok (), some descriptor =>
        control.callsOf (Binder.bind ⟨·, config⟩ descriptor) (host.opening descriptor)
      | _, _ => [] := by
  have sameTable : (host.journaling []).descriptors = host.descriptors := rfl
  rw [InterfaceControl.callsOf]
  cases opens : files.openNode path with
  | error fault =>
    rw [run_openOwned_of_refused opens]
    rfl
  | ok =>
    cases fresh : host.descriptors.fresh? with
    | none =>
      rw [run_openOwned_of_full opens (sameTable ▸ fresh)]
      rfl
    | some descriptor =>
      rw [run_openOwned_of_fresh opens (sameTable ▸ fresh)]
      dsimp only
      split <;> rfl

end Binder

/-! ## Callers -/

/-- A table of what was open at first and of descriptors with certain raw values, which are all
different and were not open at first. -/
structure Descriptors.Accounted (start : Descriptors) (owned : List Int) (table : Descriptors) :
    Prop where
  contains_iff : ∀ descriptor, table.contains descriptor = true ↔
    start.contains descriptor = true ∨ descriptor.toInt ∈ owned
  distinct : owned.Nodup
  foreign : ∀ descriptor, start.contains descriptor = true → descriptor.toInt ∉ owned

namespace Descriptors.Accounted

variable {start table : Descriptors} {owned other : List Int} {descriptor : Int32}

theorem refl (table : Descriptors) : Accounted table [] table where
  contains_iff _ := by simp
  distinct := List.nodup_nil
  foreign _ _ := List.not_mem_nil

theorem of_perm (same : owned.Perm other) (accounted : Accounted start owned table) :
    Accounted start other table where
  contains_iff _ := by rw [accounted.contains_iff, same.mem_iff]
  distinct := same.nodup accounted.distinct
  foreign _ opened := by
    rw [← same.mem_iff]
    exact accounted.foreign _ opened

/-- A descriptor that was closed belongs to whoever opened it. -/
theorem insert (accounted : Accounted start owned table)
    (closed : table.contains descriptor = false) :
    Accounted start (descriptor.toInt :: owned) (table.insert descriptor) := by
  have absent : ¬ (start.contains descriptor = true ∨ descriptor.toInt ∈ owned) := by
    rw [← accounted.contains_iff, closed]
    exact Bool.false_ne_true
  obtain ⟨notAtFirst, notOwned⟩ := not_or.mp absent
  constructor
  · intro other
    rw [contains_insert, Bool.or_eq_true, beq_iff_eq, accounted.contains_iff, List.mem_cons,
      Int32.toInt_inj]
    exact or_left_comm
  · exact accounted.distinct.cons notOwned
  · intro other opened
    rw [List.mem_cons, Int32.toInt_inj, not_or]
    refine ⟨?_, accounted.foreign other opened⟩
    rintro rfl
    exact notAtFirst opened

/-- A descriptor that is owned and closed belongs to nobody. -/
theorem close (accounted : Accounted start (descriptor.toInt :: owned) table) :
    Accounted start owned (table.close descriptor) := by
  obtain ⟨notOwned, distinct⟩ := List.nodup_cons.mp accounted.distinct
  have notAtFirst : start.contains descriptor ≠ true := fun opened =>
    accounted.foreign descriptor opened List.mem_cons_self
  constructor
  · intro other
    by_cases same : other = descriptor
    · subst same
      rw [contains_close_self]
      exact iff_of_false Bool.false_ne_true (not_or.mpr ⟨notAtFirst, notOwned⟩)
    · rw [contains_close_of_ne same, accounted.contains_iff, List.mem_cons, Int32.toInt_inj,
        or_iff_right same]
  · exact distinct
  · intro other opened
    exact fun member => accounted.foreign other opened (List.mem_cons_of_mem _ member)

end Descriptors.Accounted

namespace Custody

/-- The descriptors of a caller are in order: its table has what was open at first and what the
caller owns. -/
def Accounted (start : Descriptors) (custody : Custody κ) : Prop :=
  start.Accounted custody.owned custody.host.descriptors

theorem perm_owned_hold (custody : Custody κ) (host : Host κ) (handle : DescriptorHandle) :
    (handle.raw :: custody.owned).Perm
      (owned { custody with host, held := custody.held ++ [handle] }) := by
  have moved : ([handle.raw] ++ custody.held.map DescriptorHandle.raw).Perm
      (custody.held.map DescriptorHandle.raw ++ [handle.raw]) := List.perm_append_comm
  simpa [owned] using moved.append_right custody.givenUp

theorem perm_owned_erase {custody : Custody κ} {handle : DescriptorHandle}
    (member : handle ∈ custody.held) (host : Host κ) :
    custody.owned.Perm
      (handle.raw :: owned { custody with host, held := custody.held.erase handle }) := by
  have first := (List.perm_cons_erase member).map DescriptorHandle.raw
  exact first.append_right custody.givenUp

/-- What one step of a caller keeps. -/
theorem accounted_perform (control : InterfaceControl κ) {start : Descriptors} {custody : Custody κ}
    (accounted : custody.Accounted start) (step : CustodyStep) :
    (custody.perform control step).Accounted start := by
  cases step with
  | bind config descriptor =>
    have kept := Binder.descriptors_bind ⟨control, config⟩ descriptor custody.host
    rw [Accounted, perform]
    dsimp only
    rw [kept]
    exact accounted
  | openNode config files path =>
    have table := Binder.descriptors_openOwned ⟨control, config⟩ files path custody.host
    rw [Accounted, perform]
    dsimp only at table ⊢
    generalize (Binder.openOwned ⟨control, config⟩ files path).run custody.host = report at table ⊢
    rcases report with ⟨fault | ⟨handle, interface⟩, after, events⟩
    · have same : after.descriptors = custody.host.descriptors := table
      rw [same]
      exact accounted.of_perm (.of_eq (by simp [owned, Except.map, Except.toOption]))
    · obtain ⟨closed, same⟩ := table
      change start.Accounted _ after.descriptors
      rw [show after.descriptors = _ from same]
      exact (accounted.insert closed).of_perm (custody.perm_owned_hold after handle)
  | drop handle =>
    rw [perform]
    split
    · next member =>
      have first := accounted.of_perm (perm_owned_erase member (handle.drop custody.host))
      exact first.close
    · exact accounted
  | giveUp handle =>
    rw [perform]
    split
    · next member =>
      have first := accounted.of_perm (perm_owned_erase member custody.host)
      have last := first.of_perm (List.perm_append_singleton handle.raw _).symm
      exact last.of_perm (.of_eq (List.append_assoc _ _ _))
    · exact accounted

/-- What a sequence of steps keeps. -/
theorem accounted_run (control : InterfaceControl κ) {start : Descriptors} {custody : Custody κ}
    (accounted : custody.Accounted start) (steps : List CustodyStep) :
    (custody.run control steps).Accounted start := by
  induction steps generalizing custody with
  | nil => exact accounted
  | cons step rest ih => exact ih (accounted_perform control accounted step)

end Custody

/-- Opening a device node and binding it, over every file system, kernel and table of descriptors.

A node that cannot be opened, or for which there is no descriptor left, is reported with its path
and the error, and nothing else happens. Otherwise there is one new descriptor, which is bound and
nothing else is asked. If that fails, its error is the outcome and the table is as before the call;
if it succeeds, the new descriptor is all that was added, and it is that of the interface and the
raw value of the handle. Whether or not the caller takes the handle is the only difference between
the two ways to open a node. Binding a descriptor that is passed in leaves the table as it is.

However a caller goes on, open is what was open at first and what the caller owns, and nothing else.
A handle that is held, however late, takes its descriptor and no other off the table when it is
dropped, and gives it away open when it is given up. -/
theorem openOwned_custody (control : InterfaceControl κ) (host : Host κ) :
    (∀ (config : TunnelConfig) (files : FileSystem) (path : Path),
      let report := (Binder.openOwned ⟨control, config⟩ files path).run host
      let calls := control.callsOf (Binder.openOwned ⟨·, config⟩ files path) host
      (Binder.openAndBind ⟨control, config⟩ files path).run host =
        ⟨report.outcome.map Prod.snd, report.state, report.events⟩ ∧
      match files.openNode path, host.descriptors.fresh? with
      | .error fault, _ =>
        report = ⟨.error (.nodeUnavailable path.text fault), host, []⟩ ∧ calls = []
      | .ok (), none =>
        0x80000000 ≤ host.descriptors.opened.length ∧
          report = ⟨.error (.nodeUnavailable path.text (.numbered 24)), host, []⟩ ∧ calls = []
      | .ok (), some descriptor =>
        let binding := (Binder.bind ⟨control, config⟩ descriptor).run (host.opening descriptor)
        host.descriptors.contains descriptor = false ∧ report.events = binding.events ∧
          calls = control.callsOf (Binder.bind ⟨·, config⟩ descriptor) (host.opening descriptor) ∧
          match binding.outcome with
          | .error fault =>
            report.outcome = .error fault ∧ report.state.descriptors = host.descriptors
          | .ok interface =>
            ∃ handle : DescriptorHandle, report.outcome = .ok (handle, interface) ∧
              handle.raw = descriptor.toInt ∧ interface.descriptor = descriptor ∧
              report.state.descriptors = host.descriptors.insert descriptor ∧
              (handle.drop report.state).descriptors = host.descriptors) ∧
    (∀ (config : TunnelConfig) (descriptor : Int32),
      ((Binder.bind ⟨control, config⟩ descriptor).run host).state.descriptors =
        host.descriptors) ∧
    ∀ steps : List CustodyStep,
      let custody := Custody.run control { host } steps
      host.descriptors.Accounted custody.owned custody.host.descriptors ∧
      ∀ handle ∈ custody.held,
        custody.host.descriptors.contains handle.descriptor = true ∧
        handle.intoRaw custody.host = (handle.descriptor.toInt, custody.host) ∧
        (handle.drop custody.host).descriptors.contains handle.descriptor = false ∧
        ∀ other ≠ handle.descriptor,
          (handle.drop custody.host).descriptors.contains other =
            custody.host.descriptors.contains other := by
  refine ⟨?_, fun config descriptor => Binder.descriptors_bind _ descriptor host, ?_⟩
  · intro config files path report calls
    refine ⟨Binder.run_openAndBind _ files path host, ?_⟩
    have asked : calls = _ := Binder.callsOf_openOwned control config files path host
    cases opens : files.openNode path with
    | error fault =>
      simp only [opens] at asked
      exact ⟨Binder.run_openOwned_of_refused opens, asked⟩
    | ok =>
      cases fresh : host.descriptors.fresh? with
      | none =>
        simp only [opens, fresh] at asked
        have full : 0x80000000 ≤ host.descriptors.opened.length := by
          by_contra room
          have left := Descriptors.fresh?_isSome (Nat.not_le.mp room)
          rw [fresh] at left
          cases left
        exact ⟨full, Binder.run_openOwned_of_full opens fresh, asked⟩
      | some descriptor =>
        simp only [opens, fresh] at asked
        have absent := Descriptors.contains_of_fresh? fresh
        have table : ((Binder.bind ⟨control, config⟩ descriptor).run
            (host.opening descriptor)).state.descriptors = host.descriptors.insert descriptor :=
          Binder.descriptors_bind _ descriptor _
        cases bound : ((Binder.bind ⟨control, config⟩ descriptor).run
            (host.opening descriptor)).outcome with
        | error fault =>
          have ran : report = _ := Binder.run_openOwned_of_error opens fresh bound
          dsimp only
          rw [bound, ran]
          exact ⟨absent, rfl, asked, rfl, rfl⟩
        | ok interface =>
          have ran : report = _ := Binder.run_openOwned_of_ok opens fresh bound
          have dropped := Descriptors.close_insert absent
          dsimp only
          rw [bound, ran]
          refine ⟨absent, rfl, asked, ⟨descriptor⟩, rfl, rfl, Binder.descriptor_of_bind bound,
            table, ?_⟩
          rw [← dropped, ← table]
          rfl
  · intro steps custody
    have start : Custody.Accounted host.descriptors { host } := .refl host.descriptors
    have accounted : custody.Accounted host.descriptors := Custody.accounted_run control start steps
    refine ⟨accounted, fun handle member => ⟨?_, rfl, Descriptors.contains_close_self,
      fun other different => Descriptors.contains_close_of_ne different⟩⟩
    rw [accounted.contains_iff]
    exact .inr (List.mem_append_left _ (List.mem_map_of_mem member))

/-- A second node is opened while the first handle is held; in between one fails to be bound. After
the first handle is given up, dropping the second one leaves the first descriptor open. -/
theorem openOwned_custody_two :
    let files : FileSystem := ⟨fun _ => false, fun _ => .error .missing, fun _ => .ok ()⟩
    let node := Path.ofText "/dev/net/tun"
    let steps : List CustodyStep :=
      [.openNode {} files node, .openNode { interfaceName := "" } files node, .bind {} 3,
        .openNode {} files node, .giveUp ⟨3⟩]
    let host : Host SimulatedKernel := { interfaces := {} }
    let custody := Custody.run SimulatedKernel.control { host } steps
    let handle : DescriptorHandle := ⟨4⟩
    custody.givenUp = [3] ∧ handle ∈ custody.held ∧ 3 ≠ handle.descriptor ∧
      (handle.drop custody.host).descriptors.contains handle.descriptor = false ∧
      (handle.drop custody.host).descriptors.contains 3 = true := by
  intro files node steps host custody handle
  have held : handle ∈ custody.held := by decide
  have different : 3 ≠ handle.descriptor := by decide
  have stillOpen : custody.host.descriptors.contains 3 = true := by decide
  obtain ⟨_, _, dropped, others⟩ :=
    (openOwned_custody SimulatedKernel.control host).2.2 steps |>.2 handle held
  exact ⟨by decide, held, different, dropped, (others 3 different).trans stillOpen⟩

end TunnelProvisioning
