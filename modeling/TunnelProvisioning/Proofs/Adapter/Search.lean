import Mathlib.Data.List.Basic
import TunnelProvisioning.Adapter.Search

/-! # What a search reads and answers

A search is a loop over the listed adapters with two ways to go on and two ways to end. Its closed
form has no loop: the answer is that of the first adapter that matches, and the keys it opens are
those of the adapters up to that one whose keys can be opened. Every key that was opened is closed
again, whichever way the search ends. Both facts hold of every registry.
-/

namespace TunnelProvisioning

namespace KeyLedger

/-- Keys that were opened one after the other and are all closed again. -/
def visit (ledger : KeyLedger) (paths : List String) : KeyLedger where
  opened := ledger.opened + paths.length
  closed := ledger.closed + paths.length
  paths := ledger.paths ++ paths

@[simp] theorem visit_nil (ledger : KeyLedger) : ledger.visit [] = ledger := by
  simp [visit]

theorem visit_append (ledger : KeyLedger) (first second : List String) :
    ledger.visit (first ++ second) = (ledger.visit first).visit second := by
  simp only [visit, List.length_append, List.append_assoc, Nat.add_assoc]

/-- One key that stays open while others are visited. -/
theorem close_visit_record (ledger : KeyLedger) (path : String) (paths : List String) :
    ((ledger.record path).visit paths).close = ledger.visit (path :: paths) := by
  simp only [visit, record, close, List.length_cons, List.append_assoc, List.singleton_append,
    KeyLedger.mk.injEq, and_true]
  omega

theorem close_record (ledger : KeyLedger) (path : String) :
    (ledger.record path).close = ledger.visit [path] := by
  rw [← close_visit_record, visit_nil]

end KeyLedger

namespace Registry

variable {ε α : Type} (registry : Registry) (componentId : String)

def isOpenable (path : String) : Bool :=
  (registry.openKey path).isOk

/-- Whether an adapter, given by its name, ends a search: its key can be opened and tells the
component id that is looked for. -/
def isMatch (name : String) : Bool :=
  let path := subkey adapterClass name
  registry.isOpenable path && registry.readText path componentIdValue = .ok componentId

def answerOf (name : String) : Except ProvisionError String :=
  match registry.readText (subkey adapterClass name) instanceIdValue with
  | .ok instanceId => .ok instanceId
  | .error _ => .error (.adapterNotFound componentId)

/-- The answer of a search among adapters that are given by their names. -/
def firstAnswer (names : List String) : Except ProvisionError String :=
  match names.find? (registry.isMatch componentId) with
  | some name => registry.answerOf componentId name
  | none => .error (.adapterNotFound componentId)

/-- The names up to and including the first one that matches. -/
def upToMatch (names : List String) : List String :=
  names.takeWhile (!registry.isMatch componentId ·) ++
    (names.find? (registry.isMatch componentId)).toList

/-- The keys that a search among adapters opens, in order. -/
def visited (names : List String) : List String :=
  ((registry.upToMatch componentId names).map (subkey adapterClass)).filter registry.isOpenable

theorem isOpenable_of_ok {registry : Registry} {path : String}
    (opens : registry.openKey path = .ok ()) : registry.isOpenable path = true := by
  simp only [isOpenable, opens, Except.isOk, Except.toBool]

theorem isOpenable_of_error {registry : Registry} {path : String} {fault : IoError}
    (refused : registry.openKey path = .error fault) : registry.isOpenable path = false := by
  simp only [isOpenable, refused, Except.isOk, Except.toBool]

/-- Using a key that can be opened leaves it closed. -/
theorem run_withKey_of_openable {registry : Registry} {path : String} {use : Action KeyLedger ε α}
    {ledger : KeyLedger} (openable : registry.openKey path = .ok ()) :
    (registry.withKey path use).run ledger =
      ⟨(use.run (ledger.record path)).outcome.map .ok,
        (use.run (ledger.record path)).state.close, (use.run (ledger.record path)).events⟩ := by
  simp only [withKey, Action.run_bind, Action.run_operate, openOn, openable, Action.run_ensuring]
  rcases use.run (ledger.record path) with ⟨_ | _, _, _⟩ <;>
    simp only [Action.run_pure, Except.map, List.nil_append, List.append_nil]

/-- A key that cannot be opened is not used at all. -/
theorem run_withKey_of_refused {registry : Registry} {path : String} {use : Action KeyLedger ε α}
    {ledger : KeyLedger} {fault : IoError} (refused : registry.openKey path = .error fault) :
    (registry.withKey path use).run ledger = ⟨.ok (.error fault), ledger, []⟩ := by
  simp only [withKey, Action.run_bind, Action.run_operate, openOn, refused, Action.run_pure,
    List.append_nil]

theorem firstAnswer_cons_of_match {name : String} {rest : List String}
    (matching : registry.isMatch componentId name = true) :
    registry.firstAnswer componentId (name :: rest) = registry.answerOf componentId name := by
  simp only [firstAnswer, List.find?_cons, matching]

theorem firstAnswer_cons_of_other {name : String} {rest : List String}
    (other : registry.isMatch componentId name = false) :
    registry.firstAnswer componentId (name :: rest) = registry.firstAnswer componentId rest := by
  simp only [firstAnswer, List.find?_cons, other]

theorem visited_cons_of_match {name : String} {rest : List String}
    (matching : registry.isMatch componentId name = true)
    (openable : registry.isOpenable (subkey adapterClass name) = true) :
    registry.visited componentId (name :: rest) = [subkey adapterClass name] := by
  simp [visited, upToMatch, matching, openable]

theorem visited_cons_of_other {name : String} {rest : List String}
    (other : registry.isMatch componentId name = false) :
    registry.visited componentId (name :: rest) =
      (if registry.isOpenable (subkey adapterClass name) then [subkey adapterClass name] else []) ++
        registry.visited componentId rest := by
  cases openable : registry.isOpenable (subkey adapterClass name) <;>
    simp [visited, upToMatch, other, openable]

/-- An adapter that matches ends a search with its answer. -/
theorem run_examine_of_match {name : String} (matching : registry.isMatch componentId name = true)
    (ledger : KeyLedger) :
    ((registry.examine componentId name).run ledger).outcome =
        (registry.answerOf componentId name).map some ∧
      ((registry.examine componentId name).run ledger).state =
        ledger.visit [subkey adapterClass name] := by
  simp only [isMatch, isOpenable, Bool.and_eq_true, decide_eq_true_eq] at matching
  obtain ⟨openable, reads⟩ := matching
  cases opens : registry.openKey (subkey adapterClass name) with
  | error fault =>
    rw [opens] at openable
    contradiction
  | ok =>
    cases tells : registry.readText (subkey adapterClass name) instanceIdValue <;>
      simp [examine, Action.run_bind, run_withKey_of_openable opens, inspect, reads, tells,
        answerOf, KeyLedger.close_record, Except.map]

/-- A search goes on after any other adapter, whose key it opens if it can. -/
theorem run_examine_of_other {name : String} (other : registry.isMatch componentId name = false)
    (ledger : KeyLedger) :
    ((registry.examine componentId name).run ledger).outcome = .ok none ∧
      ((registry.examine componentId name).run ledger).state =
        ledger.visit (if registry.isOpenable (subkey adapterClass name)
          then [subkey adapterClass name] else []) := by
  cases opens : registry.openKey (subkey adapterClass name) with
  | error fault =>
    simp [examine, Action.run_bind, run_withKey_of_refused opens, isOpenable_of_error opens]
  | ok =>
    have openable := isOpenable_of_ok opens
    cases reads : registry.readText (subkey adapterClass name) componentIdValue with
    | error fault =>
      simp [examine, Action.run_bind, run_withKey_of_openable opens, inspect, reads, openable,
        KeyLedger.close_record, Except.map]
    | ok text =>
      have different : text ≠ componentId := by
        rintro rfl
        simp [isMatch, openable, reads] at other
      simp [examine, Action.run_bind, run_withKey_of_openable opens, inspect, reads, different,
        openable, KeyLedger.close_record, Except.map]

/-- The loop of a search, without its log. The induction is on the names still to be looked at; the
count, which is only logged, is that of all names and stays. -/
theorem run_scan (count : Nat) (names : List String) (ledger : KeyLedger) :
    ((registry.scan componentId count names).run ledger).outcome =
        registry.firstAnswer componentId names ∧
      ((registry.scan componentId count names).run ledger).state =
        ledger.visit (registry.visited componentId names) := by
  induction names generalizing ledger with
  | nil => simp [scan, giveUp, Action.run_bind, firstAnswer, visited, upToMatch]
  | cons name rest ih =>
    simp only [scan, Action.outcome_bind, Action.state_bind]
    cases matching : registry.isMatch componentId name with
    | true =>
      obtain ⟨answered, left⟩ := registry.run_examine_of_match componentId matching ledger
      have openable : registry.isOpenable (subkey adapterClass name) = true :=
        (Bool.and_eq_true_iff.mp matching).1
      rw [answered, left, registry.firstAnswer_cons_of_match componentId matching,
        registry.visited_cons_of_match componentId matching openable]
      cases registry.answerOf componentId name <;> exact ⟨rfl, rfl⟩
    | false =>
      obtain ⟨answered, left⟩ := registry.run_examine_of_other componentId matching ledger
      rw [answered, left, registry.firstAnswer_cons_of_other componentId matching,
        registry.visited_cons_of_other componentId matching, KeyLedger.visit_append]
      exact ih _

/-! ## Whole look-ups -/

def searchAnswer : Except ProvisionError String :=
  if registry.isOpenable adapterClass then
    registry.firstAnswer componentId (registry.subkeys adapterClass)
  else .error (.adapterNotFound componentId)

def searchPaths : List String :=
  if registry.isOpenable adapterClass then
    adapterClass :: registry.visited componentId (registry.subkeys adapterClass)
  else []

def nameAnswer (instanceId : String) : Except ProvisionError String :=
  match registry.openKey (connectionKey instanceId),
    registry.readText (connectionKey instanceId) connectionNameValue with
  | .ok (), .ok name => .ok name
  | _, _ => .error (.nameLookupFailed instanceId)

def namePaths (instanceId : String) : List String :=
  if registry.isOpenable (connectionKey instanceId) then [connectionKey instanceId] else []

def adapterAnswer : Except ProvisionError AdapterDescriptor :=
  (registry.searchAnswer componentId).bind fun instanceId =>
    (registry.nameAnswer instanceId).map (⟨instanceId, ·⟩)

def adapterPaths : List String :=
  registry.searchPaths componentId ++
    match registry.searchAnswer componentId with
    | .ok instanceId => registry.namePaths instanceId
    | .error _ => []

theorem searchAnswer_error {fault : ProvisionError}
    (failed : registry.searchAnswer componentId = .error fault) :
    fault = .adapterNotFound componentId := by
  simp only [searchAnswer, firstAnswer, answerOf] at failed
  split at failed
  · split at failed
    · split at failed
      · contradiction
      · exact (Except.error.inj failed).symm
    · exact (Except.error.inj failed).symm
  · exact (Except.error.inj failed).symm

theorem run_findAdapter (ledger : KeyLedger) :
    ((registry.findAdapter componentId).run ledger).outcome = registry.searchAnswer componentId ∧
      ((registry.findAdapter componentId).run ledger).state =
        ledger.visit (registry.searchPaths componentId) := by
  cases opens : registry.openKey adapterClass with
  | error fault =>
    have closed := isOpenable_of_error opens
    simp [findAdapter, withAdapterClass, Action.run_bind, run_withKey_of_refused opens,
      searchAnswer, searchPaths, closed]
  | ok =>
    have openable := isOpenable_of_ok opens
    obtain ⟨answered, left⟩ := registry.run_scan componentId
      (registry.subkeys adapterClass).length (registry.subkeys adapterClass)
      (ledger.record adapterClass)
    rw [searchAnswer, searchPaths, if_pos openable, if_pos openable,
      ← KeyLedger.close_visit_record, ← left, ← answered]
    simp only [findAdapter, withAdapterClass, Action.outcome_bind, Action.state_bind,
      run_withKey_of_openable opens]
    rcases (registry.scan componentId _ _).run (ledger.record adapterClass) with ⟨_ | _, _, _⟩ <;>
      exact ⟨rfl, rfl⟩

theorem run_connectionName (instanceId : String) (ledger : KeyLedger) :
    ((registry.connectionName instanceId).run ledger).outcome = registry.nameAnswer instanceId ∧
      ((registry.connectionName instanceId).run ledger).state =
        ledger.visit (registry.namePaths instanceId) := by
  cases opens : registry.openKey (connectionKey instanceId) with
  | error fault =>
    have closed := isOpenable_of_error opens
    simp [connectionName, Action.run_bind, run_withKey_of_refused opens, nameAnswer, namePaths,
      opens, closed, Except.bind]
  | ok =>
    have openable := isOpenable_of_ok opens
    cases reads : registry.readText (connectionKey instanceId) connectionNameValue <;>
      simp [connectionName, Action.run_bind, run_withKey_of_openable opens, nameAnswer, namePaths,
        opens, openable, reads, KeyLedger.close_record, Except.bind, Except.map]

theorem run_resolveAdapter (ledger : KeyLedger) :
    ((registry.resolveAdapter componentId).run ledger).outcome =
        registry.adapterAnswer componentId ∧
      ((registry.resolveAdapter componentId).run ledger).state =
        ledger.visit (registry.adapterPaths componentId) := by
  obtain ⟨found, searched⟩ := registry.run_findAdapter componentId ledger
  simp only [resolveAdapter, Action.outcome_bind, Action.state_bind, found, searched,
    adapterAnswer, adapterPaths, KeyLedger.visit_append]
  cases answer : registry.searchAnswer componentId with
  | error fault => exact ⟨rfl, (KeyLedger.visit_nil _).symm⟩
  | ok instanceId =>
    obtain ⟨named, looked⟩ := registry.run_connectionName instanceId
      (ledger.visit (registry.searchPaths componentId))
    simp only [Except.bind, named, looked]
    cases registry.nameAnswer instanceId <;> exact ⟨rfl, rfl⟩

end Registry

end TunnelProvisioning
