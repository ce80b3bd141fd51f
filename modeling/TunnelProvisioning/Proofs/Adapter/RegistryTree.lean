import Mathlib.Data.List.Find
import Mathlib.Data.List.Induction
import TunnelProvisioning.Adapter.Session
import TunnelProvisioning.Proofs.Adapter.Search

/-! # Searching a registry tree

What a search in a tree answers can be read off the entries that built the tree. The adapters are
listed in the order in which they were described; a name that was described again is listed again,
and stands for its latest description wherever it is listed. The paths of class key, adapters and
connections never meet, whatever the names contain, so no entry changes what another kind of entry
described.
-/

namespace TunnelProvisioning

namespace RegistryEntry

def adapterName? : RegistryEntry → Option String
  | adapter name _ _ => some name
  | locked name => some name
  | connection _ _ => none

def isUnlocked : RegistryEntry → Bool
  | adapter _ _ _ => true
  | _ => false

def componentId? : RegistryEntry → Option String
  | adapter _ componentId? _ => componentId?
  | _ => none

def instanceId? : RegistryEntry → Option String
  | adapter _ _ instanceId? => instanceId?
  | _ => none

/-- Whether an entry describes an adapter that a search for a component id stops at. -/
def offers (componentId : String) (entry : RegistryEntry) : Bool :=
  entry.isUnlocked && entry.componentId? = some componentId

/-- What a tree holds for the adapter that an entry describes. -/
def key : RegistryEntry → RegistryKey
  | adapter _ componentId? instanceId? =>
    { values := RegistryTree.givenValue Registry.componentIdValue componentId? ++
        RegistryTree.givenValue Registry.instanceIdValue instanceId? }
  | _ => { locked := true }

def names (entries : List RegistryEntry) : List String :=
  entries.filterMap adapterName?

/-- The latest of the entries that describe the adapter with a name. -/
def latest? (entries : List RegistryEntry) (name : String) : Option RegistryEntry :=
  entries.reverse.find? (·.adapterName? = some name)

/-- The adapters that entries list, in order, each with its latest description. -/
def children (entries : List RegistryEntry) : List (String × RegistryEntry) :=
  (names entries).filterMap fun name => (latest? entries name).map (name, ·)

/-- The first of the listed adapters that a search for a component id stops at. -/
def chosen? (entries : List RegistryEntry) (componentId : String) :
    Option (String × RegistryEntry) :=
  (children entries).find? (·.2.offers componentId)

def answer (entries : List RegistryEntry) (componentId : String) :
    Except ProvisionError String :=
  match (chosen? entries componentId).bind (·.2.instanceId?) with
  | some instanceId => .ok instanceId
  | none => .error (.adapterNotFound componentId)

/-- The unlocked adapters that are listed up to and including the chosen one. -/
def inspected (entries : List RegistryEntry) (componentId : String) :
    List (String × RegistryEntry) :=
  ((children entries).takeWhile (!·.2.offers componentId) ++
    (chosen? entries componentId).toList).filter (·.2.isUnlocked)

/-- The keys that a search for a component id among entries opens, in order. -/
def searchPaths (entries : List RegistryEntry) (componentId : String) : List String :=
  Registry.adapterClass ::
    (inspected entries componentId).map (Registry.subkey Registry.adapterClass ·.1)

theorem names_append (first second : List RegistryEntry) :
    names (first ++ second) = names first ++ names second :=
  List.filterMap_append

/-- A name is listed exactly if some entry describes it. -/
theorem latest?_isSome_of_mem {entries : List RegistryEntry} {name : String}
    (listed : name ∈ names entries) : (latest? entries name).isSome = true := by
  obtain ⟨entry, member, described⟩ := List.mem_filterMap.mp listed
  rw [latest?, List.find?_isSome]
  exact ⟨entry, List.mem_reverse.mpr member, by simp only [described, decide_true]⟩

theorem latest?_append (entries : List RegistryEntry) (entry : RegistryEntry) (name : String) :
    latest? (entries ++ [entry]) name =
      if entry.adapterName? = some name then some entry else latest? entries name := by
  simp only [latest?, List.reverse_append, List.reverse_cons, List.reverse_nil, List.nil_append,
    List.singleton_append, List.find?_cons]
  split <;> simp_all

theorem map_fst_children (entries : List RegistryEntry) :
    (children entries).map Prod.fst = names entries := by
  rw [children, List.map_filterMap]
  have kept (name : String) (listed : name ∈ names entries) :
      ((latest? entries name).map (name, ·)).map Prod.fst = some name := by
    obtain ⟨entry, described⟩ := Option.isSome_iff_exists.mp (latest?_isSome_of_mem listed)
    rw [described]
    rfl
  exact (List.filterMap_congr kept).trans List.filterMap_some

theorem latest?_of_mem_children {entries : List RegistryEntry} {child : String × RegistryEntry}
    (member : child ∈ children entries) : latest? entries child.1 = some child.2 := by
  obtain ⟨name, _, described⟩ := List.mem_filterMap.mp member
  obtain ⟨entry, latest, rfl⟩ := Option.map_eq_some_iff.mp described
  exact latest

end RegistryEntry

namespace Registry

/-! ## Paths that never meet -/

theorem subkey_inj {path name other : String} :
    subkey path name = subkey path other ↔ name = other :=
  String.append_right_inj _

theorem subkey_ne_self (path name : String) : subkey path name ≠ path := by
  intro same
  have lengths := congrArg String.length same
  have separator : "\\".length = 1 := by decide
  simp only [subkey, String.length_append, separator] at lengths
  omega

private theorem class_ne_network (below other : String) :
    adapterClass ++ below ≠ networkConnections ++ other := by
  intro same
  have heads := congrArg (fun path => path.toList[33]?) same
  simp [adapterClass, networkConnections] at heads

theorem connectionKey_ne_adapterClass (instanceId : String) :
    connectionKey instanceId ≠ adapterClass := by
  intro same
  refine class_ne_network "" ("\\" ++ instanceId ++ "\\" ++ "Connection") ?_
  rw [String.append_empty, ← same]
  simp only [connectionKey, subkey, String.append_assoc]

theorem connectionKey_ne_adapter (instanceId name : String) :
    connectionKey instanceId ≠ subkey adapterClass name := by
  intro same
  refine class_ne_network ("\\" ++ name) ("\\" ++ instanceId ++ "\\" ++ "Connection") ?_
  simp only [connectionKey, subkey, String.append_assoc] at same ⊢
  exact same.symm

end Registry

namespace RegistryTree

open Registry RegistryEntry

@[simp] theorem get?_insert_self (tree : RegistryTree) (path : String) (key : RegistryKey) :
    (tree.insert path key).get? path = some key :=
  List.lookup_cons_self

theorem get?_insert_of_ne {tree : RegistryTree} {path other : String} {key : RegistryKey}
    (differ : other ≠ path) : (tree.insert path key).get? other = tree.get? other := by
  simp only [insert, get?, List.lookup_cons, beq_false_of_ne differ]

theorem get?_class_addAdapterKey (tree : RegistryTree) (name : String) (key : RegistryKey) :
    (tree.addAdapterKey name key).get? adapterClass =
      some { (tree.get? adapterClass).getD {} with
        subkeys := ((tree.get? adapterClass).getD {}).subkeys ++ [name] } := by
  rw [addAdapterKey, get?_insert_of_ne (subkey_ne_self adapterClass name).symm, get?_insert_self]

theorem get?_adapter_addAdapterKey (tree : RegistryTree) (name other : String)
    (key : RegistryKey) :
    (tree.addAdapterKey name key).get? (subkey adapterClass other) =
      if name = other then some key else tree.get? (subkey adapterClass other) := by
  by_cases same : name = other
  · rw [if_pos same, ← same, addAdapterKey, get?_insert_self]
  · have differ : subkey adapterClass other ≠ subkey adapterClass name :=
      fun equal => same (subkey_inj.mp equal).symm
    rw [if_neg same, addAdapterKey, get?_insert_of_ne differ,
      get?_insert_of_ne (subkey_ne_self adapterClass other)]

/-- An entry either describes an adapter or leaves class key and adapters alone. -/
theorem add_cases (tree : RegistryTree) (entry : RegistryEntry) :
    (∃ name, entry.adapterName? = some name ∧ tree.add entry = tree.addAdapterKey name entry.key) ∨
      (entry.adapterName? = none ∧ ∃ instanceId key,
        tree.add entry = tree.insert (connectionKey instanceId) key) := by
  cases entry with
  | adapter name componentId? instanceId? => exact .inl ⟨name, rfl, rfl⟩
  | locked name => exact .inl ⟨name, rfl, rfl⟩
  | connection instanceId name => exact .inr ⟨rfl, instanceId, _, rfl⟩

theorem build_append (bare : Bool) (entries : List RegistryEntry) (entry : RegistryEntry) :
    build bare (entries ++ [entry]) = (build bare entries).add entry := by
  simp only [build, List.foldl_append, List.foldl_cons, List.foldl_nil]

/-- The class key is there unless the tree started bare and lists no adapter; it holds nothing but
the list. -/
theorem get?_class_build (bare : Bool) (entries : List RegistryEntry) :
    (build bare entries).get? adapterClass =
      if bare = true ∧ names entries = [] then none else some { subkeys := names entries } := by
  induction entries using List.reverseRecOn with
  | nil => cases bare <;> decide
  | append_singleton entries entry ih =>
    rw [build_append, names_append]
    obtain ⟨name, described, added⟩ | ⟨undescribed, instanceId, key, added⟩ :=
      add_cases (build bare entries) entry
    · have last : names [entry] = [name] := by simp [names, described]
      rw [added, get?_class_addAdapterKey, ih, last]
      split <;> simp_all
    · have last : names [entry] = [] := by simp [names, undescribed]
      rw [added, get?_insert_of_ne (connectionKey_ne_adapterClass instanceId).symm, ih, last,
        List.append_nil]

/-- The key of an adapter holds what was last said about it. -/
theorem get?_adapter_build (bare : Bool) (entries : List RegistryEntry) (name : String) :
    (build bare entries).get? (subkey adapterClass name) = (latest? entries name).map key := by
  induction entries using List.reverseRecOn with
  | nil =>
    have differ := subkey_ne_self adapterClass name
    cases bare
    · exact get?_insert_of_ne differ
    · rfl
  | append_singleton entries entry ih =>
    rw [build_append, latest?_append]
    obtain ⟨listed, described, added⟩ | ⟨undescribed, instanceId, key, added⟩ :=
      add_cases (build bare entries) entry
    · rw [added, get?_adapter_addAdapterKey, described, ih]
      simp only [Option.some.injEq]
      split <;> rfl
    · rw [added, get?_insert_of_ne (connectionKey_ne_adapter instanceId name).symm, ih,
        undescribed, if_neg (by simp only [reduceCtorEq, not_false_eq_true])]

/-! ## What a listed adapter answers -/

theorem lookup_componentId_key (entry : RegistryEntry) :
    entry.key.values.lookup componentIdValue = entry.componentId? := by
  cases entry with
  | adapter name componentId? instanceId? =>
    cases componentId? <;> cases instanceId? <;>
      simp [key, givenValue, RegistryEntry.componentId?, List.lookup_cons, componentIdValue,
        instanceIdValue]
  | locked name => rfl
  | connection instanceId name => rfl

theorem lookup_instanceId_key (entry : RegistryEntry) :
    entry.key.values.lookup instanceIdValue = entry.instanceId? := by
  cases entry with
  | adapter name componentId? instanceId? =>
    cases componentId? <;> cases instanceId? <;>
      simp [key, givenValue, RegistryEntry.instanceId?, List.lookup_cons, componentIdValue,
        instanceIdValue]
  | locked name => rfl
  | connection instanceId name => rfl

theorem locked_key (entry : RegistryEntry) : entry.key.locked = !entry.isUnlocked := by
  cases entry <;> rfl

variable {bare : Bool} {entries : List RegistryEntry} {child : String × RegistryEntry}

theorem isOpenable_child (member : child ∈ children entries) :
    (build bare entries).registry.isOpenable (subkey adapterClass child.1) =
      child.2.isUnlocked := by
  simp only [Registry.isOpenable, registry, get?_adapter_build,
    latest?_of_mem_children member, Option.map_some, locked_key]
  cases child.2.isUnlocked <;> rfl

theorem isMatch_child (componentId : String) (member : child ∈ children entries) :
    (build bare entries).registry.isMatch componentId child.1 = child.2.offers componentId := by
  rw [Registry.isMatch, isOpenable_child member, RegistryEntry.offers]
  simp only [registry, get?_adapter_build, latest?_of_mem_children member, Option.map_some,
    Option.bind_some, lookup_componentId_key]
  cases child.2.componentId? <;> simp

theorem answerOf_child (componentId : String) (member : child ∈ children entries) :
    (build bare entries).registry.answerOf componentId child.1 =
      match child.2.instanceId? with
      | some instanceId => .ok instanceId
      | none => .error (.adapterNotFound componentId) := by
  simp only [Registry.answerOf, registry, get?_adapter_build, latest?_of_mem_children member,
    Option.map_some, Option.bind_some, lookup_instanceId_key]
  cases child.2.instanceId? <;> rfl

private theorem takeWhile_congr {α : Type} {p q : α → Bool} {xs : List α}
    (same : ∀ x ∈ xs, p x = q x) : xs.takeWhile p = xs.takeWhile q := by
  induction xs with
  | nil => rfl
  | cons x rest ih =>
    rw [List.takeWhile_cons, List.takeWhile_cons, same x (List.mem_cons_self ..),
      ih fun other member => same other (List.mem_cons_of_mem _ member)]

/-- Among the listed names a search finds the name of the chosen adapter. -/
theorem find?_names (componentId : String) :
    (names entries).find? ((build bare entries).registry.isMatch componentId) =
      (chosen? entries componentId).map Prod.fst := by
  rw [← map_fst_children, List.find?_map, chosen?]
  congr 1
  refine List.find?_congr fun child member => ?_
  exact isMatch_child componentId member

theorem takeWhile_names (componentId : String) :
    (names entries).takeWhile (!(build bare entries).registry.isMatch componentId ·) =
      ((children entries).takeWhile (!·.2.offers componentId)).map Prod.fst := by
  rw [← map_fst_children, List.takeWhile_map]
  congr 1
  refine takeWhile_congr fun child member => ?_
  exact congrArg (!·) (isMatch_child componentId member)

theorem mem_children_of_chosen? {componentId : String}
    (chosen : chosen? entries componentId = some child) : child ∈ children entries :=
  List.mem_of_find?_eq_some chosen

theorem firstAnswer_names (componentId : String) :
    (build bare entries).registry.firstAnswer componentId (names entries) =
      answer entries componentId := by
  rw [Registry.firstAnswer, find?_names, answer]
  cases chosen : chosen? entries componentId with
  | none => rfl
  | some child => exact answerOf_child componentId (mem_children_of_chosen? chosen)

theorem visited_names (componentId : String) :
    (build bare entries).registry.visited componentId (names entries) =
      (inspected entries componentId).map (subkey adapterClass ·.1) := by
  have upTo : (build bare entries).registry.upToMatch componentId (names entries) =
      ((children entries).takeWhile (!·.2.offers componentId) ++
        (chosen? entries componentId).toList).map Prod.fst := by
    rw [Registry.upToMatch, find?_names, takeWhile_names, List.map_append]
    cases chosen? entries componentId <;> rfl
  have listed : ∀ child ∈ (children entries).takeWhile (!·.2.offers componentId) ++
      (chosen? entries componentId).toList, child ∈ children entries := by
    intro child member
    rcases List.mem_append.mp member with before | last
    · exact (List.takeWhile_sublist _).subset before
    · exact mem_children_of_chosen? (Option.mem_toList.mp last)
  rw [Registry.visited, upTo, inspected, List.map_map, List.filter_map]
  refine congrArg (List.map _) (List.filter_congr fun child member => ?_)
  exact isOpenable_child (listed child member)

/-- A search in a tree that entries built ends with the instance id of the first listed adapter
that is unlocked and has the component id, if it has one, and reports the adapter as missing in
every other case. It opens the class key, if there is one, and then each unlocked adapter up to and
including that first one, and closes them all. Nothing else changes in the session. -/
theorem findAdapter_build (bare : Bool) (entries : List RegistryEntry) (componentId : String)
    (session : AdapterSession) :
    let before := { session with tree := build bare entries }
    let outcome := ((before.tree.registry.findAdapter componentId).run before.ledger).outcome
    let after := before.perform (.find componentId)
    if bare = true ∧ names entries = [] then
      outcome = .error (.adapterNotFound componentId) ∧ after = before
    else
      outcome = answer entries componentId ∧
        after =
          { before with ledger := before.ledger.visit (searchPaths entries componentId) } := by
  intro before outcome after
  obtain ⟨answered, left⟩ := before.tree.registry.run_findAdapter componentId before.ledger
  have perform : after = { before with
      ledger := before.ledger.visit (before.tree.registry.searchPaths componentId) } := by
    simp only [after, AdapterSession.perform, left]
  rw [show outcome = _ from answered, perform, Registry.searchAnswer, Registry.searchPaths]
  have classKey := get?_class_build bare entries
  split
  · next missing =>
    rw [if_pos missing] at classKey
    have closed : before.tree.registry.isOpenable adapterClass = false := by
      simp [before, Registry.isOpenable, registry, classKey, Except.isOk, Except.toBool]
    simp [closed]
  · next present =>
    rw [if_neg present] at classKey
    have openable : before.tree.registry.isOpenable adapterClass = true := by
      simp [before, Registry.isOpenable, registry, classKey, Except.isOk, Except.toBool]
    have listing : before.tree.registry.subkeys adapterClass = names entries := by
      simp only [before, registry, classKey]
    rw [if_pos openable, if_pos openable, listing]
    simp only [before]
    rw [firstAnswer_names, visited_names]
    exact ⟨rfl, rfl⟩

end RegistryTree

end TunnelProvisioning
