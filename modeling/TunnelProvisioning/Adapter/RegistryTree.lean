import TunnelProvisioning.Adapter.Registry

/-! # Registry trees

A registry held in memory, built from descriptions of adapters and connections. A name that is given
again is listed again, and its latest description counts.
-/

namespace TunnelProvisioning

structure RegistryKey where
  values : List (String × String) := []
  subkeys : List String := []
  locked : Bool := false
  deriving DecidableEq, Repr

/-- A description by which a registry is built. -/
inductive RegistryEntry where
  /-- An adapter, with those of its ids that are known. -/
  | adapter (name : String) (componentId? instanceId? : Option String)
  /-- An adapter whose key nobody may open. -/
  | locked (name : String)
  /-- The connection of an adapter. -/
  | connection (instanceId name : String)
  deriving DecidableEq, Repr

/-- Keys by their paths; of several under one path the first counts. -/
structure RegistryTree where
  keys : List (String × RegistryKey)
  deriving DecidableEq, Repr

namespace RegistryTree

/-- The registry of a machine on which nothing is installed, not even the adapter class. -/
def empty : RegistryTree := ⟨[]⟩

def insert (tree : RegistryTree) (path : String) (key : RegistryKey) : RegistryTree :=
  ⟨(path, key) :: tree.keys⟩

def get? (tree : RegistryTree) (path : String) : Option RegistryKey :=
  tree.keys.lookup path

/-- The registry of a machine without adapters. -/
def standard : RegistryTree :=
  empty.insert Registry.adapterClass {}

/-- Lists a key below the adapter class. -/
def addAdapterKey (tree : RegistryTree) (name : String) (key : RegistryKey) :
    RegistryTree :=
  let parent := (tree.get? Registry.adapterClass).getD {}
  let extended := { parent with subkeys := parent.subkeys ++ [name] }
  (tree.insert Registry.adapterClass extended).insert
    (Registry.subkey Registry.adapterClass name) key

def givenValue (name : String) : Option String → List (String × String)
  | some text => [(name, text)]
  | none => []

/-- Adds an adapter, with those of its ids that are known. -/
def addAdapter (tree : RegistryTree) (name : String) (componentId? instanceId? : Option String) :
    RegistryTree :=
  let values := givenValue Registry.componentIdValue componentId? ++
    givenValue Registry.instanceIdValue instanceId?
  tree.addAdapterKey name { values }

/-- Adds an adapter whose key nobody may open. -/
def addLockedAdapter (tree : RegistryTree) (name : String) : RegistryTree :=
  tree.addAdapterKey name { locked := true }

def addConnection (tree : RegistryTree) (instanceId name : String) : RegistryTree :=
  tree.insert (Registry.connectionKey instanceId)
    { values := [(Registry.connectionNameValue, name)] }

def add (tree : RegistryTree) : RegistryEntry → RegistryTree
  | .adapter name componentId? instanceId? => tree.addAdapter name componentId? instanceId?
  | .locked name => tree.addLockedAdapter name
  | .connection instanceId name => tree.addConnection instanceId name

/-- The tree that entries build, one after the other, from one without adapters or from the empty
one. -/
def build (bare : Bool) (entries : List RegistryEntry) : RegistryTree :=
  entries.foldl add (if bare then empty else standard)

def registry (tree : RegistryTree) : Registry where
  openKey path :=
    match tree.get? path with
    | none => .error .missing
    | some key => if key.locked then .error (.numbered 5) else .ok ()
  subkeys path :=
    match tree.get? path with
    | none => []
    | some key => key.subkeys
  readText path value :=
    match (tree.get? path).bind (·.values.lookup value) with
    | none => .error .missing
    | some text => .ok text

end RegistryTree

end TunnelProvisioning
