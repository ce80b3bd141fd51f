import TunnelProvisioning.Proofs.Toml.Distinct

/-! # Looking into a document

The keys of a table are distinct, so a key of a table of a document gives one value at most,
wherever the table and the key stand. Looking for it by name therefore finds it.
-/

namespace TunnelProvisioning.Toml

/-- The value of a node that has no parts. -/
def Node.scalar? : Node → Option Scalar
  | .scalar _ value => some value
  | _ => none

theorem Node.eq_of_scalar? {node : Node} {value : Scalar} (scalar : node.scalar? = some value) :
    ∃ place, node = .scalar place value := by
  rcases node with ⟨place, own⟩ | _ | _ | _
  case scalar => exact ⟨place, congrArg (Node.scalar place) (Option.some.inj scalar)⟩
  all_goals cases scalar

def Scalar.text? : Scalar → Option String
  | .text content => some content
  | _ => none

def Scalar.boolean? : Scalar → Option Bool
  | .boolean truth => some truth
  | _ => none

def Node.text? (node : Node) : Option String :=
  node.scalar?.bind Scalar.text?

def Node.boolean? (node : Node) : Option Bool :=
  node.scalar?.bind Scalar.boolean?

def Node.IsTable (node : Node) : Prop :=
  ∃ kind place members, node = .table kind place members

namespace Members

/-- Whether a table of a document, wherever it stands, has a key with a value, wherever that
stands. -/
def Gives (members : Members) (table key : String) (node : Node) : Prop :=
  ∃ outer ∈ members, outer.1.name = table ∧ ∃ kind place inner, outer.2 = .table kind place inner ∧
    ∃ member ∈ inner, member.1.name = key ∧ member.2 = node

/-- The members of a table of a document, none if there is no such table. -/
def within (members : Members) (table : String) : Members :=
  match members.get? table with
  | some (.table _ _ inner) => inner
  | _ => []

/-- The value under a key of a table of a document. -/
def at? (members : Members) (table key : String) : Option Node :=
  (members.within table).get? key

/-- Whether a document has no such key, or a table under it. -/
def HasTable (members : Members) (table : String) : Prop :=
  ∀ node, members.get? table = some node → node.IsTable

instance (members : Members) (table : String) : Decidable (members.HasTable table) :=
  match found : members.get? table with
  | none => isTrue fun _ given => absurd (found.symm.trans given) nofun
  | some (.table kind place inner) =>
    isTrue fun _ given => ⟨kind, place, inner, (Option.some.inj (found.symm.trans given)).symm⟩
  | some (.scalar _ _) => isFalse fun has => by obtain ⟨_, _, _, same⟩ := has _ found; cases same
  | some (.array _ _) => isFalse fun has => by obtain ⟨_, _, _, same⟩ := has _ found; cases same
  | some (.tables _) => isFalse fun has => by obtain ⟨_, _, _, same⟩ := has _ found; cases same

variable {members : Members} {table key : String} {node : Node}

theorem Distinct.within (distinct : members.Distinct) (table : String) :
    (members.within table).Distinct := by
  rw [Members.within]
  split
  · next found => exact (distinct.of_get? found).inTable
  · exact .nil

theorem get?_eq_some_iff (distinct : members.names.Nodup) :
    members.get? key = some node ↔ ∃ member ∈ members, member.1.name = key ∧ member.2 = node := by
  constructor
  · intro found
    obtain ⟨name, same, listed⟩ := mem_of_get? found
    exact ⟨_, listed, same, rfl⟩
  · rintro ⟨member, listed, rfl, rfl⟩
    induction members with
    | nil => cases listed
    | cons first members ih =>
      rw [names, List.map_cons, List.nodup_cons] at distinct
      rcases List.mem_cons.mp listed with rfl | later
      · rw [get?, List.find?_cons_of_pos (by simp)]
        rfl
      · have apart : first.1.name ≠ member.1.name := fun same =>
          distinct.1 (List.mem_map.mpr ⟨member, later, same.symm⟩)
        rw [get?, List.find?_cons_of_neg (by simpa using apart)]
        exact ih distinct.2 later

/-- The value under a key of a table is the one that the document gives, wherever it stands. -/
theorem at?_eq_some_iff (distinct : members.Distinct) :
    members.at? table key = some node ↔ members.Gives table key node := by
  rw [at?, get?_eq_some_iff (distinct.within table).names, Members.within]
  constructor
  · rintro ⟨member, listed, same⟩
    split at listed
    · next kind place inner found =>
      obtain ⟨outer, inDocument, named, is⟩ := (get?_eq_some_iff distinct.names).mp found
      exact ⟨outer, inDocument, named, kind, place, inner, is, member, listed, same⟩
    · cases listed
  · rintro ⟨outer, inDocument, named, kind, place, inner, is, member, listed, same⟩
    rw [(get?_eq_some_iff distinct.names).mpr ⟨outer, inDocument, named, is⟩]
    exact ⟨member, listed, same⟩

end Members

end TunnelProvisioning.Toml
