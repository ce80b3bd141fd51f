import Mathlib.Data.List.Nodup
import TunnelProvisioning.Toml.Reader

/-! # Distinct keys

No table of a document has two keys of the same name, however the table came about: by headers, by
dotted keys or between braces. Everything that changes a table goes through a path of keys and ends
with a change at its end, so it is enough that these changes add no name twice.
-/

namespace TunnelProvisioning.Toml

def Members.names (members : Members) : List String :=
  members.map (·.1.name)

/-- Whether the keys of all tables in a value are distinct. -/
inductive Node.Distinct : Node → Prop where
  | scalar (place : Nat) (value : Scalar) : Distinct (.scalar place value)
  | array (place : Nat) {items : List Node} (inner : ∀ item ∈ items, Distinct item) :
      Distinct (.array place items)
  | table (kind : TableKind) (place : Option Nat) {members : List (Key × Node)}
      (names : (Members.names members).Nodup) (inner : ∀ member ∈ members, Distinct member.2) :
      Distinct (.table kind place members)
  | tables {elements : List Node} (inner : ∀ element ∈ elements, Distinct element) :
      Distinct (.tables elements)

structure Members.Distinct (members : Members) : Prop where
  names : members.names.Nodup
  inner : ∀ member ∈ members, member.2.Distinct

theorem Node.Distinct.inTable {kind : TableKind} {place : Option Nat} {members : Members}
    (distinct : Node.Distinct (.table kind place members)) : members.Distinct := by
  cases distinct with
  | table _ _ names inner => exact ⟨names, inner⟩

theorem Node.Distinct.inTables {elements : List Node}
    (distinct : Node.Distinct (.tables elements)) :
    ∀ element ∈ elements, element.Distinct := by
  cases distinct with
  | tables inner => exact inner

namespace Members

variable {members changed : Members} {name : String} {node : Node}

theorem get?_eq_none_iff : members.get? name = none ↔ name ∉ members.names := by
  rw [get?, Option.map_eq_none_iff, List.find?_eq_none, names, List.mem_map]
  simp only [decide_eq_true_eq, not_exists, not_and]

theorem mem_of_get? (found : members.get? name = some node) :
    ∃ key, key.name = name ∧ (key, node) ∈ members := by
  obtain ⟨⟨key, _⟩, first, rfl⟩ := Option.map_eq_some_iff.mp found
  have named := List.find?_some first
  exact ⟨key, by simpa using named, List.mem_of_find?_eq_some first⟩

theorem names_replace : (members.replace name node).names = members.names := by
  rw [replace, names, List.map_map, names]
  refine List.map_congr_left fun ⟨key, old⟩ _ => ?_
  rw [Function.comp_apply]
  dsimp only
  split <;> rfl

theorem names_append (others : Members) :
    (members ++ others).names = members.names ++ others.names :=
  List.map_append

namespace Distinct

theorem nil : Distinct [] :=
  ⟨List.nodup_nil, fun _ member => absurd member List.not_mem_nil⟩

theorem table (distinct : members.Distinct) (kind : TableKind) (place : Option Nat) :
    Node.Distinct (.table kind place members) :=
  .table kind place distinct.names distinct.inner

theorem of_get? (distinct : members.Distinct) (found : members.get? name = some node) :
    node.Distinct := by
  obtain ⟨key, _, member⟩ := mem_of_get? found
  exact distinct.inner _ member

theorem append {key : Key} (distinct : members.Distinct) (fresh : members.get? key.name = none)
    (inner : node.Distinct) : Distinct (members ++ [(key, node)]) where
  names := by
    rw [names_append]
    refine List.nodup_append.mpr ⟨distinct.names, List.nodup_singleton _, ?_⟩
    intro first listed second last same
    rw [Members.names, List.map_singleton, List.mem_singleton] at last
    exact get?_eq_none_iff.mp fresh (by rw [← last, ← same]; exact listed)
  inner := by
    simp only [List.forall_mem_append, List.forall_mem_singleton]
    exact ⟨distinct.inner, inner⟩

theorem replace (distinct : members.Distinct) (inner : node.Distinct) :
    Distinct (members.replace name node) where
  names := by
    rw [names_replace]
    exact distinct.names
  inner := by
    rw [Members.replace, List.forall_mem_map]
    intro ⟨key, old⟩ listed
    dsimp only
    split
    · exact inner
    · exact distinct.inner _ listed

theorem erase (distinct : members.Distinct) : Distinct (members.erase name) where
  names := distinct.names.sublist (List.filter_sublist.map _)
  inner member listed := distinct.inner member (List.mem_of_mem_filter listed)

end Distinct

theorem get?_erase : (members.erase name).get? name = none := by
  rw [get?_eq_none_iff, names, erase, List.mem_map]
  rintro ⟨member, listed, same⟩
  have other := (List.mem_filter.mp listed).2
  simp only [same, ne_eq, not_true_eq_false, decide_false, Bool.false_eq_true] at other

/-! ## Changes of a table -/

/-- A change at the end of a path keeps all keys distinct if it does so where it is made. The
induction is on the path. -/
theorem Distinct.alterAt {dotted : Bool} {change : TableKind → Members → Option Members}
    (keeps : ∀ {kind : TableKind} {members changed : Members},
      members.Distinct → change kind members = some changed → changed.Distinct)
    {path : List Key} {kind : TableKind} (distinct : members.Distinct)
    (altered : Members.alterAt dotted change path kind members = some changed) :
    changed.Distinct := by
  induction path generalizing kind members changed with
  | nil => exact keeps distinct altered
  | cons key path ih =>
    rw [Members.alterAt] at altered
    split at altered
    · next fresh =>
      obtain ⟨inner, ran, made⟩ := Option.bind_eq_some_iff.mp altered
      obtain rfl := Option.some.inj made
      exact distinct.append fresh ((ih .nil ran).table _ none)
    · next inKind place inner found =>
      split at altered
      · cases altered
      · obtain ⟨inner, ran, made⟩ := Option.bind_eq_some_iff.mp altered
        obtain rfl := Option.some.inj made
        exact distinct.replace ((ih (distinct.of_get? found).inTable ran).table _ _)
    · next elements found =>
      have each := (distinct.of_get? found).inTables
      split at altered
      · next lastKind place inner last =>
        obtain ⟨inner, ran, made⟩ := Option.bind_eq_some_iff.mp altered
        obtain rfl := Option.some.inj made
        have before := each _ (List.mem_of_getLast? last)
        refine distinct.replace (.tables ?_)
        simp only [List.forall_mem_append, List.forall_mem_singleton]
        exact ⟨fun element listed => each element (List.dropLast_subset _ listed),
          (ih before.inTable ran).table _ _⟩
      · cases altered
    · cases altered

theorem Distinct.addNew {key : Key} (distinct : members.Distinct) (inner : node.Distinct)
    (added : Members.addNew key node members = some changed) : changed.Distinct := by
  rw [Members.addNew] at added
  split at added
  · next fresh =>
    obtain rfl := Option.some.inj added
    exact distinct.append fresh inner
  · cases added

theorem Distinct.assign {path : List Key} {key : Key} {kind : TableKind}
    (distinct : members.Distinct) (inner : node.Distinct)
    (assigned : Members.assign path key node kind members = some changed) : changed.Distinct := by
  refine distinct.alterAt (fun distinct added => ?_) assigned
  split at added
  · exact distinct.addNew inner added
  · cases added

theorem Distinct.openTable {path : List Key} {key : Key} {place : Nat} (distinct : members.Distinct)
    (opened : Members.openTable path key place members = some changed) : changed.Distinct := by
  refine distinct.alterAt (fun distinct added => ?_) opened
  split at added
  · next fresh =>
    obtain rfl := Option.some.inj added
    exact distinct.append fresh (Distinct.nil.table _ _)
  · next found =>
    obtain rfl := Option.some.inj added
    exact distinct.erase.append get?_erase ((distinct.of_get? found).inTable.table _ _)
  · cases added

theorem Distinct.openElement {path : List Key} {key : Key} {place : Nat}
    (distinct : members.Distinct)
    (opened : Members.openElement path key place members = some changed) : changed.Distinct := by
  have one : Node.Distinct (.table .header (some place) []) := Distinct.nil.table _ _
  refine distinct.alterAt (fun distinct added => ?_) opened
  split at added
  · next fresh =>
    obtain rfl := Option.some.inj added
    refine distinct.append fresh (.tables ?_)
    simpa only [List.forall_mem_singleton] using one
  · next elements found =>
    obtain rfl := Option.some.inj added
    refine distinct.replace (.tables ?_)
    simp only [List.forall_mem_append, List.forall_mem_singleton]
    exact ⟨(distinct.of_get? found).inTables, one⟩
  · cases added

end Members

/-! ## Values -/

section

variable {value? : List Char → Option (Node × List Char)}
  (sound : ∀ {cs rest : List Char} {node : Node}, value? cs = some (node, rest) → node.Distinct)

include sound

theorem distinct_of_items? {fuel : Nat} {cs rest : List Char} {items : List Node}
    (read : items? value? fuel cs = some (items, rest)) : ∀ item ∈ items, item.Distinct := by
  induction fuel generalizing cs rest items with
  | zero => cases read
  | succ fuel ih =>
    rw [items?] at read
    split at read
    · cases read
      exact fun _ listed => absurd listed List.not_mem_nil
    · obtain ⟨⟨node, left⟩, first, read⟩ := Option.bind_eq_some_iff.mp read
      dsimp only at read
      split at read
      · cases read
        simpa only [List.forall_mem_singleton] using sound first
      · obtain ⟨⟨more, left⟩, others, read⟩ := Option.bind_eq_some_iff.mp read
        cases read
        rw [List.forall_mem_cons]
        exact ⟨sound first, ih others⟩
      · cases read

theorem distinct_of_assignment? {cs rest : List Char} {key : DottedKey} {node : Node}
    (read : assignment? value? cs = some ((key, node), rest)) : node.Distinct := by
  obtain ⟨⟨found, left⟩, _, read⟩ := Option.bind_eq_some_iff.mp read
  dsimp only at read
  split at read
  · obtain ⟨⟨node, left⟩, first, read⟩ := Option.bind_eq_some_iff.mp read
    cases read
    exact sound first
  · cases read

theorem distinct_of_assignments? {fuel : Nat} {cs rest : List Char}
    {assignments : List (DottedKey × Node)}
    (read : assignments? value? fuel cs = some (assignments, rest)) :
    ∀ assignment ∈ assignments, assignment.2.Distinct := by
  induction fuel generalizing cs rest assignments with
  | zero => cases read
  | succ fuel ih =>
    obtain ⟨⟨⟨key, node⟩, left⟩, first, read⟩ := Option.bind_eq_some_iff.mp read
    have one := distinct_of_assignment? sound first
    dsimp only at read
    split at read
    · cases read
      simpa only [List.forall_mem_singleton] using one
    · obtain ⟨⟨more, left⟩, others, read⟩ := Option.bind_eq_some_iff.mp read
      cases read
      rw [List.forall_mem_cons]
      exact ⟨one, ih others⟩
    · cases read

end

/-- A fold keeps what each of its steps keeps, if none of them fails. -/
theorem foldlM_keeps {α β : Type} {step : β → α → Option β} {P : β → Prop} {items : List α}
    (keeps : ∀ item ∈ items, ∀ {before after : β},
      P before → step before item = some after → P after)
    {start last : β} (kept : P start) (ran : items.foldlM step start = some last) :
    P last := by
  induction items generalizing start with
  | nil =>
    cases ran
    exact kept
  | cons item items ih =>
    rw [List.forall_mem_cons] at keeps
    rw [List.foldlM_cons] at ran
    obtain ⟨next, first, ran⟩ := Option.bind_eq_some_iff.mp ran
    exact ih keeps.2 (keeps.1 kept first) ran

theorem distinct_of_inlineMembers? {assignments : List (DottedKey × Node)} {members : Members}
    (inner : ∀ assignment ∈ assignments, assignment.2.Distinct)
    (built : inlineMembers? assignments = some members) : members.Distinct :=
  foldlM_keeps (fun assignment listed _ _ distinct assigned =>
    distinct.assign (inner assignment listed) assigned) Members.Distinct.nil built

/-- A value without parts has no tables in it. -/
theorem distinct_of_leaf {cs rest : List Char} {node : Node}
    (read : (match string? cs with
      | some (text, rest) => some (Node.scalar cs.length (.text (String.ofList text)), rest)
      | none => do
        let (value, rest) ← scalarWord? cs
        return (Node.scalar cs.length value, rest)) = some (node, rest)) : node.Distinct := by
  split at read
  · cases read
    exact .scalar _ _
  · obtain ⟨⟨value, left⟩, _, read⟩ := Option.bind_eq_some_iff.mp read
    cases read
    exact .scalar _ _

/-- A value that is read has distinct keys in all its tables. The induction is on how deep it may be
nested. -/
theorem distinct_of_value? {depth : Nat} {cs rest : List Char} {node : Node}
    (read : value? depth cs = some (node, rest)) : node.Distinct := by
  induction depth generalizing cs rest node with
  | zero =>
    rw [value?.eq_def] at read
    dsimp only at read
    split at read
    · cases read
    · cases read
    · exact distinct_of_leaf read
  | succ depth ih =>
    rw [value?.eq_def] at read
    dsimp only at read
    split at read
    · obtain ⟨⟨items, left⟩, inner, read⟩ := Option.bind_eq_some_iff.mp read
      cases read
      exact .array _ (distinct_of_items? ih inner)
    · split at read
      · cases read
        exact Members.Distinct.nil.table _ _
      · obtain ⟨⟨assignments, left⟩, inner, read⟩ := Option.bind_eq_some_iff.mp read
        obtain ⟨members, built, read⟩ := Option.bind_eq_some_iff.mp read
        cases read
        exact (distinct_of_inlineMembers? (distinct_of_assignments? ih inner) built).table _ _
    · exact distinct_of_leaf read

/-! ## Documents -/

/-- Whether the value that a statement assigns, if it assigns one, has distinct keys. -/
def Statement.Distinct : Statement → Prop
  | .assign _ node => node.Distinct
  | _ => True

theorem distinct_of_statement? {cs rest : List Char} {statement : Statement}
    (read : statement? cs = some (statement, rest)) : statement.Distinct := by
  rw [statement?.eq_def] at read
  split at read
  · obtain ⟨⟨key, left⟩, _, read⟩ := Option.bind_eq_some_iff.mp read
    cases read
    trivial
  · obtain ⟨⟨key, left⟩, _, read⟩ := Option.bind_eq_some_iff.mp read
    cases read
    trivial
  · obtain ⟨⟨⟨key, node⟩, left⟩, assigned, read⟩ := Option.bind_eq_some_iff.mp read
    cases read
    exact distinct_of_assignment? distinct_of_value? assigned

theorem distinct_of_statements? {fuel : Nat} {cs : List Char} {statements : List Statement}
    (read : statements? fuel cs = some statements) :
    ∀ statement ∈ statements, statement.Distinct := by
  induction fuel generalizing cs statements with
  | zero => cases read
  | succ fuel ih =>
    rw [statements?] at read
    split at read
    · cases read
      exact fun _ listed => absurd listed List.not_mem_nil
    · split at read
      · cases read
        exact fun _ listed => absurd listed List.not_mem_nil
      · obtain ⟨⟨statement, left⟩, first, read⟩ := Option.bind_eq_some_iff.mp read
        obtain ⟨left, _, read⟩ := Option.bind_eq_some_iff.mp read
        obtain ⟨more, others, read⟩ := Option.bind_eq_some_iff.mp read
        cases read
        rw [List.forall_mem_cons]
        exact ⟨distinct_of_statement? first, ih others⟩

theorem Draft.distinct_of_execute {draft next : Draft} {statement : Statement}
    (inner : statement.Distinct) (distinct : draft.members.Distinct)
    (executed : draft.execute statement = some next) : next.members.Distinct := by
  cases statement with
  | openTable key place =>
    obtain ⟨members, opened, made⟩ := Option.bind_eq_some_iff.mp executed
    obtain rfl := Option.some.inj made
    exact distinct.openTable opened
  | openElement key place =>
    obtain ⟨members, opened, made⟩ := Option.bind_eq_some_iff.mp executed
    obtain rfl := Option.some.inj made
    exact distinct.openElement opened
  | assign key node =>
    obtain ⟨members, altered, made⟩ := Option.bind_eq_some_iff.mp executed
    obtain rfl := Option.some.inj made
    exact distinct.alterAt (fun distinct assigned => distinct.assign inner assigned) altered

/-- No table of a document has two keys of the same name. -/
theorem distinct_of_parse? {text : String} {members : Members}
    (document : parse? text = some members) : members.Distinct := by
  obtain ⟨statements, read, built⟩ := Option.bind_eq_some_iff.mp document
  obtain ⟨draft, executed, rfl⟩ := Option.map_eq_some_iff.mp built
  exact foldlM_keeps (P := fun draft : Draft => draft.members.Distinct)
    (fun statement listed _ _ =>
      Draft.distinct_of_execute (distinct_of_statements? read statement listed))
    Members.Distinct.nil executed

end TunnelProvisioning.Toml
