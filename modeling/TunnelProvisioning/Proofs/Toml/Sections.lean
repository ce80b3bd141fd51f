import Mathlib.Data.List.Nodup
import TunnelProvisioning.Proofs.Toml.Lines

/-! # TOML sections read back

A document of sections, each under a heading of its own, builds the tree with just these tables, in
the same order and with the same values. Neither two sections nor two keys of one section may have
the same name; blank lines may stand anywhere between the lines.
-/

namespace TunnelProvisioning.Toml

/-- A table of a document, with the values that it assigns. -/
structure Section where
  name : String
  entries : List (String × Literal)
  deriving DecidableEq, Repr

def Section.lines (table : Section) : List Line :=
  .heading table.name :: table.entries.map fun entry => .entry entry.1 entry.2

/-- A key of a tree with the value that an entry assigns to it, wherever they stand. -/
inductive HoldsEntry : String × Literal → Key × Node → Prop where
  | intro (name : String) (value : Literal) (start place : Nat) :
      HoldsEntry (name, value) (⟨name, start⟩, .scalar place value.scalar)

/-- A key of a tree with the table that a section describes, wherever they stand. -/
inductive HoldsSection : Section → Key × Node → Prop where
  | intro {table : Section} {members : Members} (start place : Nat)
      (held : List.Forall₂ HoldsEntry table.entries members) :
      HoldsSection table (⟨table.name, start⟩, .table .header (some place) members)

/-! ## The last table of a tree -/

namespace Members

variable {members : Members} {name : String}

theorem get?_append_of_fresh (fresh : members.get? name = none) (others : Members) :
    get? (members ++ others) name = get? others name := by
  rw [get?, Option.map_eq_none_iff] at fresh
  rw [get?, get?, List.find?_append, fresh, Option.none_or]

theorem get?_singleton (key : Key) (node : Node) :
    get? [(key, node)] key.name = some node := by
  simp [get?]

theorem replace_of_fresh (fresh : members.get? name = none) (node : Node) :
    members.replace name node = members := by
  rw [get?, Option.map_eq_none_iff, List.find?_eq_none] at fresh
  rw [replace]
  refine (List.map_congr_left fun member listed => ?_).trans (List.map_id members)
  have other := fresh member listed
  rw [decide_eq_true_eq] at other
  exact if_neg other

/-- Assigning under the last header changes the last table and nothing else. -/
theorem alterAt_last {key : Key} (fresh : members.get? key.name = none)
    (change : TableKind → Members → Option Members) (place : Option Nat) (inner : Members) :
    alterAt false change [key] .header (members ++ [(key, .table .header place inner)]) =
      (change .header inner).map fun changed =>
        members ++ [(key, .table .header place changed)] := by
  have found : get? (members ++ [(key, .table .header place inner)]) key.name =
      some (.table .header place inner) := by
    rw [get?_append_of_fresh fresh, get?_singleton]
  have replaced (changed : Members) :
      replace (members ++ [(key, .table .header place inner)]) key.name
        (.table .header place changed) = members ++ [(key, .table .header place changed)] := by
    have before := replace_of_fresh fresh (.table .header place changed)
    rw [replace] at before ⊢
    rw [List.map_append, before]
    simp
  rw [alterAt, found]
  simp only [alterAt, replaced]
  cases change .header inner <;> rfl

end Members

/-! ## Building the tree -/

theorem get?_of_holdsEntry {entries : List (String × Literal)} {members : Members} {name : String}
    (held : List.Forall₂ HoldsEntry entries members) (fresh : name ∉ entries.map Prod.fst) :
    members.get? name = none := by
  induction held with
  | nil => rfl
  | cons holds _ ih =>
    obtain ⟨entry, value, start, place⟩ := holds
    rw [List.map_cons, List.mem_cons, not_or] at fresh
    rw [Members.get?, List.find?_cons_of_neg (by simpa using Ne.symm fresh.1)]
    exact ih fresh.2

theorem get?_of_holdsSection {tables : List Section} {members : Members} {name : String}
    (held : List.Forall₂ HoldsSection tables members) (fresh : name ∉ tables.map Section.name) :
    members.get? name = none := by
  induction held with
  | nil => rfl
  | cons holds _ ih =>
    obtain ⟨start, place, _⟩ := holds
    rw [List.map_cons, List.mem_cons, not_or] at fresh
    rw [Members.get?, List.find?_cons_of_neg (by simpa using Ne.symm fresh.1)]
    exact ih fresh.2

theorem execute_heading {members : Members} {key : Key} (fresh : members.get? key.name = none)
    (header : List Key) (place : Nat) :
    Draft.execute ⟨members, header⟩ (.openTable ⟨[], key⟩ place) =
      some ⟨members ++ [(key, .table .header (some place) [])], [key]⟩ := by
  simp [Draft.execute, Members.openTable, Members.alterAt, fresh]

theorem execute_entry {members inner : Members} {key entry : Key} {node : Node} {place : Option Nat}
    (fresh : members.get? key.name = none) (new : inner.get? entry.name = none) :
    Draft.execute ⟨members ++ [(key, .table .header place inner)], [key]⟩
        (.assign ⟨[], entry⟩ node) =
      some ⟨members ++ [(key, .table .header place (inner ++ [(entry, node)]))], [key]⟩ := by
  have added : Members.assign [] entry node .header inner = some (inner ++ [(entry, node)]) := by
    simp [Members.assign, Members.alterAt, Members.addNew, new]
  simp [Draft.execute, Members.alterAt_last fresh, added]

/-- The entries of a section go into the last table, one after the other. The induction is on the
entries still to be read; those read so far are in the table. -/
theorem foldlM_entries {members inner : Members} {place : Option Nat}
    {read entries : List (String × Literal)} {others : List Line} {statements : List Statement}
    (key : Key) (fresh : members.get? key.name = none)
    (held : List.Forall₂ HoldsEntry read inner)
    (distinct : ((read ++ entries).map Prod.fst).Nodup)
    (spelled : List.Forall₂ Line.Spells
      ((entries.map fun entry => .entry entry.1 entry.2) ++ others) statements) :
    ∃ all rest, List.Forall₂ HoldsEntry (read ++ entries) all ∧
      List.Forall₂ Line.Spells others rest ∧
      statements.foldlM Draft.execute ⟨members ++ [(key, .table .header place inner)], [key]⟩ =
        rest.foldlM Draft.execute ⟨members ++ [(key, .table .header place all)], [key]⟩ := by
  induction entries generalizing read inner statements with
  | nil => exact ⟨inner, statements, by simpa using held, by simpa using spelled, rfl⟩
  | cons entry entries ih =>
    obtain ⟨name, value⟩ := entry
    rw [List.map_cons, List.cons_append, List.forall₂_cons_left_iff] at spelled
    obtain ⟨statement, statements, spells, spelled, rfl⟩ := spelled
    obtain ⟨start, spot, rfl⟩ := Line.spells_entry.mp spells
    have new : inner.get? name = none := by
      refine get?_of_holdsEntry held fun listed => ?_
      simp only [List.map_append, List.map_cons, List.nodup_append] at distinct
      exact distinct.2.2 name listed name List.mem_cons_self rfl
    have joined : read ++ (name, value) :: entries = (read ++ [(name, value)]) ++ entries := by
      simp
    rw [joined] at distinct ⊢
    have taken := List.rel_append held (.cons (HoldsEntry.intro name value start spot) .nil)
    obtain ⟨all, rest, holds, spells, same⟩ := ih taken distinct spelled
    refine ⟨all, rest, holds, spells, ?_⟩
    rw [List.foldlM_cons, execute_entry fresh new]
    exact same

/-- The tables of a document are added one after the other. The induction is on the sections still
to be read; those read so far are in the tree. -/
theorem foldlM_sections {members : Members} {header : List Key} {read tables : List Section}
    {statements : List Statement} (held : List.Forall₂ HoldsSection read members)
    (distinct : ((read ++ tables).map Section.name).Nodup)
    (inner : ∀ table ∈ tables, (table.entries.map Prod.fst).Nodup)
    (spelled : List.Forall₂ Line.Spells (tables.flatMap Section.lines) statements) :
    ∃ draft, statements.foldlM Draft.execute ⟨members, header⟩ = some draft ∧
      List.Forall₂ HoldsSection (read ++ tables) draft.members := by
  induction tables generalizing read members header statements with
  | nil =>
    obtain rfl := List.forall₂_nil_left_iff.mp spelled
    exact ⟨⟨members, header⟩, rfl, by simpa using held⟩
  | cons table tables ih =>
    rw [List.forall_mem_cons] at inner
    rw [List.flatMap_cons, Section.lines, List.cons_append, List.forall₂_cons_left_iff] at spelled
    obtain ⟨statement, statements, spells, spelled, rfl⟩ := spelled
    obtain ⟨start, place, rfl⟩ := Line.spells_heading.mp spells
    have fresh : members.get? table.name = none := by
      refine get?_of_holdsSection held fun listed => ?_
      simp only [List.map_append, List.map_cons, List.nodup_append] at distinct
      exact distinct.2.2 table.name listed table.name List.mem_cons_self rfl
    obtain ⟨all, rest, holds, spelled, same⟩ :=
      foldlM_entries ⟨table.name, start⟩ fresh .nil inner.1 spelled
    have joined : read ++ table :: tables = (read ++ [table]) ++ tables := by simp
    rw [joined] at distinct ⊢
    have taken := List.rel_append held (.cons (HoldsSection.intro start place holds) .nil)
    obtain ⟨draft, built, finished⟩ := ih taken distinct inner.2 spelled
    refine ⟨draft, ?_, finished⟩
    rw [List.foldlM_cons, execute_heading fresh]
    exact same.trans built

/-! ## Documents -/

theorem length_le_flatMap_chars (lines : List Line) :
    lines.length ≤ (lines.flatMap Line.chars).length := by
  induction lines with
  | nil => exact Nat.le_refl 0
  | cons line lines ih =>
    have one : 0 < line.chars.length := by
      cases line <;> simp only [Line.chars, List.length_append, List.length_cons] <;> omega
    rw [List.length_cons, List.flatMap_cons, List.length_append]
    omega

theorem head?_flatMap_chars {lines : List Line} (bare : lines.all Line.isBare = true) :
    (lines.flatMap Line.chars).head? ≠ some byteOrderMark := by
  cases lines with
  | nil => simp
  | cons line lines =>
    rw [List.all_cons, Bool.and_eq_true] at bare
    rw [List.flatMap_cons]
    by_cases blank : line = .blank
    · subst blank
      exact fun same => absurd (Option.some.inj same) (by decide)
    · obtain ⟨c, cs, starts, first⟩ := exists_cons_chars bare.1 blank
      rw [starts, List.cons_append, List.head?_cons]
      intro same
      rw [Option.some.inj same] at first
      exact absurd first (by decide)

theorem parse?_of_unmarked {cs : List Char} (unmarked : cs.head? ≠ some byteOrderMark) :
    parse? (String.ofList cs) = (statements? (cs.length + 1) cs).bind ofStatements? := by
  cases cs with
  | nil => rfl
  | cons c cs =>
    have other : c ≠ byteOrderMark := fun same => unmarked (congrArg some same)
    simp only [parse?, String.toList_ofList, if_neg other, Option.bind_eq_bind]

/-- A document of sections is read as the tree with their tables. -/
theorem parse?_lines {lines : List Line} {tables : List Section}
    (bare : lines.all Line.isBare = true)
    (same : lines.filter (· ≠ .blank) = tables.flatMap Section.lines)
    (distinct : (tables.map Section.name).Nodup)
    (inner : ∀ table ∈ tables, (table.entries.map Prod.fst).Nodup) :
    ∃ members, parse? (String.ofList (lines.flatMap Line.chars)) = some members ∧
      List.Forall₂ HoldsSection tables members := by
  have enough := Nat.lt_succ_of_le (length_le_flatMap_chars lines)
  obtain ⟨statements, read, spelled⟩ := statements?_lines bare enough
  rw [same] at spelled
  obtain ⟨draft, built, held⟩ := foldlM_sections .nil distinct inner spelled
  refine ⟨draft.members, ?_, held⟩
  rw [parse?_of_unmarked (head?_flatMap_chars bare), read, Option.bind_some, ofStatements?]
  exact congrArg (Option.map Draft.members) built

end TunnelProvisioning.Toml
