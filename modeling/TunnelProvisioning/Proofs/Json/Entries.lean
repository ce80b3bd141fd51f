import TunnelProvisioning.Proofs.Json.Reading

/-! # Objects by key

What an object has under a key, in the tree that is written and in its value. A reader that asks for
a key sees every member of that name, in order, and none of the others.
-/

namespace TunnelProvisioning.Json

/-- What an object has under a key, in order. -/
def Tree.entries (key : String) : Tree → List Tree
  | .object members => (members.filter (·.1 = some key)).map (·.2)
  | _ => []

/-- Whether an object has a key once, with a text. -/
def Tree.HasText (tree : Tree) (key content : String) : Prop :=
  tree.entries key = [.text (some content)]

/-- Whether an object has a key once, with a number that is written as an integer between two
bounds. -/
def Tree.HasInteger (tree : Tree) (key : String) (least greatest number : Int) : Prop :=
  ∃ literal, tree.entries key = [.number literal] ∧ literal.IsInteger number ∧
    least ≤ number ∧ number ≤ greatest

namespace Tree

variable {tree : Tree} {key : String} {found : Value}

theorem entries_cons_of_eq (name : String) (tree : Tree) (members : List (Option String × Tree)) :
    (object ((some name, tree) :: members)).entries name =
      tree :: (object members).entries name := by
  simp only [entries, List.filter_cons, decide_true, if_true, List.map_cons]

theorem entries_cons_of_ne {name key : String} (other : name ≠ key) (tree : Tree)
    (members : List (Option String × Tree)) :
    (object ((some name, tree) :: members)).entries key = (object members).entries key := by
  have skipped : ¬(some name = some key) := fun same => other (Option.some.inj same)
  simp only [entries, List.filter_cons, skipped, decide_false, Bool.false_eq_true, if_false]

theorem number_value?_eq_iff {literal : Numeral} :
    (Tree.number literal).value? = some found ↔ literal.value = .ok found := by
  rw [value?_number]
  cases literal.value with
  | ok value => simp [Except.toOption]
  | error fault => simp [Except.toOption]

/-- The value of a number is a number. -/
theorem number_value?_cases {literal : Numeral}
    (valued : (Tree.number literal).value? = some found) :
    (∃ number, found = .integer number) ∨ ∃ number, found = .real number := by
  have read := number_value?_eq_iff.mp valued
  rcases literal.value_cases with failed | ⟨number, real⟩ | ⟨number, integer, _⟩
  · cases read.symm.trans failed
  · exact .inr ⟨number, Except.ok.inj (read.symm.trans real)⟩
  · exact .inl ⟨number, Except.ok.inj (read.symm.trans integer)⟩

theorem value?_eq_text_iff {content : String} :
    tree.value? = some (.text content) ↔ tree = .text (some content) := by
  cases tree with
  | number literal =>
    refine iff_of_false (fun valued => ?_) nofun
    rcases number_value?_cases valued with ⟨_, same⟩ | ⟨_, same⟩ <;> cases same
  | null | boolean _ | text _ | array _ | object _ => simp [value?]

theorem value?_eq_null_iff : tree.value? = some .null ↔ tree = .null := by
  cases tree with
  | number literal =>
    refine iff_of_false (fun valued => ?_) nofun
    rcases number_value?_cases valued with ⟨_, same⟩ | ⟨_, same⟩ <;> cases same
  | null | boolean _ | text _ | array _ | object _ => simp [value?]

theorem value?_eq_object_iff {values : List (String × Value)} :
    tree.value? = some (.object values) ↔
      ∃ members, tree = .object members ∧ memberValues? members = some values := by
  cases tree with
  | number literal =>
    refine iff_of_false (fun valued => ?_) nofun
    rcases number_value?_cases valued with ⟨_, same⟩ | ⟨_, same⟩ <;> cases same
  | null | boolean _ | text _ | array _ | object _ => simp [value?]

theorem value?_eq_integer_iff {number : Int} :
    tree.value? = some (.integer number) ↔
      ∃ literal, tree = .number literal ∧ literal.value = .ok (.integer number) := by
  cases tree with
  | number literal =>
    rw [number_value?_eq_iff]
    simp
  | null | boolean _ | text _ | array _ | object _ => simp [value?]

/-- Every key of an object that has a value is a text. -/
theorem isSome_of_memberValues? {members : List (Option String × Tree)}
    {values : List (String × Value)} (valued : memberValues? members = some values) :
    ∀ member ∈ members, member.1.isSome = true := by
  induction members generalizing values with
  | nil => exact fun member among => absurd among List.not_mem_nil
  | cons member members ih =>
    obtain ⟨name, named, valued⟩ := Option.bind_eq_some_iff.mp valued
    obtain ⟨_, _, valued⟩ := Option.bind_eq_some_iff.mp valued
    obtain ⟨_, others, _⟩ := Option.bind_eq_some_iff.mp valued
    exact List.forall_mem_cons.mpr ⟨Option.isSome_of_eq_some named, ih others⟩

theorem mapM_filter_members {members : List (Option String × Tree)}
    {values : List (String × Value)} (valued : memberValues? members = some values) :
    ((members.filter (·.1 = some key)).map (·.2)).mapM value? =
      some ((values.filter (·.1 = key)).map (·.2)) := by
  induction members generalizing values with
  | nil =>
    obtain rfl := Option.some.inj valued
    rfl
  | cons member members ih =>
    obtain ⟨name?, tree⟩ := member
    obtain ⟨name, rfl, valued⟩ := Option.bind_eq_some_iff.mp valued
    obtain ⟨found, own, valued⟩ := Option.bind_eq_some_iff.mp valued
    obtain ⟨others, rest, valued⟩ := Option.bind_eq_some_iff.mp valued
    obtain rfl := Option.some.inj valued
    by_cases same : name = key
    · rw [List.filter_cons_of_pos (by simpa using same),
        List.filter_cons_of_pos (by simpa using same), List.map_cons, List.map_cons,
        List.mapM_cons, own, ih rest]
      rfl
    · rw [List.filter_cons_of_neg (by simpa using same),
        List.filter_cons_of_neg (by simpa using same), ih rest]

/-- The values that an object gives for a key are those of what it has under the key. -/
theorem mapM_entries (valued : tree.value? = some found) :
    (tree.entries key).mapM value? = some (found.lookup key) := by
  cases tree with
  | null | boolean _ =>
    obtain rfl := Option.some.inj valued
    rfl
  | number literal =>
    rcases number_value?_cases valued with ⟨_, rfl⟩ | ⟨_, rfl⟩ <;> rfl
  | text content | array items =>
    obtain ⟨_, _, rfl⟩ := Option.map_eq_some_iff.mp valued
    rfl
  | object members =>
    obtain ⟨values, own, rfl⟩ := Option.map_eq_some_iff.mp valued
    exact mapM_filter_members own

theorem mapM_eq_singleton_iff {α β : Type} {read? : α → Option β} {items : List α} {value : β} :
    items.mapM read? = some [value] ↔ ∃ item, items = [item] ∧ read? item = some value := by
  constructor
  · intro read
    cases items with
    | nil => cases read
    | cons item items =>
      rw [List.mapM_cons] at read
      obtain ⟨first, own, read⟩ := Option.bind_eq_some_iff.mp read
      obtain ⟨others, rest, read⟩ := Option.bind_eq_some_iff.mp read
      obtain ⟨rfl, rfl⟩ := List.cons.inj (Option.some.inj read)
      cases items with
      | nil => exact ⟨item, rfl, own⟩
      | cons next items =>
        rw [List.mapM_cons] at rest
        obtain ⟨second, _, rest⟩ := Option.bind_eq_some_iff.mp rest
        obtain ⟨later, _, rest⟩ := Option.bind_eq_some_iff.mp rest
        cases rest
  · rintro ⟨item, rfl, own⟩
    rw [List.mapM_cons, own]
    rfl

/-- An object gives one value for a key if it has the key once, with this value. -/
theorem lookup_eq_singleton_iff (valued : tree.value? = some found) {value : Value} :
    found.lookup key = [value] ↔
      ∃ entry, tree.entries key = [entry] ∧ entry.value? = some value := by
  rw [← mapM_eq_singleton_iff, mapM_entries valued, Option.some.injEq]

end Tree

end TunnelProvisioning.Json
