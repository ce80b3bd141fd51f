import TunnelProvisioning.Proofs.Json.Entries
import TunnelProvisioning.WireOutcome

/-! # Outcomes by their keys

Which outcome a text holds is decided by four keys of the object that it is. A form fits if each of
its keys is there once, with a value of its kind, and the forms are tried in order, so an object may
have the keys of a later form as well. Whatever else it has does not matter, in whatever order.

A text that the grammar allows may still be refused: a number may be beyond the range of numbers,
and an escape may name half a character.
-/

namespace TunnelProvisioning

open Json

namespace WireOutcome

variable {tree : Tree} {found : Value}

/-- Whether a value has the key of a handle once, with a number of 64 bits. -/
def HasHandle (tree : Tree) (raw : Int) : Prop :=
  tree.HasInteger "handle" (-0x8000000000000000) 0x7FFFFFFFFFFFFFFF raw

/-- Whether a value has the keys of an interface once each, with a text and a number of 32 bits. -/
def HasInterface (tree : Tree) (name : String) (descriptor : Int) : Prop :=
  tree.HasText "interface" name ∧ tree.HasInteger "fd" (-0x80000000) 0x7FFFFFFF descriptor

/-- Whether a value tells an outcome: it has the keys of its form, and not those of a form that is
tried before. -/
def Tells (tree : Tree) : WireOutcome → Prop
  | handle raw => HasHandle tree raw
  | interface name descriptor =>
    (∀ raw, ¬HasHandle tree raw) ∧ HasInterface tree name descriptor.toInt
  | error text =>
    (∀ raw, ¬HasHandle tree raw) ∧ (∀ name descriptor, ¬HasInterface tree name descriptor) ∧
      tree.HasText "error" text

/-! ## Keys -/

theorem textAt?_eq_some_iff (valued : tree.value? = some found) {key content : String} :
    textAt? found key = some content ↔ tree.HasText key content := by
  have once : textAt? found key = some content ↔ found.lookup key = [.text content] := by
    rw [textAt?]
    split
    · next text same => rw [same]; simp
    · next other => exact iff_of_false nofun (other content)
  rw [once, Tree.lookup_eq_singleton_iff valued, Tree.HasText]
  simp only [Tree.value?_eq_text_iff, exists_eq_right]

theorem integerAt?_eq_some_iff (valued : tree.value? = some found) {key : String}
    {least greatest number : Int} (from_word : -0x8000000000000000 ≤ least)
    (to_word : greatest ≤ 0x7FFFFFFFFFFFFFFF) :
    integerAt? found key least greatest = some number ↔
      tree.HasInteger key least greatest number := by
  have once : integerAt? found key least greatest = some number ↔
      found.lookup key = [.integer number] ∧ least ≤ number ∧ number ≤ greatest := by
    rw [integerAt?]
    split
    · next own same =>
      rw [same, Option.ite_none_right_eq_some, Option.some.injEq, and_comm]
      simp only [List.cons.injEq, Value.integer.injEq, and_true]
      exact and_congr_right fun equal => by rw [equal]
    · next other => exact iff_of_false nofun fun same => other number same.1
  rw [once, Tree.lookup_eq_singleton_iff valued, Tree.HasInteger]
  constructor
  · rintro ⟨⟨entry, single, own⟩, least, greatest⟩
    obtain ⟨literal, rfl, written⟩ := Tree.value?_eq_integer_iff.mp own
    have integer := (Numeral.value_eq_integer_iff (by omega) (by omega)).mp written
    exact ⟨literal, single, integer, least, greatest⟩
  · rintro ⟨literal, single, integer, least, greatest⟩
    have own := (Numeral.value_eq_integer_iff (by omega) (by omega)).mpr integer
    exact ⟨⟨_, single, Tree.value?_eq_integer_iff.mpr ⟨literal, rfl, own⟩⟩, least, greatest⟩

/-! ## Forms -/

theorem handle?_eq_some_iff (valued : tree.value? = some found) {outcome : WireOutcome} :
    handle? found = some outcome ↔ ∃ raw, HasHandle tree raw ∧ handle raw = outcome := by
  rw [handle?, Option.map_eq_some_iff]
  exact exists_congr fun raw =>
    and_congr_left' (integerAt?_eq_some_iff valued (by decide) (by decide))

theorem interface?_eq_some_iff (valued : tree.value? = some found) {outcome : WireOutcome} :
    interface? found = some outcome ↔
      ∃ name descriptor, HasInterface tree name descriptor ∧
        interface name (Int32.ofInt descriptor) = outcome := by
  have named (name : String) :
      textAt? found "interface" = some name ↔ tree.HasText "interface" name :=
    textAt?_eq_some_iff valued
  have numbered (number : Int) : integerAt? found "fd" (-0x80000000) 0x7FFFFFFF = some number ↔
      tree.HasInteger "fd" (-0x80000000) 0x7FFFFFFF number :=
    integerAt?_eq_some_iff valued (by decide) (by decide)
  simp only [interface?, Option.bind_eq_bind, Option.bind_eq_some_iff, Option.pure_def,
    Option.some.injEq, named, numbered, HasInterface]
  constructor
  · rintro ⟨name, text, descriptor, number, same⟩
    exact ⟨name, descriptor, ⟨text, number⟩, same⟩
  · rintro ⟨name, descriptor, ⟨text, number⟩, same⟩
    exact ⟨name, text, descriptor, number, same⟩

theorem error?_eq_some_iff (valued : tree.value? = some found) {outcome : WireOutcome} :
    error? found = some outcome ↔ ∃ text, tree.HasText "error" text ∧ error text = outcome := by
  rw [error?, Option.map_eq_some_iff]
  exact exists_congr fun text => and_congr_left' (textAt?_eq_some_iff valued)

theorem handle?_eq_none_iff (valued : tree.value? = some found) :
    handle? found = none ↔ ∀ raw, ¬HasHandle tree raw := by
  simp only [Option.eq_none_iff_forall_ne_some, ne_eq, handle?_eq_some_iff valued, not_exists,
    not_and]
  exact ⟨fun none raw has => none _ raw has rfl, fun none _ raw has => absurd has (none raw)⟩

theorem interface?_eq_none_iff (valued : tree.value? = some found) :
    interface? found = none ↔ ∀ name descriptor, ¬HasInterface tree name descriptor := by
  simp only [Option.eq_none_iff_forall_ne_some, ne_eq, interface?_eq_some_iff valued, not_exists,
    not_and]
  exact ⟨fun none name descriptor has => none _ name descriptor has rfl,
    fun none _ name descriptor has => absurd has (none name descriptor)⟩

/-- The first form that fits is the outcome that a value tells. -/
theorem ofJson?_eq_some_iff (valued : tree.value? = some found) {outcome : WireOutcome} :
    ofJson? found = some outcome ↔ Tells tree outcome := by
  have first : ofJson? found = some outcome ↔ handle? found = some outcome ∨
      handle? found = none ∧ (interface? found = some outcome ∨
        interface? found = none ∧ error? found = some outcome) := by
    rw [ofJson?]
    cases handle? found with
    | some own => simp
    | none => cases interface? found <;> simp
  rw [first, handle?_eq_some_iff valued, handle?_eq_none_iff valued, interface?_eq_some_iff valued,
    interface?_eq_none_iff valued, error?_eq_some_iff valued]
  cases outcome with
  | handle raw => simp [Tells]
  | interface name descriptor =>
    simp only [Tells, reduceCtorEq, and_false, exists_false, false_or, or_false]
    refine and_congr_right fun _ => ⟨?_, fun has => ?_⟩
    · rintro ⟨own, number, ⟨text, literal, single, integer, least, greatest⟩, same⟩
      obtain ⟨rfl, rfl⟩ := interface.inj same
      rw [Int32.toInt_ofInt_of_le least (Int.lt_of_le_sub_one greatest)]
      exact ⟨text, literal, single, integer, least, greatest⟩
    · exact ⟨name, descriptor.toInt, has, by rw [Int32.ofInt_toInt]⟩
  | error text => simp [Tells]

/-- What a text of the grammar holds, if its tree has a value. -/
theorem ofText_eq {text : String} (isText : IsText deepest tree text)
    (valued : tree.value? = some found) :
    ofText text =
      match ofJson? found with
      | some outcome => .ok outcome
      | none =>
        .error (.mismatch "data did not match any variant of untagged enum WireOutcome") := by
  obtain ⟨rest, blank, read⟩ := isText.value_eq
  rw [valued] at read
  simp only [ofText, read, reading, bind, Except.bind]
  cases ofJson? found with
  | none => rfl
  | some outcome =>
    simp only [finish, if_pos blank]
    rfl

/-- Which outcomes are told does not depend on the order of keys, nor on other keys. -/
theorem tells_congr {other : Tree}
    (same : ∀ key ∈ ["handle", "interface", "fd", "error"],
      (tree.entries key).Perm (other.entries key)) (outcome : WireOutcome) :
    Tells tree outcome ↔ Tells other outcome := by
  simp only [List.forall_mem_cons] at same
  obtain ⟨handle, interface, fd, error, _⟩ := same
  have once {key : String} (perm : (tree.entries key).Perm (other.entries key)) (entry : Tree) :
      tree.entries key = [entry] ↔ other.entries key = [entry] := by
    constructor
    · intro single
      rw [single] at perm
      exact List.perm_singleton.mp perm.symm
    · intro single
      rw [single] at perm
      exact List.perm_singleton.mp perm
  cases outcome <;>
    simp only [Tells, HasHandle, HasInterface, Tree.HasText, Tree.HasInteger, once handle,
      once interface, once fd, once error]

theorem tells_error {content : String} (noHandle : tree.entries "handle" = [])
    (noInterface : tree.entries "interface" = []) (has : tree.HasText "error" content) :
    Tells tree (.error content) := by
  refine ⟨?_, ?_, has⟩
  · rintro raw ⟨literal, single, _⟩
    rw [noHandle] at single
    cases single
  · rintro name descriptor ⟨single, _⟩
    rw [Tree.HasText, noInterface] at single
    cases single

/-- A value without keys tells no outcome. -/
theorem not_tells_of_not_object (shape : ∀ members, tree ≠ .object members)
    (outcome : WireOutcome) : ¬Tells tree outcome := by
  have none (key : String) : tree.entries key = [] := by
    cases tree with
    | object members => exact absurd rfl (shape members)
    | null | boolean _ | number _ | text _ | array _ => rfl
  cases outcome with
  | handle raw =>
    rintro ⟨literal, single, _⟩
    rw [none] at single
    cases single
  | interface name descriptor =>
    rintro ⟨_, single, _⟩
    rw [Tree.HasText, none] at single
    cases single
  | error text =>
    rintro ⟨_, _, single⟩
    rw [Tree.HasText, none] at single
    cases single

/-- A text that the grammar allows is read by its keys. If a number of it is beyond the range of
numbers, or an escape names half a character, it is malformed. Otherwise it holds the outcome that
its object tells, and no other value tells one; the order of keys does not matter, nor do keys of no
form. -/
theorem ofText_forms {tree : Tree} {text : String} (isText : IsText deepest tree text) :
    (tree.value? = none → ofText text = .error .malformed) ∧
    (tree.value?.isSome = true →
      (∀ outcome, ofText text = .ok outcome ↔ Tells tree outcome) ∧
      ((∀ outcome, ¬Tells tree outcome) → ofText text =
        .error (.mismatch "data did not match any variant of untagged enum WireOutcome")) ∧
      ((∀ members, tree ≠ .object members) → ∀ outcome, ¬Tells tree outcome) ∧
      ∀ other otherText, IsText deepest other otherText → other.value?.isSome = true →
        (∀ key ∈ ["handle", "interface", "fd", "error"],
          (tree.entries key).Perm (other.entries key)) → ofText text = ofText otherText) := by
  refine ⟨fun unvalued => ?_, fun isSome => ?_⟩
  · obtain ⟨rest, _, read⟩ := isText.value_eq
    rw [unvalued] at read
    simp only [ofText, read, reading, bind, Except.bind]
  obtain ⟨found, valued⟩ := Option.isSome_iff_exists.mp isSome
  refine ⟨fun outcome => ?_, fun untold => ?_, not_tells_of_not_object, ?_⟩
  · rw [ofText_eq isText valued, ← ofJson?_eq_some_iff valued]
    cases ofJson? found with
    | none => simp
    | some own => rw [Except.ok.injEq, Option.some.injEq]
  · have unread : ofJson? found = none := Option.eq_none_iff_forall_ne_some.mpr
      fun outcome read => untold outcome ((ofJson?_eq_some_iff valued).mp read)
    rw [ofText_eq isText valued, unread]
  · intro other otherText otherIsText otherIsSome same
    obtain ⟨otherFound, otherValued⟩ := Option.isSome_iff_exists.mp otherIsSome
    have agree : ofJson? found = ofJson? otherFound := by
      apply Option.ext
      intro outcome
      rw [ofJson?_eq_some_iff valued, ofJson?_eq_some_iff otherValued, tells_congr same]
    rw [ofText_eq isText valued, ofText_eq otherIsText otherValued, agree]

/-- A handle that is not written as an integer is passed over. -/
theorem ofText_forms_fraction :
    let text := "\x7b\"handle\":1.0,\"error\":\"x\"\x7d"
    (∃ tree, IsText deepest tree text ∧ Tells tree (.error "x")) ∧
      ofText text = .ok (.error "x") := by
  intro text
  have one (rest : List Char) :
      Spells 126 (.number ⟨false, ['1'], ['0'], none⟩) (['1', '.', '0'] ++ rest) rest := by
    rw [Spells]
    exact .plain rfl (.parts ⟨⟨by decide, by decide⟩, by decide⟩
      (.present ⟨by decide, by decide⟩ rest) (.absent rest))
  let tree := Tree.object
    [(some "handle", .number ⟨false, ['1'], ['0'], none⟩), (some "error", .text (some "x"))]
  have isText : IsText deepest tree text :=
    isText_pair "handle" "error" one (spells_quote 126 "x") (by decide)
  have tells : Tells tree (.error "x") := by
    refine ⟨?_, ?_, rfl⟩
    · rintro raw ⟨literal, single, integer, _⟩
      cases single
      cases integer.fraction
    · rintro name descriptor ⟨single, _⟩
      cases single
  have valued : tree.value?.isSome = true := by decide +kernel
  have forms := (ofText_forms isText).2 valued
  exact ⟨⟨tree, isText, tells⟩, (forms.1 _).mpr tells⟩

/-- A number beyond the range of numbers, or half a character, makes a text unreadable wherever it
stands. -/
theorem ofText_forms_beyond :
    (let text := "\x7b\"error\":\"x\",\"n\":1e400\x7d"
      ∃ tree, IsText deepest tree text ∧ Tells tree (.error "x") ∧
        ofText text = .error .malformed) ∧
    (let text := "\x7b\"error\":\"x\",\"a\":\"\\ud800\"\x7d"
      ∃ tree, IsText deepest tree text ∧ Tells tree (.error "x") ∧
        ofText text = .error .malformed) := by
  constructor
  · have large (rest : List Char) :
        Spells 126 (.number ⟨false, ['1'], [], some (false, ['4', '0', '0'])⟩)
          (['1', 'e', '4', '0', '0'] ++ rest) rest := by
      rw [Spells]
      exact .plain rfl (.parts ⟨⟨by decide, by decide⟩, by decide⟩ (.absent _)
        (.present (.inl rfl) (.absent _) ⟨by decide, by decide⟩))
    refine ⟨_, isText_pair "error" "n" (spells_quote 126 "x") large (by decide), ?_,
      by decide +kernel⟩
    exact tells_error rfl rfl rfl
  · have half (rest : List Char) :
        Spells 126 (.text none) (['"', '\\', 'u', 'd', '8', '0', '0', '"'] ++ rest) rest := by
      have alone : ¬StartsSecondHalf ('"' :: rest) := by
        rintro ⟨_, _, _, starts, _⟩
        cases starts
      have isUnit : IsUnit ['d', '8', '0', '0'] 0xD800 := ⟨rfl, by decide⟩
      have body : TextOf none ('\\' :: 'u' :: (['d', '8', '0', '0'] ++ '"' :: rest)) rest :=
        .half isUnit le_rfl (by decide) (fun _ => alone) (.closed rest)
      rw [Spells]
      exact ⟨none, _, rfl, rfl, body⟩
    refine ⟨_, isText_pair "error" "a" (spells_quote 126 "x") half (by decide), ?_,
      by decide +kernel⟩
    exact tells_error rfl rfl rfl

end WireOutcome

end TunnelProvisioning
