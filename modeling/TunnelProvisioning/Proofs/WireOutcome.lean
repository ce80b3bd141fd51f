import TunnelProvisioning.Proofs.Json.Value
import TunnelProvisioning.WireOutcome

/-! # Outcomes read back from the wire

The text of an outcome is one line and holds one object, and reading it gives the outcome again. The
reader tries the three forms in turn, so it matters that no form is taken for an earlier one: an
object without a key of a form is not read as that form.
-/

namespace TunnelProvisioning.WireOutcome

open Json

/-- The keys of the form in which an outcome is handed over. -/
def keys : WireOutcome → List String
  | handle _ => ["handle"]
  | interface _ _ => ["interface", "fd"]
  | error _ => ["error"]

/-- Whether an outcome can be handed over: a handle is a number of 64 bits with a sign. -/
def Fits : WireOutcome → Prop
  | handle raw => -0x8000000000000000 ≤ raw ∧ raw ≤ 0x7FFFFFFFFFFFFFFF
  | _ => True

instance (outcome : WireOutcome) : Decidable outcome.Fits :=
  match outcome with
  | handle raw =>
    inferInstanceAs (Decidable (-0x8000000000000000 ≤ raw ∧ raw ≤ 0x7FFFFFFFFFFFFFFF))
  | interface _ _ => .isTrue trivial
  | error _ => .isTrue trivial

/-! ## What is written -/

theorem exists_members (outcome : WireOutcome) :
    ∃ members, outcome.toJson = .object members ∧ members.map (·.1) = outcome.keys := by
  cases outcome with
  | handle raw => exact ⟨_, rfl, rfl⟩
  | interface name descriptor => exact ⟨_, rfl, rfl⟩
  | error text => exact ⟨_, rfl, rfl⟩

theorem descriptor_fits (descriptor : Int32) :
    -0x80000000 ≤ descriptor.toInt ∧ descriptor.toInt ≤ 0x7FFFFFFF := by
  have least := descriptor.le_toInt
  have greatest := descriptor.toInt_lt
  omega

theorem readable_toJson {outcome : WireOutcome} (fits : outcome.Fits) :
    outcome.toJson.Readable deepest := by
  cases outcome with
  | handle raw =>
    obtain ⟨least, greatest⟩ := fits
    have number {depth : Nat} : (Value.integer raw).Readable depth :=
      .integer least (by omega)
    apply Value.Readable.object
    simpa only [List.forall_mem_singleton] using number
  | interface name descriptor =>
    obtain ⟨least, greatest⟩ := descriptor_fits descriptor
    have number {depth : Nat} : (Value.integer descriptor.toInt).Readable depth :=
      .integer (by omega) (by omega)
    apply Value.Readable.object
    simpa only [List.forall_mem_cons, List.not_mem_nil, false_imp_iff, implies_true, and_true]
      using ⟨.text name, number⟩
  | error text =>
    apply Value.Readable.object
    simpa only [List.forall_mem_singleton] using Value.Readable.text text

/-! ## What is read -/

section

variable {members : List (String × Value)} {key : String}

theorem lookup_of_notMem (absent : key ∉ members.map (·.1)) :
    (Value.object members).lookup key = [] := by
  have none : members.filter (·.1 = key) = [] := by
    rw [List.filter_eq_nil_iff]
    intro entry member same
    exact absent (List.mem_map.mpr ⟨entry, member, of_decide_eq_true same⟩)
  rw [Value.lookup, none, List.map_nil]

theorem handle?_of_notMem (absent : "handle" ∉ members.map (·.1)) :
    handle? (.object members) = none := by
  rw [handle?, integerAt?, lookup_of_notMem absent]
  rfl

theorem interface?_of_notMem (absent : "interface" ∉ members.map (·.1)) :
    interface? (.object members) = none := by
  rw [interface?, textAt?, lookup_of_notMem absent]
  rfl

end

/-- Every outcome is read as what it is, and not by a form that is tried before its own. -/
theorem ofJson?_toJson {outcome : WireOutcome} (fits : outcome.Fits) :
    ofJson? outcome.toJson = some outcome := by
  cases outcome with
  | handle raw =>
    have found : (handle raw).toJson.lookup "handle" = [.integer raw] := by rfl
    have bounds : -0x8000000000000000 ≤ raw ∧ raw ≤ 0x7FFFFFFFFFFFFFFF := fits
    rw [ofJson?, handle?, integerAt?, found]
    simp only [if_pos bounds]
    rfl
  | interface name descriptor =>
    have other : handle? (interface name descriptor).toJson = none :=
      handle?_of_notMem (show "handle" ∉ ["interface", "fd"] by decide)
    have named : (interface name descriptor).toJson.lookup "interface" = [.text name] := by rfl
    have numbered : (interface name descriptor).toJson.lookup "fd" =
        [.integer descriptor.toInt] := by rfl
    have bounds := descriptor_fits descriptor
    rw [ofJson?, other, interface?, textAt?, named, integerAt?, numbered]
    simp only [if_pos bounds, Option.bind_eq_bind, Option.bind_some, Int32.ofInt_toInt]
    rfl
  | error text =>
    have other : handle? (error text).toJson = none :=
      handle?_of_notMem (show "handle" ∉ ["error"] by decide)
    have another : interface? (error text).toJson = none :=
      interface?_of_notMem (show "interface" ∉ ["error"] by decide)
    have found : (error text).toJson.lookup "error" = [.text text] := by rfl
    rw [ofJson?, other, another, error?, textAt?, found]
    rfl

theorem ofText_of_value {text : String} {value : Value} {outcome : WireOutcome}
    (reads : Json.value deepest text.toList = .ok (value, []))
    (form : ofJson? value = some outcome) : ofText text = .ok outcome := by
  simp only [ofText, reads, form, bind, Except.bind]
  rfl

/-- The text of an outcome is one line without control characters, it holds one object with the keys
of the outcome's form and no others, and the outcome is read back from it. -/
theorem ofText_text (outcome : WireOutcome) (fits : outcome.Fits) :
    (∀ c ∈ outcome.text.toList, 0x20 ≤ c.toNat) ∧
      (∃ members, parse outcome.text = .ok (.object members) ∧
        members.map (·.1) = outcome.keys) ∧
      ofText outcome.text = .ok outcome := by
  have readable := readable_toJson fits
  refine ⟨?_, ?_, ?_⟩
  · intro c member
    rw [text, Value.render, String.toList_ofList] at member
    exact of_decide_eq_true (List.all_eq_true.mp readable.isPrintable c member)
  · obtain ⟨members, object, keys⟩ := outcome.exists_members
    refine ⟨members, ?_, keys⟩
    rw [← object]
    exact parse_render readable
  · exact ofText_of_value (value_render readable) (ofJson?_toJson fits)

theorem ofText_text_least :
    (handle (-0x8000000000000000)).Fits ∧
      ofText (handle (-0x8000000000000000)).text = .ok (handle (-0x8000000000000000)) :=
  ⟨by decide, (ofText_text (handle (-0x8000000000000000)) (by decide)).2.2⟩

end TunnelProvisioning.WireOutcome
