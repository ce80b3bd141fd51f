import TunnelProvisioning.Proofs.Json.Grammar
import TunnelProvisioning.Proofs.Text.Digits

/-! # JSON numbers read

A number is read digit by digit, as long as nothing follows that could be part of a number. It is
read as an integer only if it is written as one, and integers of 64 bits, with or without sign, are.
-/

namespace TunnelProvisioning.Json

open Digits

/-- Whether a number ends before a character. -/
def endsNumber (c : Char) : Bool :=
  !c.isDigit && c ≠ '.' && c ≠ 'e' && c ≠ 'E'

theorem endsNumber_iff {c : Char} :
    endsNumber c = true ↔ c.isDigit = false ∧ c ≠ '.' ∧ c ≠ 'e' ∧ c ≠ 'E' := by
  simp only [endsNumber, Bool.and_eq_true, Bool.not_eq_true', decide_eq_true_eq, and_assoc]

theorem ne_of_isDigit {c other : Char} (digit : c.isDigit = true) (no : other.isDigit = false) :
    c ≠ other := by
  rintro rfl
  exact absurd digit (by simp only [no, Bool.false_eq_true, not_false_eq_true])

variable {digits cs rest : List Char} {literal : Numeral}

/-! ## Runs of digits -/

theorem IsRun.exists_cons (run : IsRun digits) :
    ∃ c more, digits = c :: more ∧ c.isDigit = true := by
  obtain ⟨c, more, rfl⟩ := List.exists_cons_of_ne_nil run.nonempty
  exact ⟨c, more, rfl, List.all_eq_true.mp run.digits c List.mem_cons_self⟩

theorem digits_append (run : IsRun digits) (ends : rest.head?.all (!·.isDigit) = true) :
    Json.digits (digits ++ rest) = .ok (digits, rest) := by
  obtain ⟨c, more, starts, _⟩ := run.exists_cons
  rw [Json.digits, takeWhile_digits run.digits ends, dropWhile_digits run.digits ends, starts]

theorem wholeDigits_append (whole : IsWhole digits) (ends : rest.head?.all (!·.isDigit) = true) :
    wholeDigits (digits ++ rest) = .ok (digits, rest) := by
  by_cases zero : digits.head? = some '0'
  · rw [whole.zero zero]
    cases rest with
    | nil => rfl
    | cons c rest =>
      have other : ¬c.isDigit = true := by simpa using ends
      simp only [List.singleton_append, wholeDigits, if_neg other]
  · have read := digits_append whole.run ends
    obtain ⟨c, more, rfl, _⟩ := whole.run.exists_cons
    have other : c ≠ '0' := by simpa using zero
    rw [List.cons_append] at read ⊢
    rw [wholeDigits, read]
    all_goals simp [other]

/-- What is not part of a number is no digit either. -/
theorem stops_of_ends (ends : rest.head?.all endsNumber = true) :
    rest.head?.all (!·.isDigit) = true := by
  cases rest with
  | nil => rfl
  | cons c rest =>
    have other := (endsNumber_iff.mp ends).1
    simp only [List.head?_cons, Option.all_some, other, Bool.not_false]

/-! ## Numbers with their parts -/

namespace ExponentOf

variable {exponent : Option (Bool × List Char)}

theorem exponentDigits_eq (spells : ExponentOf exponent cs rest)
    (ends : rest.head?.all endsNumber = true) : exponentDigits cs = .ok (exponent, rest) := by
  cases spells with
  | absent =>
    cases cs with
    | nil => rfl
    | cons c cs => exact if_neg (not_or.mpr (endsNumber_iff.mp ends).2.2)
  | @present letter negative cs digits _ letter_eq sign run =>
    have read := digits_append run (stops_of_ends ends)
    cases sign with
    | absent =>
      obtain ⟨c, more, starts, digit⟩ := run.exists_cons
      rw [exponentDigits, if_pos letter_eq]
      · simp only [read, bind, Except.bind]
        rfl
      · rw [starts]
        rintro _ same
        exact ne_of_isDigit digit (by decide) (List.cons.inj same).1
      · rw [starts]
        rintro _ same
        exact ne_of_isDigit digit (by decide) (List.cons.inj same).1
    | plus =>
      rw [exponentDigits.eq_def]
      simp only [if_pos letter_eq, read, bind, Except.bind]
      rfl
    | minus =>
      rw [exponentDigits.eq_def]
      simp only [if_pos letter_eq, read, bind, Except.bind]
      rfl

/-- An exponent starts with a letter that no digit is, and its absence with what follows. -/
theorem head?_ends (spells : ExponentOf exponent cs rest)
    (ends : rest.head?.all endsNumber = true) :
    cs.head?.all (fun c => !c.isDigit && c ≠ '.') = true := by
  cases spells with
  | absent =>
    cases cs with
    | nil => rfl
    | cons c cs =>
      obtain ⟨digit, point, _⟩ := endsNumber_iff.mp ends
      simp [digit, point]
  | present letter_eq _ _ => rcases letter_eq with rfl | rfl <;> rfl

end ExponentOf

namespace FractionOf

variable {fraction after : List Char}

theorem fractionDigits_eq (spells : FractionOf fraction cs after)
    (ends : after.head?.all (fun c => !c.isDigit && c ≠ '.') = true) :
    fractionDigits cs = .ok (fraction, after) := by
  cases spells with
  | absent =>
    cases cs with
    | nil => rfl
    | cons c cs =>
      have other : c ≠ '.' := by
        rintro rfl
        exact Bool.false_ne_true ends
      rw [fractionDigits]
      simp [other]
  | present run =>
    refine digits_append run ?_
    cases after with
    | nil => rfl
    | cons c after => exact (Bool.and_eq_true_iff.mp ends).1

theorem head?_ends (spells : FractionOf fraction cs after)
    (ends : after.head?.all (fun c => !c.isDigit && c ≠ '.') = true) :
    cs.head?.all (!·.isDigit) = true := by
  cases spells with
  | absent =>
    cases cs with
    | nil => rfl
    | cons c cs => exact (Bool.and_eq_true_iff.mp ends).1
  | present run => rfl

end FractionOf

/-- A number is read digit by digit, as long as nothing follows that could be part of it. -/
theorem MagnitudeOf.numeral_eq (spells : MagnitudeOf literal cs rest)
    (ends : rest.head?.all endsNumber = true) :
    numeral literal.negative cs = .ok (literal, rest) := by
  cases spells with
  | parts whole fraction exponent =>
    have afterFraction := exponent.head?_ends ends
    have read := wholeDigits_append whole (fraction.head?_ends afterFraction)
    simp only [numeral, read, fraction.fractionDigits_eq afterFraction,
      exponent.exponentDigits_eq ends, bind, Except.bind]
    rfl

theorem MagnitudeOf.exists_cons (spells : MagnitudeOf literal cs rest) :
    ∃ c more, cs = c :: more ∧ c.isDigit = true := by
  cases spells with
  | parts whole _ _ =>
    obtain ⟨c, more, starts, digit⟩ := whole.run.exists_cons
    exact ⟨c, _, by rw [starts, List.cons_append], digit⟩

/-! ### How long they are -/

theorem ExponentOf.length_le {exponent : Option (Bool × List Char)}
    (spells : ExponentOf exponent cs rest) : rest.length ≤ cs.length := by
  cases spells with
  | absent => exact le_rfl
  | present _ sign _ =>
    cases sign <;> simp only [List.length_cons, List.length_append] <;> omega

theorem FractionOf.length_le {fraction : List Char} (spells : FractionOf fraction cs rest) :
    rest.length ≤ cs.length := by
  cases spells with
  | absent => exact le_rfl
  | present _ =>
    simp only [List.length_cons, List.length_append]
    omega

theorem MagnitudeOf.shorter (spells : MagnitudeOf literal cs rest) : rest.length < cs.length := by
  cases spells with
  | parts whole fraction exponent =>
    have nonempty := List.length_pos_iff.mpr whole.run.nonempty
    have afterWhole := fraction.length_le
    have afterFraction := exponent.length_le
    rw [List.length_append]
    omega

theorem NumberOf.shorter (spells : NumberOf literal cs rest) : rest.length < cs.length := by
  cases spells with
  | plain _ magnitude => exact magnitude.shorter
  | minus _ magnitude => exact magnitude.shorter.trans (Nat.lt_succ_self _)

/-! ## Values -/

theorem le_ofDigitChars (digits : List Char) (value : Nat) :
    value ≤ Nat.ofDigitChars 10 digits value := by
  rw [Nat.ofDigitChars_eq_ofDigitChars_zero]
  exact Nat.le_add_right_of_le (Nat.le_mul_of_pos_left value (Nat.pow_pos (by decide)))

/-- Digits whose value fits are all used up. -/
theorem fill_eq {value : Nat} (fits : Nat.ofDigitChars 10 digits value ≤ greatestWord) :
    fill value digits = (Nat.ofDigitChars 10 digits value, []) := by
  induction digits generalizing value with
  | nil => rfl
  | cons digit rest ih =>
    rw [Nat.ofDigitChars_cons] at fits ⊢
    have next := (le_ofDigitChars rest _).trans fits
    rw [fill, if_pos next]
    exact ih fits

theorem eq_of_fill {value leading : Nat} (filled : fill value digits = (leading, [])) :
    leading = Nat.ofDigitChars 10 digits value := by
  induction digits generalizing value with
  | nil => exact (Prod.mk.inj filled).1.symm
  | cons digit digits ih =>
    rw [fill] at filled
    split at filled
    · rw [Nat.ofDigitChars_cons]
      exact ih filled
    · cases filled

namespace Numeral

/-- A number has no value or is read as a real number, unless it is written as an integer and read
as this. -/
theorem value_cases (literal : Numeral) :
    literal.value = .error .malformed ∨ (∃ number, literal.value = .ok (.real number)) ∨
      ∃ number, literal.value = .ok (.integer number) ∧ literal.IsInteger number := by
  by_cases parts :
      (fill 0 literal.whole).2 = [] ∧ literal.fraction = [] ∧ literal.exponent = none
  · have leading : (fill 0 literal.whole).1 = Nat.ofDigitChars 10 literal.whole 0 :=
      eq_of_fill (Prod.ext rfl parts.1)
    rw [Numeral.value]
    dsimp only
    rw [if_pos parts, leading]
    by_cases negative : literal.negative = true
    · rw [if_neg (not_not.mpr negative)]
      split
      · exact .inr (.inl ⟨_, rfl⟩)
      · next inside =>
        refine .inr (.inr ⟨_, rfl, parts.2.1, parts.2.2, by rw [if_pos negative], fun zero => ?_⟩)
        omega
    · rw [if_pos negative]
      exact .inr (.inr ⟨_, rfl, parts.2.1, parts.2.2, by rw [if_neg negative],
        fun _ => Bool.eq_false_iff.mpr negative⟩)
  · have other : literal.value = .error .malformed ∨
        ∃ number, literal.value = .ok (.real number) := by
      rw [Numeral.value]
      dsimp only
      rw [if_neg parts]
      split
      · split
        · exact .inr ⟨_, rfl⟩
        · exact .inl rfl
      · split
        · split
          · exact .inl rfl
          · exact .inr ⟨_, rfl⟩
        · split
          · exact .inr ⟨_, rfl⟩
          · exact .inl rfl
    exact other.imp_right .inl

/-- An integer of 64 bits, with or without sign, is the value of exactly the numbers that are
written as this integer. -/
theorem value_eq_integer_iff {number : Int} (least : -0x8000000000000000 ≤ number)
    (greatest : number ≤ 0xFFFFFFFFFFFFFFFF) :
    literal.value = .ok (.integer number) ↔ literal.IsInteger number := by
  constructor
  · intro valued
    rcases literal.value_cases with failed | ⟨_, real⟩ | ⟨_, integer, written⟩
    · cases valued.symm.trans failed
    · cases valued.symm.trans real
    · cases valued.symm.trans integer
      exact written
  · rintro ⟨fraction, exponent, signed, unsigned⟩
    have fits : Nat.ofDigitChars 10 literal.whole 0 ≤ greatestWord := by
      have word : greatestWord = 0xFFFFFFFFFFFFFFFF := rfl
      split at signed <;> omega
    rw [Numeral.value, fill_eq fits]
    dsimp only
    rw [if_pos ⟨rfl, fraction, exponent⟩]
    by_cases negative : literal.negative = true
    · rw [if_pos negative] at signed
      have nonzero : number ≠ 0 := fun zero => by
        rw [unsigned zero] at negative
        cases negative
      rw [if_neg (not_not.mpr negative), if_neg (by omega), signed]
    · rw [if_neg negative] at signed
      rw [if_pos negative, signed]

end Numeral

/-! ## What is written -/

theorem isWhole_decimal (n : Nat) : IsWhole (decimal n) where
  run := ⟨decimal_ne_nil n, all_isDigit_decimal n⟩
  zero starts := by
    rcases Nat.eq_zero_or_pos n with rfl | positive
    · exact Nat.toDigits_zero 10
    · exact absurd starts (head?_decimal_ne_zero positive)

def Numeral.ofInt (number : Int) : Numeral :=
  ⟨decide (number < 0), decimal number.natAbs, [], none⟩

theorem numberOf_signed (number : Int) (rest : List Char) :
    NumberOf (.ofInt number) (signed number ++ rest) rest := by
  have magnitude : MagnitudeOf (.ofInt number) (decimal number.natAbs ++ rest) rest :=
    .parts (isWhole_decimal _) (.absent rest) (.absent rest)
  rw [signed]
  split
  · next negative => exact .minus (decide_eq_true negative) magnitude
  · next natural => exact .plain (decide_eq_false natural) magnitude

theorem Numeral.isInteger_ofInt (number : Int) : (ofInt number).IsInteger number where
  fraction := rfl
  exponent := rfl
  signed := by
    have absolute : Nat.ofDigitChars 10 (decimal number.natAbs) 0 = number.natAbs :=
      Nat.ofDigitChars_toDigits (by decide) (by decide)
    simp only [ofInt, absolute, decide_eq_true_eq]
    split <;> omega
  unsigned_zero zero := decide_eq_false (by omega)

end TunnelProvisioning.Json
