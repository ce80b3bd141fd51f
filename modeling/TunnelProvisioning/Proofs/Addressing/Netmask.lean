import Mathlib.Data.List.TakeWhile
import Mathlib.Tactic.Ring
import TunnelProvisioning.Addressing.Basic

/-! # Netmasks and prefix lengths

A netmask is told by counting: the ones it starts with and the zeros it ends in have to be all of
its bits. Read as a number, such a mask is what is left of `2 ^ 32` without the last few bits, and
the number of its ones is the prefix length. Numbers are compared bit by bit, as lists of bits with
the most significant one first.
-/

namespace TunnelProvisioning

/-! ## Runs of bits -/

/-- The bits of a mask: ones, and then zeros. -/
def maskBits (ones zeros : Nat) : List Bool :=
  List.replicate ones true ++ List.replicate zeros false

theorem maskBits_succ (ones zeros : Nat) :
    maskBits (ones + 1) zeros = true :: maskBits ones zeros := rfl

@[simp]
theorem length_maskBits (ones zeros : Nat) : (maskBits ones zeros).length = ones + zeros := by
  simp only [maskBits, List.length_append, List.length_replicate]

theorem count_maskBits (ones zeros : Nat) : (maskBits ones zeros).count true = ones := by
  simp [maskBits, List.count_replicate]

/-- The ones that bits start with. -/
def onesBefore (bits : List Bool) : Nat :=
  (bits.takeWhile (· = true)).length

/-- The zeros that bits end in. -/
def zerosAfter (bits : List Bool) : Nat :=
  (bits.reverse.takeWhile (· = false)).length

theorem onesBefore_le (bits : List Bool) : onesBefore bits ≤ bits.length :=
  (List.takeWhile_prefix _).length_le

theorem zerosAfter_le (bits : List Bool) : zerosAfter bits ≤ bits.length := by
  rw [← List.length_reverse]
  exact (List.takeWhile_prefix _).length_le

theorem onesBefore_maskBits (ones zeros : Nat) : onesBefore (maskBits ones zeros) = ones := by
  induction ones with
  | zero => cases zeros <;> simp [onesBefore, maskBits, List.replicate_succ]
  | succ ones ih =>
    rw [onesBefore] at ih ⊢
    rw [maskBits_succ, List.takeWhile_cons_of_pos (by decide), List.length_cons, ih]

theorem zerosAfter_maskBits (ones zeros : Nat) : zerosAfter (maskBits ones zeros) = zeros := by
  have reversed : (maskBits ones zeros).reverse =
      List.replicate zeros false ++ List.replicate ones true := by
    simp only [maskBits, List.reverse_append, List.reverse_replicate]
  rw [zerosAfter, reversed, List.takeWhile_append_of_pos (by simp)]
  cases ones <;> simp [List.replicate_succ]

/-- Bits that are no mask have a zero before a one, so the counts leave something between them. -/
theorem eq_maskBits_of_counts {bits : List Bool}
    (whole : bits.length ≤ onesBefore bits + zerosAfter bits) :
    bits = maskBits (onesBefore bits) (bits.length - onesBefore bits) := by
  have split : bits.takeWhile (· = true) ++ bits.dropWhile (· = true) = bits :=
    List.takeWhile_append_dropWhile
  have ones : bits.takeWhile (· = true) = List.replicate (onesBefore bits) true :=
    List.eq_replicate_iff.mpr ⟨rfl, fun bit member => by simpa using List.mem_takeWhile_imp member⟩
  have size : (bits.dropWhile (· = true)).length = bits.length - onesBefore bits := by
    have lengths := congrArg List.length split
    rw [List.length_append] at lengths
    rw [onesBefore]
    omega
  -- The zeros at the end reach back to where the ones at the start end.
  have zeros : ∀ bit ∈ bits.dropWhile (· = true), bit = false := by
    intro bit member
    have suffix : bits.dropWhile (· = true) <:+ (bits.reverse.takeWhile (· = false)).reverse := by
      apply List.suffix_of_suffix_length_le (List.dropWhile_suffix _)
      · rw [← List.reverse_prefix, List.reverse_reverse]
        exact List.takeWhile_prefix _
      · rw [size, List.length_reverse]
        rw [zerosAfter] at whole
        omega
    have last := suffix.subset member
    rw [List.mem_reverse] at last
    simpa using List.mem_takeWhile_imp last
  calc
    bits = bits.takeWhile (· = true) ++ bits.dropWhile (· = true) := split.symm
    _ = maskBits (onesBefore bits) (bits.length - onesBefore bits) := by
      rw [ones, List.eq_replicate_iff.mpr ⟨size, zeros⟩, maskBits]

/-- The two counts cover all bits exactly if the bits are a mask. -/
theorem onesBefore_add_zerosAfter_eq_iff {bits : List Bool} :
    onesBefore bits + zerosAfter bits = bits.length ↔
      ∃ ones ≤ bits.length, bits = maskBits ones (bits.length - ones) := by
  constructor
  · intro whole
    exact ⟨_, onesBefore_le bits, eq_maskBits_of_counts whole.ge⟩
  · rintro ⟨ones, bound, mask⟩
    generalize bits.length - ones = zeros at mask
    subst mask
    rw [onesBefore_maskBits, zerosAfter_maskBits, length_maskBits]

/-! ## Bits as numbers -/

/-- The number that bits spell. -/
def wordOf : List Bool → Nat
  | [] => 0
  | bit :: bits => bit.toNat * 2 ^ bits.length + wordOf bits

theorem wordOf_lt (bits : List Bool) : wordOf bits < 2 ^ bits.length := by
  induction bits with
  | nil => exact Nat.one_pos
  | cons bit bits ih =>
    have weight : bit.toNat * 2 ^ bits.length ≤ 1 * 2 ^ bits.length :=
      Nat.mul_le_mul_right _ (Bool.toNat_le bit)
    rw [wordOf, List.length_cons, Nat.pow_succ]
    omega

theorem wordOf_append (high low : List Bool) :
    wordOf (high ++ low) = wordOf high * 2 ^ low.length + wordOf low := by
  induction high with
  | nil => simp [wordOf]
  | cons bit high ih =>
    rw [List.cons_append, wordOf, wordOf, ih, List.length_append, Nat.pow_add]
    ring

/-- Bits of the same number are the same, if there are as many of them. -/
theorem wordOf_inj {left right : List Bool} (size : left.length = right.length)
    (same : wordOf left = wordOf right) : left = right := by
  induction left generalizing right with
  | nil => exact (List.length_eq_zero_iff.mp size.symm).symm
  | cons first left ih =>
    cases right with
    | nil => cases size
    | cons second right =>
      have lengths : left.length = right.length := Nat.succ.inj size
      have low := wordOf_lt left
      have other := wordOf_lt right
      rw [wordOf, wordOf, lengths] at same
      rw [lengths] at low
      -- The first bit is worth more than all later ones together.
      have first_eq : first = second := by
        cases first <;> cases second
        · rfl
        · simp only [Bool.toNat_false, Bool.toNat_true] at same
          omega
        · simp only [Bool.toNat_false, Bool.toNat_true] at same
          omega
        · rfl
      rw [first_eq] at same ⊢
      rw [ih lengths (Nat.add_left_cancel same)]

/-- The last bits of a number spell what is left of it. -/
theorem wordOf_testBit (n count : Nat) :
    wordOf ((List.range count).reverse.map n.testBit) = n % 2 ^ count := by
  induction count with
  | zero => simp [wordOf, Nat.mod_one]
  | succ count ih =>
    rw [List.range_succ, List.reverse_append, List.reverse_singleton, List.singleton_append,
      List.map_cons, wordOf, ih, Nat.toNat_testBit, List.length_map, List.length_reverse,
      List.length_range, Nat.mod_pow_succ]
    ring

theorem wordOf_maskBits (ones zeros : Nat) :
    wordOf (maskBits ones zeros) = 2 ^ (ones + zeros) - 2 ^ zeros := by
  induction ones with
  | zero =>
    rw [Nat.zero_add, Nat.sub_self, maskBits, List.replicate_zero, List.nil_append]
    induction zeros with
    | zero => rfl
    | succ zeros ih => rw [List.replicate_succ, wordOf, ih, Bool.toNat_false, Nat.zero_mul]
  | succ ones ih =>
    have grows : 2 ^ zeros ≤ 2 ^ (ones + zeros) := Nat.pow_le_pow_right (by decide) (by omega)
    have doubled : 2 ^ (ones + 1 + zeros) = 2 * 2 ^ (ones + zeros) := by ring
    rw [maskBits_succ, wordOf, ih, length_maskBits, doubled, Bool.toNat_true]
    omega

namespace Ipv4

theorem length_bits (address : Ipv4) : address.bits.length = 32 := rfl

theorem wordOf_octetBits (octet : UInt8) : wordOf (octetBits octet) = octet.toNat :=
  (wordOf_testBit octet.toNat 8).trans (Nat.mod_eq_of_lt octet.toNat_lt)

/-- The bits of an address spell its number. -/
theorem wordOf_bits (address : Ipv4) : wordOf address.bits = address.toNat := by
  have eight (octet : UInt8) : (octetBits octet).length = 8 := rfl
  simp only [bits, octets, List.flatMap_cons, List.flatMap_nil, List.append_nil, wordOf_append,
    List.length_append, eight, wordOf_octetBits, toNat]
  omega

/-- What two addresses share are the bits that their numbers share. -/
theorem toNat_land (left right : Ipv4) :
    (left.land right).toNat = left.toNat &&& right.toNat := by
  have octets (a b : Nat) (x y : UInt8) :
      (a &&& b) * 256 + (x &&& y).toNat = (a * 256 + x.toNat) &&& (b * 256 + y.toNat) := by
    have low := x.toNat_lt
    have other := y.toNat_lt
    have quotient : ((a * 256 + x.toNat) &&& (b * 256 + y.toNat)) / 2 ^ 8 = _ :=
      Nat.and_div_two_pow
    have remainder : ((a * 256 + x.toNat) &&& (b * 256 + y.toNat)) % 2 ^ 8 = _ :=
      Nat.and_mod_two_pow
    have parts (c : Nat) {z : Nat} (small : z < 2 ^ 8) :
        (c * 256 + z) / 2 ^ 8 = c ∧ (c * 256 + z) % 2 ^ 8 = z := by omega
    rw [(parts a low).1, (parts b other).1] at quotient
    rw [(parts a low).2, (parts b other).2] at remainder
    rw [UInt8.toNat_and]
    omega
  simp only [land, toNat, ← octets, UInt8.toNat_and]

/-- Whether an address is the mask of a prefix length: a number of 32 bits without its last few. -/
def IsMask (address : Ipv4) (length : Nat) : Prop :=
  length ≤ 32 ∧ address.toNat = 2 ^ 32 - 2 ^ (32 - length)

instance (address : Ipv4) (length : Nat) : Decidable (address.IsMask length) :=
  inferInstanceAs (Decidable (_ ∧ _))

theorem isMask_iff {address : Ipv4} {length : Nat} :
    address.IsMask length ↔ length ≤ 32 ∧ address.bits = maskBits length (32 - length) := by
  constructor
  · rintro ⟨bound, number⟩
    have size : length + (32 - length) = 32 := by omega
    refine ⟨bound, wordOf_inj ?_ ?_⟩
    · rw [length_maskBits, size, length_bits]
    · rw [wordOf_bits, wordOf_maskBits, size, number]
  · rintro ⟨bound, mask⟩
    have size : length + (32 - length) = 32 := by omega
    refine ⟨bound, ?_⟩
    rw [← wordOf_bits, mask, wordOf_maskBits, size]

end Ipv4

namespace Addressing

open Ipv4

/-- The two counts cover a netmask exactly if it is the mask of a prefix length. -/
theorem counts_eq_iff {address : Ipv4} :
    leadingOnes address + trailingZeros address = 32 ↔ ∃ length, address.IsMask length := by
  have counted : onesBefore address.bits + zerosAfter address.bits = 32 ↔ _ :=
    onesBefore_add_zerosAfter_eq_iff
  simp only [isMask_iff]
  exact counted

/-- The ones of a mask are its prefix length. -/
theorem prefixLength_of_isMask {addressing : Addressing} {length : Nat}
    (mask : addressing.netmask.IsMask length) : addressing.prefixLength = length := by
  rw [prefixLength, (isMask_iff.mp mask).2, count_maskBits]

/-- The two counts are those of a word, so neither they nor the ones of the mask get large. -/
theorem counts_le (addressing : Addressing) :
    addressing.prefixLength ≤ 32 ∧
      leadingOnes addressing.netmask + trailingZeros addressing.netmask ≤ 64 := by
  have ones : leadingOnes addressing.netmask ≤ 32 := onesBefore_le addressing.netmask.bits
  have zeros : trailingZeros addressing.netmask ≤ 32 := zerosAfter_le addressing.netmask.bits
  exact ⟨List.count_le_length, by omega⟩

def netmaskFault (netmask : Ipv4) : InvalidInput :=
  ⟨"netmask", s!"{netmask} is not a contiguous mask"⟩

def networkFault (network localAddress expected : Ipv4) : InvalidInput :=
  ⟨"network", s!"{network} does not contain {localAddress} (expected {expected})"⟩

theorem netmaskFault_ne_networkFault (netmask network localAddress expected : Ipv4) :
    netmaskFault netmask ≠ networkFault network localAddress expected := fun same =>
  absurd (congrArg InvalidInput.field same) (show "netmask" ≠ "network" by decide)

section

variable {addressing : Addressing}

theorem validate_of_no_mask (none : ¬∃ length, addressing.netmask.IsMask length) :
    addressing.validate = .error (netmaskFault addressing.netmask) := by
  rw [← counts_eq_iff] at none
  rw [validate, if_pos none]
  rfl

theorem validate_of_network (mask : ∃ length, addressing.netmask.IsMask length)
    (same : addressing.network = addressing.localAddress.land addressing.netmask) :
    addressing.validate = .ok () := by
  rw [← counts_eq_iff] at mask
  rw [validate, if_neg (not_not.mpr mask)]
  exact if_neg (not_not.mpr same)

theorem validate_of_other_network (mask : ∃ length, addressing.netmask.IsMask length)
    (other : addressing.network ≠ addressing.localAddress.land addressing.netmask) :
    addressing.validate = .error (networkFault addressing.network addressing.localAddress
      (addressing.localAddress.land addressing.netmask)) := by
  rw [← counts_eq_iff] at mask
  rw [validate, if_neg (not_not.mpr mask)]
  exact if_pos other

/-- A netmask that is accepted is the mask of a prefix length. -/
theorem exists_isMask_of_validate_eq_ok (accepted : addressing.validate = .ok ()) :
    ∃ length, addressing.netmask.IsMask length := by
  by_contra none
  rw [validate_of_no_mask none] at accepted
  cases accepted

/-- A network that is accepted is the expected one. -/
theorem network_of_validate_eq_ok (accepted : addressing.validate = .ok ()) :
    addressing.network = addressing.localAddress.land addressing.netmask := by
  by_contra other
  rw [validate_of_other_network (exists_isMask_of_validate_eq_ok accepted) other] at accepted
  cases accepted

end

/-- A triple is accepted exactly if its netmask is the mask of a prefix length and its network is
what the netmask selects of the local address, bit by bit as numbers of 32 bits. A netmask that is
none is blamed whatever the network is; under a netmask that is one, a network is blamed with the
network that was expected. The prefix length of a mask is the one by which it is a mask, and it and
the two counts stay small. -/
theorem validate_iff_mask (addressing : Addressing) :
    let netmask := addressing.netmask
    let expected := addressing.localAddress.land netmask
    expected.toNat = addressing.localAddress.toNat &&& netmask.toNat ∧
    (addressing.validate = .ok () ↔
      (∃ length, netmask.IsMask length) ∧ addressing.network = expected) ∧
    (addressing.validate = .error (netmaskFault netmask) ↔ ¬∃ length, netmask.IsMask length) ∧
    (addressing.validate =
        .error (networkFault addressing.network addressing.localAddress expected) ↔
      (∃ length, netmask.IsMask length) ∧ addressing.network ≠ expected) ∧
    (∀ length, netmask.IsMask length → addressing.prefixLength = length) ∧
    addressing.prefixLength < 2 ^ 8 ∧
    leadingOnes netmask + trailingZeros netmask < 2 ^ 32 := by
  intro netmask expected
  obtain ⟨ones, counts⟩ := addressing.counts_le
  have short : addressing.prefixLength < 2 ^ 8 := Nat.lt_of_le_of_lt ones (by decide)
  have small : leadingOnes netmask + trailingZeros netmask < 2 ^ 32 :=
    Nat.lt_of_le_of_lt counts (by decide)
  have apart := netmaskFault_ne_networkFault netmask addressing.network addressing.localAddress
    expected
  refine ⟨toNat_land _ _, ?_⟩
  rw [← and_assoc, ← and_assoc]
  refine ⟨?_, fun _ => prefixLength_of_isMask, short, small⟩
  by_cases mask : ∃ length, netmask.IsMask length
  · by_cases same : addressing.network = expected
    · rw [validate_of_network mask same]
      simp only [mask, same, true_and, ne_eq, not_true_eq_false, reduceCtorEq, and_self]
    · rw [validate_of_other_network mask same]
      simp only [mask, same, true_and, ne_eq, not_true_eq_false, reduceCtorEq, Except.error.injEq,
        apart.symm, not_false_eq_true, and_self, expected, netmask]
  · rw [validate_of_no_mask mask]
    simp only [mask, false_and, reduceCtorEq, Except.error.injEq, apart, not_false_eq_true,
      and_self, netmask]

/-- The mask of a prefix length that splits an octet. -/
theorem validate_iff_mask_split :
    let addressing : Addressing := ⟨⟨172, 16, 5, 9⟩, ⟨172, 16, 4, 0⟩, ⟨255, 255, 254, 0⟩⟩
    addressing.netmask.IsMask 23 ∧ addressing.prefixLength = 23 := by
  intro addressing
  have mask : addressing.netmask.IsMask 23 := by decide
  exact ⟨mask, (validate_iff_mask addressing).2.2.2.2.1 23 mask⟩

end Addressing

end TunnelProvisioning
