import Mathlib.Logic.Function.Basic
import TunnelProvisioning.Addressing.Basic

/-! # What the driver reads

The driver takes addresses as words that are stored least significant octet first. The octets that
reach it are therefore those of the dotted quads, in their order. The words are written chunk by
chunk over a buffer that has just room for them, so nothing of what was in the buffer is left, and
both the octets and the words read back to the addresses.
-/

namespace TunnelProvisioning.Addressing

/-- A word whose octets are those of an address stores them in the order of the dotted quad. -/
theorem wordOctets_driverWord (address : Ipv4) :
    wordOctets (driverWord address) = address.octets := by
  obtain ⟨first, second, third, fourth⟩ := address
  simp only [wordOctets, driverWord, Ipv4.octets, List.cons.injEq, and_true]
  -- Bit by bit: an octet of the word meets one shifted octet of the address and no other.
  refine ⟨?_, ?_, ?_, ?_⟩ <;>
    refine UInt8.toBitVec_inj.mp (BitVec.eq_of_getLsbD_eq fun i bound => ?_)
  · simp [bound]
  · simp (disch := omega) [decide_eq_true]
  · simp (disch := omega) [decide_eq_true, decide_eq_false]
  · simp (disch := omega) [decide_eq_false]

/-! ## Filling a buffer -/

/-- A buffer with just room for the words holds nothing else after they are written. The induction
is on the words; each takes the first four octets of what is left of the buffer. -/
theorem fillChunks_eq_flatMap {buffer : List UInt8} {words : List UInt32}
    (room : buffer.length = 4 * words.length) :
    fillChunks buffer words = words.flatMap wordOctets := by
  induction words generalizing buffer with
  | nil =>
    rw [List.length_nil, Nat.mul_zero] at room
    rw [List.eq_nil_of_length_eq_zero room]
    rfl
  | cons word words ih =>
    match buffer, room with
    | _ :: _ :: _ :: _ :: rest, room =>
      have left : rest.length = 4 * words.length := by
        simp only [List.length_cons] at room
        omega
      rw [fillChunks, ih left, List.flatMap_cons]

/-- The octets of the words are those of local address, network and netmask one after the other. -/
theorem flatMap_driverWords (addressing : Addressing) :
    addressing.driverWords.flatMap wordOctets =
      addressing.localAddress.octets ++ addressing.network.octets ++ addressing.netmask.octets := by
  simp only [driverWords, List.flatMap_cons, List.flatMap_nil, List.append_nil,
    wordOctets_driverWord, List.append_assoc]

/-- Writing the words over any buffer of the size that the driver takes fills it with the octets of
local address, network and netmask. -/
theorem fillChunks_driverWords {buffer : List UInt8} (size : buffer.length = driverSize)
    (addressing : Addressing) :
    fillChunks buffer addressing.driverWords =
      addressing.localAddress.octets ++ addressing.network.octets ++ addressing.netmask.octets := by
  have room : buffer.length = 4 * addressing.driverWords.length := size
  rw [fillChunks_eq_flatMap room, flatMap_driverWords]

/-- The driver reads the octets of local address, network and netmask one after the other. -/
theorem driverOctets_eq (addressing : Addressing) :
    addressing.driverOctets =
      addressing.localAddress.octets ++ addressing.network.octets ++ addressing.netmask.octets :=
  fillChunks_driverWords List.length_replicate addressing

/-! ## Reading back -/

/-- The number that octets spell, the least significant one first. -/
def littleEndian : List UInt8 → Nat
  | [] => 0
  | octet :: octets => octet.toNat + 256 * littleEndian octets

/-- The words that a buffer holds, one for each whole chunk of four octets. -/
def wordsOf : List UInt8 → List UInt32
  | first :: second :: third :: fourth :: rest =>
    UInt32.ofNat (littleEndian [first, second, third, fourth]) :: wordsOf rest
  | _ => []

def ofOctets? : List UInt8 → Option Addressing
  | [a₁, a₂, a₃, a₄, b₁, b₂, b₃, b₄, c₁, c₂, c₃, c₄] =>
    some ⟨⟨a₁, a₂, a₃, a₄⟩, ⟨b₁, b₂, b₃, b₄⟩, ⟨c₁, c₂, c₃, c₄⟩⟩
  | _ => none

def ofWords? (words : List UInt32) : Option Addressing :=
  ofOctets? (words.flatMap wordOctets)

/-- The octets of a word spell it. -/
theorem littleEndian_wordOctets (word : UInt32) : littleEndian (wordOctets word) = word.toNat := by
  have bound := word.toNat_lt
  simp only [littleEndian, wordOctets, UInt32.toNat_toUInt8, UInt32.toNat_shiftRight,
    Nat.shiftRight_eq_div_pow, UInt32.reduceToNat, Nat.reduceMod, Nat.reducePow]
  omega

/-- Words that were written one after the other are read again. -/
theorem wordsOf_flatMap (words : List UInt32) : wordsOf (words.flatMap wordOctets) = words := by
  induction words with
  | nil => rfl
  | cons word words ih =>
    have read : UInt32.ofNat (littleEndian (wordOctets word)) = word := by
      rw [littleEndian_wordOctets, UInt32.ofNat_toNat]
    rw [List.flatMap_cons, wordOctets, List.cons_append, List.cons_append, List.cons_append,
      List.cons_append, List.nil_append, wordsOf, ih]
    exact congrArg (· :: words) read

theorem ofOctets?_driverOctets (addressing : Addressing) :
    ofOctets? addressing.driverOctets = some addressing := by
  rw [driverOctets_eq]
  rfl

theorem ofWords?_driverWords (addressing : Addressing) :
    ofWords? addressing.driverWords = some addressing := by
  rw [ofWords?, flatMap_driverWords]
  rfl

/-- Different triples have different words. -/
theorem driverWords_injective : Function.Injective driverWords := by
  intro first second alike
  apply Option.some.inj
  rw [← ofWords?_driverWords first, ← ofWords?_driverWords second, alike]

/-- Different triples have different octets. -/
theorem driverOctets_injective : Function.Injective driverOctets := by
  intro first second alike
  apply Option.some.inj
  rw [← ofOctets?_driverOctets first, ← ofOctets?_driverOctets second, alike]

/-- What the driver reads are the octets of local address, network and netmask in the order of the
dotted quads, whatever was in the buffer before. Cut into words of four octets, the least
significant one first, the buffer gives the words again. The triple is what the octets are and what
the words are, so no other triple is encoded like it. -/
theorem driver_encoding (addressing : Addressing) :
    let octets := addressing.driverOctets
    let words := addressing.driverWords
    octets = addressing.localAddress.octets ++ addressing.network.octets ++
        addressing.netmask.octets ∧
    octets.length = 12 ∧
    (∀ buffer : List UInt8, buffer.length = 12 → fillChunks buffer words = octets) ∧
    wordsOf octets = words ∧
    ofOctets? octets = some addressing ∧
    ofWords? words = some addressing ∧
    ∀ other : Addressing, (other.driverOctets = octets ↔ other = addressing) ∧
      (other.driverWords = words ↔ other = addressing) := by
  intro octets words
  have inOrder : octets = _ := driverOctets_eq addressing
  refine ⟨inOrder, ?_, ?_, ?_, ofOctets?_driverOctets addressing, ofWords?_driverWords addressing,
    fun other => ⟨driverOctets_injective.eq_iff, driverWords_injective.eq_iff⟩⟩
  · rw [inOrder]
    rfl
  · intro buffer size
    rw [inOrder]
    exact fillChunks_driverWords size addressing
  · rw [inOrder, ← flatMap_driverWords]
    exact wordsOf_flatMap words

/-- Addresses without any symmetry, over a buffer that was in use. -/
theorem driver_encoding_used :
    let addressing : Addressing := ⟨⟨1, 2, 3, 4⟩, ⟨5, 6, 7, 8⟩, ⟨249, 250, 251, 252⟩⟩
    let buffer : List UInt8 := List.replicate 12 0xaa
    buffer.length = 12 ∧
      fillChunks buffer addressing.driverWords = [1, 2, 3, 4, 5, 6, 7, 8, 249, 250, 251, 252] ∧
      addressing.driverWords = [0x04030201, 0x08070605, 0xfcfbfaf9] := by
  intro addressing buffer
  obtain ⟨inOrder, _, filled, _⟩ := driver_encoding addressing
  exact ⟨rfl, (filled buffer rfl).trans inOrder, by decide⟩

end TunnelProvisioning.Addressing
