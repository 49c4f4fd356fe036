import Mathlib.Data.BitVec
import Mathlib.Logic.Function.Iterate

namespace VendingSystem.Crc

/-!
# Reflected cyclic redundancy checks

The register takes the message bit by bit, the lowest bit of each byte first,
and shifts towards its lowest bit.  Adding a whole byte to the register and
shifting eight times comes to the same.
-/

variable {width : Nat} (polynomial : BitVec width)

/-- The register after one more bit of the message. -/
def shiftBit (register : BitVec width) (bit : Bool) : BitVec width :=
  if register.getLsbD 0 ^^ bit then (register >>> 1) ^^^ polynomial
  else register >>> 1

/-- The first bits of a word, the lowest first. -/
def lowBits {size : Nat} (word : BitVec size) (count : Nat) : List Bool :=
  (List.range count).map word.getLsbD

/-- The check of a message: from all ones, complemented at the end. -/
def reflectedCrc (message : List (BitVec 8)) : BitVec width :=
  ~~~((message.flatMap fun byte => lowBits byte 8).foldl
    (shiftBit polynomial) (BitVec.allOnes width))

/-- The register shifted by a bit that was added to it before. -/
def shiftRegister (register : BitVec width) : BitVec width :=
  shiftBit polynomial register false

/-- The register after a whole byte. -/
def addByte (register : BitVec width) (byte : BitVec 8) : BitVec width :=
  (shiftRegister polynomial)^[8] (register ^^^ byte.setWidth width)

theorem lowBits_succ
    {size : Nat}
    (word : BitVec size)
    (count : Nat) :
    lowBits word (count + 1) = lowBits word count ++ [word.getLsbD count] := by
  rw [lowBits, List.range_succ, List.map_append, List.map_singleton, lowBits]

theorem shiftRegister_xor
    (register word : BitVec width)
    (count : Nat) :
    shiftRegister polynomial (register ^^^ (word >>> count)) =
      shiftBit polynomial register (word.getLsbD count) ^^^
        (word >>> (count + 1)) := by
  have lowest : (register ^^^ (word >>> count)).getLsbD 0 =
      (register.getLsbD 0 ^^ word.getLsbD count) := by
    rw [BitVec.getLsbD_xor, BitVec.getLsbD_ushiftRight, Nat.add_zero]
  have shifted : (register ^^^ (word >>> count)) >>> 1 =
      (register >>> 1) ^^^ (word >>> (count + 1)) := by
    rw [BitVec.ushiftRight_xor_distrib, BitVec.shiftRight_add]
  unfold shiftRegister shiftBit
  rw [lowest, shifted, Bool.xor_false]
  split
  · rw [BitVec.xor_assoc, BitVec.xor_comm (word >>> (count + 1)),
      ← BitVec.xor_assoc]
  · rfl

theorem iterate_shiftRegister
    (register word : BitVec width)
    (count : Nat) :
    (shiftRegister polynomial)^[count] (register ^^^ word) =
      (lowBits word count).foldl (shiftBit polynomial) register ^^^
        (word >>> count) := by
  induction count with
  | zero => simp [lowBits]
  | succ count inductionHypothesis =>
    rw [Function.iterate_succ_apply', inductionHypothesis,
      shiftRegister_xor, lowBits_succ, List.foldl_append]
    rfl

theorem lowBits_setWidth
    (byte : BitVec 8)
    (wide : 8 ≤ width) :
    lowBits (byte.setWidth width) 8 = lowBits byte 8 := by
  refine List.map_congr_left fun index inRange => ?_
  rw [List.mem_range] at inRange
  rw [BitVec.getLsbD_setWidth, decide_eq_true (by omega), Bool.true_and]

theorem setWidth_shifted_out (byte : BitVec 8) :
    byte.setWidth width >>> 8 = BitVec.ofNat width 0 := by
  refine BitVec.eq_of_getLsbD_eq fun index inRange => ?_
  rw [BitVec.getLsbD_ushiftRight, BitVec.getLsbD_setWidth,
    BitVec.getLsbD_of_ge byte (8 + index) (by omega), Bool.and_false,
    BitVec.getLsbD_zero]

theorem addByte_eq
    (register : BitVec width)
    (byte : BitVec 8)
    (wide : 8 ≤ width) :
    addByte polynomial register byte =
      (lowBits byte 8).foldl (shiftBit polynomial) register := by
  rw [addByte, iterate_shiftRegister, lowBits_setWidth byte wide,
    setWidth_shifted_out, BitVec.xor_zero]

theorem reflectedCrc_bytes
    (message : List (BitVec 8))
    (wide : 8 ≤ width) :
    reflectedCrc polynomial message =
      ~~~(message.foldl (addByte polynomial) (BitVec.allOnes width)) := by
  have general : ∀ register : BitVec width,
      (message.flatMap fun byte => lowBits byte 8).foldl
          (shiftBit polynomial) register =
        message.foldl (addByte polynomial) register := by
    induction message with
    | nil => exact fun _ => rfl
    | cons byte rest inductionHypothesis =>
      intro register
      rw [List.flatMap_cons, List.foldl_append, List.foldl_cons,
        inductionHypothesis, addByte_eq polynomial register byte wide]
  rw [reflectedCrc, general]

section Bursts

variable {polynomial}

theorem msb_shiftBit
    (top : polynomial.msb = true)
    (register : BitVec width)
    (bit : Bool) :
    (shiftBit polynomial register bit).msb =
      (register.getLsbD 0 ^^ bit) := by
  have shifted : (register >>> 1).msb = false := by
    rw [BitVec.msb_ushiftRight]
    simp
  unfold shiftBit
  split
  · next takes => rw [BitVec.msb_xor, shifted, top, takes, Bool.false_xor]
  · next keeps => rw [shifted, Bool.eq_false_of_not_eq_true keeps]

theorem shiftBit_injective
    (top : polynomial.msb = true)
    {register other : BitVec width}
    {bit : Bool}
    (same : shiftBit polynomial register bit =
      shiftBit polynomial other bit) :
    register = other := by
  have lowest : register.getLsbD 0 = other.getLsbD 0 := by
    have tops := congrArg BitVec.msb same
    rw [msb_shiftBit top, msb_shiftBit top] at tops
    exact Bool.xor_left_inj.mp tops
  have rest : register >>> 1 = other >>> 1 := by
    unfold shiftBit at same
    rw [lowest] at same
    split at same
    · exact (BitVec.xor_left_inj _).mp same
    · exact same
  refine BitVec.eq_of_getLsbD_eq fun index _ => ?_
  cases index with
  | zero => exact lowest
  | succ index =>
    have later := congrArg (BitVec.getLsbD · index) rest
    simpa [BitVec.getLsbD_ushiftRight, Nat.add_comm] using later

/-- What follows a difference in the register does not undo it. -/
theorem foldl_shiftBit_injective
    (top : polynomial.msb = true)
    {register other : BitVec width}
    {bits : List Bool}
    (same : bits.foldl (shiftBit polynomial) register =
      bits.foldl (shiftBit polynomial) other) :
    register = other := by
  induction bits generalizing register other with
  | nil => exact same
  | cons bit rest inductionHypothesis =>
    exact shiftBit_injective top (inductionHypothesis same)

/-- As many bits as the register holds are told apart. -/
theorem foldl_lowBits_injective
    (top : polynomial.msb = true)
    {register word other : BitVec width}
    (same : (lowBits word width).foldl (shiftBit polynomial) register =
      (lowBits other width).foldl (shiftBit polynomial) register) :
    word = other := by
  have shifted (word : BitVec width) :
      (shiftRegister polynomial)^[width] (register ^^^ word) =
        (lowBits word width).foldl (shiftBit polynomial) register := by
    rw [iterate_shiftRegister, BitVec.ushiftRight_eq_zero (Nat.le_refl _),
      BitVec.xor_zero]
  rw [← shifted, ← shifted] at same
  have injective : Function.Injective (shiftRegister polynomial) :=
    fun _ _ => shiftBit_injective top
  exact (BitVec.xor_right_inj _).mp (injective.iterate width same)

end Bursts

end VendingSystem.Crc
