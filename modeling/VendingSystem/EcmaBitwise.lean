import VendingSystem.ReflectedCrc

namespace VendingSystem.Ecma

/-!
# Bitwise operators of a script engine

The operators take the low 32 bits of an integer.  Their result is signed,
except that of the unsigned shift.
-/

/-- The low 32 bits of an integer, in two's complement. -/
def toBits (value : Int) : BitVec 32 :=
  BitVec.ofInt 32 value

/-- `first ^ second`. -/
def bitXor (first second : Int) : Int :=
  (toBits first ^^^ toBits second).toInt

/-- `first & second`. -/
def bitAnd (first second : Int) : Int :=
  (toBits first &&& toBits second).toInt

/-- `value >>> count`. -/
def unsignedShift (value : Int) (count : Nat) : Int :=
  (toBits value >>> count).toNat

@[simp] theorem toBits_toInt (word : BitVec 32) : toBits word.toInt = word :=
  BitVec.ofInt_toInt

@[simp] theorem toBits_toNat (word : BitVec 32) :
    toBits (word.toNat : Int) = word := by
  rw [toBits, BitVec.ofInt_natCast, BitVec.ofNat_toNat, BitVec.setWidth_eq]

@[simp] theorem toBits_bitXor (first second : Int) :
    toBits (bitXor first second) = toBits first ^^^ toBits second :=
  toBits_toInt _

@[simp] theorem toBits_unsignedShift (value : Int) (count : Nat) :
    toBits (unsignedShift value count) = toBits value >>> count :=
  toBits_toNat _

theorem bitAnd_one (value : Int) :
    bitAnd value 1 ≠ 0 ↔ (toBits value).getLsbD 0 = true := by
  have masked : toBits value &&& toBits 1 =
      (BitVec.ofBool ((toBits value).getLsbD 0)).setWidth 32 :=
    BitVec.and_one_eq_setWidth_ofBool_getLsbD
  rw [bitAnd, masked]
  cases (toBits value).getLsbD 0
  · decide
  · decide

end VendingSystem.Ecma
