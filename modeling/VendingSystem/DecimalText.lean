import Mathlib.Algebra.Order.Field.Basic
import Mathlib.Algebra.Order.Ring.Rat
import Mathlib.Data.List.TakeWhile
import Mathlib.Data.Rat.Cast.Defs
import Mathlib.Tactic.Ring
import VendingSystem.Json

namespace VendingSystem

/-!
# Decimal texts of numbers

A finite number other than zero is given by its shortest decimal: a
significand that does not end in zero, and an exponent.  The ECMAScript text
of a number is a function of it, and reading the text gives the number back.
-/

/-- A number other than zero by its shortest decimal. -/
structure Decimal where
  negative : Bool
  significand : Nat
  exponent : Int
  shortest : significand % 10 ≠ 0

/-- A double that is neither infinite nor a NaN. -/
inductive FiniteDouble where
  | zero (negative : Bool)
  | nonzero (decimal : Decimal)

namespace Decimal

variable (decimal : Decimal)

def magnitude : ℚ :=
  decimal.significand * (10 : ℚ) ^ decimal.exponent

def value : ℚ :=
  if decimal.negative then -decimal.magnitude else decimal.magnitude

def digits : Text :=
  Nat.toDigits 10 decimal.significand

/-- The position of the decimal point after the first digit. -/
def point : Int :=
  decimal.digits.length + decimal.exponent

/-- The exponent of the scientific notation. -/
def exponentText : Text :=
  (if 0 < decimal.point then '+' else '-') ::
    Nat.toDigits 10 (decimal.point - 1).natAbs

/-- `Number::toString` of a number without its sign. -/
def magnitudeText : Text :=
  let digits := decimal.digits
  let point := decimal.point
  if digits.length ≤ point ∧ point ≤ 21 then
    digits ++ List.replicate decimal.exponent.toNat '0'
  else if 0 < point ∧ point ≤ 21 then
    digits.take point.toNat ++ '.' :: digits.drop point.toNat
  else if -6 < point ∧ point ≤ 0 then
    '0' :: '.' :: (List.replicate (-point).toNat '0' ++ digits)
  else
    match digits with
    | [digit] => digit :: 'e' :: decimal.exponentText
    | first :: rest => first :: '.' :: (rest ++ 'e' :: decimal.exponentText)
    | [] => []

def text : Text :=
  if decimal.negative then '-' :: decimal.magnitudeText
  else decimal.magnitudeText

end Decimal

def integerText (value : Int) : Text :=
  if value < 0 then '-' :: Nat.toDigits 10 value.natAbs
  else Nat.toDigits 10 value.natAbs

def readDigits (text : Text) : Nat :=
  Nat.ofDigitChars 10 text 0

def readExponent : Text → Int
  | '-' :: text => -readDigits text
  | '+' :: text => readDigits text
  | text => readDigits text

/-- The parts of a text before and after a character. -/
def splitAtChar (char : Char) (text : Text) : Text × Text :=
  (text.takeWhile (· != char), (text.dropWhile (· != char)).drop 1)

def readMantissa (text : Text) : ℚ :=
  let parts := splitAtChar '.' text
  readDigits (parts.1 ++ parts.2) / 10 ^ parts.2.length

def readUnsigned (text : Text) : ℚ :=
  let parts := splitAtChar 'e' text
  readMantissa parts.1 * (10 : ℚ) ^ readExponent parts.2

def readNumber : Text → ℚ
  | '-' :: text => -readUnsigned text
  | text => readUnsigned text

variable {char : Char}

theorem splitAtChar_append
    {before : Text}
    (after : Text)
    (absent : char ∉ before) :
    splitAtChar char (before ++ char :: after) = (before, after) := by
  have all : ∀ other ∈ before, (other != char) = true := fun other member =>
    bne_iff_ne.mpr fun same => absent (same ▸ member)
  simp [splitAtChar, List.takeWhile_append_of_pos all,
    List.dropWhile_append_of_pos all]

theorem splitAtChar_absent
    {text : Text}
    (absent : char ∉ text) :
    splitAtChar char text = (text, []) := by
  have all : ∀ other ∈ text, (other != char) = true := fun other member =>
    bne_iff_ne.mpr fun same => absent (same ▸ member)
  simp only [splitAtChar, List.takeWhile_eq_self_iff.mpr all,
    List.dropWhile_eq_nil_iff.mpr all, List.drop_nil]

/-- A text of digits. -/
def IsDigits (text : Text) : Prop :=
  ∀ char ∈ text, char.isDigit = true

theorem toDigits_isDigits (value : Nat) : IsDigits (Nat.toDigits 10 value) :=
  fun _ member => Nat.isDigit_of_mem_toDigits (by decide) (by decide) member

theorem replicate_isDigits (count : Nat) :
    IsDigits (List.replicate count '0') := by
  intro char member
  rw [List.eq_of_mem_replicate member]
  rfl

theorem IsDigits.append
    {first second : Text}
    (ofFirst : IsDigits first)
    (ofSecond : IsDigits second) : IsDigits (first ++ second) := by
  intro char member
  rcases List.mem_append.mp member with inFirst | inSecond
  · exact ofFirst char inFirst
  · exact ofSecond char inSecond

theorem IsDigits.absent
    {text : Text}
    (digits : IsDigits text)
    (notDigit : char.isDigit = false) : char ∉ text := by
  intro member
  rw [digits char member] at notDigit
  cases notDigit

theorem readDigits_append_zeros (text : Text) (count : Nat) :
    readDigits (text ++ List.replicate count '0') =
      10 ^ count * readDigits text := by
  rw [readDigits, Nat.ofDigitChars_append,
    Nat.ofDigitChars_replicate_zero]
  rfl

theorem readDigits_zeros_append (count : Nat) (text : Text) :
    readDigits (List.replicate count '0' ++ text) = readDigits text := by
  rw [readDigits, Nat.ofDigitChars_append,
    Nat.ofDigitChars_replicate_zero]
  rfl

@[simp] theorem readDigits_toDigits (value : Nat) :
    readDigits (Nat.toDigits 10 value) = value :=
  Nat.ofDigitChars_ten_toDigits

theorem readMantissa_digits
    {text : Text}
    (digits : IsDigits text) : readMantissa text = readDigits text := by
  simp [readMantissa,
    splitAtChar_absent (digits.absent (rfl : '.'.isDigit = false))]

theorem readMantissa_point
    {whole fraction : Text}
    (digits : IsDigits whole) :
    readMantissa (whole ++ '.' :: fraction) =
      readDigits (whole ++ fraction) / 10 ^ fraction.length := by
  simp [readMantissa, splitAtChar_append fraction
    (digits.absent (rfl : '.'.isDigit = false))]

theorem readUnsigned_mantissa
    {text : Text}
    (absent : 'e' ∉ text) : readUnsigned text = readMantissa text := by
  simp [readUnsigned, splitAtChar_absent absent, readExponent, readDigits]

theorem readUnsigned_exponent
    {mantissa : Text}
    (exponent : Text)
    (absent : 'e' ∉ mantissa) :
    readUnsigned (mantissa ++ 'e' :: exponent) =
      readMantissa mantissa * (10 : ℚ) ^ readExponent exponent := by
  simp [readUnsigned, splitAtChar_append exponent absent]

namespace Decimal

section Reading

variable (decimal : Decimal)

theorem digits_isDigits : IsDigits decimal.digits :=
  toDigits_isDigits _

theorem digits_ne_nil : decimal.digits ≠ [] :=
  Nat.toDigits_ne_nil

theorem readDigits_digits : readDigits decimal.digits = decimal.significand :=
  readDigits_toDigits _

theorem significand_pos : 0 < decimal.significand := by
  have shortest := decimal.shortest
  omega

end Reading

variable {decimal : Decimal}

theorem readUnsigned_whole
    (whole : (decimal.digits.length : Int) ≤ decimal.point) :
    readUnsigned
        (decimal.digits ++ List.replicate decimal.exponent.toNat '0') =
      decimal.magnitude := by
  have digits := decimal.digits_isDigits.append
    (replicate_isDigits decimal.exponent.toNat)
  have exponent : (decimal.exponent.toNat : Int) = decimal.exponent := by
    unfold point at whole
    omega
  have power : (10 : ℚ) ^ decimal.exponent =
      10 ^ decimal.exponent.toNat := by
    rw [← zpow_natCast, exponent]
  rw [readUnsigned_mantissa (digits.absent (rfl : 'e'.isDigit = false)),
    readMantissa_digits digits, readDigits_append_zeros, readDigits_digits,
    magnitude, power]
  push_cast
  ring

theorem readUnsigned_split
    (positive : 0 < decimal.point)
    (fractional : decimal.point < decimal.digits.length) :
    readUnsigned
        (decimal.digits.take decimal.point.toNat ++
          '.' :: decimal.digits.drop decimal.point.toNat) =
      decimal.magnitude := by
  have digits := decimal.digits_isDigits
  have whole : IsDigits (decimal.digits.take decimal.point.toNat) :=
    fun char member => digits char (List.mem_of_mem_take member)
  have fraction : IsDigits (decimal.digits.drop decimal.point.toNat) :=
    fun char member => digits char (List.mem_of_mem_drop member)
  have absent : 'e' ∉ decimal.digits.take decimal.point.toNat ++
      '.' :: decimal.digits.drop decimal.point.toNat := by
    simp [whole.absent (rfl : 'e'.isDigit = false),
      fraction.absent (rfl : 'e'.isDigit = false)]
  have length : ((decimal.digits.drop decimal.point.toNat).length : Int) =
      -decimal.exponent := by
    rw [List.length_drop]
    unfold point at *
    omega
  rw [readUnsigned_mantissa absent, readMantissa_point whole,
    List.take_append_drop, readDigits_digits, magnitude,
    show decimal.exponent = -((decimal.digits.drop
      decimal.point.toNat).length : Int) by omega, zpow_neg, zpow_natCast]
  rfl

theorem readUnsigned_leadingZeros
    (notPositive : decimal.point ≤ 0) :
    readUnsigned
        ('0' :: '.' :: (List.replicate (-decimal.point).toNat '0' ++
          decimal.digits)) =
      decimal.magnitude := by
  have digits := decimal.digits_isDigits
  have fraction : IsDigits (List.replicate (-decimal.point).toNat '0' ++
      decimal.digits) := (replicate_isDigits _).append digits
  have absent : 'e' ∉ '0' :: '.' ::
      (List.replicate (-decimal.point).toNat '0' ++ decimal.digits) := by
    simp [digits.absent (rfl : 'e'.isDigit = false)]
  have length : ((List.replicate (-decimal.point).toNat '0' ++
      decimal.digits).length : Int) = -decimal.exponent := by
    simp only [List.length_append, List.length_replicate]
    unfold point at *
    omega
  have whole : IsDigits ['0'] := toDigits_isDigits 0
  have zero : ['0'] ++ (List.replicate (-decimal.point).toNat '0' ++
      decimal.digits) =
      List.replicate ((-decimal.point).toNat + 1) '0' ++ decimal.digits := by
    simp [List.replicate_succ]
  have read := @readMantissa_point ['0']
    (List.replicate (-decimal.point).toNat '0' ++ decimal.digits) whole
  rw [readUnsigned_mantissa absent]
  refine read.trans ?_
  rw [zero, readDigits_zeros_append, readDigits_digits, magnitude,
    show decimal.exponent = -((List.replicate (-decimal.point).toNat '0' ++
      decimal.digits).length : Int) by omega, zpow_neg, zpow_natCast]
  rfl

theorem readExponent_exponentText :
    readExponent decimal.exponentText = decimal.point - 1 := by
  unfold exponentText
  split
  · simp only [readExponent, readDigits_toDigits]
    omega
  · simp only [readExponent, readDigits_toDigits]
    omega

theorem readUnsigned_scientific
    {first : Char}
    {rest : Text}
    (isDigits : decimal.digits = first :: rest)
    (exponent : Text)
    (isExponent : readExponent exponent = decimal.point - 1) :
    readUnsigned (first :: '.' :: (rest ++ 'e' :: exponent)) =
      decimal.magnitude := by
  have digits := decimal.digits_isDigits
  rw [isDigits] at digits
  have whole : IsDigits [first] := fun char member => by
    rw [List.mem_singleton.mp member]
    exact digits first List.mem_cons_self
  have fraction : IsDigits rest := fun char member =>
    digits char (List.mem_cons_of_mem _ member)
  have absent : 'e' ∉ first :: '.' :: rest := by
    have notFirst := whole.absent (rfl : 'e'.isDigit = false)
    simp only [List.mem_singleton] at notFirst
    simp [notFirst, fraction.absent (rfl : 'e'.isDigit = false)]
  have read := @readMantissa_point [first] rest whole
  have length : decimal.exponent = decimal.point - 1 - rest.length := by
    unfold point
    rw [isDigits, List.length_cons]
    push_cast
    omega
  have significand := decimal.readDigits_digits
  rw [isDigits] at significand
  refine (readUnsigned_exponent exponent absent).trans ?_
  have power : (10 : ℚ) ^ decimal.exponent =
      10 ^ (decimal.point - 1) / 10 ^ rest.length := by
    rw [length, zpow_sub₀ (by norm_num), zpow_natCast]
  rw [show readMantissa (first :: '.' :: rest) = _ from read,
    List.singleton_append, significand, isExponent, magnitude, power]
  ring

theorem readUnsigned_oneDigit
    {digit : Char}
    (isDigits : decimal.digits = [digit])
    (exponent : Text)
    (isExponent : readExponent exponent = decimal.point - 1) :
    readUnsigned (digit :: 'e' :: exponent) = decimal.magnitude := by
  have digits := decimal.digits_isDigits
  rw [isDigits] at digits
  have significand := decimal.readDigits_digits
  rw [isDigits] at significand
  have length : decimal.exponent = decimal.point - 1 := by
    unfold point
    rw [isDigits, List.length_singleton]
    omega
  refine (readUnsigned_exponent exponent
    (digits.absent (rfl : 'e'.isDigit = false))).trans ?_
  rw [readMantissa_digits digits, significand, isExponent, magnitude, length]

theorem readUnsigned_magnitudeText :
    readUnsigned decimal.magnitudeText = decimal.magnitude := by
  unfold magnitudeText
  simp only
  split_ifs with whole split leading
  · exact readUnsigned_whole whole.1
  · exact readUnsigned_split split.1 (by omega)
  · exact readUnsigned_leadingZeros leading.2
  · split
    · next digit isDigits =>
        exact readUnsigned_oneDigit isDigits _ readExponent_exponentText
    · next first rest _ isDigits =>
        exact readUnsigned_scientific isDigits _ readExponent_exponentText
    · next isDigits => exact absurd isDigits decimal.digits_ne_nil

end Decimal

def IsNumberText (text : Text) : Prop :=
  text ≠ [] ∧ ∀ char ∈ text, isNumberChar char = true

theorem IsDigits.numberChars
    {text : Text}
    (digits : IsDigits text) : ∀ char ∈ text, isNumberChar char = true := by
  intro char member
  simp [isNumberChar, digits char member]

theorem isNumberText_negative
    {text : Text}
    (number : IsNumberText text) : IsNumberText ('-' :: text) := by
  refine ⟨List.cons_ne_nil _ _, fun char member => ?_⟩
  rcases List.mem_cons.mp member with rfl | later
  · rfl
  · exact number.2 char later

theorem integerText_isNumberText (value : Int) :
    IsNumberText (integerText value) := by
  have digits : IsNumberText (Nat.toDigits 10 value.natAbs) :=
    ⟨Nat.toDigits_ne_nil, (toDigits_isDigits _).numberChars⟩
  unfold integerText
  split
  · exact isNumberText_negative digits
  · exact digits

theorem Decimal.exponentText_numberChars (decimal : Decimal) :
    ∀ char ∈ decimal.exponentText, isNumberChar char = true := by
  intro char member
  rcases List.mem_cons.mp member with isSign | inDigits
  · rw [isSign]
    split <;> rfl
  · exact (toDigits_isDigits _).numberChars char inDigits

theorem Decimal.magnitudeText_isNumberText (decimal : Decimal) :
    IsNumberText decimal.magnitudeText := by
  have digits := decimal.digits_isDigits.numberChars
  have zeros (count : Nat) := (replicate_isDigits count).numberChars
  have exponent := decimal.exponentText_numberChars
  unfold magnitudeText
  simp only
  split_ifs with whole split leading
  · refine ⟨by simp [decimal.digits_ne_nil], fun char member => ?_⟩
    rcases List.mem_append.mp member with inDigits | inZeros
    · exact digits char inDigits
    · exact zeros _ char inZeros
  · refine ⟨by simp, fun char member => ?_⟩
    rcases List.mem_append.mp member with before | after
    · exact digits char (List.mem_of_mem_take before)
    · rcases List.mem_cons.mp after with rfl | later
      · rfl
      · exact digits char (List.mem_of_mem_drop later)
  · refine ⟨by simp, fun char member => ?_⟩
    simp only [List.mem_cons, List.mem_append] at member
    rcases member with rfl | rfl | inZeros | inDigits
    · rfl
    · rfl
    · exact zeros _ char inZeros
    · exact digits char inDigits
  · split
    · next digit isDigits =>
        refine ⟨by simp, fun char member => ?_⟩
        simp only [List.mem_cons] at member
        rcases member with rfl | rfl | inExponent
        · exact digits _ (by rw [isDigits]; exact List.mem_cons_self)
        · rfl
        · exact exponent char inExponent
    · next first rest _ isDigits =>
        refine ⟨by simp, fun char member => ?_⟩
        simp only [List.mem_cons, List.mem_append] at member
        rcases member with rfl | rfl | inRest | rfl | inExponent
        · exact digits _ (by rw [isDigits]; exact List.mem_cons_self)
        · rfl
        · exact digits char
            (by rw [isDigits]; exact List.mem_cons_of_mem _ inRest)
        · rfl
        · exact exponent char inExponent
    · next isDigits => exact absurd isDigits decimal.digits_ne_nil

theorem Decimal.text_isNumberText (decimal : Decimal) :
    IsNumberText decimal.text := by
  unfold text
  split
  · exact isNumberText_negative decimal.magnitudeText_isNumberText
  · exact decimal.magnitudeText_isNumberText

theorem readNumber_unsigned
    {text : Text}
    (unsigned : text.head? ≠ some '-') : readNumber text = readUnsigned text := by
  cases text with
  | nil => rfl
  | cons head tail =>
    unfold readNumber
    split
    · next tail isMinus =>
        cases isMinus
        exact absurd rfl unsigned
    · rfl

theorem IsDigits.unsigned
    {text : Text}
    (digits : IsDigits text)
    (rest : Text)
    (nonempty : text ≠ []) : (text ++ rest).head? ≠ some '-' := by
  cases text with
  | nil => exact absurd rfl nonempty
  | cons head tail =>
    intro isMinus
    cases isMinus
    cases digits '-' List.mem_cons_self

theorem readNumber_integerText (value : Int) :
    readNumber (integerText value) = value := by
  have digits := toDigits_isDigits value.natAbs
  have unsigned := digits.unsigned [] Nat.toDigits_ne_nil
  rw [List.append_nil] at unsigned
  have read : readUnsigned (Nat.toDigits 10 value.natAbs) =
      (value.natAbs : ℚ) := by
    rw [readUnsigned_mantissa (digits.absent (rfl : 'e'.isDigit = false)),
      readMantissa_digits digits, readDigits_toDigits]
  unfold integerText
  split
  · next negative =>
      rw [readNumber, read, ← Int.cast_natCast value.natAbs,
        Int.ofNat_natAbs_of_nonpos (le_of_lt negative)]
      push_cast
      ring
  · next notNegative =>
      rw [readNumber_unsigned unsigned, read,
        ← Int.cast_natCast value.natAbs,
        Int.natAbs_of_nonneg (not_lt.mp notNegative)]

namespace Decimal

variable (decimal : Decimal)

theorem magnitudeText_unsigned : decimal.magnitudeText.head? ≠ some '-' := by
  have digits := decimal.digits_isDigits
  have unsigned (rest : Text) := digits.unsigned rest decimal.digits_ne_nil
  unfold magnitudeText
  simp only
  split_ifs with whole split leading
  · exact unsigned _
  · refine IsDigits.unsigned
      (fun char member => digits char (List.mem_of_mem_take member)) _ ?_
    rw [Ne, List.take_eq_nil_iff, not_or]
    exact ⟨by omega, decimal.digits_ne_nil⟩
  · simp
  · split
    · next digit isDigits =>
        rw [isDigits] at unsigned
        exact unsigned _
    · next first rest _ isDigits =>
        rw [isDigits] at unsigned
        simpa using unsigned []
    · simp

theorem readNumber_text : readNumber decimal.text = decimal.value := by
  unfold text value
  split
  · rw [readNumber, readUnsigned_magnitudeText]
  · rw [readNumber_unsigned decimal.magnitudeText_unsigned,
      readUnsigned_magnitudeText]

end Decimal

theorem toDigits_mul_ten_pow
    {significand : Nat}
    (positive : 0 < significand)
    (count : Nat) :
    Nat.toDigits 10 (significand * 10 ^ count) =
      Nat.toDigits 10 significand ++ List.replicate count '0' := by
  induction count with
  | zero => simp
  | succ count inductionHypothesis =>
    have shifted := @Nat.toDigits_append_toDigits 10
      (significand * 10 ^ count) 0 (by decide)
      (Nat.mul_pos positive (Nat.pow_pos (by decide))) (by decide)
    rw [show significand * 10 ^ (count + 1) =
        10 * (significand * 10 ^ count) + 0 by ring,
      ← shifted, inductionHypothesis, List.append_assoc,
      List.replicate_succ']
    rfl

namespace Decimal

variable {decimal : Decimal}

theorem magnitude_pos : 0 < decimal.magnitude := by
  have positive : (0 : ℚ) < decimal.significand :=
    Nat.cast_pos.mpr decimal.significand_pos
  exact mul_pos positive (zpow_pos (by norm_num) _)

theorem value_abs : |decimal.value| = decimal.magnitude := by
  unfold value
  split
  · rw [abs_neg, abs_of_pos magnitude_pos]
  · exact abs_of_pos magnitude_pos

theorem negative_iff : decimal.negative = true ↔ decimal.value < 0 := by
  have positive : 0 < decimal.magnitude := magnitude_pos
  unfold value
  cases decimal.negative
  · simp [le_of_lt positive]
  · simpa using positive

/-- A shortest decimal that is an integer has no digits after the point. -/
theorem exponent_nonneg
    {value : Nat}
    (isValue : decimal.magnitude = value) : 0 ≤ decimal.exponent := by
  by_contra negative
  obtain ⟨count, isCount⟩ : ∃ count : Nat,
      decimal.exponent = -((count : Int) + 1) :=
    ⟨(-decimal.exponent - 1).toNat, by omega⟩
  have power : (10 : ℚ) ^ decimal.exponent * 10 ^ (count + 1) = 1 := by
    rw [isCount, ← zpow_natCast, ← zpow_add₀ (by norm_num)]
    simp
  have scaled : (decimal.significand : ℚ) = value * 10 ^ (count + 1) := by
    rw [← isValue, magnitude, mul_assoc, power, mul_one]
  have significand : decimal.significand = value * 10 ^ (count + 1) := by
    exact_mod_cast scaled
  apply decimal.shortest
  rw [significand, pow_succ, ← mul_assoc, Nat.mul_mod_left]

theorem significand_mul
    {value : Nat}
    (isValue : decimal.magnitude = value) :
    value = decimal.significand * 10 ^ decimal.exponent.toNat := by
  have power : (10 : ℚ) ^ decimal.exponent =
      10 ^ decimal.exponent.toNat := by
    rw [← zpow_natCast, Int.toNat_of_nonneg (exponent_nonneg isValue)]
  have scaled : (value : ℚ) =
      decimal.significand * 10 ^ decimal.exponent.toNat := by
    rw [← isValue, magnitude, power]
  exact_mod_cast scaled

theorem magnitudeText_of_integer
    {value : Nat}
    (isValue : decimal.magnitude = value)
    (bounded : value < 10 ^ 21) :
    decimal.magnitudeText = Nat.toDigits 10 value := by
  have digits : Nat.toDigits 10 value =
      decimal.digits ++ List.replicate decimal.exponent.toNat '0' := by
    rw [significand_mul isValue]
    exact toDigits_mul_ten_pow decimal.significand_pos _
  have length := (Nat.length_toDigits_le_iff (by decide) (by decide)).mpr
    bounded
  rw [digits, List.length_append, List.length_replicate] at length
  have nonneg := exponent_nonneg isValue
  have whole : (decimal.digits.length : Int) ≤ decimal.point ∧
      decimal.point ≤ 21 := by
    unfold point
    omega
  unfold magnitudeText
  rw [if_pos whole, digits]

theorem integerText_eq_text_iff
    {value : Int}
    (bounded : value.natAbs < 10 ^ 21) :
    integerText value = decimal.text ↔ decimal.value = value := by
  constructor
  · intro same
    rw [← readNumber_text, ← same, readNumber_integerText]
  · intro isValue
    have magnitude : decimal.magnitude = value.natAbs := by
      rw [← value_abs, isValue, ← Int.cast_abs, Int.abs_eq_natAbs]
      rfl
    have sign : decimal.negative = true ↔ value < 0 := by
      rw [negative_iff, isValue]
      exact Int.cast_lt_zero
    unfold integerText text
    simp only [← sign, magnitudeText_of_integer magnitude bounded]

end Decimal

namespace FiniteDouble

/-- `Number::toString`. -/
def text : FiniteDouble → Text
  | .zero _ => ['0']
  | .nonzero decimal => decimal.text

def value : FiniteDouble → ℚ
  | .zero _ => 0
  | .nonzero decimal => decimal.value

theorem text_isNumberText (double : FiniteDouble) :
    IsNumberText double.text := by
  cases double with
  | zero negative => exact integerText_isNumberText 0
  | nonzero decimal => exact decimal.text_isNumberText

theorem readNumber_text (double : FiniteDouble) :
    readNumber double.text = double.value := by
  cases double with
  | zero negative => exact readNumber_integerText 0
  | nonzero decimal => exact decimal.readNumber_text

theorem integerText_eq_text_iff
    {double : FiniteDouble}
    {value : Int}
    (bounded : value.natAbs < 10 ^ 21) :
    integerText value = double.text ↔ double.value = value := by
  cases double with
  | zero negative =>
    constructor
    · intro same
      rw [← readNumber_text, ← same, readNumber_integerText]
    · intro isZero
      rw [show value = 0 from Int.cast_eq_zero.mp isZero.symm]
      rfl
  | nonzero decimal => exact decimal.integerText_eq_text_iff bounded

end FiniteDouble

end VendingSystem
