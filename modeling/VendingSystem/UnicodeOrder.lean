import Mathlib.Data.List.Lex

namespace VendingSystem

/-!
# The order of texts in UTF-8 and in UTF-16

Both encodings are compared unit by unit.  Each decides the order of two texts
at their first different characters: UTF-8 by the code points, UTF-16 the same
way unless one of the two needs surrogates and the other comes after them.
-/

/-- The bytes of a character in UTF-8. -/
def utf8Units (char : Char) : List Nat :=
  let code := char.toNat
  if code < 0x80 then [code]
  else if code < 0x800 then [0xC0 + code / 64, 0x80 + code % 64]
  else if code < 0x10000 then
    [0xE0 + code / 4096, 0x80 + code / 64 % 64, 0x80 + code % 64]
  else
    [0xF0 + code / 262144, 0x80 + code / 4096 % 64, 0x80 + code / 64 % 64,
      0x80 + code % 64]

/-- The code units of a character in UTF-16. -/
def utf16Units (char : Char) : List Nat :=
  let code := char.toNat
  if code < 0x10000 then [code]
  else
    [0xD800 + (code - 0x10000) / 1024, 0xDC00 + (code - 0x10000) % 1024]

def encodedUnits (encode : Char → List Nat) (text : String) : List Nat :=
  text.toList.flatMap encode

/-- The first characters in which two texts differ. -/
def firstDifference : List Char → List Char → Option (Char × Char)
  | first :: rest, second :: others =>
    if first = second then firstDifference rest others
    else some (first, second)
  | _, _ => none

/-- One character needs surrogates, and the other comes after them. -/
def SurrogateClash (first second : Char) : Prop :=
  (0x10000 ≤ first.toNat ∧ 0xE000 ≤ second.toNat ∧ second.toNat < 0x10000) ∨
    (0x10000 ≤ second.toNat ∧ 0xE000 ≤ first.toNat ∧ first.toNat < 0x10000)

instance (first second : Char) : Decidable (SurrogateClash first second) :=
  inferInstanceAs (Decidable (_ ∨ _))

/-- Different characters decide the order of what begins with them. -/
structure DecidesBy
    (encode : Char → List Nat)
    (before : Char → Char → Prop) : Prop where
  nonempty : ∀ char, encode char ≠ []
  decides : ∀ {first second : Char} (rest other : List Nat),
    first ≠ second →
    (encode first ++ rest < encode second ++ other ↔ before first second)
  total : ∀ {first second : Char},
    first ≠ second → (before first second ↔ ¬ before second first)

theorem append_lt_append_iff (leading rest other : List Nat) :
    leading ++ rest < leading ++ other ↔ rest < other := by
  induction leading with
  | nil => rfl
  | cons head tail inductionHypothesis =>
    simp [inductionHypothesis]

variable {first second : List Char} {left right : Char}

theorem firstDifference_ne
    (difference : firstDifference first second = some (left, right)) :
    left ≠ right := by
  induction first generalizing second with
  | nil => cases difference
  | cons head tail inductionHypothesis =>
    cases second with
    | nil => cases difference
    | cons other others =>
      rw [firstDifference] at difference
      split at difference
      · exact inductionHypothesis difference
      · next differs =>
          cases difference
          exact differs

theorem firstDifference_comm
    (difference : firstDifference first second = some (left, right)) :
    firstDifference second first = some (right, left) := by
  induction first generalizing second with
  | nil => cases difference
  | cons head tail inductionHypothesis =>
    cases second with
    | nil => cases difference
    | cons other others =>
      rw [firstDifference] at difference ⊢
      split at difference
      · next same =>
          rw [if_pos same.symm]
          exact inductionHypothesis difference
      · next differs =>
          cases difference
          rw [if_neg (Ne.symm differs)]

theorem firstDifference_none_comm :
    firstDifference first second = none ↔
      firstDifference second first = none := by
  have one {first second : List Char}
      (noDifference : firstDifference first second = none) :
      firstDifference second first = none := by
    cases other : firstDifference second first with
    | none => rfl
    | some pair =>
      cases noDifference.symm.trans (firstDifference_comm other)
  exact ⟨one, one⟩

theorem eq_of_noDifference
    (noDifference : firstDifference first second = none)
    (sameLength : first.length = second.length) : first = second := by
  induction first generalizing second with
  | nil => exact (List.eq_nil_of_length_eq_zero sameLength.symm).symm
  | cons head tail inductionHypothesis =>
    cases second with
    | nil => cases sameLength
    | cons other others =>
      rw [firstDifference] at noDifference
      split at noDifference
      · next same =>
          rw [same, inductionHypothesis noDifference
            (Nat.succ.inj sameLength)]
      · cases noDifference

section Decides

variable
  {encode : Char → List Nat}
  {before : Char → Char → Prop}
  (decided : DecidesBy encode before)
include decided

theorem encoded_lt_iff
    (difference : firstDifference first second = some (left, right)) :
    first.flatMap encode < second.flatMap encode ↔ before left right := by
  induction first generalizing second with
  | nil => cases difference
  | cons head tail inductionHypothesis =>
    cases second with
    | nil => cases difference
    | cons other others =>
      rw [firstDifference] at difference
      rw [List.flatMap_cons, List.flatMap_cons]
      split at difference
      · next same =>
          subst same
          rw [append_lt_append_iff]
          exact inductionHypothesis difference
      · next differs =>
          cases difference
          exact decided.decides _ _ differs

theorem encoded_lt_iff_length
    (noDifference : firstDifference first second = none) :
    first.flatMap encode < second.flatMap encode ↔
      first.length < second.length := by
  induction first generalizing second with
  | nil =>
    cases second with
    | nil => simp
    | cons other others =>
      obtain ⟨unit, units, isUnits⟩ :=
        List.exists_cons_of_ne_nil (decided.nonempty other)
      simp [List.flatMap_cons, isUnits]
  | cons head tail inductionHypothesis =>
    cases second with
    | nil => simp
    | cons other others =>
      rw [firstDifference] at noDifference
      split at noDifference
      · next same =>
          subst same
          rw [List.flatMap_cons, List.flatMap_cons, append_lt_append_iff,
            inductionHypothesis noDifference]
          simp
      · cases noDifference

theorem encodedUnits_injective :
    Function.Injective (encodedUnits encode) := by
  intro first second same
  apply String.toList_injective
  have notBefore : ¬ first.toList.flatMap encode <
      second.toList.flatMap encode := by
    rw [show first.toList.flatMap encode = second.toList.flatMap encode
      from same]
    exact List.lt_irrefl _
  have notAfter : ¬ second.toList.flatMap encode <
      first.toList.flatMap encode := by
    rw [show first.toList.flatMap encode = second.toList.flatMap encode
      from same]
    exact List.lt_irrefl _
  cases difference : firstDifference first.toList second.toList with
  | none =>
    rw [encoded_lt_iff_length decided difference] at notBefore
    rw [encoded_lt_iff_length decided
      (firstDifference_none_comm.mp difference)] at notAfter
    exact eq_of_noDifference difference (by omega)
  | some pair =>
    obtain ⟨left, right⟩ := pair
    rw [encoded_lt_iff decided difference] at notBefore
    rw [encoded_lt_iff decided (firstDifference_comm difference)] at notAfter
    exact absurd
      ((decided.total (firstDifference_ne difference)).mpr notAfter) notBefore

end Decides

theorem utf8_decides :
    DecidesBy utf8Units fun first second => first.toNat < second.toNat where
  nonempty char := by
    unfold utf8Units
    simp only
    split_ifs <;> simp
  decides {first second} rest other differs := by
    have codes : first.toNat ≠ second.toNat := fun same =>
      differs (Char.toNat_inj.mp same)
    unfold utf8Units
    simp only
    by_cases later : rest < other <;> split_ifs <;>
      simp [List.cons_lt_cons_iff, later] <;> omega
  total {first second} differs := by
    have codes : first.toNat ≠ second.toNat := fun same =>
      differs (Char.toNat_inj.mp same)
    omega

theorem code_cases (char : Char) :
    char.toNat < 0xD800 ∨ (0xE000 ≤ char.toNat ∧ char.toNat < 0x110000) := by
  rcases char.valid with low | ⟨above, high⟩
  · exact .inl low
  · exact .inr ⟨Nat.succ_le_of_lt above, high⟩

/-- How UTF-16 orders two characters. -/
def beforeInUtf16 (first second : Char) : Prop :=
  (SurrogateClash first second ∧ second.toNat < first.toNat) ∨
    (¬ SurrogateClash first second ∧ first.toNat < second.toNat)

theorem utf16_decides : DecidesBy utf16Units beforeInUtf16 where
  nonempty char := by
    unfold utf16Units
    simp only
    split_ifs <;> simp
  decides {first second} rest other differs := by
    have codes : first.toNat ≠ second.toNat := fun same =>
      differs (Char.toNat_inj.mp same)
    have firstCode := code_cases first
    have secondCode := code_cases second
    unfold utf16Units beforeInUtf16 SurrogateClash
    simp only
    by_cases later : rest < other <;> split_ifs <;>
      simp [List.cons_lt_cons_iff, later] <;> omega
  total {first second} differs := by
    have codes : first.toNat ≠ second.toNat := fun same =>
      differs (Char.toNat_inj.mp same)
    unfold beforeInUtf16 SurrogateClash
    omega

/-- UTF-16 orders the texts the other way than UTF-8. -/
def TextsClash (first second : String) : Prop :=
  match firstDifference first.toList second.toList with
  | some (left, right) => SurrogateClash left right
  | none => False

instance (first second : String) : Decidable (TextsClash first second) := by
  unfold TextsClash
  split <;> infer_instance

def precedesInUtf8 (first second : String) : Prop :=
  encodedUnits utf8Units first ≤ encodedUnits utf8Units second

def precedesInUtf16 (first second : String) : Prop :=
  encodedUnits utf16Units first ≤ encodedUnits utf16Units second

theorem precedes_iff_iff (first second : String) :
    (precedesInUtf8 first second ↔ precedesInUtf16 first second) ↔
      ¬ TextsClash first second := by
  unfold precedesInUtf8 precedesInUtf16 encodedUnits TextsClash
  rw [← not_lt, ← not_lt, not_iff_not]
  cases difference : firstDifference first.toList second.toList with
  | none =>
    have reversed := firstDifference_none_comm.mp difference
    rw [encoded_lt_iff_length utf8_decides reversed,
      encoded_lt_iff_length utf16_decides reversed]
    simp
  | some pair =>
    obtain ⟨left, right⟩ := pair
    have reversed := firstDifference_comm difference
    have codes : left.toNat ≠ right.toNat := fun same =>
      firstDifference_ne difference (Char.toNat_inj.mp same)
    rw [encoded_lt_iff utf8_decides reversed,
      encoded_lt_iff utf16_decides reversed]
    unfold beforeInUtf16 SurrogateClash
    simp only
    omega

end VendingSystem
