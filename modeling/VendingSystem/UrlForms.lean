import VendingSystem.EcmaJson

namespace VendingSystem.Ecma

/-!
# URL-encoded forms

`URLSearchParams` splits the bytes of a text at ampersands, takes what stands
before and after the first equals sign of a segment as a name and a value, and
decodes both.  A text of basic characters is its own bytes.
-/

def replacementCharacter : Nat := 0xFFFD

/-- The scalar values of a string; half of a surrogate pair is replaced. -/
def scalarValues : JsString → List Nat
  | [] => []
  | [unit] =>
    [if isLeadingSurrogate unit || isTrailingSurrogate unit then
      replacementCharacter
    else unit]
  | unit :: next :: rest =>
    if isLeadingSurrogate unit && isTrailingSurrogate next then
      (0x10000 + (unit - 0xD800) * 0x400 + (next - 0xDC00)) ::
        scalarValues rest
    else
      (if isLeadingSurrogate unit || isTrailingSurrogate unit then
        replacementCharacter
      else unit) :: scalarValues (next :: rest)

/-- The UTF-8 bytes of a scalar value. -/
def utf8Bytes (scalar : Nat) : List Nat :=
  if scalar < 0x80 then [scalar]
  else if scalar < 0x800 then
    [0xC0 + scalar / 0x40, 0x80 + scalar % 0x40]
  else if scalar < 0x10000 then
    [0xE0 + scalar / 0x1000, 0x80 + scalar / 0x40 % 0x40,
      0x80 + scalar % 0x40]
  else
    [0xF0 + scalar / 0x40000, 0x80 + scalar / 0x1000 % 0x40,
      0x80 + scalar / 0x40 % 0x40, 0x80 + scalar % 0x40]

def utf8Encode (text : JsString) : List Nat :=
  (scalarValues text).flatMap utf8Bytes

/-- A sequence of bytes of which some are still to come. -/
structure Utf8State where
  needed : Nat
  scalar : Nat
  lower : Nat
  upper : Nat
  deriving Repr, DecidableEq

def Utf8State.start : Utf8State where
  needed := 0
  scalar := 0
  lower := 0x80
  upper := 0xBF

/-- The first byte of a sequence: what it decodes to, or what it waits for. -/
def utf8First (byte : Nat) : List Nat × Utf8State :=
  if byte < 0x80 then ([byte], .start)
  else if 0xC2 ≤ byte ∧ byte ≤ 0xDF then
    ([], { Utf8State.start with needed := 1, scalar := byte - 0xC0 })
  else if 0xE0 ≤ byte ∧ byte ≤ 0xEF then
    ([], { needed := 2
           scalar := byte - 0xE0
           lower := if byte = 0xE0 then 0xA0 else 0x80
           upper := if byte = 0xED then 0x9F else 0xBF })
  else if 0xF0 ≤ byte ∧ byte ≤ 0xF4 then
    ([], { needed := 3
           scalar := byte - 0xF0
           lower := if byte = 0xF0 then 0x90 else 0x80
           upper := if byte = 0xF4 then 0x8F else 0xBF })
  else ([replacementCharacter], .start)

/-- One byte; one that does not continue a sequence begins another. -/
def utf8Step (state : Utf8State) (byte : Nat) : List Nat × Utf8State :=
  if state.needed = 0 then utf8First byte
  else if state.lower ≤ byte ∧ byte ≤ state.upper then
    let scalar := state.scalar * 0x40 + (byte - 0x80)
    if state.needed = 1 then ([scalar], .start)
    else
      ([], { Utf8State.start with
        needed := state.needed - 1, scalar := scalar })
  else
    let other := utf8First byte
    (replacementCharacter :: other.1, other.2)

/-- The scalar values of some bytes. -/
def utf8Decode (state : Utf8State) : List Nat → List Nat
  | [] => if state.needed = 0 then [] else [replacementCharacter]
  | byte :: rest =>
    let stepped := utf8Step state byte
    stepped.1 ++ utf8Decode stepped.2 rest

/-- The code units of a scalar value. -/
def scalarUnits (scalar : Nat) : JsString :=
  if scalar < 0x10000 then [scalar]
  else
    [0xD800 + (scalar - 0x10000) / 0x400,
      0xDC00 + (scalar - 0x10000) % 0x400]

/-- Bytes with their percent escapes replaced; other percent signs stay. -/
def percentDecode : List Nat → List Nat
  | byte :: high :: low :: rest =>
    if byte = '%'.toNat then
      match hexValue high, hexValue low with
      | some high, some low => (high * 16 + low) :: percentDecode rest
      | _, _ => byte :: percentDecode (high :: low :: rest)
    else byte :: percentDecode (high :: low :: rest)
  | bytes => bytes

/-- A name or a value of a form, from its bytes. -/
def decodeComponent (bytes : List Nat) : JsString :=
  (utf8Decode .start (percentDecode (bytes.map fun byte =>
    if byte = '+'.toNat then 32 else byte))).flatMap scalarUnits

/-- The name and the value of one segment. -/
def formEntry (segment : List Nat) : JsString × JsString :=
  (decodeComponent (segment.takeWhile (· != '='.toNat)),
    decodeComponent ((segment.dropWhile (· != '='.toNat)).drop 1))

/-- A leading question mark belongs to no name. -/
def withoutMark (text : JsString) : JsString :=
  if text.head? = some '?'.toNat then text.tail else text

/-- The entries of `new URLSearchParams(text)`. -/
def formEntries (text : JsString) : List (JsString × JsString) :=
  (((utf8Encode (withoutMark text)).splitOn '&'.toNat).filter
    (· != [])).map formEntry

/-- A character of URL-encoded text, which escapes quotation and question marks. -/
def isFormUnit (unit : Nat) : Bool :=
  0x20 < unit && unit < 0x7F && unit != '"'.toNat && unit != '?'.toNat

def IsUrlEncoded (text : JsString) : Prop :=
  ∀ unit ∈ text, isFormUnit unit = true

instance (text : JsString) : Decidable (IsUrlEncoded text) :=
  inferInstanceAs (Decidable (∀ unit ∈ text, isFormUnit unit = true))

variable {text : JsString}

theorem IsUrlEncoded.basic
    (encoded : IsUrlEncoded text) :
    ∀ unit ∈ text, unit < 0x80 := by
  intro unit member
  have isForm := encoded unit member
  simp only [isFormUnit, Bool.and_eq_true, decide_eq_true_eq] at isForm
  omega

theorem IsUrlEncoded.not_mem
    {unit : Nat}
    (encoded : IsUrlEncoded text)
    (other : isFormUnit unit = false) :
    unit ∉ text := by
  intro member
  rw [encoded unit member] at other
  cases other

theorem scalarValues_basic
    (basic : ∀ unit ∈ text, unit < 0x80) :
    scalarValues text = text := by
  induction text using scalarValues.induct with
  | case1 => rfl
  | case2 unit =>
    have small := basic unit List.mem_cons_self
    rw [scalarValues, if_neg]
    simp only [isLeadingSurrogate, isTrailingSurrogate,
      Bool.or_eq_true, Bool.and_eq_true, decide_eq_true_eq]
    omega
  | case3 unit next rest paired _ =>
    have small := basic unit List.mem_cons_self
    simp only [isLeadingSurrogate, Bool.and_eq_true,
      decide_eq_true_eq] at paired
    omega
  | case4 unit next rest unpaired inductionHypothesis =>
    have small := basic unit List.mem_cons_self
    rw [scalarValues, if_neg unpaired,
      inductionHypothesis fun unit member =>
        basic unit (List.mem_cons_of_mem _ member),
      if_neg]
    simp only [isLeadingSurrogate, isTrailingSurrogate,
      Bool.or_eq_true, Bool.and_eq_true, decide_eq_true_eq]
    omega

theorem utf8Encode_basic
    (basic : ∀ unit ∈ text, unit < 0x80) :
    utf8Encode text = text := by
  rw [utf8Encode, scalarValues_basic basic]
  induction text with
  | nil => rfl
  | cons unit rest inductionHypothesis =>
    rw [List.forall_mem_cons] at basic
    rw [List.flatMap_cons, inductionHypothesis basic.2, utf8Bytes,
      if_pos basic.1]
    rfl

theorem formEntries_encoded
    (encoded : IsUrlEncoded text) :
    formEntries text =
      ((text.splitOn '&'.toNat).filter (· != [])).map formEntry := by
  have noMark : withoutMark text = text := by
    refine if_neg ?_
    intro marked
    exact encoded.not_mem (by decide) (List.mem_of_mem_head? marked)
  rw [formEntries, noMark, utf8Encode_basic encoded.basic]

/-- The same segment, or two with the same name whose values may differ. -/
def SegmentsAlike
    (mayDiffer : JsString → JsString → JsString → Prop)
    (first second : JsString) : Prop :=
  first = second ∨
    ∃ name value other, '='.toNat ∉ name ∧
      first = name ++ '='.toNat :: value ∧
      second = name ++ '='.toNat :: other ∧
      mayDiffer (decodeComponent name) (decodeComponent value)
        (decodeComponent other)

/-- URL-encoded forms with the same names whose values may differ. -/
structure FormsAlike
    (mayDiffer : JsString → JsString → JsString → Prop)
    (first second : JsString) : Prop where
  firstEncoded : IsUrlEncoded first
  secondEncoded : IsUrlEncoded second
  segments : List.Forall₂ (SegmentsAlike mayDiffer)
    (first.splitOn '&'.toNat) (second.splitOn '&'.toNat)

/-- The same entry, or one under the same name. -/
def EntriesAlike
    (mayDiffer : JsString → JsString → JsString → Prop)
    (first second : JsString × JsString) : Prop :=
  first = second ∨
    first.1 = second.1 ∧ mayDiffer first.1 first.2 second.2

section Forms

variable {mayDiffer : JsString → JsString → JsString → Prop}
  {first second : JsString} {firsts seconds : List JsString}

theorem formEntry_split
    {name : JsString}
    (noEquals : '='.toNat ∉ name)
    (value : JsString) :
    formEntry (name ++ '='.toNat :: value) =
      (decodeComponent name, decodeComponent value) := by
  have before : ∀ unit ∈ name, (unit != '='.toNat) = true := by
    intro unit member
    rw [bne_iff_ne]
    rintro rfl
    exact noEquals member
  unfold formEntry
  rw [List.takeWhile_append_of_pos before,
    List.dropWhile_append_of_pos before,
    List.takeWhile_cons_of_neg (by simp),
    List.dropWhile_cons_of_neg (by simp)]
  simp

theorem SegmentsAlike.entries
    (alike : SegmentsAlike mayDiffer first second) :
    EntriesAlike mayDiffer (formEntry first) (formEntry second) := by
  rcases alike with rfl | ⟨name, value, other, noEquals, rfl, rfl, differ⟩
  · exact Or.inl rfl
  · rw [formEntry_split noEquals, formEntry_split noEquals]
    exact Or.inr ⟨rfl, differ⟩

theorem SegmentsAlike.empty_iff
    (alike : SegmentsAlike mayDiffer first second) :
    first = [] ↔ second = [] := by
  rcases alike with rfl | ⟨name, value, other, _, rfl, rfl, _⟩
  · exact Iff.rfl
  · simp

theorem segments_entries
    (segments : List.Forall₂ (SegmentsAlike mayDiffer) firsts seconds) :
    List.Forall₂ (EntriesAlike mayDiffer)
      ((firsts.filter (· != [])).map formEntry)
      ((seconds.filter (· != [])).map formEntry) := by
  induction segments with
  | nil => exact .nil
  | @cons first second firsts seconds segment _ inductionHypothesis =>
    by_cases empty : first = []
    · rw [List.filter_cons_of_neg (by simp [empty]),
        List.filter_cons_of_neg (by simp [segment.empty_iff.mp empty])]
      exact inductionHypothesis
    · have alsoFull : second ≠ [] := fun none =>
        empty (segment.empty_iff.mpr none)
      rw [List.filter_cons_of_pos (by simp [empty]),
        List.filter_cons_of_pos (by simp [alsoFull])]
      exact .cons segment.entries inductionHypothesis

theorem FormsAlike.entries
    (alike : FormsAlike mayDiffer first second) :
    List.Forall₂ (EntriesAlike mayDiffer)
      (formEntries first) (formEntries second) := by
  rw [formEntries_encoded alike.firstEncoded,
    formEntries_encoded alike.secondEncoded]
  exact segments_entries alike.segments

theorem segments_same_or_equals
    (segments : List.Forall₂ (SegmentsAlike mayDiffer) firsts seconds) :
    firsts = seconds ∨
      ((∃ segment ∈ firsts, '='.toNat ∈ segment) ∧
        ∃ segment ∈ seconds, '='.toNat ∈ segment) := by
  induction segments with
  | nil => exact Or.inl rfl
  | cons segment _ inductionHypothesis =>
    rcases segment with rfl | ⟨name, value, other, _, rfl, rfl, _⟩
    · rcases inductionHypothesis with rfl | ⟨inFirst, inSecond⟩
      · exact Or.inl rfl
      · obtain ⟨first, member, equals⟩ := inFirst
        obtain ⟨second, alsoMember, alsoEquals⟩ := inSecond
        exact Or.inr
          ⟨⟨first, List.mem_cons_of_mem _ member, equals⟩,
            ⟨second, List.mem_cons_of_mem _ alsoMember, alsoEquals⟩⟩
    · exact Or.inr
        ⟨⟨_, List.mem_cons_self,
            List.mem_append_right _ List.mem_cons_self⟩,
          ⟨_, List.mem_cons_self,
            List.mem_append_right _ List.mem_cons_self⟩⟩

theorem mem_of_segment
    {segment : JsString}
    {unit : Nat}
    (isSegment : segment ∈ text.splitOn '&'.toNat)
    (member : unit ∈ segment) :
    unit ∈ text := by
  induction text generalizing segment with
  | nil =>
    rw [List.splitOn_nil, List.mem_singleton] at isSegment
    rw [isSegment] at member
    exact absurd member List.not_mem_nil
  | cons head rest inductionHypothesis =>
    rw [List.splitOn_cons_eq_if_modifyHead] at isSegment
    split at isSegment
    · rcases List.mem_cons.mp isSegment with rfl | later
      · exact absurd member List.not_mem_nil
      · exact List.mem_cons_of_mem _ (inductionHypothesis later member)
    · obtain ⟨first, others, same⟩ :=
        List.exists_cons_of_ne_nil (List.splitOn_ne_nil '&'.toNat rest)
      rw [same, List.modifyHead_cons] at isSegment
      rw [same] at inductionHypothesis
      rcases List.mem_cons.mp isSegment with rfl | later
      · rcases List.mem_cons.mp member with rfl | inFirst
        · exact List.mem_cons_self
        · exact List.mem_cons_of_mem _
            (inductionHypothesis List.mem_cons_self inFirst)
      · exact List.mem_cons_of_mem _
          (inductionHypothesis (List.mem_cons_of_mem _ later) member)

end Forms

/-- Some segment of the text has an equals sign. -/
def HasField (text : JsString) : Prop :=
  ∃ segment ∈ text.splitOn '&'.toNat, '='.toNat ∈ segment

theorem HasField.equals
    (hasField : HasField text) :
    '='.toNat ∈ text := by
  obtain ⟨segment, isSegment, equals⟩ := hasField
  exact mem_of_segment isSegment equals

theorem HasField.formEntries_ne_nil
    (hasField : HasField text)
    (encoded : IsUrlEncoded text) :
    formEntries text ≠ [] := by
  obtain ⟨segment, isSegment, equals⟩ := hasField
  have full : segment ≠ [] := by
    rintro rfl
    exact absurd equals List.not_mem_nil
  rw [formEntries_encoded encoded]
  refine List.ne_nil_of_mem (List.mem_map_of_mem (a := segment) ?_)
  exact List.mem_filter.mpr ⟨isSegment, by simp [full]⟩

theorem FormsAlike.same_or_fields
    {mayDiffer : JsString → JsString → JsString → Prop}
    {first second : JsString}
    (alike : FormsAlike mayDiffer first second) :
    first = second ∨ (HasField first ∧ HasField second) := by
  rcases segments_same_or_equals alike.segments with same | bothFields
  · refine Or.inl ?_
    calc first
        = List.intercalate ['&'.toNat] (first.splitOn '&'.toNat) :=
          (List.intercalate_splitOn '&'.toNat).symm
      _ = List.intercalate ['&'.toNat] (second.splitOn '&'.toNat) := by
          rw [same]
      _ = second := List.intercalate_splitOn '&'.toNat
  · exact Or.inr bothFields

end VendingSystem.Ecma
