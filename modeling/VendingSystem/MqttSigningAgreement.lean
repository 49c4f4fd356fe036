import VendingSystem.MqttSigning

namespace VendingSystem

/-!
# When both runtimes sign the same bytes

Both canonical forms are compact texts with the same escapes, so they are the
same exactly when the sorted values are: every number is written alike, and
no two keys of an object change their order between UTF-8 and UTF-16.
-/

/-- A number that both runtimes write alike. -/
def HeldNumber.WrittenAlike
    (serde : SerdeJson)
    (number : HeldNumber) : Prop :=
  match number.serde with
  | .int value _ => number.js.value = value
  | .float value => serde.float value = number.js.text

/-- No two keys change their order between UTF-8 and UTF-16. -/
def NoClash (keys : List String) : Prop :=
  ∀ first ∈ keys, ∀ second ∈ keys, ¬ TextsClash first second

def HeldJson.WrittenAlike
    (serde : SerdeJson)
    (held : HeldJson) : Prop :=
  held.value.Everywhere (HeldNumber.WrittenAlike serde) NoClash

theorem VendingCore.numberText_isNumberText
    (serde : SerdeJson)
    (number : SerdeNumber) :
    IsNumberText (VendingCore.numberText serde number) := by
  cases number with
  | int value bounded => exact integerText_isNumberText value
  | float value => exact serde.float_isNumber value

namespace HeldNumber

def serdeText (serde : SerdeJson) (number : HeldNumber) : NumberText where
  text := VendingCore.numberText serde number.serde
  nonempty := (VendingCore.numberText_isNumberText serde number.serde).1
  chars := (VendingCore.numberText_isNumberText serde number.serde).2

def jsText (number : HeldNumber) : NumberText where
  text := number.js.text
  nonempty := number.js.text_isNumberText.1
  chars := number.js.text_isNumberText.2

theorem serdeText_eq_jsText_iff
    (serde : SerdeJson)
    (number : HeldNumber) :
    number.serdeText serde = number.jsText ↔ number.WrittenAlike serde := by
  obtain ⟨held, js⟩ := number
  rw [serdeText, jsText, NumberText.mk.injEq]
  cases held with
  | int value bounded =>
    exact FiniteDouble.integerText_eq_text_iff (by omega)
  | float value => exact Iff.rfl

end HeldNumber

theorem utf8_injective : Function.Injective (encodedUnits utf8Units) :=
  encodedUnits_injective utf8_decides

theorem utf16_injective : Function.Injective (encodedUnits utf16Units) :=
  encodedUnits_injective utf16_decides

theorem utf8Bytes_injective : Function.Injective utf8Bytes := by
  intro first second same
  have texts := @utf8_injective (String.ofList first) (String.ofList second)
    (by simpa [encodedUnits, utf8Bytes] using same)
  simpa using congrArg String.toList texts

theorem orderedAlike_iff (keys : List String) :
    Json.OrderedAlike utf8Units utf16Units keys ↔ NoClash keys :=
  forall₂_congr fun first _ => forall₂_congr fun second _ =>
    precedes_iff_iff first second

section Canonical

variable (serde : SerdeJson)

/-- What vending-core writes for a value that both runtimes hold. -/
def serdeWriter : Writer HeldNumber where
  encode := utf8Units
  escape := quoteJsonChar
  number number := VendingCore.numberText serde number.serde

/-- What the shared package writes for it. -/
def jsWriter : Writer HeldNumber where
  encode := utf16Units
  escape := quoteJsonChar
  number number := number.js.text

theorem canonicalJson_serde (value : Json HeldNumber) :
    VendingCore.canonicalJson serde (value.map HeldNumber.serde) =
      value.canonical (serdeWriter serde) := by
  rw [VendingCore.canonicalJson, Json.canonical_map, serdeWriter,
    ← serde.escape_eq]
  rfl

theorem canonicalJson_js (value : Json HeldNumber) :
    Shared.canonicalJson (value.map HeldNumber.inJs) =
      value.canonical jsWriter := by
  rw [Shared.canonicalJson, Json.canonical_map]
  rfl

theorem canonical_eq_iff
    {value : Json HeldNumber}
    (distinctKeys : value.DistinctKeys) :
    value.canonical (serdeWriter serde) = value.canonical jsWriter ↔
      value.Everywhere (HeldNumber.WrittenAlike serde) NoClash := by
  have alike : value.Everywhere
        (fun number => number.serdeText serde = number.jsText)
        (Json.OrderedAlike utf8Units utf16Units) ↔
      value.Everywhere (HeldNumber.WrittenAlike serde) NoClash := by
    rw [show (fun number : HeldNumber =>
        number.serdeText serde = number.jsText) = _ from
      funext fun number =>
        propext (HeldNumber.serdeText_eq_jsText_iff serde number),
      show Json.OrderedAlike utf8Units utf16Units = NoClash from
        funext fun keys => propext (orderedAlike_iff keys)]
  rw [@Json.canonical_eq_compact _ (serdeWriter serde)
      (HeldNumber.serdeText serde) (fun _ => rfl),
    @Json.canonical_eq_compact _ jsWriter HeldNumber.jsText (fun _ => rfl)]
  exact (Json.compact_injective quoteJsonChar_readable).eq_iff.trans
    ((Json.sorted_eq_iff utf8_injective utf16_injective distinctKeys).trans
      alike)

end Canonical

/-- An integer or a float, and the number. -/
def SerdeNumber.meaning : SerdeNumber → Bool × ℚ
  | .int value _ => (false, value)
  | .float value => (true, value.value)

/-- A text with a point or an exponent is a float. -/
def readSerdeNumber (text : Text) : Bool × ℚ :=
  (decide ('.' ∈ text ∨ 'e' ∈ text), readNumber text)

theorem integerText_absent
    {char : Char}
    (notDigit : char.isDigit = false)
    (notSign : char ≠ '-')
    (value : Int) : char ∉ integerText value := by
  have absent := (toDigits_isDigits value.natAbs).absent notDigit
  unfold integerText
  split
  · simp [notSign, absent]
  · exact absent

theorem readSerdeNumber_numberText
    (serde : SerdeJson)
    (number : SerdeNumber) :
    readSerdeNumber (VendingCore.numberText serde number) =
      number.meaning := by
  cases number with
  | int value bounded =>
    have noPoint := integerText_absent (rfl : '.'.isDigit = false)
      (by decide) value
    have noExponent := integerText_absent (rfl : 'e'.isDigit = false)
      (by decide) value
    simp [readSerdeNumber, VendingCore.numberText, SerdeNumber.meaning,
      noPoint, noExponent, readNumber_integerText]
  | float value =>
    simp [readSerdeNumber, VendingCore.numberText, SerdeNumber.meaning,
      serde.float_point, serde.float_reads]

section Unambiguous

variable (serde : SerdeJson) (value other : Json HeldNumber)

theorem same_of_canonicalJson_serde
    (same : VendingCore.canonicalJson serde (value.map HeldNumber.serde) =
      VendingCore.canonicalJson serde (other.map HeldNumber.serde)) :
    Json.Same (value.map fun number => number.serde.meaning)
      (other.map fun number => number.serde.meaning) := by
  rw [canonicalJson_serde, canonicalJson_serde] at same
  exact @Json.same_of_canonical _ _ (serdeWriter serde)
    (HeldNumber.serdeText serde) (fun number => number.serde.meaning)
    (fun text => readSerdeNumber text.text) quoteJsonChar_readable
    (fun _ => rfl)
    (fun number => readSerdeNumber_numberText serde number.serde) _ _ same

theorem same_of_canonicalJson_js
    (same : Shared.canonicalJson (value.map HeldNumber.inJs) =
      Shared.canonicalJson (other.map HeldNumber.inJs)) :
    Json.Same (value.map fun number => number.js.value)
      (other.map fun number => number.js.value) := by
  rw [canonicalJson_js, canonicalJson_js] at same
  exact @Json.same_of_canonical _ _ jsWriter HeldNumber.jsText
    (fun number => number.js.value) (fun text => readNumber text.text)
    quoteJsonChar_readable (fun _ => rfl)
    (fun number => number.js.readNumber_text) _ _ same

end Unambiguous

/-- Everything of an envelope that is signed, as both runtimes hold it. -/
def heldUnsigned
    (machineCode messageId issuedAt nonce : String)
    (payload : Json HeldNumber) : Json HeldNumber :=
  Envelope.unsigned
    { messageId, machineCode, issuedAt, nonce, payload, signature := "" }

section Envelopes

variable
  {serde : SerdeJson}
  {held : HeldJson}
  (alike : held.WrittenAlike serde)
include alike

/-- Both runtimes sign the same bytes of an envelope. -/
theorem unsigned_same (machineCode messageId issuedAt nonce : String) :
    VendingCore.canonicalJson serde
        ((heldUnsigned machineCode messageId issuedAt nonce held.value).map
          HeldNumber.serde) =
      Shared.canonicalJson
        ((heldUnsigned machineCode messageId issuedAt nonce held.value).map
          HeldNumber.inJs) := by
  have distinctKeys : (heldUnsigned machineCode messageId issuedAt nonce
      held.value).DistinctKeys := by
    refine ⟨?_, trivial, trivial, trivial, trivial, held.distinctKeys,
      trivial⟩
    show List.Nodup ["issuedAt", "machineCode", "messageId", "nonce", "payload"]
    decide
  rw [canonicalJson_serde, canonicalJson_js, canonical_eq_iff serde
    distinctKeys]
  refine ⟨?_, trivial, trivial, trivial, trivial, alike, trivial⟩
  show NoClash ["issuedAt", "machineCode", "messageId", "nonce", "payload"]
  unfold NoClash
  decide

end Envelopes

/-- Both runtimes agree about a value and the envelopes that carry it. -/
structure SigningAgrees
    (serde : SerdeJson)
    (held : HeldJson) : Prop where
  sameBytes :
    utf8Bytes (VendingCore.canonicalJson serde held.inSerde) =
      utf8Bytes (Shared.canonicalJson held.inJs)
  verifiedByService :
    ∀ mac machineCode secret messageId issuedAt nonce,
      Shared.assertEnvelopeSignature mac
        ((VendingCore.signEnvelope serde mac machineCode secret messageId
          issuedAt nonce held.inSerde).carried held.inJs) secret = .ok ()
  verifiedByDaemon :
    ∀ mac machineCode secret messageId issuedAt nonce,
      VendingCore.verifySignatureBytes serde mac
        ((Shared.signWithSecret mac machineCode secret messageId issuedAt
          nonce held.inJs).carried held.inSerde) secret = .ok ()
  serdeUnambiguous : ∀ other : HeldJson,
    VendingCore.canonicalJson serde held.inSerde =
      VendingCore.canonicalJson serde other.inSerde →
    Json.Same (held.value.map fun number => number.serde.meaning)
      (other.value.map fun number => number.serde.meaning)
  jsUnambiguous : ∀ other : HeldJson,
    Shared.canonicalJson held.inJs = Shared.canonicalJson other.inJs →
    Json.Same (held.value.map fun number => number.js.value)
      (other.value.map fun number => number.js.value)

theorem sameBytes_iff
    (serde : SerdeJson)
    (held : HeldJson) :
    utf8Bytes (VendingCore.canonicalJson serde held.inSerde) =
        utf8Bytes (Shared.canonicalJson held.inJs) ↔
      held.WrittenAlike serde := by
  rw [utf8Bytes_injective.eq_iff, HeldJson.inSerde, HeldJson.inJs,
    canonicalJson_serde, canonicalJson_js]
  exact canonical_eq_iff serde held.distinctKeys

/--
Both runtimes agree about a value exactly when every number in it is written
alike and no object has two keys that UTF-16 orders the other way.
-/
theorem signing_agrees_iff
    (serde : SerdeJson)
    (held : HeldJson) :
    SigningAgrees serde held ↔ held.WrittenAlike serde := by
  constructor
  · intro agrees
    exact (sameBytes_iff serde held).mp agrees.sameBytes
  · intro alike
    refine ⟨(sameBytes_iff serde held).mpr alike, ?_, ?_,
      fun other => same_of_canonicalJson_serde serde held.value other.value,
      fun other => same_of_canonicalJson_js held.value other.value⟩
    · intro mac machineCode secret messageId issuedAt nonce
      have same := unsigned_same alike machineCode messageId issuedAt nonce
      exact if_pos (congrArg (fun text => mac secret (utf8Bytes text)) same)
    · intro mac machineCode secret messageId issuedAt nonce
      have same := unsigned_same alike machineCode messageId issuedAt nonce
      exact if_pos (congrArg (fun text => mac secret (utf8Bytes text)) same)

/-- A float is written with a point or an exponent. -/
def withPoint (text : Text) : Text :=
  if '.' ∈ text ∨ 'e' ∈ text then text else text ++ ['.', '0']

variable {text : Text}

theorem withPoint_isNumberText
    (number : IsNumberText text) : IsNumberText (withPoint text) := by
  unfold withPoint
  split
  · exact number
  · refine ⟨by simp, fun char member => ?_⟩
    simp only [List.mem_append, List.mem_cons, List.not_mem_nil,
      or_false] at member
    rcases member with inText | rfl | rfl
    · exact number.2 char inText
    · rfl
    · rfl

theorem readUnsigned_withPoint (text : Text) :
    readUnsigned (withPoint text) = readUnsigned text := by
  unfold withPoint
  split
  · rfl
  · next absent =>
      obtain ⟨noPoint, noExponent⟩ := not_or.mp absent
      have absent : 'e' ∉ text ++ ['.', '0'] := by simp [noExponent]
      have zero := readDigits_append_zeros text 1
      rw [List.replicate_one] at zero
      rw [readUnsigned_mantissa absent, readUnsigned_mantissa noExponent,
        readMantissa, readMantissa, splitAtChar_append ['0'] noPoint,
        splitAtChar_absent noPoint]
      simp [zero]

theorem readNumber_withPoint
    (nonempty : text ≠ []) :
    readNumber (withPoint text) = readNumber text := by
  obtain ⟨head, tail, rfl⟩ := List.exists_cons_of_ne_nil nonempty
  by_cases negative : head = '-'
  · subst negative
    have inTail : withPoint ('-' :: tail) = '-' :: withPoint tail := by
      unfold withPoint
      simp only [List.mem_cons, show '.' ≠ '-' by decide,
        show 'e' ≠ '-' by decide, false_or]
      split <;> rfl
    rw [inTail, readNumber, readNumber, readUnsigned_withPoint]
  · have unsigned : (head :: tail).head? ≠ some '-' := by simpa using negative
    have withUnsigned : (withPoint (head :: tail)).head? ≠ some '-' := by
      unfold withPoint
      split
      · exact unsigned
      · exact unsigned
    rw [readNumber_unsigned unsigned, readNumber_unsigned withUnsigned,
      readUnsigned_withPoint]

/-- A serializer that writes floats as `24.0`. -/
def pointedSerde : SerdeJson where
  escape := quoteJsonChar
  escape_short char letter short := by rw [quoteJsonChar, short]
  escape_control char short control := by
    rw [quoteJsonChar, short]
    exact if_pos control
  escape_plain char short plain := by
    rw [quoteJsonChar, short]
    exact if_neg plain
  float value := withPoint value.text
  float_isNumber value := withPoint_isNumberText value.text_isNumberText
  float_reads value := by
    rw [readNumber_withPoint value.text_isNumberText.1, value.readNumber_text]
  float_point value := by
    unfold withPoint
    split
    · next present => exact present
    · simp

/-- `{"temperatureCelsius":24.0}`. -/
def temperaturePayload : HeldJson where
  value :=
    let celsius : FiniteDouble := .nonzero
      { negative := false, significand := 24, exponent := 0,
        shortest := by decide }
    .object [("temperatureCelsius",
      .number { serde := .float celsius, js := celsius })]
  distinctKeys := ⟨by decide, trivial, trivial⟩

theorem temperaturePayload_signed_differently :
    ¬ ∀ (serde : SerdeJson) (held : HeldJson), SigningAgrees serde held := by
  intro agree
  have sameBytes := (agree pointedSerde temperaturePayload).sameBytes
  revert sameBytes
  decide +kernel

theorem Envelope.unsigned_sorted
    {Number Written : Type}
    {encode : Char → List Nat}
    (write : Number → Written)
    (envelope : Envelope Number)
    (inOrder :
      ["issuedAt", "machineCode", "messageId", "nonce", "payload"].Pairwise
        fun first second =>
          encodedUnits encode first ≤ encodedUnits encode second) :
    envelope.unsigned.sorted encode write =
      .object [
        ("issuedAt", .string envelope.issuedAt),
        ("machineCode", .string envelope.machineCode),
        ("messageId", .string envelope.messageId),
        ("nonce", .string envelope.nonce),
        ("payload", envelope.payload.sorted encode write)] := by
  refine congrArg Json.object (List.Pairwise.insertionSort_eq ?_)
  exact List.Pairwise.of_map Prod.fst (fun _ _ => id) inOrder

/-- An envelope as the daemon holds it. -/
def Envelope.inSerde (envelope : Envelope HeldNumber) : Envelope SerdeNumber :=
  envelope.carried (envelope.payload.map HeldNumber.serde)

def Envelope.inJs (envelope : Envelope HeldNumber) : Envelope JsNumber :=
  envelope.carried (envelope.payload.map HeldNumber.inJs)

/--
The bytes that the daemon signs and the service verifies are those of another
envelope only if that says the same.
-/
theorem signing_bytes_determine_envelope
    (serde : SerdeJson)
    (sent received : Envelope HeldNumber)
    (sameBytes :
      utf8Bytes (VendingCore.canonicalJson serde sent.inSerde.unsigned) =
        utf8Bytes (Shared.mqttSigningInput received.inJs)) :
    sent.machineCode = received.machineCode ∧
      sent.messageId = received.messageId ∧
      sent.issuedAt = received.issuedAt ∧
      sent.nonce = received.nonce ∧
      Json.Same (sent.payload.map fun number => number.serde.meaning.2)
        (received.payload.map fun number => number.js.value) := by
  have same : VendingCore.canonicalJson serde
        (sent.unsigned.map HeldNumber.serde) =
      Shared.canonicalJson (received.unsigned.map HeldNumber.inJs) :=
    utf8Bytes_injective sameBytes
  rw [canonicalJson_serde, canonicalJson_js,
    @Json.canonical_eq_compact _ (serdeWriter serde)
      (HeldNumber.serdeText serde) (fun _ => rfl),
    @Json.canonical_eq_compact _ jsWriter HeldNumber.jsText (fun _ => rfl)]
    at same
  have sorted : sent.unsigned.sorted utf8Units (HeldNumber.serdeText serde) =
      received.unsigned.sorted utf16Units HeldNumber.jsText :=
    Json.compact_injective quoteJsonChar_readable same
  rw [Envelope.unsigned_sorted _ _ (by decide),
    Envelope.unsigned_sorted _ _ (by decide)] at sorted
  simp only [Json.object.injEq, List.cons.injEq, Prod.mk.injEq,
    Json.string.injEq, true_and, and_true] at sorted
  obtain ⟨issuedAt, machineCode, messageId, nonce, payload⟩ := sorted
  refine ⟨machineCode, messageId, issuedAt, nonce, ?_⟩
  have samePayload := Json.same_of_sorted_eq
    (fun text : NumberText => readNumber text.text) payload
  have serdeReads : ((fun text : NumberText => readNumber text.text) ∘
      HeldNumber.serdeText serde) = fun number => number.serde.meaning.2 :=
    funext fun number =>
      congrArg Prod.snd (readSerdeNumber_numberText serde number.serde)
  have jsReads : ((fun text : NumberText => readNumber text.text) ∘
      HeldNumber.jsText) = fun number => number.js.value :=
    funext fun number => number.js.readNumber_text
  rw [serdeReads, jsReads] at samePayload
  exact samePayload

/-- A result as it was sent, and with its members in another order. -/
def resultEnvelope (payload : List (String × Json HeldNumber)) :
    Envelope HeldNumber where
  messageId := "7"
  machineCode := "M1"
  issuedAt := "2026-01-01T00:00:00Z"
  nonce := "n"
  payload := .object payload
  signature := ""

theorem signing_bytes_determine_envelope_reordered :
    Json.Same
      ((resultEnvelope [("success", .bool true), ("code", .null)]).payload.map
        fun number => number.serde.meaning.2)
      ((resultEnvelope [("code", .null), ("success", .bool true)]).payload.map
        fun number => number.js.value) :=
  (signing_bytes_determine_envelope pointedSerde _ _
    (by decide +kernel)).2.2.2.2

end VendingSystem
