import Mathlib.Tactic.IntervalCases
import VendingSystem.CanonicalJson
import VendingSystem.DecimalText

namespace VendingSystem

/-!
# The bytes that MQTT envelopes are signed over

`canonical_json` of vending-core and `canonicalJson` of the shared package are
two canonical writers.  The first orders keys by their UTF-8 bytes and leaves
strings and numbers to serde_json, the second orders keys by their UTF-16
units and uses `JSON.stringify` and `String`.
-/

/-- A number of serde_json: an i64, a u64 or a finite f64. -/
inductive SerdeNumber where
  | int (value : Int) (bounded : -2 ^ 63 ≤ value ∧ value < 2 ^ 64)
  | float (value : FiniteDouble)

/-- A number of a parsed JavaScript value. -/
inductive JsNumber where
  | finite (value : FiniteDouble)
  | infinite (negative : Bool)

/-- What the two runtimes hold of one number of a JSON text. -/
structure HeldNumber where
  serde : SerdeNumber
  js : FiniteDouble

namespace HeldNumber

/-- The number as a JavaScript value. -/
def inJs (number : HeldNumber) : JsNumber :=
  .finite number.js

end HeldNumber

/-- A JSON value that both runtimes hold. -/
structure HeldJson where
  value : Json HeldNumber
  distinctKeys : value.DistinctKeys

namespace HeldJson

variable (held : HeldJson)

def inSerde : Json SerdeNumber :=
  held.value.map HeldNumber.serde

def inJs : Json JsNumber :=
  held.value.map HeldNumber.inJs

end HeldJson

/-- The characters with an escape of their own. -/
def shortEscapes : List (Char × Char) :=
  [('"', '"'), ('\\', '\\'), ('\x08', 'b'), ('\t', 't'), ('\n', 'n'),
    ('\x0c', 'f'), ('\r', 'r')]

def unicodeEscape (char : Char) : Text :=
  ['\\', 'u', '0', '0', Nat.digitChar (char.toNat / 16),
    Nat.digitChar (char.toNat % 16)]

/-- The characters of `JSON.stringify` for one character of a string. -/
def quoteJsonChar (char : Char) : Text :=
  match shortEscapes.lookup char with
  | some letter => ['\\', letter]
  | none => if char.toNat < 0x20 then unicodeEscape char else [char]

/-- What serde_json documents about the texts it writes. -/
structure SerdeJson where
  escape : Char → Text
  escape_short : ∀ char letter,
    shortEscapes.lookup char = some letter → escape char = ['\\', letter]
  escape_control : ∀ char,
    shortEscapes.lookup char = none → char.toNat < 0x20 →
    escape char = unicodeEscape char
  escape_plain : ∀ char,
    shortEscapes.lookup char = none → ¬ char.toNat < 0x20 →
    escape char = [char]
  float : FiniteDouble → Text
  float_isNumber : ∀ value, IsNumberText (float value)
  float_reads : ∀ value, readNumber (float value) = value.value
  float_point : ∀ value, '.' ∈ float value ∨ 'e' ∈ float value

namespace VendingCore

variable (serde : SerdeJson)

def numberText : SerdeNumber → Text
  | .int value _ => integerText value
  | .float value => serde.float value

def canonicalWriter : Writer SerdeNumber where
  encode := utf8Units
  escape := serde.escape
  number := numberText serde

/-- `canonical_json`. -/
def canonicalJson (value : Json SerdeNumber) : Text :=
  value.canonical (canonicalWriter serde)

end VendingCore

namespace Shared

def numberText : JsNumber → Text
  | .finite value => value.text
  | .infinite _ => ['n', 'u', 'l', 'l']

def canonicalWriter : Writer JsNumber where
  encode := utf16Units
  escape := quoteJsonChar
  number := numberText

def canonicalJson (value : Json JsNumber) : Text :=
  value.canonical canonicalWriter

end Shared

structure Envelope (Number : Type) where
  messageId : String
  machineCode : String
  issuedAt : String
  nonce : String
  payload : Json Number
  signature : String

namespace Envelope

variable {Number Other : Type}

/-- What is signed, as a JSON object. -/
def unsigned (envelope : Envelope Number) : Json Number :=
  .object [
    ("issuedAt", .string envelope.issuedAt),
    ("machineCode", .string envelope.machineCode),
    ("messageId", .string envelope.messageId),
    ("nonce", .string envelope.nonce),
    ("payload", envelope.payload)]

/-- The envelope on the other side, which holds the payload in its own way. -/
def carried
    (envelope : Envelope Number)
    (payload : Json Other) : Envelope Other where
  messageId := envelope.messageId
  machineCode := envelope.machineCode
  issuedAt := envelope.issuedAt
  nonce := envelope.nonce
  payload := payload
  signature := envelope.signature

end Envelope

def utf8Bytes (text : Text) : List Nat :=
  text.flatMap utf8Units

/-- A signature of some bytes with a secret. -/
abbrev Mac := String → List Nat → String

namespace VendingCore

variable (serde : SerdeJson) (mac : Mac)

def signEnvelope
    (machineCode signingSecret messageId issuedAt nonce : String)
    (payload : Json SerdeNumber) : Envelope SerdeNumber :=
  let envelope : Envelope SerdeNumber :=
    { messageId, machineCode, issuedAt, nonce, payload, signature := "" }
  { envelope with
    signature := mac signingSecret
      (utf8Bytes (canonicalJson serde envelope.unsigned)) }

def verifySignatureBytes
    (envelope : Envelope SerdeNumber)
    (signingSecret : String) : Except String Unit :=
  let input := utf8Bytes (canonicalJson serde envelope.unsigned)
  if mac signingSecret input = envelope.signature then .ok ()
  else .error "MQTT envelope signature invalid"

end VendingCore

namespace Shared

variable (mac : Mac)

def mqttSigningInput (envelope : Envelope JsNumber) : Text :=
  canonicalJson envelope.unsigned

def signWithSecret
    (machineCode secret messageId issuedAt nonce : String)
    (payload : Json JsNumber) : Envelope JsNumber :=
  let envelope : Envelope JsNumber :=
    { messageId, machineCode, issuedAt, nonce, payload, signature := "" }
  { envelope with
    signature := mac secret (utf8Bytes (mqttSigningInput envelope)) }

def assertEnvelopeSignature
    (envelope : Envelope JsNumber)
    (secret : String) : Except String Unit :=
  let expectedSignature := mac secret (utf8Bytes (mqttSigningInput envelope))
  if envelope.signature = expectedSignature then .ok ()
  else .error "Invalid MQTT signature"

end Shared

def hexValue (char : Char) : Nat :=
  if char.isDigit then char.toNat - '0'.toNat
  else char.toNat - 'a'.toNat + 10

/-- The first character of an escaped text, and what follows it. -/
def unescape : Text → Option (Char × Text)
  | '\\' :: 'u' :: _ :: _ :: high :: low :: rest =>
    some (Char.ofNat (16 * hexValue high + hexValue low), rest)
  | '\\' :: letter :: rest =>
    (shortEscapes.find? (·.2 == letter)).map fun pair => (pair.1, rest)
  | char :: rest => some (char, rest)
  | [] => none

theorem shortEscape_cases
    {char letter : Char}
    (short : shortEscapes.lookup char = some letter) :
    (char, letter) ∈ shortEscapes := by
  obtain ⟨before, after, isSplit, _⟩ := List.lookup_eq_some_iff.mp short
  rw [isSplit]
  simp

theorem unescape_quoteJsonChar
    (char : Char)
    (rest : Text) :
    unescape (quoteJsonChar char ++ rest) = some (char, rest) := by
  unfold quoteJsonChar
  cases short : shortEscapes.lookup char with
  | some letter =>
    have member := shortEscape_cases short
    simp only [shortEscapes, List.mem_cons, List.not_mem_nil, or_false,
      Prod.mk.injEq] at member
    rcases member with
      ⟨rfl, rfl⟩ | ⟨rfl, rfl⟩ | ⟨rfl, rfl⟩ | ⟨rfl, rfl⟩ | ⟨rfl, rfl⟩ |
      ⟨rfl, rfl⟩ | ⟨rfl, rfl⟩ <;> rfl
  | none =>
    simp only
    split
    · next control =>
        have isChar : char = Char.ofNat char.toNat := (Char.ofNat_toNat _).symm
        generalize char.toNat = code at control isChar
        subst isChar
        interval_cases code <;> rfl
    · have plain : char ≠ '\\' := by
        rintro rfl
        cases short
      unfold unescape
      split
      · next isCons => exact absurd (List.cons.inj isCons).1 plain
      · next isCons => exact absurd (List.cons.inj isCons).1 plain
      · next isCons =>
          cases isCons
          rfl
      · next isNil => cases isNil

theorem quoteJsonChar_ne_quote
    (char : Char)
    (rest other : Text) :
    quoteJsonChar char ++ rest ≠ '"' :: other := by
  intro same
  unfold quoteJsonChar at same
  split at same
  · cases same
  · next short =>
      split at same
      · cases same
      · cases same
        cases short

theorem quoteJsonChar_readable : ReadableEscape quoteJsonChar where
  unique {first second rest other} same := by
    have read := congrArg unescape same
    rw [unescape_quoteJsonChar, unescape_quoteJsonChar] at read
    cases read
    exact ⟨rfl, rfl⟩
  noQuote := quoteJsonChar_ne_quote

theorem SerdeJson.escape_eq (serde : SerdeJson) :
    serde.escape = quoteJsonChar := by
  funext char
  unfold quoteJsonChar
  split
  · next letter short => exact serde.escape_short char letter short
  · next short =>
      split
      · next control => exact serde.escape_control char short control
      · next plain => exact serde.escape_plain char short plain

end VendingSystem
