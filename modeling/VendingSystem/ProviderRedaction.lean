import VendingSystem.EcmaJsonReading
import VendingSystem.UrlForms

namespace VendingSystem.Provider

open Ecma

/-!
# Redacted provider payloads

Payment events keep a redacted excerpt of what a provider sent.  A member whose
key looks sensitive is stored as a mark that tells the length of a string and
nothing else about the value, so bodies that differ in such values only are
stored alike.
-/

def lowerUnit (unit : Nat) : Nat :=
  if 'A'.toNat ≤ unit ∧ unit ≤ 'Z'.toNat then unit + 32 else unit

/-- The pattern `/text/i` on a key in lower case. -/
def containsText (text : String) (key : JsString) : Bool :=
  key.tails.any fun tail => (units text).isPrefixOf tail

/-- The pattern `/text(?!next)/i` on a key in lower case. -/
def containsTextWithout (text next : String) (key : JsString) : Bool :=
  key.tails.any fun tail =>
    (units text).isPrefixOf tail &&
      !(units next).isPrefixOf (tail.drop (units text).length)

/-- The pattern `/^first_?second$/i` on a key in lower case. -/
def isJoinedText (first second : String) (key : JsString) : Bool :=
  key == units first ++ units second ||
    key == units first ++ '_'.toNat :: units second

/-- `SENSITIVE_KEY_PATTERNS`, each on a key in lower case. -/
def sensitiveKeyPatterns : List (JsString → Bool) :=
  [containsText "token",
    containsText "key",
    containsText "secret",
    containsText "certificate",
    containsText "privatekey",
    containsText "private_key",
    containsTextWithout "sign" "ature_valid",
    containsText "pem",
    containsText "password",
    containsText "passwd",
    isJoinedText "auth" "code",
    isJoinedText "payment" "code",
    fun key => key == units "code_value"]

def isSensitiveKey (key : JsString) : Bool :=
  sensitiveKeyPatterns.any fun pattern => pattern (key.map lowerUnit)

example : isSensitiveKey (units "Payment_Code") = true := by decide

example : isSensitiveKey (units "signature_valid") = false := by decide

/-- A property that is no property: assigning it sets the prototype. -/
def protoKey : JsString :=
  units "__proto__"

section Redaction

variable {Number : Type}

/-- What is stored of a value under a sensitive key. -/
def redactSecret : JsonValue Number → JsonValue Number
  | .text value =>
    if value.length > 0 then
      .text (units "[REDACTED:" ++ units (toString value.length) ++
        units "chars]")
    else .text (units "[REDACTED]")
  | _ => .text (units "[REDACTED]")

mutual

def redactPayload : JsonValue Number → JsonValue Number
  | .null => .null
  | .bool value => .bool value
  | .number value => .number value
  | .text value => .text value
  | .array items => .array (redactItems items)
  | .object members => .object (ofAssignments (redactMembers members))

def redactItems : List (JsonValue Number) → List (JsonValue Number)
  | [] => []
  | item :: rest => redactPayload item :: redactItems rest

/-- The assignments to the result; one to `__proto__` makes no property. -/
def redactMembers :
    List (JsString × JsonValue Number) →
      List (JsString × JsonValue Number)
  | [] => []
  | (key, value) :: rest =>
    if key = protoKey then redactMembers rest
    else if isSensitiveKey key then
      (key, redactSecret value) :: redactMembers rest
    else (key, redactPayload value) :: redactMembers rest

end

/-- The members of the stored payload; `none` for `undefined` and `null`. -/
def buildRedactedPayload :
    Option (JsonValue Number) →
      Option (List (JsString × JsonValue Number))
  | none => none
  | some .null => none
  | some body =>
    match redactPayload body with
    | .object members => some members
    | redacted => some [(units "_value", redacted)]

end Redaction

/-- The methods of `Object.prototype`. -/
def objectMethods : List String :=
  ["constructor", "__defineGetter__", "__defineSetter__", "hasOwnProperty",
    "__lookupGetter__", "__lookupSetter__", "isPrototypeOf",
    "propertyIsEnumerable", "toString", "valueOf", "toLocaleString"]

/-- The further methods of `Array.prototype`. -/
def arrayMethods : List String :=
  ["at", "concat", "copyWithin", "fill", "find", "findIndex", "findLast",
    "findLastIndex", "lastIndexOf", "pop", "push", "reverse", "shift",
    "unshift", "slice", "sort", "splice", "includes", "indexOf", "join",
    "keys", "entries", "values", "forEach", "filter", "flat", "flatMap",
    "map", "every", "some", "reduce", "reduceRight", "toReversed",
    "toSorted", "toSpliced", "with"]

/--
The object a form is collected in.  Its prototype is `Object.prototype` until
a field `__proto__` replaces it by an array.
-/
structure FormObject (Number : Type) where
  members : List (JsString × JsonValue Number)
  prototype : Option (List (JsonValue Number))

namespace FormObject

variable {Number : Type} (numbers : NumberTexts Number)

def empty : FormObject Number where
  members := []
  prototype := none

/-- What the prototype answers; a method is written as `null` later on. -/
def inherited
    (form : FormObject Number)
    (key : JsString) : Option (JsonValue Number) :=
  let ofObject :=
    if (objectMethods.map units).contains key then some .null else none
  match form.prototype with
  | none => ofObject
  | some items =>
    if key = units "length" then
      some (.number (numbers.read (units (toString items.length))))
    else if (arrayMethods.map units).contains key then some .null
    else ((arrayIndex key).bind fun index => items[index]?).or ofObject

/-- `result[key]`. -/
def lookup
    (form : FormObject Number)
    (key : JsString) : Option (JsonValue Number) :=
  if key = protoKey then
    match form.prototype with
    | none => some (.object [])
    | some items => some (.array items)
  else (form.members.lookup key).or (form.inherited numbers key)

/-- `result[key] = value`. -/
def assign
    (form : FormObject Number)
    (key : JsString)
    (value : JsonValue Number) : FormObject Number :=
  if key = protoKey then
    match value with
    | .array items => { form with prototype := some items }
    | _ => form
  else { form with members := setProperty form.members key value }

/-- What a field's value becomes; a repeated field is collected in an array. -/
def collected
    (existing : Option (JsonValue Number))
    (value : JsString) : JsonValue Number :=
  match existing with
  | none => .text value
  | some (.array items) => .array (items ++ [.text value])
  | some existing => .array [existing, .text value]

def addEntry
    (form : FormObject Number)
    (entry : JsString × JsString) : FormObject Number :=
  form.assign entry.1 (collected (form.lookup numbers entry.1) entry.2)

end FormObject

section Bodies

variable {Number : Type} (numbers : NumberTexts Number)

def tryParseUrlEncoded (input : JsString) : Option (JsonValue Number) :=
  if '='.toNat ∉ input then none
  else
    let entries := formEntries input
    if entries = [] then none
    else some
      (.object (entries.foldl (FormObject.addEntry numbers) .empty).members)

def webhookExcerptBytes : Nat := 2048

def redactedExcerpt (parsed : JsonValue Number) : JsString :=
  (stringify numbers (redactPayload parsed)).take webhookExcerptBytes

def buildRawBodyExcerpt (rawBodyText : JsString) : JsString :=
  match parse numbers rawBodyText with
  | some parsed => redactedExcerpt numbers parsed
  | none =>
    match tryParseUrlEncoded numbers rawBodyText with
    | some parsedForm => redactedExcerpt numbers parsedForm
    | none => rawBodyText.take webhookExcerptBytes

/-- What is stored of a provider's payload. -/
structure StoredEventPayload (Number : Type) where
  payloadSha256 : JsString
  payloadExcerpt : JsString
  redactedPayload : List (JsString × JsonValue Number)

def buildStoredEventPayload
    (sha256Hex : JsString → JsString)
    (payload : Option (JsonValue Number)) : StoredEventPayload Number :=
  let serialized := stringify numbers
    (match payload with
    | none => .object []
    | some .null => .object []
    | some value => value)
  { payloadSha256 := sha256Hex serialized
    payloadExcerpt := buildRawBodyExcerpt numbers serialized
    redactedPayload := (buildRedactedPayload payload).getD [] }

end Bodies

end VendingSystem.Provider
