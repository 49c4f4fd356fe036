import VendingSystem.ProviderRedaction

namespace VendingSystem.Provider

open Ecma

/-!
# Stored payloads do not tell secrets

Two payloads are alike when they differ in values under sensitive keys only,
where a string stands against a string of the same length.  Alike payloads are
redacted to the same value; alike bodies go through the same parser.
-/

section Alike

variable {Number : Type}

/-- Values under a sensitive key: strings of equal length, or no strings. -/
def SecretsAlike : JsonValue Number → JsonValue Number → Prop
  | .text first, .text second => first.length = second.length
  | .text _, _ => False
  | _, .text _ => False
  | _, _ => True

mutual

/-- Values that are equal except for values under sensitive keys. -/
def Alike : JsonValue Number → JsonValue Number → Prop
  | .null, other => other = .null
  | .bool value, other => other = .bool value
  | .number value, other => other = .number value
  | .text value, other => other = .text value
  | .array items, other => ∃ others, other = .array others ∧
      AlikeItems items others
  | .object members, other => ∃ others, other = .object others ∧
      AlikeMembers members others

def AlikeItems :
    List (JsonValue Number) → List (JsonValue Number) → Prop
  | [], others => others = []
  | item :: rest, others => ∃ other otherRest,
      others = other :: otherRest ∧ Alike item other ∧
        AlikeItems rest otherRest

def AlikeMembers :
    List (JsString × JsonValue Number) →
      List (JsString × JsonValue Number) → Prop
  | [], others => others = []
  | (key, value) :: rest, others => ∃ other otherRest,
      others = (key, other) :: otherRest ∧
        (if isSensitiveKey key then SecretsAlike value other
          else Alike value other) ∧
        AlikeMembers rest otherRest

end

theorem SecretsAlike.refl (value : JsonValue Number) :
    SecretsAlike value value := by
  cases value with
  | text value => exact (rfl : value.length = value.length)
  | null | bool | number | array | object => trivial

theorem Alike.refl (value : JsonValue Number) : Alike value value := by
  induction value with
  | null | bool | number | text => exact rfl
  | array items inductionHypothesis =>
    refine ⟨items, rfl, ?_⟩
    induction items with
    | nil => exact rfl
    | cons item rest ofRest =>
      rw [List.forall_mem_cons] at inductionHypothesis
      exact ⟨item, rest, rfl, inductionHypothesis.1,
        ofRest inductionHypothesis.2⟩
  | object members inductionHypothesis =>
    refine ⟨members, rfl, ?_⟩
    induction members with
    | nil => exact rfl
    | cons member rest ofRest =>
      rw [List.forall_mem_cons] at inductionHypothesis
      refine ⟨member.2, rest, rfl, ?_, ofRest inductionHypothesis.2⟩
      split
      · exact .refl member.2
      · exact inductionHypothesis.1

theorem SecretsAlike.redactSecret_eq
    {first second : JsonValue Number}
    (alike : SecretsAlike first second) :
    redactSecret first = redactSecret second := by
  cases first with
  | text value =>
    cases second with
    | text other =>
      have sameLength : value.length = other.length := alike
      simp only [redactSecret, sameLength]
    | null | bool | number | array | object => exact alike.elim
  | null | bool | number | array | object =>
    cases second with
    | text other => exact alike.elim
    | null | bool | number | array | object => rfl

theorem Alike.redactPayload_eq
    {first second : JsonValue Number}
    (alike : Alike first second) :
    redactPayload first = redactPayload second := by
  induction first generalizing second with
  | null | bool | number | text =>
    rw [Alike] at alike
    rw [alike]
  | array items inductionHypothesis =>
    rw [Alike] at alike
    obtain ⟨others, rfl, itemsAlike⟩ := alike
    rw [redactPayload, redactPayload]
    refine congrArg JsonValue.array ?_
    induction items generalizing others with
    | nil =>
      rw [AlikeItems] at itemsAlike
      rw [itemsAlike]
    | cons item rest ofRest =>
      rw [List.forall_mem_cons] at inductionHypothesis
      rw [AlikeItems] at itemsAlike
      obtain ⟨other, otherRest, rfl, itemAlike, restAlike⟩ := itemsAlike
      rw [redactItems, redactItems, inductionHypothesis.1 itemAlike,
        ofRest inductionHypothesis.2 otherRest restAlike]
  | object members inductionHypothesis =>
    rw [Alike] at alike
    obtain ⟨others, rfl, membersAlike⟩ := alike
    rw [redactPayload, redactPayload]
    refine congrArg (fun members => JsonValue.object
      (ofAssignments members)) ?_
    induction members generalizing others with
    | nil =>
      rw [AlikeMembers] at membersAlike
      rw [membersAlike]
    | cons member rest ofRest =>
      rw [List.forall_mem_cons] at inductionHypothesis
      rw [AlikeMembers] at membersAlike
      obtain ⟨other, otherRest, rfl, memberAlike, restAlike⟩ :=
        membersAlike
      rw [redactMembers, redactMembers,
        ofRest inductionHypothesis.2 otherRest restAlike]
      cases sensitive : isSensitiveKey member.1
      · rw [if_neg (by simp [sensitive])] at memberAlike
        simp only [Bool.false_eq_true, if_false,
          inductionHypothesis.1 memberAlike]
      · rw [if_pos sensitive] at memberAlike
        simp only [if_true, memberAlike.redactSecret_eq]

theorem Alike.buildRedactedPayload_eq
    {first second : JsonValue Number}
    (alike : Alike first second) :
    buildRedactedPayload (some first) =
      buildRedactedPayload (some second) := by
  have sameRedacted := alike.redactPayload_eq
  cases first with
  | null | bool | number | text =>
    rw [Alike] at alike
    rw [alike]
  | array items =>
    obtain ⟨others, rfl, _⟩ := alike
    simp only [buildRedactedPayload, sameRedacted]
  | object members =>
    obtain ⟨others, rfl, _⟩ := alike
    simp only [buildRedactedPayload, sameRedacted]

variable {Written : Type}

theorem SecretsAlike.mapNumbers
    {first second : JsonValue Number}
    (alike : SecretsAlike first second)
    (change : Number → Written) :
    SecretsAlike (first.mapNumbers change) (second.mapNumbers change) := by
  cases first <;> cases second <;> exact alike

/-- Values stay alike when their numbers are written and read again. -/
theorem Alike.mapNumbers
    {first second : JsonValue Number}
    (alike : Alike first second)
    (change : Number → Written) :
    Alike (first.mapNumbers change) (second.mapNumbers change) := by
  induction first generalizing second with
  | null | bool | number | text =>
    rw [Alike] at alike
    rw [alike]
    exact .refl _
  | array items inductionHypothesis =>
    rw [Alike] at alike
    obtain ⟨others, rfl, itemsAlike⟩ := alike
    rw [JsonValue.mapNumbers, JsonValue.mapNumbers, Alike]
    refine ⟨_, rfl, ?_⟩
    induction items generalizing others with
    | nil =>
      rw [AlikeItems] at itemsAlike
      rw [itemsAlike]
      exact rfl
    | cons item rest ofRest =>
      rw [List.forall_mem_cons] at inductionHypothesis
      rw [AlikeItems] at itemsAlike
      obtain ⟨other, otherRest, rfl, itemAlike, restAlike⟩ := itemsAlike
      exact ⟨_, _, rfl, inductionHypothesis.1 itemAlike,
        ofRest inductionHypothesis.2 otherRest restAlike⟩
  | object members inductionHypothesis =>
    rw [Alike] at alike
    obtain ⟨others, rfl, membersAlike⟩ := alike
    rw [JsonValue.mapNumbers, JsonValue.mapNumbers, Alike]
    refine ⟨_, rfl, ?_⟩
    induction members generalizing others with
    | nil =>
      rw [AlikeMembers] at membersAlike
      rw [membersAlike]
      exact rfl
    | cons member rest ofRest =>
      rw [List.forall_mem_cons] at inductionHypothesis
      rw [AlikeMembers] at membersAlike
      obtain ⟨other, otherRest, rfl, memberAlike, restAlike⟩ :=
        membersAlike
      refine ⟨_, _, rfl, ?_,
        ofRest inductionHypothesis.2 otherRest restAlike⟩
      cases sensitive : isSensitiveKey member.1
      · rw [if_neg (by simp [sensitive])] at memberAlike
        rw [if_neg (by simp)]
        exact inductionHypothesis.1 memberAlike
      · rw [if_pos sensitive] at memberAlike
        rw [if_pos rfl]
        exact memberAlike.mapNumbers change

/-- Fields of a form under one key: equal, unless the key is sensitive. -/
def FieldsAlike
    (key : JsString)
    (first second : JsonValue Number) : Prop :=
  if isSensitiveKey key then SecretsAlike first second
  else first = second

/-- Fields with the same keys in the same order. -/
abbrev FormMembersAlike :
    List (JsString × JsonValue Number) →
      List (JsString × JsonValue Number) → Prop :=
  List.Forall₂ fun first second =>
    first.1 = second.1 ∧ FieldsAlike first.1 first.2 second.2

namespace FieldsAlike

theorem refl (key : JsString) (value : JsonValue Number) :
    FieldsAlike key value value := by
  unfold FieldsAlike
  split
  · exact .refl value
  · rfl

end FieldsAlike

namespace FormMembersAlike

variable {firsts seconds : List (JsString × JsonValue Number)}

theorem lookup
    (alike : FormMembersAlike firsts seconds)
    (key : JsString) :
    Option.Rel (FieldsAlike key) (firsts.lookup key)
      (seconds.lookup key) := by
  induction alike with
  | nil => exact .none
  | @cons first second firsts seconds member _ inductionHypothesis =>
    obtain ⟨name, value⟩ := first
    obtain ⟨_, other⟩ := second
    obtain ⟨rfl, valueAlike⟩ := member
    by_cases here : key = name
    · subst here
      rw [List.lookup_cons_self, List.lookup_cons_self]
      exact .some valueAlike
    · have apart : (key == name) = false := beq_eq_false_iff_ne.mpr here
      simp only [List.lookup_cons, apart]
      exact inductionHypothesis

theorem setProperty
    (alike : FormMembersAlike firsts seconds)
    {key : JsString}
    {value other : JsonValue Number}
    (valueAlike : FieldsAlike key value other) :
    FormMembersAlike (Ecma.setProperty firsts key value)
      (Ecma.setProperty seconds key other) := by
  induction alike with
  | nil => exact .cons ⟨rfl, valueAlike⟩ .nil
  | @cons first second firsts seconds member rest inductionHypothesis =>
    obtain ⟨name, stored⟩ := first
    obtain ⟨_, otherStored⟩ := second
    obtain ⟨rfl, storedAlike⟩ := member
    simp only [Ecma.setProperty]
    split
    · exact .cons ⟨rfl, valueAlike⟩ rest
    · split
      · exact .cons ⟨rfl, valueAlike⟩ (.cons ⟨rfl, storedAlike⟩ rest)
      · exact .cons ⟨rfl, storedAlike⟩ inductionHypothesis

theorem alikeMembers
    (alike : FormMembersAlike firsts seconds) :
    AlikeMembers firsts seconds := by
  induction alike with
  | nil => exact rfl
  | @cons first second firsts seconds member _ inductionHypothesis =>
    obtain ⟨name, value⟩ := first
    obtain ⟨_, other⟩ := second
    obtain ⟨rfl, valueAlike⟩ := member
    refine ⟨other, seconds, rfl, ?_, inductionHypothesis⟩
    simp only [FieldsAlike] at valueAlike
    by_cases sensitive : isSensitiveKey name = true
    · rw [if_pos sensitive] at valueAlike ⊢
      exact valueAlike
    · rw [if_neg sensitive] at valueAlike ⊢
      exact valueAlike ▸ .refl value

end FormMembersAlike

/-- The value of a form's field may differ under a sensitive key. -/
def SecretEntry (key first second : JsString) : Prop :=
  isSensitiveKey key = true ∧ first.length = second.length

/-- Objects that alike entries are collected in. -/
structure FormObjectsAlike (first second : FormObject Number) : Prop where
  members : FormMembersAlike first.members second.members
  prototype : first.prototype = second.prototype

namespace FormObjectsAlike

variable
  {first second : FormObject Number}
  (numbers : NumberTexts Number)

theorem lookup
    (alike : FormObjectsAlike first second)
    (key : JsString) :
    Option.Rel (FieldsAlike key) (first.lookup numbers key)
      (second.lookup numbers key) := by
  have sameInherited :
      first.inherited numbers key = second.inherited numbers key := by
    simp only [FormObject.inherited, alike.prototype]
  simp only [FormObject.lookup, alike.prototype, sameInherited]
  split
  · split
    · exact .some (.refl key _)
    · exact .some (.refl key _)
  · have found := alike.members.lookup key
    revert found
    cases first.members.lookup key <;> cases second.members.lookup key
    · intro _
      simp only [Option.none_or]
      cases second.inherited numbers key with
      | none => exact .none
      | some value => exact .some (.refl key value)
    · intro found
      cases found
    · intro found
      cases found
    · exact id

variable {key : JsString}

theorem assign
    (alike : FormObjectsAlike first second)
    {value other : JsonValue Number}
    (valueAlike : FieldsAlike key value other) :
    FormObjectsAlike (first.assign key value)
      (second.assign key other) := by
  unfold FormObject.assign
  split
  · rename_i isProto
    subst isProto
    have same : value = other := valueAlike
    subst same
    split
    · exact { members := alike.members, prototype := rfl }
    · exact alike
  · exact
      { members := alike.members.setProperty valueAlike
        prototype := alike.prototype }

/-- A repeated field becomes an array on both sides. -/
theorem collected
    {value other : JsString}
    {existing otherExisting : Option (JsonValue Number)}
    (existingAlike :
      Option.Rel (FieldsAlike key) existing otherExisting)
    (valueAlike : value = other ∨
      isSensitiveKey key = true ∧ value.length = other.length) :
    FieldsAlike key (FormObject.collected existing value)
      (FormObject.collected otherExisting other) := by
  by_cases sensitive : isSensitiveKey key = true
  · have sameLength : value.length = other.length := by
      rcases valueAlike with rfl | ⟨_, sameLength⟩
      · rfl
      · exact sameLength
    rw [FieldsAlike, if_pos sensitive]
    cases existingAlike with
    | none => exact sameLength
    | @some before otherBefore _ =>
      cases before <;> cases otherBefore <;> exact trivial
  · have same : value = other := by
      rcases valueAlike with same | ⟨isSensitive, _⟩
      · exact same
      · exact absurd isSensitive sensitive
    rw [FieldsAlike, if_neg sensitive, same]
    cases existingAlike with
    | none => rfl
    | some before =>
      rw [FieldsAlike, if_neg sensitive] at before
      rw [before]

theorem addEntry
    (alike : FormObjectsAlike first second)
    {entry other : JsString × JsString}
    (entriesAlike : EntriesAlike SecretEntry entry other) :
    FormObjectsAlike (first.addEntry numbers entry)
      (second.addEntry numbers other) := by
  obtain ⟨key, value⟩ := entry
  obtain ⟨otherKey, otherValue⟩ := other
  rcases entriesAlike with same | ⟨sameKey, differ⟩
  · cases same
    exact alike.assign (collected (alike.lookup numbers key) (Or.inl rfl))
  · have same : key = otherKey := sameKey
    subst same
    exact alike.assign (collected (alike.lookup numbers key) (Or.inr differ))

theorem foldl_addEntry
    (alike : FormObjectsAlike first second)
    {entries others : List (JsString × JsString)}
    (entriesAlike :
      List.Forall₂ (EntriesAlike SecretEntry) entries others) :
    FormObjectsAlike (entries.foldl (FormObject.addEntry numbers) first)
      (others.foldl (FormObject.addEntry numbers) second) := by
  induction entriesAlike generalizing first second with
  | nil => exact alike
  | cons entry _ inductionHypothesis =>
    exact inductionHypothesis (alike.addEntry numbers entry)

end FormObjectsAlike

end Alike

section Bodies

variable {Number : Type} (numbers : NumberTexts Number)

variable {first second : JsonValue Number}

theorem Alike.redactedExcerpt_eq
    (alike : Alike first second) :
    redactedExcerpt numbers first = redactedExcerpt numbers second := by
  rw [redactedExcerpt, redactedExcerpt, alike.redactPayload_eq]

variable {value : JsonValue Number}

theorem excerpt_of_json
    {first second : JsString}
    {other : JsonValue Number}
    (parsed : parse numbers first = some value)
    (otherParsed : parse numbers second = some other)
    (alike : Alike value other) :
    buildRawBodyExcerpt numbers first =
      buildRawBodyExcerpt numbers second := by
  simp only [buildRawBodyExcerpt, parsed, otherParsed]
  exact alike.redactedExcerpt_eq numbers

theorem excerpt_of_form
    {form : JsString}
    (encoded : IsUrlEncoded form)
    (hasField : HasField form) :
    buildRawBodyExcerpt numbers form =
      redactedExcerpt numbers
        (.object ((formEntries form).foldl
          (FormObject.addEntry numbers) .empty).members) := by
  have noJson : parse numbers form = none :=
    parse_unquoted (encoded.not_mem (by decide)) hasField.equals
  have hasEntries := hasField.formEntries_ne_nil encoded
  simp only [buildRawBodyExcerpt, noJson, tryParseUrlEncoded,
    not_true_eq_false, hasField.equals, hasEntries, if_false]

theorem excerpt_of_forms
    {first second : JsString}
    (alike : FormsAlike SecretEntry first second) :
    buildRawBodyExcerpt numbers first =
      buildRawBodyExcerpt numbers second := by
  rcases alike.same_or_fields with rfl | ⟨hasField, otherHasField⟩
  · rfl
  · have begun : FormObjectsAlike (.empty : FormObject Number) .empty :=
      { members := .nil, prototype := rfl }
    have collected := begun.foldl_addEntry numbers alike.entries
    rw [excerpt_of_form numbers alike.firstEncoded hasField,
      excerpt_of_form numbers alike.secondEncoded otherHasField]
    exact Alike.redactedExcerpt_eq numbers
      ⟨_, rfl, collected.members.alikeMembers⟩

theorem payloadExcerpt_eq
    (sha256Hex : JsString → JsString)
    (ordered : value.Ordered)
    (given : value ≠ .null) :
    (buildStoredEventPayload numbers sha256Hex (some value)).payloadExcerpt =
      redactedExcerpt numbers (value.rewritten numbers) := by
  have serialized :
      (buildStoredEventPayload numbers sha256Hex
        (some value)).payloadExcerpt =
        buildRawBodyExcerpt numbers (stringify numbers value) := by
    cases value with
    | null => exact absurd rfl given
    | bool | number | text | array | object => rfl
  rw [serialized, buildRawBodyExcerpt, parse_stringify ordered]

theorem excerpt_of_payloads
    (sha256Hex : JsString → JsString)
    (ordered : first.Ordered)
    (otherOrdered : second.Ordered)
    (alike : Alike first second) :
    (buildStoredEventPayload numbers sha256Hex (some first)).payloadExcerpt =
      (buildStoredEventPayload numbers sha256Hex
        (some second)).payloadExcerpt := by
  by_cases isNull : first = .null
  · subst isNull
    rw [Alike] at alike
    rw [alike]
  · have alsoGiven : second ≠ .null := by
      rintro rfl
      cases first <;> simp [Alike] at alike isNull
    rw [payloadExcerpt_eq numbers sha256Hex ordered isNull,
      payloadExcerpt_eq numbers sha256Hex otherOrdered alsoGiven]
    exact (alike.mapNumbers _).redactedExcerpt_eq numbers

/-- A payload in memory: its members are in property order. -/
structure JsPayload (Number : Type) where
  value : JsonValue Number
  ordered : value.Ordered

/-- Bodies that differ in secrets only: two JSON texts or two forms. -/
inductive BodiesAlike : JsString → JsString → Prop
  | json
      {first second : JsString}
      {value other : JsonValue Number}
      (parsed : parse numbers first = some value)
      (otherParsed : parse numbers second = some other)
      (alike : Alike value other) :
      BodiesAlike first second
  | form
      {first second : JsString}
      (alike : FormsAlike SecretEntry first second) :
      BodiesAlike first second

/--
Payloads that differ in secrets only are redacted and stored alike, and bodies
that differ in secrets only have the same excerpt.
-/
theorem stored_events_hide_secrets
    (sha256Hex : JsString → JsString) :
    (∀ first second : JsPayload Number,
      Alike first.value second.value →
        redactPayload first.value = redactPayload second.value ∧
        buildRedactedPayload (some first.value) =
          buildRedactedPayload (some second.value) ∧
        (buildStoredEventPayload numbers sha256Hex
            (some first.value)).payloadExcerpt =
          (buildStoredEventPayload numbers sha256Hex
            (some second.value)).payloadExcerpt ∧
        (buildStoredEventPayload numbers sha256Hex
            (some first.value)).redactedPayload =
          (buildStoredEventPayload numbers sha256Hex
            (some second.value)).redactedPayload) ∧
    (∀ first second : JsString, BodiesAlike numbers first second →
      buildRawBodyExcerpt numbers first =
        buildRawBodyExcerpt numbers second) := by
  refine ⟨?_, ?_⟩
  · intro first second alike
    refine ⟨alike.redactPayload_eq, alike.buildRedactedPayload_eq,
      excerpt_of_payloads numbers sha256Hex first.ordered second.ordered
        alike, ?_⟩
    simp only [buildStoredEventPayload, alike.buildRedactedPayload_eq]
  · intro first second alike
    cases alike with
    | json parsed otherParsed alike =>
      exact excerpt_of_json numbers parsed otherParsed alike
    | form alike => exact excerpt_of_forms numbers alike

end Bodies

def tokenNumbers :
    NumberTexts { token : JsString // isNumberToken token = true } where
  read text :=
    if token : isNumberToken text = true then ⟨text, token⟩
    else ⟨units "0", by decide⟩
  write number := number.val
  isToken number := number.property

/-- A payment notification with its sign. -/
def signedPayload
    (sign : String) :
    JsPayload { token : JsString // isNumberToken token = true } where
  value :=
    .object [(units "trade_no", .text (units "T1")),
      (units "detail", .array [.object [(units "sign", .text (units sign))]])]
  ordered := by
    refine ⟨by rfl, trivial, ?_, trivial⟩
    exact ⟨⟨by rfl, trivial, trivial⟩, trivial⟩

theorem stored_events_hide_secrets_signed :
    redactPayload (signedPayload "abc").value =
      redactPayload (signedPayload "xyz").value ∧
    buildRawBodyExcerpt tokenNumbers (units "trade_no=T1&sign=abc") =
      buildRawBodyExcerpt tokenNumbers (units "trade_no=T1&sign=xyz") := by
  have hidden := stored_events_hide_secrets tokenNumbers id
  have sensitive : isSensitiveKey (units "sign") = true := by decide
  have plain : isSensitiveKey (units "trade_no") = false := by decide
  have detail : isSensitiveKey (units "detail") = false := by decide
  refine ⟨(hidden.1 (signedPayload "abc") (signedPayload "xyz") ?_).1,
    hidden.2 _ _ (.form ?_)⟩
  · simp only [signedPayload, Alike, AlikeItems, AlikeMembers, sensitive,
      plain, detail]
    simp [SecretsAlike, units]
  · refine
      { firstEncoded := by decide
        secondEncoded := by decide
        segments := ?_ }
    refine .cons (Or.inl rfl) (.cons (Or.inr ?_) .nil)
    exact ⟨units "sign", units "abc", units "xyz", by decide, rfl, rfl,
      by decide, by decide⟩

end VendingSystem.Provider
