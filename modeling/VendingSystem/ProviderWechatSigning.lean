import VendingSystem.ProviderWechatXml
import Mathlib.Data.List.Lex
import Mathlib.Data.List.Sort

namespace VendingSystem.Provider

open Ecma

/-!
# Signatures of WeChat Pay V2 messages

A signature is a digest of the given fields, each as its name and its text, in
the order in which the locale compares the names.  A message that was signed
and written is accepted once it was read when all of it, its signature too,
came back as it was.
-/

section Sorting

variable {Item : Type} {goesFirst precedes : Item → Item → Prop}
  [DecidableRel goesFirst]

theorem pairwise_orderedInsert_iff
    (transitive : ∀ first middle last, goesFirst first middle →
      goesFirst middle last → goesFirst first last)
    {item : Item}
    {items : List Item}
    (sorted : items.Pairwise goesFirst)
    (compares : ∀ other ∈ items, ¬precedes item other ↔
      precedes other item) :
    (items.orderedInsert goesFirst item).Pairwise precedes ↔
      (∀ other ∈ items, goesFirst item other ↔ precedes item other) ∧
        items.Pairwise precedes := by
  induction items with
  | nil => simp
  | cons head tail inductionHypothesis =>
    obtain ⟨below, sortedTail⟩ := List.pairwise_cons.mp sorted
    obtain ⟨comparesHead, comparesTail⟩ := List.forall_mem_cons.mp compares
    by_cases goes : goesFirst item head
    · have goesAll : ∀ other ∈ head :: tail, goesFirst item other :=
        List.forall_mem_cons.mpr ⟨goes, fun other member =>
          transitive _ _ _ goes (below other member)⟩
      rw [List.orderedInsert_cons_of_le _ _ goes, List.pairwise_cons]
      refine and_congr_left fun _ => forall₂_congr fun other member => ?_
      simp [goesAll other member]
    · rw [List.orderedInsert_cons, if_neg goes, List.pairwise_cons,
        inductionHypothesis sortedTail comparesTail, List.pairwise_cons,
        List.forall_mem_cons]
      have first : (∀ other ∈ tail.orderedInsert goesFirst item,
          precedes head other) ↔
            precedes head item ∧ ∀ other ∈ tail, precedes head other := by
        simp only [List.mem_orderedInsert, forall_eq_or_imp]
      rw [first, ← comparesHead]
      simp only [goes, false_iff]
      exact ⟨fun ⟨⟨own, heads⟩, tails, rest⟩ => ⟨⟨own, tails⟩, heads, rest⟩,
        fun ⟨⟨own, tails⟩, heads, rest⟩ => ⟨⟨own, heads⟩, tails, rest⟩⟩

theorem pairwise_insertionSort_iff
    (total : ∀ first last, goesFirst first last ∨ goesFirst last first)
    (transitive : ∀ first middle last, goesFirst first middle →
      goesFirst middle last → goesFirst first last)
    {items : List Item}
    (compares : items.Pairwise fun first last =>
      ¬precedes first last ↔ precedes last first) :
    (items.insertionSort goesFirst).Pairwise precedes ↔
      items.Pairwise fun earlier later =>
        goesFirst earlier later ↔ precedes earlier later := by
  have : Std.Total goesFirst := ⟨total⟩
  have : IsTrans Item goesFirst := ⟨transitive⟩
  induction items with
  | nil => simp
  | cons head tail inductionHypothesis =>
    obtain ⟨comparesHead, comparesTail⟩ := List.pairwise_cons.mp compares
    have ofTail := inductionHypothesis comparesTail
    rw [List.insertionSort_cons, pairwise_orderedInsert_iff transitive
      (List.pairwise_insertionSort goesFirst tail), List.pairwise_cons]
    · exact and_congr (by simp only [List.mem_insertionSort]) ofTail
    · simpa only [List.mem_insertionSort] using comparesHead

end Sorting

inductive WeChatV2SignType where
  | md5
  | hmacSha256
  deriving Repr, DecidableEq

/-- The digests of a text, in hexadecimal; the keyed one takes its key first. -/
structure Digests where
  md5 : JsString → JsString
  hmacSha256 : JsString → JsString → JsString

/-- How the locale compares two strings: at most zero if the first may go. -/
structure Collation where
  localeCompare : JsString → JsString → Int
  total : ∀ first last,
    localeCompare first last ≤ 0 ∨ localeCompare last first ≤ 0
  transitive : ∀ first middle last, localeCompare first middle ≤ 0 →
    localeCompare middle last ≤ 0 → localeCompare first last ≤ 0

/-- `toUpperCase` of a digest. -/
def toUpperCase (text : JsString) : JsString :=
  text.map fun unit => if 'a'.toNat ≤ unit ∧ unit ≤ 'f'.toNat then unit - 32
    else unit

section Signing

variable {Number : Type} (numberText : Number → JsString)
  (collation : Collation) (digests : Digests)

/-- The fields that a signature covers. -/
def signedFields
    (payload : List (JsString × WeChatV2Value Number)) :
    List (JsString × JsString) :=
  (givenTexts numberText payload).filter fun field =>
    field.1 ≠ units "sign" ∧ field.2 ≠ []

/-- The fields that a signature covers, in its order. -/
def sortedFields
    (payload : List (JsString × WeChatV2Value Number)) :
    List (JsString × JsString) :=
  (signedFields numberText payload).insertionSort fun first last =>
    collation.localeCompare first.1 last.1 ≤ 0

def signWechatV2
    (payload : List (JsString × WeChatV2Value Number))
    (apiV2Key : JsString)
    (signType : WeChatV2SignType) : JsString :=
  let base := List.intercalate (units "&")
    ((sortedFields numberText collation payload).map fun field =>
      field.1 ++ units "=" ++ field.2)
  let stringSignTemp := base ++ units "&key=" ++ apiV2Key
  match signType with
  | .hmacSha256 => toUpperCase (digests.hmacSha256 apiV2Key stringSignTemp)
  | .md5 => toUpperCase (digests.md5 stringSignTemp)

def textPayload
    (fields : List (JsString × JsString)) :
    List (JsString × WeChatV2Value Number) :=
  fields.map fun field => (field.1, .text field.2)

def verifyWechatV2Sign
    (payload : List (JsString × JsString))
    (apiV2Key : JsString)
    (signType : WeChatV2SignType) : Bool :=
  payload.lookup (units "sign") =
    some (signWechatV2 numberText collation digests (textPayload payload)
      apiV2Key signType)

/-- `{ ...payload, sign }`. -/
def signedMessage
    (payload : List (JsString × WeChatV2Value Number))
    (sign : JsString) : List (JsString × WeChatV2Value Number) :=
  setProperty payload (units "sign") (.text sign)

end Signing

section Messages

variable {Number : Type} {numberText : Number → JsString}
  {payload : List (JsString × WeChatV2Value Number)} {sign : JsString}

theorem givenTexts_textPayload (fields : List (JsString × JsString)) :
    givenTexts numberText (textPayload fields) = fields := by
  induction fields with
  | nil => rfl
  | cons head tail inductionHypothesis =>
    simp only [givenTexts, textPayload, List.map_cons,
      List.filterMap_cons, WeChatV2Value.given, Option.map_some]
    exact congrArg _ inductionHypothesis

/-- A signature replaces one that is there, or comes last. -/
theorem signedMessage_cons
    (field : JsString × WeChatV2Value Number) :
    signedMessage (field :: payload) sign =
      if field.1 = units "sign" then (units "sign", .text sign) :: payload
      else field :: signedMessage payload sign := by
  have isName : arrayIndex (units "sign") = none := by decide
  simp only [signedMessage, setProperty, goesBefore, isName]
  rfl

theorem givenTexts_cons (field : JsString × WeChatV2Value Number) :
    givenTexts numberText (field :: payload) =
      ((field.2.given numberText).map fun text => (field.1, text)).toList ++
        givenTexts numberText payload := by
  simp only [givenTexts, List.filterMap_cons]
  cases (field.2.given numberText).map fun text => (field.1, text) with
  | none => rfl
  | some given => rfl

theorem lookup_sign (reads : JsString → JsString) :
    ((givenTexts numberText (signedMessage payload sign)).map fun field =>
        (field.1, reads field.2)).lookup (units "sign") =
      some (reads sign) := by
  induction payload with
  | nil => rfl
  | cons field rest inductionHypothesis =>
    rw [signedMessage_cons]
    split
    · simp [givenTexts_cons, WeChatV2Value.given]
    · next notSign =>
      have skips : (units "sign" == field.1) = false := by
        simpa using Ne.symm notSign
      rw [givenTexts_cons]
      cases field.2.given numberText with
      | none => exact inductionHypothesis
      | some text =>
        simpa [List.lookup_cons, skips] using inductionHypothesis

theorem filter_givenTexts_signedMessage :
    (givenTexts numberText (signedMessage payload sign)).filter
        (fun field => field.1 ≠ units "sign") =
      (givenTexts numberText payload).filter
        fun field => field.1 ≠ units "sign" := by
  induction payload with
  | nil => rfl
  | cons field rest inductionHypothesis =>
    rw [signedMessage_cons]
    split
    · next isSign =>
      rw [givenTexts_cons, givenTexts_cons, List.filter_append,
        List.filter_append]
      congr 1
      cases field.2.given numberText with
      | none => rfl
      | some text => simp [isSign, WeChatV2Value.given]
    · rw [givenTexts_cons, givenTexts_cons, List.filter_append,
        List.filter_append, inductionHypothesis]

theorem signedFields_eq :
    signedFields numberText payload =
      ((givenTexts numberText payload).filter
        fun field => field.1 ≠ units "sign").filter
          fun field => field.2 ≠ [] := by
  simp only [signedFields, List.filter_filter, Bool.decide_and, Bool.and_comm]

theorem givenTexts_names_sublist :
    ((givenTexts numberText payload).map Prod.fst).Sublist
      (payload.map Prod.fst) := by
  induction payload with
  | nil => exact List.Sublist.slnil
  | cons field rest inductionHypothesis =>
    rw [givenTexts_cons, List.map_append, List.map_cons]
    cases field.2.given numberText with
    | none => exact inductionHypothesis.cons _
    | some text => exact inductionHypothesis.cons_cons _

theorem signedMessage_names :
    (signedMessage payload sign).map Prod.fst =
      if units "sign" ∈ payload.map Prod.fst then payload.map Prod.fst
      else payload.map Prod.fst ++ [units "sign"] := by
  induction payload with
  | nil => rfl
  | cons field rest inductionHypothesis =>
    rw [signedMessage_cons]
    by_cases isSign : field.1 = units "sign"
    · simp [isSign]
    · simp only [isSign, if_false, List.map_cons, inductionHypothesis,
        List.mem_cons, Ne.symm isSign, false_or]
      split
      · rfl
      · rfl

theorem signedMessage_names_nodup
    (distinct : (payload.map Prod.fst).Nodup) :
    ((signedMessage payload sign).map Prod.fst).Nodup := by
  rw [signedMessage_names]
  split
  · exact distinct
  · next absent =>
    rw [← List.concat_eq_append]
    exact distinct.concat absent

variable {parser : XmlParser Number} {collation : Collation}
  {digests : Digests} {apiV2Key : JsString} {signType : WeChatV2SignType}

/-- A signed message whose other values are spelled is accepted if its
signature is. -/
theorem verifies_iff
    (distinct : (payload.map Prod.fst).Nodup)
    (reads : parser.Reads numberText
      (messageElements numberText (signedMessage payload sign)))
    (signs : sign =
      signWechatV2 numberText collation digests payload apiV2Key signType)
    (spelled : ∀ field ∈ givenTexts numberText payload,
      parser.Spells numberText field.2) :
    verifyWechatV2Sign numberText collation digests
        (parseWechatXml numberText parser
          (toWechatXml numberText (signedMessage payload sign)))
        apiV2Key signType = true ↔
      parser.Spells numberText sign := by
  let read := (givenTexts numberText (signedMessage payload sign)).map
    fun field => (field.1, parser.readsAs numberText field.2)
  have others : read.filter (fun field => field.1 ≠ units "sign") =
      (givenTexts numberText payload).filter
        fun field => field.1 ≠ units "sign" := by
    rw [← filter_givenTexts_signedMessage, List.filter_map]
    refine (List.map_congr_left fun field member => ?_).trans (List.map_id _)
    have stays : field ∈ (givenTexts numberText payload).filter
        fun field => field.1 ≠ units "sign" := by
      rw [← filter_givenTexts_signedMessage]
      exact member
    rw [(parser.readsAs_eq_iff numberText field.2).mpr
      (spelled field (List.mem_of_mem_filter stays))]
    rfl
  have expected : signWechatV2 numberText collation digests
      (textPayload read) apiV2Key signType = sign := by
    have same : signedFields numberText (textPayload read) =
        signedFields numberText payload := by
      rw [signedFields_eq, givenTexts_textPayload, others, ← signedFields_eq]
    rw [signs]
    simp only [signWechatV2, sortedFields, same]
  rw [parseWechatXml_toWechatXml
    (givenTexts_names_sublist.nodup (signedMessage_names_nodup distinct)) reads,
    verifyWechatV2Sign, lookup_sign, expected, decide_eq_true_eq,
    Option.some.injEq, parser.readsAs_eq_iff numberText]

/--
A payload with distinct names comes back as it was, is accepted with its
signature and is signed in the order of its names exactly when the parser
spells every given value and the signature as they were written, and the
locale compares the signed names as their code units do.
-/
theorem wechat_message_survives_iff
    {Number : Type}
    {numberText : Number → JsString}
    (parser : XmlParser Number)
    (collation : Collation)
    (digests : Digests)
    (payload : List (JsString × WeChatV2Value Number))
    (apiV2Key : JsString)
    (signType : WeChatV2SignType)
    (distinct : (payload.map Prod.fst).Nodup)
    (reads : parser.Reads numberText
      (messageElements numberText payload))
    (readsSigned : parser.Reads numberText (messageElements numberText
      (signedMessage payload (signWechatV2 numberText collation digests
        payload apiV2Key signType)))) :
    (parseWechatXml numberText parser (toWechatXml numberText payload) =
        givenTexts numberText payload ∧
      verifyWechatV2Sign numberText collation digests
          (parseWechatXml numberText parser (toWechatXml numberText
            (signedMessage payload (signWechatV2 numberText collation digests
              payload apiV2Key signType))))
          apiV2Key signType = true ∧
      (sortedFields numberText collation payload).Pairwise
        fun first last => first.1 < last.1) ↔
    (∀ field ∈ givenTexts numberText payload,
      parser.Spells numberText field.2) ∧
      parser.Spells numberText (signWechatV2 numberText collation digests
        payload apiV2Key signType) ∧
      (signedFields numberText payload).Pairwise fun earlier later =>
        (collation.localeCompare earlier.1 later.1 ≤ 0 ↔
          earlier.1 < later.1) := by
  have ordered : (sortedFields numberText collation payload).Pairwise
      (fun first last => first.1 < last.1) ↔
        (signedFields numberText payload).Pairwise fun earlier later =>
          (collation.localeCompare earlier.1 later.1 ≤ 0 ↔
            earlier.1 < later.1) := by
    apply pairwise_insertionSort_iff
    · exact fun first last => collation.total _ _
    · exact fun first middle last => collation.transitive _ _ _
    · have different : (signedFields numberText payload).Pairwise
          fun first last => first.1 ≠ last.1 := by
        rw [← List.pairwise_map]
        exact ((List.filter_sublist.map Prod.fst).trans
          givenTexts_names_sublist).nodup distinct
      exact different.imp fun differs =>
        ⟨fun notBefore => (lt_or_gt_of_ne differs).resolve_left notBefore,
          fun after => not_lt_of_gt after⟩
  rw [roundTrip_iff (givenTexts_names_sublist.nodup distinct) reads, ordered]
  refine and_congr_right fun spelled => and_congr_left fun _ => ?_
  exact verifies_iff distinct readsSigned rfl spelled

end Messages

/-- `String(value)` of a natural number. -/
def naturalText (number : Nat) : JsString :=
  units (toString number)

/-- The number of a text of digits. -/
def convertDigits (text : JsString) : Option (JsonValue Nat) :=
  if text ≠ [] ∧ text.all isDigitUnit then some (.number (digitsValue text))
  else none

/-- A parser of some documents; it makes a number of a text of digits. -/
def documentsParser (documents : List (List XmlElement)) : XmlParser Nat where
  parse xml :=
    match documents.find? (fun elements => xmlDocument elements = xml) with
    | some elements =>
      .object [(units "xml",
        elementsValue naturalText convertDigits elements)]
    | none => .text []
  convert := convertDigits
  convert_plain text value converted := by
    obtain ⟨digits, _⟩ := Option.ite_none_right_eq_some.mp converted
    have all := List.all_eq_true.mp digits.2
    exact ⟨fun member => absurd (all _ member) (by decide),
      fun member => absurd (all _ member) (by decide)⟩

/-- Strings in the order of their code units. -/
def codeUnitCollation : Collation where
  localeCompare first last := if first ≤ last then -1 else 1
  total first last := by
    rcases le_total first last with le | le
    · exact .inl (by simp [le])
    · exact .inr (by simp [le])
  transitive first middle last le leLast := by
    have atMost {one other : JsString}
        (compared : (if one ≤ other then -1 else 1 : Int) ≤ 0) :
        one ≤ other := by
      split at compared
      · assumption
      · cases compared
    rw [if_pos ((atMost le).trans (atMost leLast))]
    decide

/-- A payload whose names and texts are plain. -/
def plainPayload : List (JsString × WeChatV2Value Nat) :=
  [(units "out_trade_no", .text (units "A12")),
    (units "total_fee", .number 100)]

/-- The digest of the plain payload under the key `k`. -/
def plainDigests : Digests where
  md5 _ := units "10bbeb012660418c0214c46363e739e7"
  hmacSha256 _ _ := []

def plainSign : JsString := units "10BBEB012660418C0214C46363E739E7"

/-- The parser of the plain message, without and with its signature. -/
def plainParser : XmlParser Nat :=
  documentsParser
    [[⟨units "out_trade_no", [units "A12"]⟩,
        ⟨units "total_fee", [units "100"]⟩],
      [⟨units "out_trade_no", [units "A12"]⟩,
        ⟨units "total_fee", [units "100"]⟩, ⟨units "sign", [plainSign]⟩]]

theorem spells_of_unconverted
    {text : JsString}
    (unconverted : plainParser.convert text = none) :
    plainParser.Spells naturalText text := by
  intro value converted
  rw [unconverted] at converted
  cases converted

/-- A plain message survives, as the digest of it has a letter in it. -/
theorem wechat_message_survives_iff_plain :
    parseWechatXml naturalText plainParser
        (toWechatXml naturalText plainPayload) =
      [(units "out_trade_no", units "A12"),
        (units "total_fee", units "100")] := by
  have given : givenTexts naturalText plainPayload =
        [(units "out_trade_no", units "A12"),
          (units "total_fee", units "100")] := by decide +kernel
  rw [← given]
  refine ((wechat_message_survives_iff plainParser codeUnitCollation
    plainDigests plainPayload (units "k") .md5 (by decide +kernel)
    (fun _ _ => rfl) (fun _ _ => rfl)).mpr ⟨?_, ?_, ?_⟩).1
  · rw [given, List.forall_mem_cons, List.forall_mem_singleton]
    refine ⟨spells_of_unconverted rfl, ?_⟩
    rintro value ⟨⟩
    decide +kernel
  · exact spells_of_unconverted (by decide +kernel)
  · decide +kernel

/-- A number with leading zeros comes back without them. -/
theorem wechat_message_does_not_survive :
    ¬∀ (parser : XmlParser Nat) (payload : List (JsString × WeChatV2Value Nat)),
      (payload.map Prod.fst).Nodup →
      parser.Reads naturalText (messageElements naturalText payload) →
      parseWechatXml naturalText parser (toWechatXml naturalText payload) =
        givenTexts naturalText payload := by
  intro always
  have same := always
    (documentsParser [[⟨units "out_trade_no", [units "0012"]⟩]])
    [(units "out_trade_no", .text (units "0012"))]
    (by decide +kernel) (fun _ _ => rfl)
  revert same
  decide +kernel

end VendingSystem.Provider
