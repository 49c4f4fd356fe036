import VendingSystem.EcmaJson
import Mathlib.Data.List.Infix
import Mathlib.Data.List.Nodup

namespace VendingSystem.Provider

open Ecma

/-!
# WeChat Pay V2 messages as XML

A message is an element for each field, whose value stands in sections of
character data; a value that would close its section goes on in the next one.
The parser is a package of its own: it reads the sections of an element, and
turns text that looks like a number or a boolean into one.
-/

/-- A field of a payload. -/
inductive WeChatV2Value (Number : Type) where
  | text (value : JsString)
  | number (value : Number)
  | null
  | undefined

def cdataOpen : JsString := units "<![CDATA["

def cdataClose : JsString := units "]]>"

/-- `text.replace(/]]>/g, "]]]]><![CDATA[>")`. -/
def replaceClose : JsString → JsString
  | 93 :: 93 :: 62 :: rest => units "]]]]><![CDATA[>" ++ replaceClose rest
  | unit :: rest => unit :: replaceClose rest
  | [] => []

/-- An element whose content is sections of character data. -/
structure XmlElement where
  name : JsString
  sections : List JsString
  deriving Repr, DecidableEq

/-- Text in a section of its own. -/
def cdataSection (text : JsString) : JsString :=
  cdataOpen ++ (text ++ cdataClose)

def XmlElement.text (element : XmlElement) : JsString :=
  units "<" ++ element.name ++ units ">" ++
    element.sections.flatMap cdataSection ++
      (units "</" ++ element.name ++ units ">")

/-- The document of some elements. -/
def xmlDocument (elements : List XmlElement) : JsString :=
  units "<xml>" ++ elements.flatMap XmlElement.text ++ units "</xml>"

section Payloads

variable {Number : Type} (numberText : Number → JsString)

/-- `String(value)` of a value that is given. -/
def WeChatV2Value.given : WeChatV2Value Number → Option JsString
  | .text value => some value
  | .number value => some (numberText value)
  | .null => none
  | .undefined => none

/-- The fields with a value, as text. -/
def givenTexts
    (entries : List (JsString × WeChatV2Value Number)) :
    List (JsString × JsString) :=
  entries.filterMap fun entry =>
    (entry.2.given numberText).map fun text => (entry.1, text)

def toWechatXml
    (entries : List (JsString × WeChatV2Value Number)) : JsString :=
  let body := (givenTexts numberText entries).flatMap fun entry =>
    units "<" ++ entry.1 ++ units "><![CDATA[" ++ replaceClose entry.2 ++
      units "]]></" ++ entry.1 ++ units ">"
  units "<xml>" ++ body ++ units "</xml>"

/-- What `parseWechatXml` makes of a parsed value. -/
def parsedText : JsonValue Number → JsString
  | .text value => value
  | .number value => numberText value
  | .bool true => units "true"
  | .bool false => units "false"
  | .null => []
  | .array _ => []
  | .object _ => []

/-- The value of an element: its one section, or the joined text of several. -/
def sectionsValue
    (convert : JsString → Option (JsonValue Number)) :
    List JsString → JsonValue Number
  | [] => .text []
  | [section_] => (convert section_).getD (.text section_)
  | sections => .text (sections.flatMap fun section_ =>
    parsedText numberText ((convert section_).getD (.text section_)))

/-- What the parser makes of the elements of a document. -/
def elementsValue
    (convert : JsString → Option (JsonValue Number))
    (elements : List XmlElement) : JsonValue Number :=
  if elements = [] then .text []
  else .object (elements.map fun element =>
    (element.name, sectionsValue numberText convert element.sections))

/-- The XML parser with its default options. -/
structure XmlParser (Number : Type) where
  parse : JsString → JsonValue Number
  /-- What text that looks like a number or a boolean is turned into. -/
  convert : JsString → Option (JsonValue Number)
  /-- Text with markup in it is neither a number nor a boolean. -/
  convert_plain : ∀ text value, convert text = some value →
    ']'.toNat ∉ text ∧ '>'.toNat ∉ text

/--
The parser reads the document of the elements, if no section holds the mark
that closes it: the names become properties, and the text of each is converted
or kept.
-/
def XmlParser.Reads
    (parser : XmlParser Number)
    (elements : List XmlElement) : Prop :=
  (∀ element ∈ elements, ∀ section_ ∈ element.sections,
    ¬cdataClose <:+: section_) →
  (elements.map XmlElement.name).Nodup →
    parser.parse (xmlDocument elements) =
      .object [(units "xml",
        elementsValue numberText parser.convert elements)]

def parseWechatXml
    (parser : XmlParser Number)
    (xml : JsString) : List (JsString × JsString) :=
  match parser.parse xml with
  | .object members =>
    match members.lookup (units "xml") with
    | some (.object source) =>
      source.map fun member => (member.1, parsedText numberText member.2)
    | _ => []
  | _ => []

end Payloads

/-- A unit in front of the first section. -/
def consSection (unit : Nat) : List JsString → List JsString
  | [] => [[unit]]
  | first :: others => (unit :: first) :: others

/-- The sections a value is written in. -/
def cdataSections : JsString → List JsString
  | 93 :: 93 :: 62 :: rest =>
    units "]]" :: consSection 62 (cdataSections rest)
  | unit :: rest => consSection unit (cdataSections rest)
  | [] => [[]]

theorem replaceClose_sections (text : JsString) :
    ∃ first others, cdataSections text = first :: others ∧
      replaceClose text ++ cdataClose =
        first ++ (cdataClose ++ others.flatMap cdataSection) := by
  fun_induction cdataSections text with
  | case1 rest inductionHypothesis =>
    obtain ⟨first, others, shape, same⟩ := inductionHypothesis
    refine ⟨units "]]", (62 :: first) :: others, ?_, ?_⟩
    · rw [shape]
      rfl
    · have closed : units "]]]]><![CDATA[>" =
          units "]]" ++ (cdataClose ++ (cdataOpen ++ [62])) := by decide
      rw [replaceClose, List.append_assoc, same, closed,
        List.flatMap_cons, cdataSection]
      simp only [List.append_assoc, List.cons_append, List.nil_append]
  | case2 unit rest noClose inductionHypothesis =>
    obtain ⟨first, others, shape, same⟩ := inductionHypothesis
    refine ⟨unit :: first, others, ?_, ?_⟩
    · rw [shape]
      rfl
    · rw [replaceClose, List.cons_append, same]
      · rfl
      · exact noClose
  | case3 => exact ⟨[], [], rfl, rfl⟩

theorem exists_cdataSections (text : JsString) :
    ∃ first others, cdataSections text = first :: others := by
  obtain ⟨first, others, shape, _⟩ := replaceClose_sections text
  exact ⟨first, others, shape⟩

theorem cdata_replaceClose (text : JsString) :
    cdataSection (replaceClose text) =
      (cdataSections text).flatMap cdataSection := by
  obtain ⟨first, others, shape, same⟩ := replaceClose_sections text
  rw [cdataSection, same, shape, List.flatMap_cons, cdataSection]
  simp only [List.append_assoc]

/-- Every given field as an element of sections. -/
def messageElements
    {Number : Type}
    (numberText : Number → JsString)
    (entries : List (JsString × WeChatV2Value Number)) : List XmlElement :=
  (givenTexts numberText entries).map fun field =>
    ⟨field.1, cdataSections field.2⟩

theorem toWechatXml_eq
    {Number : Type}
    (numberText : Number → JsString)
    (entries : List (JsString × WeChatV2Value Number)) :
    toWechatXml numberText entries =
      xmlDocument (messageElements numberText entries) := by
  have element (field : JsString × JsString) :
      units "<" ++ field.1 ++ units "><![CDATA[" ++ replaceClose field.2 ++
          units "]]></" ++ field.1 ++ units ">" =
        (XmlElement.mk field.1 (cdataSections field.2)).text := by
    have opened : units "><![CDATA[" = units ">" ++ cdataOpen := by decide
    have closed : units "]]></" = cdataClose ++ units "</" := by decide
    rw [XmlElement.text, ← cdata_replaceClose, cdataSection, opened, closed]
    simp only [List.append_assoc]
  simp only [toWechatXml, xmlDocument, messageElements, List.flatMap_map,
    element]

theorem flatten_consSection
    (unit : Nat)
    (sections : List JsString) :
    (consSection unit sections).flatten = unit :: sections.flatten := by
  cases sections with
  | nil => rfl
  | cons first others => rfl

theorem flatten_cdataSections (text : JsString) :
    (cdataSections text).flatten = text := by
  fun_induction cdataSections text with
  | case1 rest inductionHypothesis =>
    rw [List.flatten_cons, flatten_consSection, inductionHypothesis]
    rfl
  | case2 unit rest _ inductionHypothesis =>
    rw [flatten_consSection, inductionHypothesis]
  | case3 => rfl

theorem not_close_infix_cons
    {unit : Nat}
    {text : JsString}
    (notHere : ¬cdataClose <+: unit :: text)
    (notLater : ¬cdataClose <:+: text) :
    ¬cdataClose <:+: unit :: text := by
  rw [List.infix_cons_iff]
  exact fun found => found.elim notHere notLater

/-- No section holds the mark that would close it. -/
theorem not_close_infix_cdataSections (text : JsString) :
    (∀ section_ ∈ cdataSections text, ¬cdataClose <:+: section_) ∧
      ∀ first ∈ (cdataSections text).head?, first <+: text := by
  fun_induction cdataSections text with
  | case1 rest inductionHypothesis =>
    refine ⟨fun section_ member => ?_, ?_⟩
    · rcases List.mem_cons.mp member with rfl | later
      · decide
      · obtain ⟨first, others, sections⟩ := exists_cdataSections rest
        rw [sections] at later inductionHypothesis
        rcases List.mem_cons.mp later with rfl | other
        · refine not_close_infix_cons ?_
            (inductionHypothesis.1 first List.mem_cons_self)
          rintro ⟨_, same⟩
          cases same
        · exact inductionHypothesis.1 section_ (List.mem_cons_of_mem _ other)
    · rintro first ⟨⟩
      exact ⟨62 :: rest, rfl⟩
  | case2 unit rest noClose inductionHypothesis =>
    obtain ⟨first, others, sections⟩ := exists_cdataSections rest
    rw [sections] at inductionHypothesis ⊢
    have isPrefix := inductionHypothesis.2 first rfl
    refine ⟨fun section_ member => ?_, ?_⟩
    · rcases List.mem_cons.mp member with rfl | other
      · refine not_close_infix_cons (fun found => ?_)
          (inductionHypothesis.1 first List.mem_cons_self)
        obtain ⟨after, same⟩ := found.trans
          ((List.prefix_cons_inj unit).mpr isPrefix)
        cases same
        exact noClose after rfl rfl
      · exact inductionHypothesis.1 section_ (List.mem_cons_of_mem _ other)
    · rintro _ ⟨⟩
      exact (List.prefix_cons_inj unit).mpr isPrefix
  | case3 =>
    refine ⟨fun section_ member => ?_, ?_⟩
    · cases List.mem_singleton.mp member
      decide
    · rintro first ⟨⟩
      exact List.nil_prefix

theorem markup_of_split
    {text first second : JsString}
    {others : List JsString}
    (split : cdataSections text = first :: second :: others) :
    ∀ section_ ∈ cdataSections text, 93 ∈ section_ ∨ 62 ∈ section_ := by
  fun_induction cdataSections text generalizing first second others with
  | case1 rest inductionHypothesis =>
    obtain ⟨head, tail, sections⟩ := exists_cdataSections rest
    rw [sections] at inductionHypothesis ⊢
    intro section_ member
    simp only [consSection, List.mem_cons] at member
    rcases member with rfl | rfl | later
    · exact .inl (by decide)
    · exact .inr List.mem_cons_self
    · cases tail with
      | nil => cases later
      | cons next after =>
        exact inductionHypothesis rfl section_ (List.mem_cons_of_mem _ later)
  | case2 unit rest _ inductionHypothesis =>
    obtain ⟨head, tail, sections⟩ := exists_cdataSections rest
    rw [sections] at split inductionHypothesis ⊢
    cases tail with
    | nil => cases split
    | cons next after =>
      have markup := inductionHypothesis rfl
      intro section_ member
      rcases List.mem_cons.mp member with rfl | later
      · exact (markup head List.mem_cons_self).imp
          (List.mem_cons_of_mem _) (List.mem_cons_of_mem _)
      · exact markup section_ (List.mem_cons_of_mem _ later)
  | case3 => cases split

section RoundTrip

variable {Number : Type} (numberText : Number → JsString)

/-- What the parser makes of the text, if anything, is spelled as the text. -/
def XmlParser.Spells
    (parser : XmlParser Number)
    (text : JsString) : Prop :=
  ∀ value, parser.convert text = some value →
    parsedText numberText value = text

/-- What is read of a value that was written in its sections. -/
def XmlParser.readsAs
    (parser : XmlParser Number)
    (text : JsString) : JsString :=
  parsedText numberText
    (sectionsValue numberText parser.convert (cdataSections text))

variable (parser : XmlParser Number)

theorem XmlParser.convert_markup
    {text : JsString}
    (markup : 93 ∈ text ∨ 62 ∈ text) :
    parser.convert text = none := by
  cases converted : parser.convert text with
  | none => rfl
  | some value =>
    have plain := parser.convert_plain text value converted
    exact absurd markup (not_or.mpr plain)

theorem XmlParser.readsAs_eq_iff (text : JsString) :
    parser.readsAs numberText text = text ↔
      parser.Spells numberText text := by
  have joined := flatten_cdataSections text
  obtain ⟨first, others, sections⟩ := exists_cdataSections text
  rw [readsAs, sections]
  cases others with
  | nil =>
    rw [sections, List.flatten_singleton] at joined
    subst joined
    simp only [sectionsValue, Spells]
    cases converted : parser.convert first with
    | none => simp [parsedText]
    | some value => simp
  | cons second rest =>
    have markup := markup_of_split sections
    rw [sections] at markup joined
    have same : parsedText numberText (sectionsValue numberText
        parser.convert (first :: second :: rest)) = text := by
      simp only [sectionsValue, parsedText]
      rw [← joined, List.flatten_eq_flatMap]
      apply List.flatMap_congr
      intro section_ member
      rw [parser.convert_markup (markup section_ member)]
      rfl
    have plain : parser.convert text = none := by
      apply parser.convert_markup
      rw [← joined]
      exact (markup first List.mem_cons_self).imp
        (List.mem_append_left _) (List.mem_append_left _)
    refine iff_of_true same fun value converted => ?_
    rw [plain] at converted
    cases converted

variable {numberText} {parser : XmlParser Number}
  {entries : List (JsString × WeChatV2Value Number)}

theorem parseWechatXml_toWechatXml
    (distinct : ((givenTexts numberText entries).map Prod.fst).Nodup)
    (reads : parser.Reads numberText (messageElements numberText entries)) :
    parseWechatXml numberText parser (toWechatXml numberText entries) =
      (givenTexts numberText entries).map fun field =>
        (field.1, parser.readsAs numberText field.2) := by
  rw [toWechatXml_eq, parseWechatXml, reads]
  · simp only [List.lookup_cons_self, elementsValue, messageElements,
      List.map_eq_nil_iff]
    split
    · next isObject =>
      split at isObject
      · next empty => cases isObject
      · cases isObject
        simp [XmlParser.readsAs, Function.comp_def]
    · next notObject =>
      split at notObject
      · next empty => simp [empty]
      · exact absurd rfl (notObject _)
  · intro element member
    obtain ⟨field, _, rfl⟩ := List.mem_map.mp member
    exact (not_close_infix_cdataSections field.2).1
  · simpa [messageElements, Function.comp_def] using distinct

theorem roundTrip_iff
    (distinct : ((givenTexts numberText entries).map Prod.fst).Nodup)
    (reads : parser.Reads numberText (messageElements numberText entries)) :
    parseWechatXml numberText parser (toWechatXml numberText entries) =
        givenTexts numberText entries ↔
      ∀ field ∈ givenTexts numberText entries,
        parser.Spells numberText field.2 := by
  rw [parseWechatXml_toWechatXml distinct reads]
  constructor
  · intro same field member
    have own := List.map_eq_map_iff.mp (same.trans (List.map_id _).symm)
      field member
    exact (parser.readsAs_eq_iff numberText field.2).mp (congrArg Prod.snd own)
  · intro spelled
    refine (List.map_congr_left fun field member => ?_).trans (List.map_id _)
    rw [(parser.readsAs_eq_iff numberText field.2).mpr (spelled field member)]
    rfl

end RoundTrip

end VendingSystem.Provider
