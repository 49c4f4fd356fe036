import Mathlib.Data.List.Basic

namespace VendingSystem.Ecma

/-!
# JSON in a script engine

Strings are sequences of UTF-16 code units, which need not be well formed.
A value is what `JSON.parse` returns: the members of an object are in property
order, array indices first.  Numbers stay abstract: the engine reads a number
token and writes one.
-/

/-- A string as its code units. -/
abbrev JsString := List Nat

/-- The code units of a text of basic characters. -/
def units (text : String) : JsString :=
  text.toList.map Char.toNat

inductive JsonValue (Number : Type) where
  | null
  | bool (value : Bool)
  | number (value : Number)
  | text (value : JsString)
  | array (items : List (JsonValue Number))
  | object (members : List (JsString × JsonValue Number))

namespace JsonValue

variable {Number Written : Type}

@[elab_as_elim, induction_eliminator]
theorem shapeInduction
    {motive : JsonValue Number → Prop}
    (null : motive .null)
    (bool : ∀ value, motive (.bool value))
    (number : ∀ value, motive (.number value))
    (text : ∀ value, motive (.text value))
    (array : ∀ items, (∀ item ∈ items, motive item) → motive (.array items))
    (object : ∀ members, (∀ member ∈ members, motive member.2) →
      motive (.object members))
    (value : JsonValue Number) : motive value := by
  refine JsonValue.rec (motive_1 := motive)
    (motive_2 := fun items => ∀ item ∈ items, motive item)
    (motive_3 := fun members => ∀ member ∈ members, motive member.2)
    (motive_4 := fun member => motive member.2)
    null bool number text array object ?_ ?_ ?_ ?_ ?_ value
  · exact fun _ member => absurd member List.not_mem_nil
  · exact fun head tail ofHead ofTail =>
      List.forall_mem_cons.mpr ⟨ofHead, ofTail⟩
  · exact fun _ member => absurd member List.not_mem_nil
  · exact fun head tail ofHead ofTail =>
      List.forall_mem_cons.mpr ⟨ofHead, ofTail⟩
  · exact fun _ _ ofValue => ofValue

end JsonValue

def isDigitUnit (unit : Nat) : Bool :=
  '0'.toNat ≤ unit && unit ≤ '9'.toNat

def digitsValue (digits : JsString) : Nat :=
  digits.foldl (fun value unit => value * 10 + (unit - '0'.toNat)) 0

/-- A property name that is an array index, with its value. -/
def arrayIndex (key : JsString) : Option Nat :=
  if key.all isDigitUnit ∧ key ≠ [] ∧
      (key.head? = some '0'.toNat → key.length = 1) ∧
      digitsValue key < 4294967295 then
    some (digitsValue key)
  else none

/-- A new property goes before one that is there: indices go up, then names. -/
def goesBefore (key other : JsString) : Bool :=
  match arrayIndex key, arrayIndex other with
  | some index, some otherIndex => index < otherIndex
  | some _, none => true
  | none, _ => false

/-- Assign a property of an object. -/
def setProperty
    {Value : Type}
    (members : List (JsString × Value))
    (key : JsString)
    (value : Value) : List (JsString × Value) :=
  match members with
  | [] => [(key, value)]
  | (other, stored) :: rest =>
    if other = key then (key, value) :: rest
    else if goesBefore key other then
      (key, value) :: (other, stored) :: rest
    else (other, stored) :: setProperty rest key value

/-- The properties after assignments to an object without any. -/
def ofAssignments
    {Value : Type}
    (assignments : List (JsString × Value)) : List (JsString × Value) :=
  assignments.foldl
    (fun members assigned => setProperty members assigned.1 assigned.2) []

def isNumberUnit (unit : Nat) : Bool :=
  isDigitUnit unit || (units "-+.eE").contains unit

/-- What follows the digits of a number: an exponent or nothing. -/
def isExponent : JsString → Bool
  | [] => true
  | mark :: rest =>
    (units "eE").contains mark &&
      (let digits :=
        match rest with
        | [] => []
        | sign :: digits =>
          if (units "+-").contains sign then digits else rest
      !digits.isEmpty && digits.all isDigitUnit)

/-- What follows the integer part of a number. -/
def isFractionOrExponent (text : JsString) : Bool :=
  match text with
  | [] => true
  | mark :: rest =>
    if mark = '.'.toNat then
      !(rest.takeWhile isDigitUnit).isEmpty &&
        isExponent (rest.dropWhile isDigitUnit)
    else isExponent text

/-- A number without its sign. -/
def isUnsignedToken (text : JsString) : Bool :=
  let whole := text.takeWhile isDigitUnit
  !whole.isEmpty &&
    (whole.head? != some '0'.toNat || whole.length == 1) &&
    isFractionOrExponent (text.dropWhile isDigitUnit)

def isNumberToken (text : JsString) : Bool :=
  text.all isNumberUnit &&
    match text with
    | [] => false
    | sign :: rest =>
      if sign = '-'.toNat then isUnsignedToken rest
      else isUnsignedToken text

/-- How the engine reads and writes its numbers. -/
structure NumberTexts (Number : Type) where
  read : JsString → Number
  write : Number → JsString
  isToken : ∀ number, isNumberToken (write number) = true

def hexDigit (value : Nat) : Nat :=
  if value < 10 then '0'.toNat + value else 'a'.toNat + (value - 10)

/-- A code unit as an escape sequence. -/
def unicodeEscape (unit : Nat) : JsString :=
  units "\\u" ++
    [hexDigit (unit / 4096 % 16), hexDigit (unit / 256 % 16),
      hexDigit (unit / 16 % 16), hexDigit (unit % 16)]

def isLeadingSurrogate (unit : Nat) : Bool :=
  0xD800 ≤ unit && unit ≤ 0xDBFF

def isTrailingSurrogate (unit : Nat) : Bool :=
  0xDC00 ≤ unit && unit ≤ 0xDFFF

/-- A code unit that is not half of a surrogate pair. -/
def escapedUnit (unit : Nat) : JsString :=
  if unit = '"'.toNat then units "\\\""
  else if unit = '\\'.toNat then units "\\\\"
  else if unit = 8 then units "\\b"
  else if unit = 9 then units "\\t"
  else if unit = 10 then units "\\n"
  else if unit = 12 then units "\\f"
  else if unit = 13 then units "\\r"
  else if unit < 32 || isLeadingSurrogate unit ||
      isTrailingSurrogate unit then unicodeEscape unit
  else [unit]

/-- The inside of a quoted string; a surrogate pair stays as it is. -/
def escapedText : JsString → JsString
  | [] => []
  | [unit] => escapedUnit unit
  | unit :: next :: rest =>
    if isLeadingSurrogate unit && isTrailingSurrogate next then
      unit :: next :: escapedText rest
    else escapedUnit unit ++ escapedText (next :: rest)

def quotedText (text : JsString) : JsString :=
  '"'.toNat :: (escapedText text ++ ['"'.toNat])

def separated (parts : List JsString) : JsString :=
  List.intercalate [','.toNat] parts

section Writing

variable {Number : Type} (numbers : NumberTexts Number)

mutual

/-- `JSON.stringify` of a JSON value. -/
def stringify : JsonValue Number → JsString
  | .null => units "null"
  | .bool true => units "true"
  | .bool false => units "false"
  | .number value => numbers.write value
  | .text value => quotedText value
  | .array items =>
    '['.toNat :: (separated (stringifyItems items) ++ [']'.toNat])
  | .object members =>
    '{'.toNat :: (separated (stringifyMembers members) ++ ['}'.toNat])

def stringifyItems : List (JsonValue Number) → List JsString
  | [] => []
  | item :: rest => stringify item :: stringifyItems rest

def stringifyMembers :
    List (JsString × JsonValue Number) → List JsString
  | [] => []
  | (key, value) :: rest =>
    (quotedText key ++ ':'.toNat :: stringify value) ::
      stringifyMembers rest

end

end Writing

def isSpaceUnit (unit : Nat) : Bool :=
  unit == 32 || unit == 9 || unit == 10 || unit == 13

def skipSpace (text : JsString) : JsString :=
  text.dropWhile isSpaceUnit

def hexValue (unit : Nat) : Option Nat :=
  if isDigitUnit unit then some (unit - '0'.toNat)
  else if 'a'.toNat ≤ unit ∧ unit ≤ 'f'.toNat then
    some (unit - 'a'.toNat + 10)
  else if 'A'.toNat ≤ unit ∧ unit ≤ 'F'.toNat then
    some (unit - 'A'.toNat + 10)
  else none

/-- The code unit of four hexadecimal digits. -/
def hexUnit (first second third fourth : Nat) : Option Nat := do
  let first ← hexValue first
  let second ← hexValue second
  let third ← hexValue third
  let fourth ← hexValue fourth
  pure (first * 4096 + second * 256 + third * 16 + fourth)

/-- What a backslash and one more unit stand for. -/
def simpleEscape (unit : Nat) : Option Nat :=
  if unit = '"'.toNat then some '"'.toNat
  else if unit = '\\'.toNat then some '\\'.toNat
  else if unit = '/'.toNat then some '/'.toNat
  else if unit = 'b'.toNat then some 8
  else if unit = 't'.toNat then some 9
  else if unit = 'n'.toNat then some 10
  else if unit = 'f'.toNat then some 12
  else if unit = 'r'.toNat then some 13
  else none

/-- The string up to its closing quotation mark, and what follows. -/
def readText : JsString → Option (JsString × JsString)
  | [] => none
  | unit :: rest =>
    if unit = '"'.toNat then some ([], rest)
    else if unit = '\\'.toNat then
      match rest with
      | [] => none
      | escape :: later =>
        if escape = 'u'.toNat then
          match later with
          | first :: second :: third :: fourth :: tail =>
            (hexUnit first second third fourth).bind fun decoded =>
              (readText tail).map fun read =>
                (decoded :: read.1, read.2)
          | _ => none
        else
          (simpleEscape escape).bind fun decoded =>
            (readText later).map fun read =>
              (decoded :: read.1, read.2)
    else if unit < 32 then none
    else (readText rest).map fun read => (unit :: read.1, read.2)

/-- A word of the grammar, and what follows. -/
def readWord
    {Value : Type}
    (word : String)
    (value : Value)
    (text : JsString) : Option (Value × JsString) :=
  if (units word).isPrefixOf text then
    some (value, text.drop (units word).length)
  else none

/-- Whether another element follows, and what follows the separator. -/
def readSeparator
    (close : Nat)
    (text : JsString) : Option (Bool × JsString) :=
  match skipSpace text with
  | [] => none
  | unit :: rest =>
    if unit = ','.toNat then some (true, rest)
    else if unit = close then some (false, rest)
    else none

/-- What follows a given unit, after white space. -/
def readUnit (unit : Nat) (text : JsString) : Option JsString :=
  match skipSpace text with
  | [] => none
  | head :: rest => if head = unit then some rest else none

section Reading

variable {Number : Type} (numbers : NumberTexts Number)

/-- A number, and what follows. -/
def readNumber (text : JsString) : Option (JsonValue Number × JsString) :=
  let token := text.takeWhile isNumberUnit
  if isNumberToken token then
    some (.number (numbers.read token), text.dropWhile isNumberUnit)
  else none

mutual

/-- A value, and what follows. -/
def parseValue : Nat → JsString → Option (JsonValue Number × JsString)
  | 0, _ => none
  | fuel + 1, text =>
    match skipSpace text with
    | [] => none
    | head :: rest =>
      if head = '"'.toNat then
        (readText rest).map fun read => (.text read.1, read.2)
      else if head = '['.toNat then
        match readUnit ']'.toNat rest with
        | some later => some (.array [], later)
        | none =>
          (parseItems fuel rest).map fun read =>
            (.array read.1, read.2)
      else if head = '{'.toNat then
        match readUnit '}'.toNat rest with
        | some later => some (.object [], later)
        | none =>
          (parseMembers fuel rest).map fun read =>
            (.object (ofAssignments read.1), read.2)
      else if head = 'n'.toNat then
        readWord "null" .null (head :: rest)
      else if head = 't'.toNat then
        readWord "true" (.bool true) (head :: rest)
      else if head = 'f'.toNat then
        readWord "false" (.bool false) (head :: rest)
      else readNumber numbers (head :: rest)

/-- The items of an array, from the first to the closing bracket. -/
def parseItems :
    Nat → JsString → Option (List (JsonValue Number) × JsString)
  | 0, _ => none
  | fuel + 1, text =>
    (parseValue fuel text).bind fun item =>
      match readSeparator ']'.toNat item.2 with
      | none => none
      | some (false, later) => some ([item.1], later)
      | some (true, later) =>
        (parseItems fuel later).map fun items =>
          (item.1 :: items.1, items.2)

/-- The members of an object, from the first to the closing brace. -/
def parseMembers :
    Nat → JsString →
      Option (List (JsString × JsonValue Number) × JsString)
  | 0, _ => none
  | fuel + 1, text =>
    (readUnit '"'.toNat text).bind fun quoted =>
      (readText quoted).bind fun key =>
        (readUnit ':'.toNat key.2).bind fun afterColon =>
          (parseValue fuel afterColon).bind fun value =>
            match readSeparator '}'.toNat value.2 with
            | none => none
            | some (false, later) => some ([(key.1, value.1)], later)
            | some (true, later) =>
              (parseMembers fuel later).map fun members =>
                ((key.1, value.1) :: members.1, members.2)

end

/-- `JSON.parse`; `none` where it throws. -/
def parse (text : JsString) : Option (JsonValue Number) :=
  match parseValue numbers (text.length + 1) text with
  | some (value, rest) => if skipSpace rest = [] then some value else none
  | none => none

end Reading

end VendingSystem.Ecma
