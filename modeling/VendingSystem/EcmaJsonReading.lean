import VendingSystem.EcmaJson
import Mathlib.Data.List.TakeWhile

namespace VendingSystem.Ecma

/-!
# What a reader accepts

A text that parses has no equals sign outside its strings, so a form without
quotation marks never parses.  What was written reads back as the value with
its numbers written and read.
-/

/-- The rest is left after units that are not equals signs. -/
def Consumes (text rest : JsString) : Prop :=
  ∃ consumed, text = consumed ++ rest ∧ '='.toNat ∉ consumed

namespace Consumes

theorem trans
    {first middle last : JsString}
    (leading : Consumes first middle)
    (trailing : Consumes middle last) :
    Consumes first last := by
  obtain ⟨before, rfl, fine⟩ := leading
  obtain ⟨after, rfl, alsoFine⟩ := trailing
  refine ⟨before ++ after, by rw [List.append_assoc], ?_⟩
  rw [List.mem_append]
  exact not_or.mpr ⟨fine, alsoFine⟩

theorem cons
    {unit : Nat}
    {rest : JsString}
    (fine : unit ≠ '='.toNat) :
    Consumes (unit :: rest) rest :=
  ⟨[unit], rfl, by simpa using fine.symm⟩

variable {rest text : JsString} {unit : Nat}

theorem not_mem
    (consumes : Consumes text rest)
    (absent : unit ∉ text) :
    unit ∉ rest := by
  obtain ⟨consumed, rfl, _⟩ := consumes
  exact fun member => absent (List.mem_append_right _ member)

/-- Dropping units that satisfy a test that no equals sign does. -/
theorem dropWhile
    {test : Nat → Bool}
    (fine : test '='.toNat = false)
    (text : JsString) :
    Consumes text (text.dropWhile test) := by
  refine ⟨text.takeWhile test, List.takeWhile_append_dropWhile.symm, ?_⟩
  intro member
  have holds := List.mem_takeWhile_imp member
  rw [fine] at holds
  cases holds

theorem skipSpace (text : JsString) :
    Consumes text (Ecma.skipSpace text) :=
  dropWhile rfl text

theorem of_skipSpace
    (skipped : Ecma.skipSpace text = unit :: rest)
    (fine : unit ≠ '='.toNat) :
    Consumes text rest := by
  refine (skipSpace text).trans ?_
  rw [skipped]
  exact cons fine

theorem readUnit
    (fine : unit ≠ '='.toNat)
    (read : Ecma.readUnit unit text = some rest) :
    Consumes text rest := by
  unfold Ecma.readUnit at read
  split at read
  · cases read
  · rename_i head tail skipped
    split at read
    · rename_i same
      cases read
      subst same
      exact of_skipSpace skipped fine
    · cases read

theorem readSeparator
    {close : Nat}
    {more : Bool}
    (fine : close ≠ '='.toNat)
    (read : Ecma.readSeparator close text = some (more, rest)) :
    Consumes text rest := by
  unfold Ecma.readSeparator at read
  split at read
  · cases read
  · rename_i head tail skipped
    split at read
    · rename_i comma
      cases read
      exact of_skipSpace skipped (by rw [comma]; decide)
    · split at read
      · rename_i isClose
        cases read
        subst isClose
        exact of_skipSpace skipped fine
      · cases read

theorem readWord
    {Value : Type}
    {word : String}
    {value answer : Value}
    (fine : '='.toNat ∉ units word)
    (read : Ecma.readWord word value text = some (answer, rest)) :
    Consumes text rest := by
  unfold Ecma.readWord at read
  split at read
  · rename_i leads
    cases read
    obtain ⟨later, rfl⟩ := List.isPrefixOf_iff_prefix.mp leads
    rw [List.drop_left]
    exact ⟨units word, rfl, fine⟩
  · cases read

end Consumes

section Unquoted

variable {Number : Type} {numbers : NumberTexts Number}

theorem readNumber_consumes
    {text rest : JsString}
    {value : JsonValue Number}
    (read : readNumber numbers text = some (value, rest)) :
    Consumes text rest := by
  unfold readNumber at read
  simp only at read
  split at read
  · cases read
    exact .dropWhile (by decide) text
  · cases read

/-- An unquoted text is read past units that are not equals signs. -/
theorem parse_consumes (fuel : Nat) :
    (∀ {text value rest}, '"'.toNat ∉ text →
      parseValue numbers fuel text = some (value, rest) →
        Consumes text rest) ∧
    (∀ {text items rest}, '"'.toNat ∉ text →
      parseItems numbers fuel text = some (items, rest) →
        Consumes text rest) ∧
    (∀ {text members rest}, '"'.toNat ∉ text →
      parseMembers numbers fuel text = some (members, rest) →
        Consumes text rest) := by
  induction fuel with
  | zero =>
    refine ⟨?_, ?_, ?_⟩ <;>
      · intro text answer rest _ read
        simp [parseValue, parseItems, parseMembers] at read
  | succ fuel inductionHypothesis =>
    obtain ⟨ofValue, ofItems, ofMembers⟩ := inductionHypothesis
    refine ⟨?_, ?_, ?_⟩
    · intro text value rest unquoted read
      unfold parseValue at read
      split at read
      · cases read
      rename_i head tail skipped
      have skips := Consumes.skipSpace text
      rw [skipped] at skips
      have tailUnquoted := skips.not_mem unquoted
      rw [List.mem_cons, not_or] at tailUnquoted
      split at read
      · rename_i isQuote
        exact absurd isQuote.symm tailUnquoted.1
      split at read
      · rename_i bracket
        have opened : Consumes text tail :=
          .of_skipSpace skipped (by rw [bracket]; decide)
        split at read
        · rename_i later closed
          cases read
          exact opened.trans (.readUnit (by decide) closed)
        · obtain ⟨items, itemsRead, same⟩ :=
            Option.map_eq_some_iff.mp read
          cases same
          exact opened.trans (ofItems tailUnquoted.2 itemsRead)
      split at read
      · rename_i brace
        have opened : Consumes text tail :=
          .of_skipSpace skipped (by rw [brace]; decide)
        split at read
        · rename_i later closed
          cases read
          exact opened.trans (.readUnit (by decide) closed)
        · obtain ⟨members, membersRead, same⟩ :=
            Option.map_eq_some_iff.mp read
          cases same
          exact opened.trans (ofMembers tailUnquoted.2 membersRead)
      split at read
      · exact skips.trans (.readWord (by decide) read)
      split at read
      · exact skips.trans (.readWord (by decide) read)
      split at read
      · exact skips.trans (.readWord (by decide) read)
      · exact skips.trans (readNumber_consumes read)
    · intro text items rest unquoted read
      unfold parseItems at read
      obtain ⟨item, itemRead, later⟩ := Option.bind_eq_some_iff.mp read
      have first := ofValue unquoted itemRead
      split at later
      · cases later
      · rename_i final separated
        cases later
        exact first.trans (.readSeparator (by decide) separated)
      · rename_i final separated
        obtain ⟨others, othersRead, same⟩ :=
          Option.map_eq_some_iff.mp later
        cases same
        have second := first.trans (.readSeparator (by decide) separated)
        exact second.trans (ofItems (second.not_mem unquoted) othersRead)
    · intro text members rest unquoted read
      unfold parseMembers at read
      obtain ⟨quoted, opened, _⟩ := Option.bind_eq_some_iff.mp read
      unfold readUnit at opened
      split at opened
      · cases opened
      · rename_i head tail skipped
        have skips := Consumes.skipSpace text
        rw [skipped] at skips
        have absent := skips.not_mem unquoted
        split at opened
        · rename_i isQuote
          rw [isQuote] at absent
          exact absurd List.mem_cons_self absent
        · cases opened

theorem parse_unquoted
    {text : JsString}
    (unquoted : '"'.toNat ∉ text)
    (equals : '='.toNat ∈ text) :
    parse numbers text = none := by
  unfold parse
  split
  · rename_i value rest read
    split
    · rename_i ended
      have consumes :=
        ((parse_consumes _).1 unquoted read).trans (.skipSpace rest)
      rw [ended] at consumes
      obtain ⟨consumed, isConsumed, fine⟩ := consumes
      rw [List.append_nil] at isConsumed
      rw [isConsumed] at equals
      exact absurd equals fine
    · rfl
  · rfl

end Unquoted

/-- Reading the rest of a string after one of its units. -/
def readAfter
    (unit : Nat)
    (read : Option (JsString × JsString)) : Option (JsString × JsString) :=
  read.map fun later => (unit :: later.1, later.2)

theorem hexValue_hexDigit :
    ∀ value < 16, hexValue (hexDigit value) = some value := by
  decide

variable {unit : Nat}

theorem readText_unicodeEscape
    (small : unit < 65536)
    (rest : JsString) :
    readText (unicodeEscape unit ++ rest) =
      readAfter unit (readText rest) := by
  have decoded : hexUnit (hexDigit (unit / 4096 % 16))
      (hexDigit (unit / 256 % 16)) (hexDigit (unit / 16 % 16))
      (hexDigit (unit % 16)) = some unit := by
    unfold hexUnit
    rw [hexValue_hexDigit _ (Nat.mod_lt _ (by decide)),
      hexValue_hexDigit _ (Nat.mod_lt _ (by decide)),
      hexValue_hexDigit _ (Nat.mod_lt _ (by decide)),
      hexValue_hexDigit _ (Nat.mod_lt _ (by decide))]
    have sum : unit / 4096 % 16 * 4096 + unit / 256 % 16 * 256 +
        unit / 16 % 16 * 16 + unit % 16 = unit := by
      omega
    simp [sum]
  change readText ('\\'.toNat :: 'u'.toNat ::
    hexDigit (unit / 4096 % 16) :: hexDigit (unit / 256 % 16) ::
      hexDigit (unit / 16 % 16) :: hexDigit (unit % 16) :: rest) = _
  rw [readText.eq_def]
  simp only [if_neg (show '\\'.toNat ≠ '"'.toNat by decide), if_true,
    decoded, Option.bind_some]
  rfl

theorem readText_simpleEscape
    {escape : Nat}
    (short : escape ≠ 'u'.toNat)
    (decoded : simpleEscape escape = some unit)
    (rest : JsString) :
    readText ('\\'.toNat :: escape :: rest) =
      readAfter unit (readText rest) := by
  rw [readText.eq_def]
  simp only [if_neg (show '\\'.toNat ≠ '"'.toNat by decide), if_true,
    if_neg short, decoded, Option.bind_some]
  rfl

theorem readText_quote (rest : JsString) :
    readText ('"'.toNat :: rest) = some ([], rest) := by
  rw [readText.eq_def]
  simp only [if_true]

theorem readText_raw
    (noQuote : unit ≠ '"'.toNat)
    (noEscape : unit ≠ '\\'.toNat)
    (printable : 32 ≤ unit)
    (rest : JsString) :
    readText (unit :: rest) = readAfter unit (readText rest) := by
  rw [readText.eq_def]
  simp only [if_neg noQuote, if_neg noEscape,
    if_neg (Nat.not_lt.mpr printable)]
  rfl

theorem readText_escapedUnit
    (unit : Nat)
    (rest : JsString) :
    readText (escapedUnit unit ++ rest) =
      readAfter unit (readText rest) := by
  unfold escapedUnit
  split
  · rename_i same
    subst same
    exact readText_simpleEscape (by decide) rfl rest
  split
  · rename_i same
    subst same
    exact readText_simpleEscape (by decide) rfl rest
  split
  · rename_i same
    subst same
    exact readText_simpleEscape (by decide) rfl rest
  split
  · rename_i same
    subst same
    exact readText_simpleEscape (by decide) rfl rest
  split
  · rename_i same
    subst same
    exact readText_simpleEscape (by decide) rfl rest
  split
  · rename_i same
    subst same
    exact readText_simpleEscape (by decide) rfl rest
  split
  · rename_i same
    subst same
    exact readText_simpleEscape (by decide) rfl rest
  split
  · rename_i special
    refine readText_unicodeEscape ?_ rest
    simp only [isLeadingSurrogate, isTrailingSurrogate, Bool.or_eq_true,
      Bool.and_eq_true, decide_eq_true_eq] at special
    omega
  · rename_i noQuote noEscape _ _ _ _ _ plain
    simp only [Bool.or_eq_true, not_or, decide_eq_true_eq] at plain
    exact readText_raw noQuote noEscape (by omega) rest

/-- The inside of a quoted string reads back as the string. -/
theorem readText_escapedText
    (text rest : JsString) :
    readText (escapedText text ++ '"'.toNat :: rest) =
      some (text, rest) := by
  induction text using escapedText.induct with
  | case1 => exact readText_quote rest
  | case2 unit =>
    rw [escapedText, readText_escapedUnit, readText_quote]
    rfl
  | case3 unit next later paired inductionHypothesis =>
    rw [escapedText, if_pos paired, List.cons_append, List.cons_append]
    simp only [isLeadingSurrogate, isTrailingSurrogate,
      Bool.and_eq_true, decide_eq_true_eq] at paired
    have leading : unit ≠ '"'.toNat ∧ unit ≠ '\\'.toNat := by
      constructor <;>
        · intro same
          rw [same] at paired
          exact absurd paired.1.1 (by decide)
    have trailing : next ≠ '"'.toNat ∧ next ≠ '\\'.toNat := by
      constructor <;>
        · intro same
          rw [same] at paired
          exact absurd paired.2.1 (by decide)
    rw [readText_raw leading.1 leading.2 (by omega),
      readText_raw trailing.1 trailing.2 (by omega),
      inductionHypothesis]
    rfl
  | case4 unit next later unpaired inductionHypothesis =>
    rw [escapedText, if_neg unpaired, List.append_assoc,
      readText_escapedUnit, inductionHypothesis]
    rfl

section Properties

variable {Value Other : Type}

theorem setProperty_map
    (change : Value → Other)
    (members : List (JsString × Value))
    (key : JsString)
    (value : Value) :
    setProperty (members.map fun member => (member.1, change member.2))
        key (change value) =
      (setProperty members key value).map fun member =>
        (member.1, change member.2) := by
  induction members with
  | nil => rfl
  | cons head tail inductionHypothesis =>
    obtain ⟨other, stored⟩ := head
    simp only [List.map_cons, setProperty]
    split
    · rfl
    · split
      · rfl
      · rw [inductionHypothesis]
        rfl

/-- Where a property goes depends on the names only. -/
theorem ofAssignments_map
    (change : Value → Other)
    (assignments : List (JsString × Value)) :
    ofAssignments
        (assignments.map fun member => (member.1, change member.2)) =
      (ofAssignments assignments).map fun member =>
        (member.1, change member.2) := by
  have general : ∀ (rest members : List (JsString × Value)),
      (rest.map fun member => (member.1, change member.2)).foldl
          (fun members assigned =>
            setProperty members assigned.1 assigned.2)
          (members.map fun member => (member.1, change member.2)) =
        (rest.foldl
          (fun members assigned =>
            setProperty members assigned.1 assigned.2) members).map
          fun member => (member.1, change member.2) := by
    intro rest
    induction rest with
    | nil => exact fun _ => rfl
    | cons head tail inductionHypothesis =>
      intro members
      simp only [List.map_cons, List.foldl_cons]
      rw [setProperty_map, inductionHypothesis]
  exact general assignments []

end Properties

namespace JsonValue

variable {Number Written : Type}

section Numbers

variable (change : Number → Written)

mutual

/-- The value with its numbers changed. -/
def mapNumbers : JsonValue Number → JsonValue Written
  | .null => .null
  | .bool value => .bool value
  | .number value => .number (change value)
  | .text value => .text value
  | .array items => .array (mapItems items)
  | .object members => .object (mapMembers members)

def mapItems : List (JsonValue Number) → List (JsonValue Written)
  | [] => []
  | item :: rest => mapNumbers item :: mapItems rest

def mapMembers :
    List (JsString × JsonValue Number) →
      List (JsString × JsonValue Written)
  | [] => []
  | (key, value) :: rest => (key, mapNumbers value) :: mapMembers rest

end

theorem mapItems_eq_map (items : List (JsonValue Number)) :
    mapItems change items = items.map (mapNumbers change) := by
  induction items with
  | nil => rfl
  | cons item rest inductionHypothesis =>
    rw [mapItems, inductionHypothesis, List.map_cons]

theorem mapMembers_eq_map
    (members : List (JsString × JsonValue Number)) :
    mapMembers change members =
      members.map fun member => (member.1, mapNumbers change member.2) := by
  induction members with
  | nil => rfl
  | cons member rest inductionHypothesis =>
    rw [mapMembers, inductionHypothesis, List.map_cons]

end Numbers

mutual

/-- Every object has its members in property order, as the engine's have. -/
def Ordered : JsonValue Number → Prop
  | .null => True
  | .bool _ => True
  | .number _ => True
  | .text _ => True
  | .array items => OrderedItems items
  | .object members =>
    ofAssignments members = members ∧ OrderedMembers members

def OrderedItems : List (JsonValue Number) → Prop
  | [] => True
  | item :: rest => Ordered item ∧ OrderedItems rest

def OrderedMembers : List (JsString × JsonValue Number) → Prop
  | [] => True
  | (_, value) :: rest => Ordered value ∧ OrderedMembers rest

end

theorem orderedItems_iff (items : List (JsonValue Number)) :
    OrderedItems items ↔ ∀ item ∈ items, item.Ordered := by
  induction items with
  | nil => simp [OrderedItems]
  | cons item rest inductionHypothesis =>
    rw [OrderedItems, inductionHypothesis, List.forall_mem_cons]

theorem orderedMembers_iff
    (members : List (JsString × JsonValue Number)) :
    OrderedMembers members ↔ ∀ member ∈ members, member.2.Ordered := by
  induction members with
  | nil => simp [OrderedMembers]
  | cons member rest inductionHypothesis =>
    rw [OrderedMembers, inductionHypothesis, List.forall_mem_cons]

end JsonValue

section RoundTrip

variable {Number : Type} {numbers : NumberTexts Number} {unit : Nat}

theorem stringifyItems_eq_map (items : List (JsonValue Number)) :
    stringifyItems numbers items = items.map (stringify numbers) := by
  induction items with
  | nil => rfl
  | cons item rest inductionHypothesis =>
    rw [stringifyItems, inductionHypothesis, List.map_cons]

/-- The text of one member. -/
def stringifyMember
    (numbers : NumberTexts Number)
    (member : JsString × JsonValue Number) : JsString :=
  quotedText member.1 ++ ':'.toNat :: stringify numbers member.2

theorem stringifyMembers_eq_map
    (members : List (JsString × JsonValue Number)) :
    stringifyMembers numbers members =
      members.map (stringifyMember numbers) := by
  induction members with
  | nil => rfl
  | cons member rest inductionHypothesis =>
    rw [stringifyMembers, inductionHypothesis, List.map_cons]
    rfl

theorem separated_cons_cons
    (first second : JsString)
    (rest : List JsString) :
    separated (first :: second :: rest) =
      first ++ ','.toNat :: separated (second :: rest) := by
  simp [separated, List.intercalate]

theorem separated_singleton (part : JsString) :
    separated [part] = part := by
  simp [separated, List.intercalate]

theorem skipSpace_cons
    (visible : isSpaceUnit unit = false)
    (rest : JsString) :
    skipSpace (unit :: rest) = unit :: rest := by
  rw [skipSpace, List.dropWhile_cons_of_neg (by simp [visible])]

theorem readUnit_cons
    (visible : isSpaceUnit unit = false)
    (rest : JsString) :
    readUnit unit (unit :: rest) = some rest := by
  rw [readUnit, skipSpace_cons visible]
  exact if_pos rfl

theorem readUnit_other
    {head : Nat}
    (visible : isSpaceUnit head = false)
    (differs : head ≠ unit)
    (rest : JsString) :
    readUnit unit (head :: rest) = none := by
  rw [readUnit, skipSpace_cons visible]
  exact if_neg differs

/-- What follows a value: nothing, or a unit that ends it. -/
def EndsNumber (rest : JsString) : Prop :=
  ∀ unit ∈ rest.head?, isNumberUnit unit = false

theorem startsNumber_ne
    {other : Nat}
    (isNumber : isNumberUnit unit = true)
    (different : isNumberUnit other = false) :
    unit ≠ other := by
  rintro rfl
  rw [isNumber] at different
  cases different

theorem isSpaceUnit_of_number
    (isNumber : isNumberUnit unit = true) :
    isSpaceUnit unit = false := by
  simp only [isSpaceUnit, Bool.or_eq_false_iff, beq_eq_false_iff_ne]
  exact ⟨⟨⟨startsNumber_ne isNumber (by decide),
      startsNumber_ne isNumber (by decide)⟩,
    startsNumber_ne isNumber (by decide)⟩,
    startsNumber_ne isNumber (by decide)⟩

theorem write_shape
    (numbers : NumberTexts Number)
    (number : Number) :
    ∃ head tail, numbers.write number = head :: tail ∧
      ∀ unit ∈ numbers.write number, isNumberUnit unit = true := by
  have token := numbers.isToken number
  unfold isNumberToken at token
  rw [Bool.and_eq_true, List.all_eq_true] at token
  cases written : numbers.write number with
  | nil =>
    rw [written] at token
    cases token.2
  | cons head tail =>
    rw [written] at token
    exact ⟨head, tail, rfl, token.1⟩

theorem takeWhile_append_ended
    {token rest : JsString}
    (isNumber : ∀ unit ∈ token, isNumberUnit unit = true)
    (ends : EndsNumber rest) :
    (token ++ rest).takeWhile isNumberUnit = token ∧
      (token ++ rest).dropWhile isNumberUnit = rest := by
  have stops : rest.takeWhile isNumberUnit = [] ∧
      rest.dropWhile isNumberUnit = rest := by
    cases rest with
    | nil => exact ⟨rfl, rfl⟩
    | cons head tail =>
      have notNumber := ends head rfl
      exact ⟨List.takeWhile_cons_of_neg (by simp [notNumber]),
        List.dropWhile_cons_of_neg (by simp [notNumber])⟩
  constructor
  · rw [List.takeWhile_append_of_pos isNumber, stops.1, List.append_nil]
  · rw [List.dropWhile_append_of_pos isNumber, stops.2]

theorem stringify_head (value : JsonValue Number) :
    ∃ head tail, stringify numbers value = head :: tail ∧
      isSpaceUnit head = false ∧ head ≠ ']'.toNat ∧ head ≠ '}'.toNat := by
  cases value with
  | null => exact ⟨_, _, rfl, rfl, by decide, by decide⟩
  | bool flag =>
    cases flag
    · exact ⟨_, _, rfl, rfl, by decide, by decide⟩
    · exact ⟨_, _, rfl, rfl, by decide, by decide⟩
  | number value =>
    obtain ⟨head, tail, written, isNumber⟩ := write_shape numbers value
    have ofHead := isNumber head (by rw [written]; exact List.mem_cons_self)
    exact ⟨head, tail, written, isSpaceUnit_of_number ofHead,
      startsNumber_ne ofHead (by decide),
      startsNumber_ne ofHead (by decide)⟩
  | text value | array items | object members =>
    exact ⟨_, _, rfl, rfl, by decide, by decide⟩

/-- The value as it reads back from its text. -/
def JsonValue.rewritten
    (numbers : NumberTexts Number)
    (value : JsonValue Number) : JsonValue Number :=
  value.mapNumbers fun number => numbers.read (numbers.write number)

/-- The value's text is read with enough fuel, whatever ends it. -/
def ReadsBack
    (numbers : NumberTexts Number)
    (value : JsonValue Number) : Prop :=
  ∀ fuel rest, (stringify numbers value).length ≤ fuel →
    EndsNumber rest →
      parseValue numbers fuel (stringify numbers value ++ rest) =
        some (value.rewritten numbers, rest)

theorem endsNumber_cons
    (ends : isNumberUnit unit = false)
    (rest : JsString) :
    EndsNumber (unit :: rest) := by
  intro head isHead
  cases isHead
  exact ends

/-- The items of an array read back. -/
theorem parseItems_separated
    {items : List (JsonValue Number)}
    (readsBack : ∀ item ∈ items, ReadsBack numbers item)
    (nonempty : items ≠ [])
    (fuel : Nat)
    (rest : JsString)
    (enough :
      (separated (items.map (stringify numbers))).length + 1 ≤ fuel) :
    parseItems numbers fuel
        (separated (items.map (stringify numbers)) ++
          ']'.toNat :: rest) =
      some (items.map (JsonValue.rewritten numbers), rest) := by
  induction items generalizing fuel with
  | nil => exact absurd rfl nonempty
  | cons item others inductionHypothesis =>
    rw [List.forall_mem_cons] at readsBack
    cases fuel with
    | zero => omega
    | succ fuel =>
      cases others with
      | nil =>
        simp only [List.map_cons, List.map_nil, separated_singleton] at enough ⊢
        rw [parseItems, readsBack.1 fuel _ (by omega)
          (endsNumber_cons (by decide) rest)]
        simp only [Option.bind_some, readSeparator,
          skipSpace_cons (show isSpaceUnit ']'.toNat = false by decide)]
        rfl
      | cons next later =>
        simp only [List.map_cons, separated_cons_cons,
          List.append_assoc, List.cons_append, List.length_append,
          List.length_cons] at enough ⊢
        rw [parseItems, readsBack.1 fuel _ (by omega)
          (endsNumber_cons (by decide) _)]
        simp only [Option.bind_some, readSeparator,
          skipSpace_cons (show isSpaceUnit ','.toNat = false by decide),
          if_true]
        have others := inductionHypothesis readsBack.2 (by simp) fuel
          (by simp only [List.map_cons]; omega)
        simp only [List.map_cons] at others
        rw [others]
        rfl

/-- The members of an object read back. -/
theorem parseMembers_separated
    {members : List (JsString × JsonValue Number)}
    (readsBack : ∀ member ∈ members, ReadsBack numbers member.2)
    (nonempty : members ≠ [])
    (fuel : Nat)
    (rest : JsString)
    (enough :
      (separated (members.map (stringifyMember numbers))).length + 1 ≤
        fuel) :
    parseMembers numbers fuel
        (separated (members.map (stringifyMember numbers)) ++
          '}'.toNat :: rest) =
      some (members.map fun member =>
        (member.1, member.2.rewritten numbers), rest) := by
  induction members generalizing fuel with
  | nil => exact absurd rfl nonempty
  | cons member others inductionHypothesis =>
    obtain ⟨key, value⟩ := member
    obtain ⟨ofValue, ofOthers⟩ := List.forall_mem_cons.mp readsBack
    simp only at ofValue
    cases fuel with
    | zero => omega
    | succ fuel =>
      cases others with
      | nil =>
        simp only [List.map_cons, List.map_nil, separated_singleton,
          stringifyMember, quotedText, List.cons_append,
          List.append_assoc, List.length_append, List.length_cons,
          List.nil_append] at enough ⊢
        rw [parseMembers, readUnit_cons (by decide)]
        simp only [Option.bind_some, readText_escapedText,
          readUnit_cons (show isSpaceUnit ':'.toNat = false by decide)]
        rw [ofValue fuel _ (by omega)
          (endsNumber_cons (by decide) rest)]
        simp only [Option.bind_some, readSeparator,
          skipSpace_cons (show isSpaceUnit '}'.toNat = false by decide)]
        rfl
      | cons next later =>
        simp only [List.map_cons, separated_cons_cons,
          stringifyMember, quotedText, List.cons_append,
          List.append_assoc, List.length_append, List.length_cons,
          List.nil_append] at enough ⊢
        rw [parseMembers, readUnit_cons (by decide)]
        simp only [Option.bind_some, readText_escapedText,
          readUnit_cons (show isSpaceUnit ':'.toNat = false by decide)]
        rw [ofValue fuel _ (by omega)
          (endsNumber_cons (by decide) _)]
        simp only [Option.bind_some, readSeparator,
          skipSpace_cons (show isSpaceUnit ','.toNat = false by decide),
          if_true]
        have others := inductionHypothesis ofOthers (by simp) fuel
        simp only [List.map_cons, stringifyMember, quotedText,
          List.cons_append, List.append_assoc, List.nil_append]
          at others
        rw [others (by omega)]
        rfl

theorem readsBack
    (value : JsonValue Number)
    (ordered : value.Ordered) :
    ReadsBack numbers value := by
  induction value with
  | null =>
    intro fuel rest enough _
    cases fuel with
    | zero => cases enough
    | succ fuel => rfl
  | bool flag =>
    intro fuel rest enough _
    cases fuel with
    | zero => cases flag <;> cases enough
    | succ fuel => cases flag <;> rfl
  | number value =>
    intro fuel rest enough ends
    obtain ⟨head, tail, written, isNumber⟩ := write_shape numbers value
    have token := takeWhile_append_ended isNumber ends
    have ofHead := isNumber head (by rw [written]; exact List.mem_cons_self)
    have isToken := numbers.isToken value
    rw [stringify] at enough ⊢
    cases fuel with
    | zero =>
      rw [written] at enough
      cases enough
    | succ fuel =>
      rw [parseValue]
      rw [written, List.cons_append] at token ⊢
      rw [skipSpace_cons (isSpaceUnit_of_number ofHead)]
      simp only [startsNumber_ne ofHead
          (show isNumberUnit '"'.toNat = false by decide),
        startsNumber_ne ofHead
          (show isNumberUnit '['.toNat = false by decide),
        startsNumber_ne ofHead
          (show isNumberUnit '{'.toNat = false by decide),
        startsNumber_ne ofHead (show isNumberUnit 'n'.toNat = false by decide),
        startsNumber_ne ofHead (show isNumberUnit 't'.toNat = false by decide),
        startsNumber_ne ofHead (show isNumberUnit 'f'.toNat = false by decide),
        if_false]
      unfold readNumber
      simp only [token.1, token.2]
      rw [← written, if_pos isToken]
      rfl
  | text value =>
    intro fuel rest enough _
    cases fuel with
    | zero => cases enough
    | succ fuel =>
      rw [stringify, quotedText, List.cons_append, List.append_assoc,
        parseValue,
        skipSpace_cons (show isSpaceUnit '"'.toNat = false by decide)]
      simp only [if_true, List.cons_append, List.nil_append,
        readText_escapedText]
      rfl
  | array items inductionHypothesis =>
    intro fuel rest enough _
    rw [JsonValue.Ordered, JsonValue.orderedItems_iff] at ordered
    have each : ∀ item ∈ items, ReadsBack numbers item :=
      fun item member =>
        inductionHypothesis item member (ordered item member)
    rw [stringify, stringifyItems_eq_map] at enough ⊢
    simp only [List.length_cons, List.length_append, List.length_nil,
      List.cons_append, List.append_assoc, List.nil_append] at enough ⊢
    cases fuel with
    | zero => omega
    | succ fuel =>
      rw [parseValue,
        skipSpace_cons (show isSpaceUnit '['.toNat = false by decide)]
      simp only [if_neg (show '['.toNat ≠ '"'.toNat by decide),
        if_true]
      cases items with
      | nil =>
        rw [List.map_nil, show separated [] = [] from rfl,
          List.nil_append, readUnit_cons (by decide)]
        rfl
      | cons item others =>
        have closed : readUnit ']'.toNat
            (separated ((item :: others).map (stringify numbers)) ++
              ']'.toNat :: rest) = none := by
          obtain ⟨head, tail, starts, visible, notClosed, _⟩ :=
            @stringify_head _ numbers item
          cases others with
          | nil =>
            rw [List.map_cons, List.map_nil, separated_singleton,
              starts]
            exact readUnit_other visible notClosed _
          | cons next later =>
            rw [List.map_cons, List.map_cons, separated_cons_cons,
              starts]
            exact readUnit_other visible notClosed _
        rw [closed, parseItems_separated each (by simp) fuel rest
          (by omega)]
        rw [JsonValue.rewritten, JsonValue.mapNumbers,
          JsonValue.mapItems_eq_map]
        rfl
  | object members inductionHypothesis =>
    intro fuel rest enough _
    rw [JsonValue.Ordered, JsonValue.orderedMembers_iff] at ordered
    have each : ∀ member ∈ members, ReadsBack numbers member.2 :=
      fun member isMember =>
        inductionHypothesis member isMember (ordered.2 member isMember)
    have order : ofAssignments (members.map fun member =>
        (member.1, member.2.rewritten numbers)) =
          members.map fun member =>
            (member.1, member.2.rewritten numbers) := by
      rw [ofAssignments_map, ordered.1]
    rw [stringify, stringifyMembers_eq_map] at enough ⊢
    simp only [List.length_cons, List.length_append, List.length_nil,
      List.cons_append, List.append_assoc, List.nil_append] at enough ⊢
    cases fuel with
    | zero => omega
    | succ fuel =>
      rw [parseValue,
        skipSpace_cons (show isSpaceUnit '{'.toNat = false by decide)]
      simp only [if_neg (show '{'.toNat ≠ '"'.toNat by decide),
        if_neg (show '{'.toNat ≠ '['.toNat by decide), if_true]
      cases members with
      | nil =>
        rw [List.map_nil, show separated [] = [] from rfl,
          List.nil_append, readUnit_cons (by decide)]
        rfl
      | cons member others =>
        have closed : readUnit '}'.toNat
            (separated ((member :: others).map
                (stringifyMember numbers)) ++
              '}'.toNat :: rest) = none := by
          cases others with
          | nil =>
            rw [List.map_cons, List.map_nil, separated_singleton]
            exact readUnit_other (by decide) (by decide) _
          | cons next later =>
            rw [List.map_cons, List.map_cons, separated_cons_cons]
            exact readUnit_other (by decide) (by decide) _
        rw [closed, parseMembers_separated each (by simp) fuel rest
          (by omega)]
        simp only [Option.map_some, order]
        rw [JsonValue.rewritten, JsonValue.mapNumbers,
          JsonValue.mapMembers_eq_map]
        rfl

theorem parse_stringify
    {value : JsonValue Number}
    (ordered : value.Ordered) :
    parse numbers (stringify numbers value) =
      some (value.rewritten numbers) := by
  have read := @readsBack _ numbers value ordered
    ((stringify numbers value).length + 1) [] (by omega)
    (fun unit none => by cases none)
  rw [List.append_nil] at read
  unfold parse
  rw [read]
  exact if_pos rfl

end RoundTrip

end VendingSystem.Ecma
