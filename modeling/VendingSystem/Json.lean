import Mathlib.Data.List.Basic

namespace VendingSystem

/-!
# JSON texts

A JSON value over any type of numbers, its compact text, and that the text
determines the value.  A serializer is the escape of each character of a
string and the text of each number.
-/

abbrev Text := List Char

inductive Json (Number : Type) where
  | null
  | bool (value : Bool)
  | number (value : Number)
  | string (value : String)
  | array (items : List (Json Number))
  | object (members : List (String × Json Number))

namespace Json

variable {Number : Type}

@[elab_as_elim, induction_eliminator]
theorem shapeInduction
    {motive : Json Number → Prop}
    (null : motive .null)
    (bool : ∀ value, motive (.bool value))
    (number : ∀ value, motive (.number value))
    (string : ∀ value, motive (.string value))
    (array : ∀ items, (∀ item ∈ items, motive item) → motive (.array items))
    (object : ∀ members, (∀ member ∈ members, motive member.2) →
      motive (.object members))
    (value : Json Number) : motive value := by
  refine Json.rec (motive_1 := motive)
    (motive_2 := fun items => ∀ item ∈ items, motive item)
    (motive_3 := fun members => ∀ member ∈ members, motive member.2)
    (motive_4 := fun member => motive member.2)
    null bool number string array object ?_ ?_ ?_ ?_ ?_ value
  · exact fun _ member => absurd member List.not_mem_nil
  · intro head tail ofHead ofTail item member
    rcases List.mem_cons.mp member with rfl | later
    · exact ofHead
    · exact ofTail item later
  · exact fun _ member => absurd member List.not_mem_nil
  · intro head tail ofHead ofTail item member
    rcases List.mem_cons.mp member with rfl | later
    · exact ofHead
    · exact ofTail item later
  · exact fun _ _ ofValue => ofValue

end Json

/-- The characters a number is written with. -/
def isNumberChar (char : Char) : Bool :=
  char.isDigit || char == '-' || char == '+' || char == '.' || char == 'e'

structure NumberText where
  text : Text
  nonempty : text ≠ []
  chars : ∀ char ∈ text, isNumberChar char = true

def quoted (escape : Char → Text) (text : String) : Text :=
  '"' :: (text.toList.flatMap escape ++ ['"'])

/-- The parts with a comma between them. -/
def separated (parts : List Text) : Text :=
  List.intercalate [','] parts

namespace Json

section Compact

variable (escape : Char → Text)

mutual

def compact : Json NumberText → Text
  | .null => ['n', 'u', 'l', 'l']
  | .bool true => ['t', 'r', 'u', 'e']
  | .bool false => ['f', 'a', 'l', 's', 'e']
  | .number value => value.text
  | .string text => quoted escape text
  | .array items => '[' :: (separated (compactItems items) ++ [']'])
  | .object members =>
    '{' :: (separated (compactMembers members) ++ ['}'])

def compactItems : List (Json NumberText) → List Text
  | [] => []
  | item :: rest => compact item :: compactItems rest

def compactMembers : List (String × Json NumberText) → List Text
  | [] => []
  | (key, value) :: rest =>
    (quoted escape key ++ ':' :: compact value) :: compactMembers rest

end

end Compact

end Json

/--
The text after an escape does not change what was escaped, and no escape looks
like the end of the string.
-/
structure ReadableEscape (escape : Char → Text) : Prop where
  unique : ∀ {first second : Char} {rest other : Text},
    escape first ++ rest = escape second ++ other →
    first = second ∧ rest = other
  noQuote : ∀ (char : Char) (rest other : Text),
    escape char ++ rest ≠ '"' :: other

/-- What follows a value: nothing, or a character that ends it. -/
def EndsValue (rest : Text) : Prop :=
  ∀ char tail, rest = char :: tail → char = ',' ∨ char = ']' ∨ char = '}'

variable {rest other : Text} {char : Char}

theorem endsValue_cons
    (ends : char = ',' ∨ char = ']' ∨ char = '}') :
    EndsValue (char :: rest) := by
  rintro _ _ same
  cases same
  exact ends

section Reading

variable {escape : Char → Text} (readable : ReadableEscape escape)
include readable

variable {other : Text}

theorem escaped_unique
    {first second : List Char}
    (same : first.flatMap escape ++ '"' :: rest =
      second.flatMap escape ++ '"' :: other) :
    first = second ∧ rest = other := by
  induction first generalizing second with
  | nil =>
    cases second with
    | nil => exact ⟨rfl, (List.cons.inj same).2⟩
    | cons head tail =>
      rw [List.flatMap_cons, List.append_assoc] at same
      exact absurd same.symm (readable.noQuote head _ _)
  | cons head tail inductionHypothesis =>
    cases second with
    | nil =>
      rw [List.flatMap_cons, List.append_assoc] at same
      exact absurd same (readable.noQuote head _ _)
    | cons second others =>
      simp only [List.flatMap_cons, List.append_assoc] at same
      obtain ⟨rfl, later⟩ := readable.unique same
      obtain ⟨rfl, rest⟩ := inductionHypothesis later
      exact ⟨rfl, rest⟩

theorem quoted_unique
    {first second : String}
    (same : quoted escape first ++ rest = quoted escape second ++ other) :
    first = second ∧ rest = other := by
  simp only [quoted, List.cons_append, List.append_assoc,
    List.nil_append] at same
  obtain ⟨chars, rest⟩ := escaped_unique readable (List.cons.inj same).2
  exact ⟨String.toList_injective chars, rest⟩

end Reading

/-- A number's text ends where its characters do. -/
theorem numberText_unique
    {first second : Text}
    (firstChars : ∀ char ∈ first, isNumberChar char = true)
    (secondChars : ∀ char ∈ second, isNumberChar char = true)
    (ends : EndsValue rest)
    (otherEnds : EndsValue other)
    (same : first ++ rest = second ++ other) :
    first = second ∧ rest = other := by
  -- A character that ends a value is not one of a number.
  have noNumber {text : Text} (ends : EndsValue text) (char : Char)
      (tail : Text) (isHead : text = char :: tail) :
      isNumberChar char = false := by
    rcases ends char tail isHead with rfl | rfl | rfl <;> rfl
  induction first generalizing second with
  | nil =>
    cases second with
    | nil => exact ⟨rfl, same⟩
    | cons head tail =>
      have number := secondChars head List.mem_cons_self
      rw [noNumber ends head _ same] at number
      cases number
  | cons head tail inductionHypothesis =>
    cases second with
    | nil =>
      have number := firstChars head List.mem_cons_self
      rw [noNumber otherEnds head _ same.symm] at number
      cases number
    | cons second others =>
      obtain ⟨rfl, later⟩ := List.cons.inj same
      obtain ⟨rfl, rest⟩ := inductionHypothesis
        (fun char member => firstChars char (List.mem_cons_of_mem _ member))
        (fun char member => secondChars char (List.mem_cons_of_mem _ member))
        later
      exact ⟨rfl, rest⟩

namespace Json

variable {escape : Char → Text}

theorem compactItems_eq_map (items : List (Json NumberText)) :
    compactItems escape items = items.map (compact escape) := by
  induction items with
  | nil => rfl
  | cons item rest inductionHypothesis =>
    rw [compactItems, List.map_cons, inductionHypothesis]

/-- The text of a member of an object. -/
def compactMember
    (escape : Char → Text)
    (member : String × Json NumberText) : Text :=
  quoted escape member.1 ++ ':' :: compact escape member.2

theorem compactMembers_eq_map (members : List (String × Json NumberText)) :
    compactMembers escape members = members.map (compactMember escape) := by
  induction members with
  | nil => rfl
  | cons member rest inductionHypothesis =>
    obtain ⟨key, value⟩ := member
    rw [compactMembers, List.map_cons, inductionHypothesis]
    rfl

end Json

theorem separated_cons
    (part next : Text)
    (rest : List Text) :
    separated (part :: next :: rest) =
      part ++ ',' :: separated (next :: rest) := by
  simp [separated, List.intercalate]

@[simp] theorem separated_singleton (part : Text) :
    separated [part] = part := by
  simp [separated, List.intercalate]

/--
Parts that can each be told apart from what follows can be told apart from
each other, up to the character that ends them.
-/
theorem separated_unique
    {Part : Type}
    {write : Part → Text}
    {ending : Char}
    {first second : List Part}
    (isEnding : ending = ']' ∨ ending = '}')
    (starts : ∀ part ∈ first ++ second, ∀ tail rest,
      write part ++ tail ≠ ending :: rest)
    (unique : ∀ part ∈ first, ∀ next ∈ second, ∀ rest other,
      EndsValue rest → EndsValue other →
      write part ++ rest = write next ++ other →
      part = next ∧ rest = other)
    (same : separated (first.map write) ++ ending :: rest =
      separated (second.map write) ++ ending :: other) :
    first = second ∧ rest = other := by
  have endsValue (rest : Text) : EndsValue (ending :: rest) :=
    endsValue_cons (.inr isEnding)
  have comma (rest : Text) : EndsValue (',' :: rest) :=
    endsValue_cons (.inl rfl)
  induction first generalizing second with
  | nil =>
    cases second with
    | nil => exact ⟨rfl, (List.cons.inj same).2⟩
    | cons next others =>
      exfalso
      have start := starts next (by simp)
      cases others with
      | nil =>
        simp only [List.map_cons, List.map_nil,
          separated_singleton] at same
        exact start _ _ same.symm
      | cons later others =>
        simp only [List.map_cons, separated_cons,
          List.append_assoc] at same
        exact start _ _ same.symm
  | cons part parts inductionHypothesis =>
    cases second with
    | nil =>
      exfalso
      have start := starts part (by simp)
      cases parts with
      | nil =>
        simp only [List.map_cons, List.map_nil,
          separated_singleton] at same
        exact start _ _ same
      | cons later others =>
        simp only [List.map_cons, separated_cons,
          List.append_assoc] at same
        exact start _ _ same
    | cons next others =>
      have heads := unique part List.mem_cons_self next List.mem_cons_self
      cases parts with
      | nil =>
        cases others with
        | nil =>
          simp only [List.map_cons, List.map_nil,
            separated_singleton] at same
          obtain ⟨rfl, rests⟩ :=
            heads _ _ (endsValue _) (endsValue _) same
          exact ⟨rfl, (List.cons.inj rests).2⟩
        | cons later others =>
          simp only [List.map_cons, List.map_nil,
            separated_singleton, separated_cons,
            List.append_assoc] at same
          obtain ⟨_, rests⟩ := heads _ _ (endsValue _) (comma _) same
          rcases isEnding with rfl | rfl <;> cases rests
      | cons later parts =>
        cases others with
        | nil =>
          simp only [List.map_cons, List.map_nil,
            separated_singleton, separated_cons,
            List.append_assoc] at same
          obtain ⟨_, rests⟩ := heads _ _ (comma _) (endsValue _) same
          rcases isEnding with rfl | rfl <;> cases rests
        | cons another others =>
          simp only [List.map_cons, separated_cons,
            List.append_assoc] at same
          obtain ⟨rfl, rests⟩ := heads _ _ (comma _) (comma _) same
          obtain ⟨tails, rests⟩ := inductionHypothesis
            (fun part member => starts part (by
              simp only [List.mem_append, List.mem_cons] at member ⊢
              tauto))
            (fun part member next isNext =>
              unique part (List.mem_cons_of_mem _ member) next
                (List.mem_cons_of_mem _ isNext))
            (List.cons.inj rests).2
          rw [tails]
          exact ⟨rfl, rests⟩

theorem NumberText.beginsWith
    {number : NumberText}
    {tail : Text}
    (same : number.text ++ rest = char :: tail) :
    isNumberChar char = true := by
  cases isText : number.text with
  | nil => exact absurd isText number.nonempty
  | cons head others =>
    rw [isText] at same
    cases same
    exact number.chars char (by rw [isText]; exact List.mem_cons_self)

namespace Json

variable {escape : Char → Text}

theorem compact_ne_end
    (value : Json NumberText)
    (tail rest : Text) :
    compact escape value ++ tail ≠ ']' :: rest := by
  intro same
  cases value with
  | number number => cases NumberText.beginsWith same
  | bool value => cases value <;> cases same
  | _ => cases same

theorem compactMember_unique
    (readable : ReadableEscape escape)
    {first second : String × Json NumberText}
    (value : ∀ rest other,
      compact escape first.2 ++ rest = compact escape second.2 ++ other →
      EndsValue rest → EndsValue other →
      first.2 = second.2 ∧ rest = other)
    (ends : EndsValue rest)
    (otherEnds : EndsValue other)
    (same : compactMember escape first ++ rest =
      compactMember escape second ++ other) :
    first = second ∧ rest = other := by
  simp only [compactMember, List.append_assoc, List.cons_append] at same
  obtain ⟨key, later⟩ := quoted_unique readable same
  obtain ⟨isValue, rests⟩ := value rest other (List.cons.inj later).2 ends
    otherEnds
  exact ⟨Prod.ext key isValue, rests⟩

/-- The compact text of a value, and what follows it, can be read back. -/
theorem compact_append_unique
    (readable : ReadableEscape escape)
    {value other : Json NumberText}
    {tail : Text}
    (ends : EndsValue rest)
    (tailEnds : EndsValue tail)
    (same : compact escape value ++ rest = compact escape other ++ tail) :
    value = other ∧ rest = tail := by
  induction value generalizing other rest tail with
  | null =>
    cases other with
    | null => exact ⟨rfl, List.append_cancel_left same⟩
    | bool flag => cases flag <;> cases same
    | number number => cases NumberText.beginsWith same.symm
    | _ => cases same
  | bool flag =>
    cases other with
    | bool second =>
      cases flag <;> cases second
      · exact ⟨rfl, List.append_cancel_left same⟩
      · cases same
      · cases same
      · exact ⟨rfl, List.append_cancel_left same⟩
    | number number =>
      cases flag <;> cases NumberText.beginsWith same.symm
    | _ => cases flag <;> cases same
  | number number =>
    cases other with
    | number second =>
      obtain ⟨texts, rests⟩ := numberText_unique number.chars second.chars
        ends tailEnds same
      cases number
      cases second
      cases texts
      exact ⟨rfl, rests⟩
    | bool flag => cases flag <;> cases NumberText.beginsWith same
    | _ => cases NumberText.beginsWith same
  | string text =>
    cases other with
    | string second =>
      obtain ⟨rfl, rests⟩ := quoted_unique readable same
      exact ⟨rfl, rests⟩
    | bool flag => cases flag <;> cases same
    | number number => cases NumberText.beginsWith same.symm
    | _ => cases same
  | array items ofItems =>
    cases other with
    | array others =>
      simp only [compact, compactItems_eq_map, List.cons_append,
        List.append_assoc, List.nil_append] at same
      obtain ⟨rfl, rests⟩ := separated_unique (.inl rfl)
        (fun item _ tail rest => compact_ne_end item tail rest)
        (fun item member next _ rest other ends otherEnds written =>
          ofItems item member ends otherEnds written)
        (List.cons.inj same).2
      exact ⟨rfl, rests⟩
    | bool flag => cases flag <;> cases same
    | number number => cases NumberText.beginsWith same.symm
    | _ => cases same
  | object members ofMembers =>
    cases other with
    | object others =>
      simp only [compact, compactMembers_eq_map, List.cons_append,
        List.append_assoc, List.nil_append] at same
      obtain ⟨rfl, rests⟩ := separated_unique (.inr rfl)
        (fun member _ tail rest written => by cases written)
        (fun member isMember next _ rest other ends otherEnds written =>
          compactMember_unique readable
            (fun rest other written ends otherEnds =>
              ofMembers member isMember ends otherEnds written)
            ends otherEnds written)
        (List.cons.inj same).2
      exact ⟨rfl, rests⟩
    | bool flag => cases flag <;> cases same
    | number number => cases NumberText.beginsWith same.symm
    | _ => cases same

theorem compact_injective
    (readable : ReadableEscape escape) :
    Function.Injective (compact escape) := by
  intro value other same
  have nothing : EndsValue [] := fun _ _ isCons => by cases isCons
  refine (compact_append_unique readable nothing nothing ?_).1
  rw [List.append_nil, List.append_nil, same]

end Json

end VendingSystem
