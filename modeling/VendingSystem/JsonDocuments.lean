import VendingSystem.Json

namespace VendingSystem

/-!
# Documents of JSON

Reading a member of a document, following a path through it, and setting a
member of an object.  The order of the members is not observed.
-/

namespace Json

variable {Number : Type}

def members : Json Number → Option (List (String × Json Number))
  | .object members => some members
  | _ => none

def member (value : Json Number) (key : String) : Option (Json Number) :=
  value.members.bind (·.lookup key)

@[simp] theorem members_object (members : List (String × Json Number)) :
    (object members).members = some members :=
  rfl

@[simp] theorem member_object
    (members : List (String × Json Number))
    (key : String) :
    (object members).member key = members.lookup key :=
  rfl

/-- The value at the end of the path; arrays have no members. -/
def pointer (value : Json Number) : List String → Option (Json Number)
  | [] => some value
  | key :: path => (value.member key).bind fun inner => inner.pointer path

def asString : Json Number → Option String
  | .string value => some value
  | _ => none

def isObject (value : Json Number) : Bool :=
  value.members.isSome

/-- The member is replaced, or added when there is none of its name. -/
def insertMember (key : String) (value : Json Number) :
    List (String × Json Number) → List (String × Json Number)
  | [] => [(key, value)]
  | (other, former) :: rest =>
    if other = key then (key, value) :: rest
    else (other, former) :: insertMember key value rest

@[simp] theorem lookup_insertMember_self
    (key : String)
    (value : Json Number)
    (members : List (String × Json Number)) :
    (insertMember key value members).lookup key = some value := by
  induction members with
  | nil => simp [insertMember]
  | cons head rest inductionHypothesis =>
    obtain ⟨other, former⟩ := head
    by_cases same : other = key
    · simp [insertMember, same]
    · simp [insertMember, same, List.lookup_cons, inductionHypothesis,
        beq_false_of_ne (Ne.symm same)]

theorem lookup_insertMember_of_ne
    {key other : String}
    (differs : other ≠ key)
    (value : Json Number)
    (members : List (String × Json Number)) :
    (insertMember key value members).lookup other = members.lookup other := by
  induction members with
  | nil => simp [insertMember, List.lookup_cons, beq_false_of_ne differs]
  | cons head rest inductionHypothesis =>
    obtain ⟨name, former⟩ := head
    by_cases same : name = key
    · subst same
      simp [insertMember, List.lookup_cons, beq_false_of_ne differs]
    · simp [insertMember, same, List.lookup_cons, inductionHypothesis]

section Same

variable [DecidableEq Number]

mutual

/-- The values are equal, member by member. -/
def isSame : Json Number → Json Number → Bool
  | .null, .null => true
  | .bool first, .bool second => first == second
  | .number first, .number second => first = second
  | .string first, .string second => first == second
  | .array first, .array second => isSameItems first second
  | .object first, .object second => isSameMembers first second
  | _, _ => false

def isSameItems : List (Json Number) → List (Json Number) → Bool
  | [], [] => true
  | first :: rest, second :: others =>
    isSame first second && isSameItems rest others
  | _, _ => false

def isSameMembers :
    List (String × Json Number) → List (String × Json Number) → Bool
  | [], [] => true
  | (key, first) :: rest, (other, second) :: others =>
    key == other && isSame first second && isSameMembers rest others
  | _, _ => false

end

theorem isSame_self (value : Json Number) : isSame value value = true := by
  induction value with
  | null => rfl
  | bool value | number value | string value => simp [isSame]
  | array items inductionHypothesis =>
    rw [isSame]
    induction items with
    | nil => rfl
    | cons item rest restHypothesis =>
      rw [isSameItems, inductionHypothesis item List.mem_cons_self,
        restHypothesis fun other member =>
          inductionHypothesis other (List.mem_cons_of_mem _ member)]
      rfl
  | object members inductionHypothesis =>
    rw [isSame]
    induction members with
    | nil => rfl
    | cons head rest restHypothesis =>
      obtain ⟨key, value⟩ := head
      rw [isSameMembers,
        inductionHypothesis (key, value) List.mem_cons_self,
        restHypothesis fun other member =>
          inductionHypothesis other (List.mem_cons_of_mem _ member)]
      simp

end Same

end Json

end VendingSystem
