import Mathlib.Data.List.Nodup
import Mathlib.Data.List.Pairwise
import Mathlib.Data.List.Sort
import VendingSystem.Json
import VendingSystem.UnicodeOrder

namespace VendingSystem

/-!
# Canonical JSON

A canonical text sorts the members of every object by the units of their keys
in an encoding, and determines the value up to the order of the members.
-/

/-- How keys are ordered, characters escaped and numbers written. -/
structure Writer (Number : Type) where
  encode : Char → List Nat
  escape : Char → Text
  number : Number → Text

section Sorting

variable {Value Other : Type}

def keyOrder
    (encode : Char → List Nat)
    (first second : String × Value) : Prop :=
  encodedUnits encode first.1 ≤ encodedUnits encode second.1

instance (encode : Char → List Nat) :
    DecidableRel (@keyOrder Value encode) := fun first second =>
  inferInstanceAs (Decidable
    (encodedUnits encode first.1 ≤ encodedUnits encode second.1))

instance (encode : Char → List Nat) : Std.Total (@keyOrder Value encode) where
  total _ _ := le_total _ _

instance (encode : Char → List Nat) : IsTrans _ (@keyOrder Value encode) where
  trans _ _ _ := le_trans

def sortByKey
    (encode : Char → List Nat)
    (members : List (String × Value)) : List (String × Value) :=
  members.insertionSort (keyOrder encode)

theorem sortByKey_perm
    (encode : Char → List Nat)
    (members : List (String × Value)) :
    (sortByKey encode members).Perm members :=
  List.perm_insertionSort _ _

theorem sortByKey_map
    (encode : Char → List Nat)
    (change : Value → Other)
    (members : List (String × Value)) :
    sortByKey encode (members.map fun member => (member.1, change member.2)) =
      (sortByKey encode members).map fun member =>
        (member.1, change member.2) :=
  (List.map_insertionSort (keyOrder encode) (keyOrder encode)
    (fun member : String × Value => (member.1, change member.2)) members
    fun _ _ _ _ => Iff.rfl).symm

end Sorting

namespace Json

variable {Number Written : Type}

section Canonical

variable (writer : Writer Number)

/-- A member with the text of its value. -/
def writtenMember (escape : Char → Text) (member : String × Text) : Text :=
  quoted escape member.1 ++ ':' :: member.2

mutual

/-- The canonical text: as `compact`, with every object's members sorted. -/
def canonical : Json Number → Text
  | .null => ['n', 'u', 'l', 'l']
  | .bool true => ['t', 'r', 'u', 'e']
  | .bool false => ['f', 'a', 'l', 's', 'e']
  | .number value => writer.number value
  | .string text => quoted writer.escape text
  | .array items => '[' :: (separated (canonicalItems items) ++ [']'])
  | .object members =>
    '{' :: (separated
      ((sortByKey writer.encode (canonicalMembers members)).map
        (writtenMember writer.escape)) ++ ['}'])

def canonicalItems : List (Json Number) → List Text
  | [] => []
  | item :: rest => canonical item :: canonicalItems rest

def canonicalMembers : List (String × Json Number) → List (String × Text)
  | [] => []
  | (key, value) :: rest => (key, canonical value) :: canonicalMembers rest

end

theorem canonicalItems_eq_map (items : List (Json Number)) :
    canonicalItems writer items = items.map (canonical writer) := by
  induction items with
  | nil => rfl
  | cons item rest inductionHypothesis =>
    rw [canonicalItems, List.map_cons, inductionHypothesis]

theorem canonicalMembers_eq_map (members : List (String × Json Number)) :
    canonicalMembers writer members =
      members.map fun member => (member.1, canonical writer member.2) := by
  induction members with
  | nil => rfl
  | cons member rest inductionHypothesis =>
    obtain ⟨key, value⟩ := member
    rw [canonicalMembers, List.map_cons, inductionHypothesis]

end Canonical

section Arranged

variable
  (arrange : List (String × Json Written) → List (String × Json Written))
  (write : Number → Written)

mutual

/-- Every number rewritten, and the members of every object rearranged. -/
def arranged : Json Number → Json Written
  | .null => .null
  | .bool value => .bool value
  | .number value => .number (write value)
  | .string text => .string text
  | .array items => .array (arrangedItems items)
  | .object members => .object (arrange (arrangedMembers members))

def arrangedItems : List (Json Number) → List (Json Written)
  | [] => []
  | item :: rest => arranged item :: arrangedItems rest

def arrangedMembers :
    List (String × Json Number) → List (String × Json Written)
  | [] => []
  | (key, value) :: rest => (key, arranged value) :: arrangedMembers rest

end

theorem arrangedItems_eq_map (items : List (Json Number)) :
    arrangedItems arrange write items =
      items.map (arranged arrange write) := by
  induction items with
  | nil => rfl
  | cons item rest inductionHypothesis =>
    rw [arrangedItems, List.map_cons, inductionHypothesis]

theorem arrangedMembers_eq_map (members : List (String × Json Number)) :
    arrangedMembers arrange write members =
      members.map fun member => (member.1, arranged arrange write member.2) := by
  induction members with
  | nil => rfl
  | cons member rest inductionHypothesis =>
    obtain ⟨key, value⟩ := member
    rw [arrangedMembers, List.map_cons, inductionHypothesis]

end Arranged

/-- A value with other numbers. -/
def map (write : Number → Written) : Json Number → Json Written :=
  arranged id write

/-- A value with other numbers and sorted objects. -/
def sorted
    (encode : Char → List Nat)
    (write : Number → Written) : Json Number → Json Written :=
  arranged (sortByKey encode) write

theorem canonical_eq_compact
    {writer : Writer Number}
    {write : Number → NumberText}
    (numbers : ∀ value, writer.number value = (write value).text)
    (value : Json Number) :
    canonical writer value =
      compact writer.escape (value.sorted writer.encode write) := by
  unfold sorted
  induction value with
  | null => rfl
  | bool value => cases value <;> rfl
  | number value => exact numbers value
  | string text => rfl
  | array items ofItems =>
    rw [canonical, arranged, compact, canonicalItems_eq_map,
      arrangedItems_eq_map, compactItems_eq_map, List.map_map]
    exact congrArg (fun parts => '[' :: (separated parts ++ [']']))
      (List.map_congr_left ofItems)
  | object members ofMembers =>
    have written : ∀ member ∈ sortByKey writer.encode members,
        writtenMember writer.escape
            (member.1, canonical writer member.2) =
          compactMember writer.escape (member.1,
            arranged (sortByKey writer.encode) write member.2) := by
      intro member isMember
      rw [compactMember, ← ofMembers member
        ((sortByKey_perm _ _).mem_iff.mp isMember)]
      rfl
    rw [canonical, arranged, compact, canonicalMembers_eq_map,
      arrangedMembers_eq_map, compactMembers_eq_map, sortByKey_map,
      sortByKey_map, List.map_map, List.map_map]
    exact congrArg (fun parts => '{' :: (separated parts ++ ['}']))
      (List.map_congr_left written)

theorem canonical_map
    (writer : Writer Written)
    (write : Number → Written)
    (value : Json Number) :
    canonical writer (value.map write) =
      canonical { writer with number := writer.number ∘ write } value := by
  unfold map
  induction value with
  | null => rfl
  | bool value => cases value <;> rfl
  | number value => rfl
  | string text => rfl
  | array items ofItems =>
    rw [arranged, canonical, canonical, canonicalItems_eq_map,
      canonicalItems_eq_map, arrangedItems_eq_map, List.map_map]
    exact congrArg (fun parts => '[' :: (separated parts ++ [']']))
      (List.map_congr_left ofItems)
  | object members ofMembers =>
    have written : ∀ member ∈ members,
        (member.1, canonical writer (arranged id write member.2)) =
          (member.1, canonical
            { writer with number := writer.number ∘ write } member.2) :=
      fun member isMember => by rw [ofMembers member isMember]
    rw [arranged, canonical, canonical, canonicalMembers_eq_map,
      canonicalMembers_eq_map, arrangedMembers_eq_map, id, List.map_map]
    exact congrArg (fun parts => '{' :: (separated
        ((sortByKey writer.encode parts).map
          (writtenMember writer.escape)) ++ ['}']))
      (List.map_congr_left written)

section Everywhere

variable
  (ofNumber : Number → Prop)
  (ofKeys : List String → Prop)

mutual

/-- A property of every number and of the keys of every object. -/
def Everywhere : Json Number → Prop
  | .number value => ofNumber value
  | .array items => EverywhereItems items
  | .object members =>
    ofKeys (members.map Prod.fst) ∧ EverywhereMembers members
  | _ => True

def EverywhereItems : List (Json Number) → Prop
  | [] => True
  | item :: rest => Everywhere item ∧ EverywhereItems rest

def EverywhereMembers : List (String × Json Number) → Prop
  | [] => True
  | (_, value) :: rest => Everywhere value ∧ EverywhereMembers rest

end

theorem everywhereItems_iff (items : List (Json Number)) :
    EverywhereItems ofNumber ofKeys items ↔
      ∀ item ∈ items, Everywhere ofNumber ofKeys item := by
  induction items with
  | nil => simp [EverywhereItems]
  | cons item rest inductionHypothesis =>
    rw [EverywhereItems, inductionHypothesis, List.forall_mem_cons]

theorem everywhereMembers_iff (members : List (String × Json Number)) :
    EverywhereMembers ofNumber ofKeys members ↔
      ∀ member ∈ members, Everywhere ofNumber ofKeys member.2 := by
  induction members with
  | nil => simp [EverywhereMembers]
  | cons member rest inductionHypothesis =>
    obtain ⟨key, value⟩ := member
    rw [EverywhereMembers, inductionHypothesis, List.forall_mem_cons]

end Everywhere

/-- Every object has each key once. -/
def DistinctKeys : Json Number → Prop :=
  Everywhere (fun _ => True) List.Nodup

/-- Two encodings order these keys alike. -/
def OrderedAlike
    (encode other : Char → List Nat)
    (keys : List String) : Prop :=
  ∀ first ∈ keys, ∀ second ∈ keys,
    (encodedUnits encode first ≤ encodedUnits encode second ↔
      encodedUnits other first ≤ encodedUnits other second)

end Json

section Agreement

variable
  {Value Left Right : Type}
  {encode other : Char → List Nat}
  {members : List (String × Value)}

theorem sortByKey_eq_of_orderedAlike
    (alike : Json.OrderedAlike encode other (members.map Prod.fst)) :
    sortByKey encode members = sortByKey other members := by
  have same := List.map_insertionSort (keyOrder encode) (keyOrder other)
    id members fun first isFirst second isSecond =>
      alike first.1 (List.mem_map_of_mem isFirst)
        second.1 (List.mem_map_of_mem isSecond)
  rwa [List.map_id, List.map_id] at same

theorem sortByKey_pairwise :
    ((sortByKey encode members).map Prod.fst).Pairwise
      fun first second =>
        encodedUnits encode first ≤ encodedUnits encode second :=
  List.pairwise_map.mpr (List.pairwise_insertionSort (keyOrder encode) members)

theorem orderedAlike_of_keys
    (injective : Function.Injective (encodedUnits encode))
    (otherInjective : Function.Injective (encodedUnits other))
    (distinct : (members.map Prod.fst).Nodup)
    (same : (sortByKey encode members).map Prod.fst =
      (sortByKey other members).map Prod.fst) :
    Json.OrderedAlike encode other (members.map Prod.fst) := by
  have perm := (sortByKey_perm encode members).map Prod.fst
  have ordered := @sortByKey_pairwise _ encode members
  have otherOrdered := @sortByKey_pairwise _ other members
  rw [← same] at otherOrdered
  have both := (ordered.and otherOrdered).and (perm.nodup_iff.mpr distinct)
  have alike := both.imp (S := fun first second =>
    (encodedUnits encode first ≤ encodedUnits encode second ↔
      encodedUnits other first ≤ encodedUnits other second) ∧
    (encodedUnits encode second ≤ encodedUnits encode first ↔
      encodedUnits other second ≤ encodedUnits other first))
    (by
      rintro first second ⟨⟨before, otherBefore⟩, differ⟩
      have after : ¬ encodedUnits encode second ≤ encodedUnits encode first :=
        fun after => differ (injective (le_antisymm before after))
      have otherAfter :
          ¬ encodedUnits other second ≤ encodedUnits other first :=
        fun after => differ (otherInjective (le_antisymm otherBefore after))
      exact ⟨iff_of_true before otherBefore, iff_of_false after otherAfter⟩)
  intro first isFirst second isSecond
  have forward := alike.forall_of_forall_of_flip
    (fun key _ => ⟨iff_of_true le_rfl le_rfl, iff_of_true le_rfl le_rfl⟩)
    (alike.imp fun pair => ⟨pair.2, pair.1⟩)
  exact (forward (perm.mem_iff.mpr isFirst) (perm.mem_iff.mpr isSecond)).1

theorem sortByKey_map_eq_iff
    {left right : Value → Left}
    (injective : Function.Injective (encodedUnits encode))
    (otherInjective : Function.Injective (encodedUnits other))
    (distinct : (members.map Prod.fst).Nodup) :
    sortByKey encode (members.map fun member => (member.1, left member.2)) =
        sortByKey other
          (members.map fun member => (member.1, right member.2)) ↔
      Json.OrderedAlike encode other (members.map Prod.fst) ∧
        ∀ member ∈ members, left member.2 = right member.2 := by
  rw [sortByKey_map, sortByKey_map]
  constructor
  · intro same
    have keys := congrArg (List.map Prod.fst) same
    rw [List.map_map, List.map_map] at keys
    refine ⟨orderedAlike_of_keys injective otherInjective distinct keys,
      fun member isMember => ?_⟩
    have written := List.mem_map_of_mem
      (f := fun member : String × Value => (member.1, left member.2))
      ((sortByKey_perm encode members).mem_iff.mpr isMember)
    rw [same] at written
    obtain ⟨found, isFound, isWritten⟩ := List.mem_map.mp written
    have sameKey : found.1 = member.1 := (Prod.mk.inj isWritten).1
    have sameMember : found = member := List.inj_on_of_nodup_map distinct
      ((sortByKey_perm other members).mem_iff.mp isFound) isMember sameKey
    subst sameMember
    exact (congrArg Prod.snd isWritten).symm
  · rintro ⟨alike, values⟩
    rw [sortByKey_eq_of_orderedAlike alike]
    exact List.map_congr_left fun member isMember => by
      rw [values member ((sortByKey_perm other members).mem_iff.mp isMember)]

end Agreement

namespace Json

variable {Number Written : Type}

/-- Two writers sort and write a value alike exactly in these cases. -/
theorem sorted_eq_iff
    {encode other : Char → List Nat}
    {write writeOther : Number → Written}
    (injective : Function.Injective (encodedUnits encode))
    (otherInjective : Function.Injective (encodedUnits other))
    {value : Json Number}
    (distinct : value.DistinctKeys) :
    value.sorted encode write = value.sorted other writeOther ↔
      value.Everywhere (fun number => write number = writeOther number)
        (OrderedAlike encode other) := by
  unfold sorted
  unfold DistinctKeys at distinct
  induction value with
  | null => exact iff_of_true rfl trivial
  | bool value => exact iff_of_true rfl trivial
  | number value => rw [arranged, arranged, Json.number.injEq, Everywhere]
  | string text => exact iff_of_true rfl trivial
  | array items ofItems =>
    have ofDistinct := (everywhereItems_iff _ _ _).mp distinct
    rw [arranged, arranged, arrangedItems_eq_map, arrangedItems_eq_map,
      Everywhere, everywhereItems_iff, Json.array.injEq,
      List.map_inj_left]
    exact forall₂_congr fun item member =>
      ofItems item member (ofDistinct item member)
  | object members ofMembers =>
    obtain ⟨keys, values⟩ := distinct
    have ofDistinct := (everywhereMembers_iff _ _ _).mp values
    rw [arranged, arranged, arrangedMembers_eq_map, arrangedMembers_eq_map,
      Everywhere, everywhereMembers_iff, Json.object.injEq,
      sortByKey_map_eq_iff injective otherInjective keys]
    exact and_congr_right fun _ => forall₂_congr fun member isMember =>
      ofMembers member isMember (ofDistinct member isMember)

/-- The same value, with the members of its objects in any order. -/
inductive Same : Json Number → Json Number → Prop where
  | refl (value : Json Number) : Same value value
  | symm {value other : Json Number} : Same value other → Same other value
  | trans {value other third : Json Number} :
      Same value other → Same other third → Same value third
  | item (before after : List (Json Number)) {value other : Json Number} :
      Same value other →
      Same (.array (before ++ value :: after))
        (.array (before ++ other :: after))
  | member (before after : List (String × Json Number)) (key : String)
      {value other : Json Number} :
      Same value other →
      Same (.object (before ++ (key, value) :: after))
        (.object (before ++ (key, other) :: after))
  | order {members others : List (String × Json Number)} :
      members.Perm others → Same (.object members) (.object others)

section Congruence

variable {Part : Type}

variable {left right : Part → Json Written}

theorem same_array
    (items : List Part)
    (before : List (Json Written))
    (ofItems : ∀ item ∈ items, Same (left item) (right item)) :
    Same (.array (before ++ items.map left))
      (.array (before ++ items.map right)) := by
  induction items generalizing before with
  | nil => exact .refl _
  | cons item rest inductionHypothesis =>
    refine .trans (.item before (rest.map left)
      (ofItems item List.mem_cons_self)) ?_
    have later := inductionHypothesis (before ++ [right item])
      fun item member => ofItems item (List.mem_cons_of_mem _ member)
    simpa using later

theorem same_object
    (members : List (String × Part))
    (before : List (String × Json Written))
    (ofMembers : ∀ member ∈ members,
      Same (left member.2) (right member.2)) :
    Same
      (.object (before ++
        members.map fun member => (member.1, left member.2)))
      (.object (before ++
        members.map fun member => (member.1, right member.2))) := by
  induction members generalizing before with
  | nil => exact .refl _
  | cons member rest inductionHypothesis =>
    refine .trans (.member before _ member.1
      (ofMembers member List.mem_cons_self)) ?_
    have later := inductionHypothesis (before ++ [(member.1, right member.2)])
      fun member isMember => ofMembers member (List.mem_cons_of_mem _ isMember)
    simpa using later

end Congruence

theorem same_sorted
    (encode : Char → List Nat)
    (write : Number → Written)
    (value : Json Number) :
    Same (value.map write) (value.sorted encode write) := by
  unfold map sorted
  induction value with
  | null | bool value | number value | string text => exact .refl _
  | array items ofItems =>
    rw [arranged, arranged, arrangedItems_eq_map, arrangedItems_eq_map]
    exact same_array items [] ofItems
  | object members ofMembers =>
    rw [arranged, arranged, arrangedMembers_eq_map, arrangedMembers_eq_map]
    exact .trans (same_object members [] ofMembers)
      (.order (sortByKey_perm _ _).symm)

theorem sorted_eq_map_sorted
    {Middle : Type}
    (encode : Char → List Nat)
    (write : Number → Middle)
    (rewrite : Middle → Written)
    (value : Json Number) :
    value.sorted encode (rewrite ∘ write) =
      (value.sorted encode write).map rewrite := by
  unfold sorted map
  induction value with
  | null | bool value | number value | string text => rfl
  | array items ofItems =>
    rw [arranged, arranged, arranged, arrangedItems_eq_map,
      arrangedItems_eq_map, arrangedItems_eq_map, List.map_map]
    exact congrArg Json.array (List.map_congr_left ofItems)
  | object members ofMembers =>
    have written : ∀ member ∈ sortByKey encode members,
        (member.1, arranged (sortByKey encode) (rewrite ∘ write) member.2) =
          (member.1, arranged id rewrite
            (arranged (sortByKey encode) write member.2)) :=
      fun member isMember => by
        rw [ofMembers member ((sortByKey_perm _ _).mem_iff.mp isMember)]
    rw [arranged, arranged, arranged, arrangedMembers_eq_map,
      arrangedMembers_eq_map, arrangedMembers_eq_map, sortByKey_map,
      sortByKey_map, id, List.map_map]
    exact congrArg Json.object (List.map_congr_left written)

theorem same_of_sorted_eq
    {First Second Written Meaning : Type}
    {encode recode : Char → List Nat}
    {write : First → Written}
    {rewrite : Second → Written}
    (read : Written → Meaning)
    {value : Json First}
    {other : Json Second}
    (same : value.sorted encode write = other.sorted recode rewrite) :
    Same (value.map (read ∘ write)) (other.map (read ∘ rewrite)) := by
  have first := same_sorted encode (read ∘ write) value
  rw [sorted_eq_map_sorted, same, ← sorted_eq_map_sorted] at first
  exact .trans first (.symm (same_sorted recode (read ∘ rewrite) other))

theorem same_of_canonical
    {Meaning : Type}
    {writer : Writer Number}
    {write : Number → NumberText}
    {meaning : Number → Meaning}
    {read : NumberText → Meaning}
    (readable : ReadableEscape writer.escape)
    (numbers : ∀ value, writer.number value = (write value).text)
    (reads : ∀ value, read (write value) = meaning value)
    {value other : Json Number}
    (same : canonical writer value = canonical writer other) :
    Same (value.map meaning) (other.map meaning) := by
  rw [canonical_eq_compact numbers, canonical_eq_compact numbers] at same
  have isMeaning : meaning = read ∘ write :=
    funext fun value => (reads value).symm
  have sameSorted : value.sorted writer.encode meaning =
      other.sorted writer.encode meaning := by
    rw [isMeaning, sorted_eq_map_sorted, sorted_eq_map_sorted,
      compact_injective readable same]
  have first := same_sorted writer.encode meaning value
  rw [sameSorted] at first
  exact .trans first (.symm (same_sorted writer.encode meaning other))

end Json

end VendingSystem
