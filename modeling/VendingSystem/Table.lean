import Mathlib.Data.List.Nodup
import Mathlib.Algebra.BigOperators.Group.List.Basic
import Mathlib.Algebra.Order.BigOperators.Group.List
import Mathlib.Algebra.Order.Ring.Nat

namespace VendingSystem

/-!
# Keyed tables

A table with a primary key, as a finite list of rows whose keys are pairwise
distinct.  Every operation comes with the lemma that says what a lookup
returns after it.
-/

/-- A finite list of rows with pairwise distinct keys. -/
structure Table (Row : Type) {Key : Type} (keyOf : Row → Key) where
  rows : List Row
  keysDistinct : (rows.map keyOf).Nodup

namespace Table

variable {Row Key : Type} {keyOf : Row → Key}

instance [DecidableEq Row] : DecidableEq (Table Row keyOf) :=
  fun first second =>
    decidable_of_iff (first.rows = second.rows) (by
      cases first
      cases second
      simp)

/-- The table without rows. -/
def empty : Table Row keyOf where
  rows := []
  keysDistinct := by simp

instance : Membership Row (Table Row keyOf) where
  mem table row := row ∈ table.rows

instance [DecidableEq Row] (row : Row) (table : Table Row keyOf) :
    Decidable (row ∈ table) :=
  inferInstanceAs (Decidable (row ∈ table.rows))

theorem mem_def {row : Row} {table : Table Row keyOf} :
    row ∈ table ↔ row ∈ table.rows :=
  Iff.rfl

@[simp] theorem not_mem_empty (row : Row) :
    row ∉ (empty : Table Row keyOf) := by
  simp [mem_def, empty]

theorem eq_of_key_eq
    {table : Table Row keyOf}
    {first second : Row}
    (firstMember : first ∈ table)
    (secondMember : second ∈ table)
    (sameKey : keyOf first = keyOf second) :
    first = second :=
  List.inj_on_of_nodup_map table.keysDistinct firstMember secondMember sameKey

section Lookup

variable [DecidableEq Key]

/-- The row stored under a key. -/
def find? (table : Table Row keyOf) (key : Key) : Option Row :=
  table.rows.find? (fun row => decide (keyOf row = key))

@[simp] theorem find?_empty (key : Key) :
    (empty : Table Row keyOf).find? key = none := rfl

theorem mem_of_find?
    {table : Table Row keyOf}
    {key : Key}
    {row : Row}
    (found : table.find? key = some row) :
    row ∈ table :=
  List.mem_of_find?_eq_some found

theorem key_of_find?
    {table : Table Row keyOf}
    {key : Key}
    {row : Row}
    (found : table.find? key = some row) :
    keyOf row = key := by
  have holds := List.find?_some found
  simpa using holds

theorem find?_of_mem
    {table : Table Row keyOf}
    {row : Row}
    (member : row ∈ table) :
    table.find? (keyOf row) = some row := by
  cases found : table.find? (keyOf row) with
  | none =>
    have absent := List.find?_eq_none.mp found row member
    simp at absent
  | some other =>
    have same := eq_of_key_eq (mem_of_find? found) member (key_of_find? found)
    rw [same]

theorem find?_eq_some_iff
    {table : Table Row keyOf}
    {key : Key}
    {row : Row} :
    table.find? key = some row ↔ row ∈ table ∧ keyOf row = key := by
  constructor
  · intro found
    exact ⟨mem_of_find? found, key_of_find? found⟩
  · rintro ⟨member, rfl⟩
    exact find?_of_mem member

theorem find?_eq_none_iff
    {table : Table Row keyOf}
    {key : Key} :
    table.find? key = none ↔ ∀ row ∈ table, keyOf row ≠ key := by
  simp [find?, mem_def, List.find?_eq_none]

/-- Any row satisfying a test, `LIMIT 1` without an order: the preferred key
decides when it qualifies, so every qualifying row is the answer for some
preference. -/
def anyRow
    (table : Table Row keyOf)
    (test : Row → Bool)
    (preferred : Key) : Option Row :=
  match (table.find? preferred).filter test with
  | some row => some row
  | none => table.rows.find? test

theorem anyRow_sound
    {table : Table Row keyOf}
    {test : Row → Bool}
    {preferred : Key}
    {row : Row}
    (answer : table.anyRow test preferred = some row) :
    row ∈ table ∧ test row = true := by
  unfold anyRow at answer
  split at answer
  · rename_i chosen found
    cases answer
    obtain ⟨stored, qualifies⟩ := Option.filter_eq_some_iff.mp found
    exact ⟨mem_of_find? stored, qualifies⟩
  · exact ⟨List.mem_of_find?_eq_some answer, List.find?_some answer⟩

/-- A selection that only one key can pass is what that key's row yields. -/
theorem filterMap_of_key
    {Value : Type}
    {table : Table Row keyOf}
    {select : Row → Option Value}
    (key : Key)
    (others : ∀ row ∈ table, keyOf row ≠ key → select row = none) :
    table.rows.filterMap select =
      ((table.find? key).bind select).toList := by
  obtain ⟨rows, keysDistinct⟩ := table
  unfold find?
  simp only [mem_def] at others ⊢
  induction rows with
  | nil => rfl
  | cons row rest inductionHypothesis =>
    simp only [List.map_cons, List.nodup_cons] at keysDistinct
    by_cases same : keyOf row = key
    · have restNone : rest.filterMap select = [] := by
        rw [List.filterMap_eq_nil_iff]
        intro other member
        apply others other (List.mem_cons_of_mem _ member)
        intro otherKey
        exact keysDistinct.1
          (List.mem_map.mpr ⟨other, member, otherKey.trans same.symm⟩)
      rw [List.filterMap_cons, restNone]
      simp only [List.find?_cons, same, decide_true, Option.bind_some]
      cases select row <;> rfl
    · rw [List.filterMap_cons,
        others row List.mem_cons_self same,
        inductionHypothesis keysDistinct.2
          (fun other member =>
            others other (List.mem_cons_of_mem _ member))]
      simp [same]

theorem filter_key (table : Table Row keyOf) (key : Key) :
    table.rows.filter (fun row => decide (keyOf row = key)) =
      (table.find? key).toList := by
  rw [← List.filterMap_eq_filter, filterMap_of_key key]
  · cases found : table.find? key with
    | none => rfl
    | some row => simp [key_of_find? found, Option.guard]
  · intro row _ differs
    simp [Option.guard, differs]

end Lookup

/-- Rewrite the rows that satisfy a test, keeping their keys. -/
def updateWhere
    (table : Table Row keyOf)
    (test : Row → Bool)
    (change : Row → Row)
    (keepsKey : ∀ row, keyOf (change row) = keyOf row := by
      intro row; rfl) :
    Table Row keyOf where
  rows := table.rows.map fun row => if test row then change row else row
  keysDistinct := by
    have sameKeys :
        (table.rows.map fun row => if test row then change row else row).map
          keyOf = table.rows.map keyOf := by
      rw [List.map_map]
      apply List.map_congr_left
      intro row _
      simp only [Function.comp_apply]
      split
      · exact keepsKey row
      · rfl
    rw [sameKeys]
    exact table.keysDistinct

/-- Remove the rows that satisfy a test. -/
def deleteWhere
    (table : Table Row keyOf)
    (test : Row → Bool) : Table Row keyOf where
  rows := table.rows.filter fun row => !test row
  keysDistinct := table.keysDistinct.sublist (List.filter_sublist.map _)

section KeyedWrites

variable [DecidableEq Key]

/-- Rewrite the row stored under a key. -/
def modify
    (table : Table Row keyOf)
    (key : Key)
    (change : Row → Row)
    (keepsKey : ∀ row, keyOf (change row) = keyOf row := by
      intro row; rfl) :
    Table Row keyOf :=
  table.updateWhere (fun row => decide (keyOf row = key)) change keepsKey

/-- Add a row unless its key is already used. -/
def insertOrIgnore (table : Table Row keyOf) (row : Row) :
    Table Row keyOf :=
  if fresh : table.find? (keyOf row) = none then
    { rows := table.rows ++ [row]
      keysDistinct := by
        rw [List.map_append, List.nodup_append]
        refine ⟨table.keysDistinct, by simp, ?_⟩
        intro key keyMember other otherMember
        obtain ⟨stored, storedMember, rfl⟩ := List.mem_map.mp keyMember
        simp only [List.map_cons, List.map_nil, List.mem_singleton]
          at otherMember
        subst otherMember
        exact find?_eq_none_iff.mp fresh stored storedMember }
  else table

/-- Add a row, or rewrite the row already stored under its key. -/
def insertOrUpdate
    (table : Table Row keyOf)
    (row : Row)
    (change : Row → Row)
    (keepsKey : ∀ row, keyOf (change row) = keyOf row := by
      intro row; rfl) :
    Table Row keyOf :=
  match table.find? (keyOf row) with
  | some _ => table.modify (keyOf row) change keepsKey
  | none => table.insertOrIgnore row

/-- A lookup after a filtered rewrite. -/
@[simp] theorem find?_updateWhere
    (table : Table Row keyOf)
    (test : Row → Bool)
    (change : Row → Row)
    (keepsKey : ∀ row, keyOf (change row) = keyOf row)
    (key : Key) :
    (table.updateWhere test change keepsKey).find? key =
      (table.find? key).map
        (fun row => if test row then change row else row) := by
  unfold find? updateWhere
  rw [List.find?_map]
  congr 2
  funext row
  simp only [Function.comp_apply]
  split <;> simp [keepsKey]

@[simp] theorem find?_deleteWhere
    (table : Table Row keyOf)
    (test : Row → Bool)
    (key : Key) :
    (table.deleteWhere test).find? key =
      (table.find? key).filter (fun row => !test row) := by
  cases found : table.find? key with
  | none =>
    rw [Option.filter_none, find?_eq_none_iff]
    intro row member
    exact find?_eq_none_iff.mp found row (List.mem_filter.mp member).1
  | some row =>
    obtain ⟨member, sameKey⟩ := find?_eq_some_iff.mp found
    by_cases deleted : test row = true
    · simp only [Option.filter, deleted, Bool.not_true, Bool.false_eq_true,
        ↓reduceIte, find?_eq_none_iff]
      intro other otherMember otherKey
      obtain ⟨stored, kept⟩ := List.mem_filter.mp otherMember
      have same := eq_of_key_eq stored member (otherKey.trans sameKey.symm)
      simp [same, deleted] at kept
    · have kept : (!test row) = true := by simpa using deleted
      simp only [Option.filter, kept, ↓reduceIte]
      exact find?_eq_some_iff.mpr ⟨List.mem_filter.mpr ⟨member, kept⟩, sameKey⟩

theorem find?_deleteWhere_cases
    (table : Table Row keyOf)
    (test : Row → Bool)
    (key : Key) :
    (table.deleteWhere test).find? key = table.find? key ∨
      (table.deleteWhere test).find? key = none := by
  rw [find?_deleteWhere]
  cases table.find? key with
  | none => exact Or.inl rfl
  | some row =>
    by_cases deleted : test row = true
    · exact Or.inr (by simp [Option.filter, deleted])
    · exact Or.inl (by simp [Option.filter, deleted])

@[simp] theorem find?_modify
    (table : Table Row keyOf)
    (key : Key)
    (change : Row → Row)
    (keepsKey : ∀ row, keyOf (change row) = keyOf row)
    (other : Key) :
    (table.modify key change keepsKey).find? other =
      if other = key then (table.find? other).map change
      else table.find? other := by
  unfold modify
  rw [find?_updateWhere]
  cases found : table.find? other with
  | none => simp
  | some row =>
    have rowKey := key_of_find? found
    by_cases same : other = key
    · simp [rowKey, same]
    · simp [rowKey, same]

@[simp] theorem find?_insertOrIgnore
    (table : Table Row keyOf)
    (row : Row)
    (key : Key) :
    (table.insertOrIgnore row).find? key =
      if key = keyOf row then some ((table.find? key).getD row)
      else table.find? key := by
  unfold insertOrIgnore
  split
  · rename_i fresh
    by_cases same : key = keyOf row
    · subst same
      have fresh' := fresh
      unfold find? at fresh ⊢
      simp [List.find?_append, fresh]
    · have differs : keyOf row ≠ key := fun equal => same equal.symm
      simp [find?, List.find?_append, same, differs]
  · rename_i used
    by_cases same : key = keyOf row
    · subst same
      cases found : table.find? (keyOf row) with
      | none => exact (used found).elim
      | some stored => simp
    · simp [same]

/-- A lookup after an upsert. -/
@[simp] theorem find?_insertOrUpdate
    (table : Table Row keyOf)
    (row : Row)
    (change : Row → Row)
    (keepsKey : ∀ row, keyOf (change row) = keyOf row)
    (key : Key) :
    (table.insertOrUpdate row change keepsKey).find? key =
      if key = keyOf row then
        some (((table.find? key).map change).getD row)
      else table.find? key := by
  unfold insertOrUpdate
  cases found : table.find? (keyOf row) with
  | none =>
    by_cases same : key = keyOf row
    · subst same
      simp [found]
    · simp [same]
  | some stored =>
    by_cases same : key = keyOf row
    · subst same
      simp [found]
    · simp [same]

end KeyedWrites

section FreshKeys

variable {keyOf : Row → Nat}

/-- A number above every key of the table. -/
def nextId (table : Table Row keyOf) : Nat :=
  table.rows.foldr (fun row next => max (keyOf row + 1) next) 1

theorem key_lt_nextId
    {table : Table Row keyOf}
    {row : Row}
    (member : row ∈ table) :
    keyOf row < table.nextId := by
  obtain ⟨rows, keysDistinct⟩ := table
  simp only [mem_def, nextId] at member ⊢
  clear keysDistinct
  induction rows with
  | nil => cases member
  | cons first rest inductionHypothesis =>
    simp only [List.foldr_cons]
    rcases List.mem_cons.mp member with rfl | later
    · omega
    · have := inductionHypothesis later
      omega

@[simp] theorem find?_nextId (table : Table Row keyOf) :
    table.find? table.nextId = none := by
  rw [find?_eq_none_iff]
  intro row member
  have := key_lt_nextId member
  omega

/-- Add a row under the next number. -/
def insertNext
    (table : Table Row keyOf)
    (make : Nat → Row) : Table Row keyOf :=
  table.insertOrIgnore (make table.nextId)

theorem find?_insertNext
    (table : Table Row keyOf)
    {make : Nat → Row}
    (numbered : keyOf (make table.nextId) = table.nextId)
    (key : Nat) :
    (table.insertNext make).find? key =
      if key = table.nextId then some (make table.nextId)
      else table.find? key := by
  rw [insertNext, find?_insertOrIgnore, numbered]
  split
  · rename_i same
    subst same
    simp
  · rfl

theorem rows_insertNext
    (table : Table Row keyOf)
    {make : Nat → Row}
    (numbered : keyOf (make table.nextId) = table.nextId) :
    (table.insertNext make).rows = table.rows ++ [make table.nextId] := by
  have fresh : table.find? (keyOf (make table.nextId)) = none := by
    rw [numbered]
    exact table.find?_nextId
  simp only [insertNext, insertOrIgnore, fresh, ↓reduceDIte]

theorem mem_insertNext
    (table : Table Row keyOf)
    {make : Nat → Row}
    (numbered : keyOf (make table.nextId) = table.nextId)
    (row : Row) :
    row ∈ table.insertNext make ↔
      row ∈ table ∨ row = make table.nextId := by
  rw [mem_def, rows_insertNext table numbered, List.mem_append,
    List.mem_singleton, mem_def]

end FreshKeys

theorem updateWhere_of_none
    {table : Table Row keyOf}
    {test : Row → Bool}
    {change : Row → Row}
    {keepsKey : ∀ row, keyOf (change row) = keyOf row}
    (none : ∀ row ∈ table, test row = false) :
    table.updateWhere test change keepsKey = table := by
  obtain ⟨rows, keysDistinct⟩ := table
  simp only [updateWhere, mk.injEq]
  refine (List.map_congr_left fun row member => ?_).trans (List.map_id rows)
  rw [none row member]
  rfl

theorem mem_updateWhere
    {table : Table Row keyOf}
    {test : Row → Bool}
    {change : Row → Row}
    {keepsKey : ∀ row, keyOf (change row) = keyOf row}
    {row : Row} :
    row ∈ table.updateWhere test change keepsKey ↔
      ∃ old ∈ table, (if test old then change old else old) = row := by
  simp [mem_def, updateWhere]

theorem mem_modify [DecidableEq Key]
    {table : Table Row keyOf}
    {key : Key}
    {change : Row → Row}
    {keepsKey : ∀ row, keyOf (change row) = keyOf row}
    {row : Row} :
    row ∈ table.modify key change keepsKey ↔
      ∃ old ∈ table, (if keyOf old = key then change old else old) = row := by
  simp [modify, mem_updateWhere]

/-- The sum of a weight over the rows. -/
def total (table : Table Row keyOf) (weight : Row → Nat) : Nat :=
  (table.rows.map weight).sum

@[simp] theorem total_empty (weight : Row → Nat) :
    (empty : Table Row keyOf).total weight = 0 := rfl

theorem total_congr
    {table : Table Row keyOf}
    {first second : Row → Nat}
    (same : ∀ row ∈ table, first row = second row) :
    table.total first = table.total second := by
  unfold total
  rw [List.map_congr_left same]

theorem total_eq_zero
    {table : Table Row keyOf}
    {weight : Row → Nat}
    (zero : ∀ row ∈ table, weight row = 0) :
    table.total weight = 0 := by
  apply List.sum_eq_zero
  intro value member
  obtain ⟨row, rowMember, rfl⟩ := List.mem_map.mp member
  exact zero row rowMember

theorem total_add
    (table : Table Row keyOf)
    (first second : Row → Nat) :
    table.total (fun row => first row + second row) =
      table.total first + table.total second :=
  List.sum_map_add

theorem total_updateWhere
    (table : Table Row keyOf)
    (test : Row → Bool)
    (change : Row → Row)
    (keepsKey : ∀ row, keyOf (change row) = keyOf row)
    (weight : Row → Nat) :
    (table.updateWhere test change keepsKey).total weight =
      table.total (fun row =>
        weight (if test row then change row else row)) := by
  simp only [total, updateWhere, List.map_map]
  rfl

section KeyedTotals

variable [DecidableEq Key]

theorem total_insertOrIgnore
    {table : Table Row keyOf}
    {row : Row}
    (fresh : table.find? (keyOf row) = none)
    (weight : Row → Nat) :
    (table.insertOrIgnore row).total weight =
      table.total weight + weight row := by
  simp [insertOrIgnore, fresh, total]

theorem total_of_key
    {table : Table Row keyOf}
    {weight : Row → Nat}
    (key : Key)
    (others : ∀ row ∈ table, keyOf row ≠ key → weight row = 0) :
    table.total weight = ((table.find? key).map weight).getD 0 := by
  obtain ⟨rows, keysDistinct⟩ := table
  simp only [mem_def, total, find?] at others ⊢
  induction rows with
  | nil => rfl
  | cons row rest inductionHypothesis =>
    simp only [List.map_cons, List.nodup_cons] at keysDistinct
    rw [List.map_cons, List.sum_cons]
    by_cases same : keyOf row = key
    · have restZero : (rest.map weight).sum = 0 := by
        apply List.sum_eq_zero
        intro value member
        obtain ⟨other, otherMember, rfl⟩ := List.mem_map.mp member
        apply others other (List.mem_cons_of_mem _ otherMember)
        intro otherKey
        exact keysDistinct.1
          (List.mem_map.mpr
            ⟨other, otherMember, otherKey.trans same.symm⟩)
      simp [same, restZero]
    · rw [others row List.mem_cons_self same,
        inductionHypothesis keysDistinct.2
          (fun other member =>
            others other (List.mem_cons_of_mem _ member))]
      simp [same]

/-- A keyed rewrite trades the old weight of its row for the new one. -/
theorem total_modify
    {table : Table Row keyOf}
    {key : Key}
    {row : Row}
    (stored : table.find? key = some row)
    (change : Row → Row)
    (keepsKey : ∀ row, keyOf (change row) = keyOf row)
    (weight : Row → Nat) :
    (table.modify key change keepsKey).total weight + weight row =
      table.total weight + weight (change row) := by
  have at_key : ∀ before : Row → Nat,
      table.total before =
        table.total (fun other => if keyOf other = key then 0 else before other)
          + before row := by
    intro before
    have only : table.total
          (fun other => if keyOf other = key then before other else 0) =
        ((table.find? key).map
          (fun other => if keyOf other = key then before other else 0)).getD
            0 := by
      apply total_of_key
      intro other _ differs
      simp [differs]
    rw [stored] at only
    simp only [Option.map_some, Option.getD_some, key_of_find? stored,
      ↓reduceIte] at only
    rw [← only, ← total_add]
    apply total_congr
    intro other _
    split <;> simp
  rw [modify, total_updateWhere, at_key, at_key weight]
  simp only [key_of_find? stored, decide_true, ↓reduceIte]
  have same :
      table.total (fun other => if keyOf other = key then 0 else
          weight (if decide (keyOf other = key) = true then change other
            else other)) =
        table.total (fun other => if keyOf other = key then 0 else
          weight other) := by
    apply total_congr
    intro other _
    by_cases isKey : keyOf other = key <;> simp [isKey]
  omega

end KeyedTotals

theorem total_insertNext
    {keyOf : Row → Nat}
    (table : Table Row keyOf)
    {make : Nat → Row}
    (numbered : keyOf (make table.nextId) = table.nextId)
    (weight : Row → Nat) :
    (table.insertNext make).total weight =
      table.total weight + weight (make table.nextId) := by
  apply total_insertOrIgnore
  rw [numbered]
  exact table.find?_nextId

end Table

end VendingSystem
