import Mathlib.Data.List.Dedup
import VendingSystem.Sql
import VendingSystem.Trie

namespace VendingSystem.Sql

/-!
# Analysis of migration statements

What can be known of a database without its rows.  `advance` carries this
knowledge through a statement and fails when the statement could fail.
-/

section Analysis

variable {Name Index Column Fn Value : Type}
variable [DecidableEq Name] [Keyed Name] [DecidableEq Index]
variable [DecidableEq Column] [DecidableEq Fn]

/-- An original column, what was done to its value, and where it is now. -/
abbrev Carried (Column Fn : Type) : Type :=
  Column × Option Fn × Column

/-- What is known of an existing table. -/
structure Known (Name Index Column Fn : Type) where
  shape : Shape Index Column
  isEmpty : Bool
  holds : List (Name × List (Carried Column Fn))
  deriving Repr

instance : DecidableEq (Known Name Index Column Fn) :=
  fun first second =>
    decidable_of_iff
      (first.shape = second.shape ∧
        first.isEmpty = second.isEmpty ∧
        first.holds = second.holds)
      (by cases first; cases second; simp)

/-- The possible states of each table; a table without an entry is absent. -/
abbrev Knowledge (Name Index Column Fn : Type) : Type :=
  Trie (List (Option (Known Name Index Column Fn)))

namespace Knowledge

def of
    (knowledge : Knowledge Name Index Column Fn)
    (name : Name) : List (Option (Known Name Index Column Fn)) :=
  (knowledge.find (Keyed.key name)).getD [none]

def set
    (knowledge : Knowledge Name Index Column Fn)
    (name : Name)
    (states : List (Option (Known Name Index Column Fn))) :
    Knowledge Name Index Column Fn :=
  knowledge.put (Keyed.key name) states

end Knowledge

/-- Follow one carried column through one selected expression. -/
def carry
    (carried : Carried Column Fn)
    (selected : Column × Expr Column Fn) :
    Option (Carried Column Fn) :=
  match selected.2 with
  | .column source =>
    if source = carried.2.2 then
      some (carried.1, carried.2.1, selected.1)
    else none
  | .rewritten function source =>
    if source = carried.2.2 ∧
        (carried.2.1 = none ∨ carried.2.1 = some function) then
      some (carried.1, some function, selected.1)
    else none
  | .computed _ _ => none

/-- Follow carried columns through a selection in the same order. -/
def carryAll :
    List (Carried Column Fn) →
      List (Column × Expr Column Fn) → List (Carried Column Fn)
  | _, [] => []
  | carried, entry :: rest =>
    match carried.dropWhile fun column => (carry column entry).isNone with
    | [] => carryAll carried rest
    | column :: others =>
      (carry column entry).toList ++ carryAll others rest

/-- Follow the held rows through a selection. -/
def carryHeld
    (selection : Selection Column Fn)
    (holds : List (Name × List (Carried Column Fn))) :
    List (Name × List (Carried Column Fn)) :=
  holds.map fun held => (held.1, carryAll held.2 selection.entries)

/-- The column that a selection copies into a column. -/
def copiedColumn
    (selection : Selection Column Fn)
    (column : Column) : Option Column :=
  match selection.entries.lookup column with
  | some (.column source) => some source
  | _ => none

/-- The selection copies the key of the source into the key of the target. -/
def copiesKey
    (selection : Selection Column Fn)
    (target source : Shape Index Column) : Bool :=
  target.primaryKey.map (copiedColumn selection) =
    source.primaryKey.map some

/-- The columns exist; lists in the order of the table are found faster. -/
def offers (shape : Shape Index Column) (columns : List Column) : Bool :=
  columns.isSublist shape.columns || shape.hasColumns columns

/-- The selection and its target name columns that exist. -/
def canSelect
    (selection : Selection Column Fn)
    (target source : Shape Index Column) : Bool :=
  offers target (selection.entries.map Prod.fst) &&
    offers source (selection.entries.flatMap fun entry => entry.2.reads)

def createdState
    (ifNotExists : Bool)
    (columns primaryKey : List Column) :
    Option (Known Name Index Column Fn) →
      Option (Option (Known Name Index Column Fn))
  | none =>
    some (some
      { shape := { columns, primaryKey, indexes := [] }
        isEmpty := true
        holds := [] })
  | some known => if ifNotExists then some (some known) else none

def indexedState
    (index : Index)
    (columns : List Column) :
    Option (Known Name Index Column Fn) →
      Option (Option (Known Name Index Column Fn))
  | none => none
  | some known =>
    if known.shape.hasIndex index then some (some known)
    else if known.shape.hasColumns columns then
      some (some { known with shape := known.shape.addIndex index columns })
    else none

def widenedState
    (column : Column) :
    Option (Known Name Index Column Fn) →
      Option (Option (Known Name Index Column Fn))
  | none => none
  | some known =>
    if column ∈ known.shape.columns ∨ column ∈ known.shape.primaryKey then
      none
    else
      some (some
        { known with
          shape := known.shape.addColumn column
          holds := known.holds.map fun held =>
            (held.1, held.2.filter fun carried => carried.2.2 ≠ column) })

/-- The target of a copy, when the copy cannot fail. -/
def filledState
    (conflict : Conflict)
    (selection : Selection Column Fn)
    (filtered : Bool)
    (target source : Option (Known Name Index Column Fn)) :
    Option (Option (Known Name Index Column Fn)) :=
  match target, source with
  | some into, some table =>
    let copied :=
      if filtered then [] else carryHeld selection table.holds
    if canSelect selection into.shape table.shape then
      match conflict with
      | .ignore => some (some { into with isEmpty := false })
      | .replace =>
        if copiesKey selection into.shape table.shape then
          some (some { into with isEmpty := false, holds := copied })
        else none
      | .abort =>
        if copiesKey selection into.shape table.shape &&
            into.isEmpty then
          some (some { into with isEmpty := false, holds := copied })
        else none
    else none
  | _, _ => none

def lacksIndex
    (index : Index)
    (state : Option (Known Name Index Column Fn)) : Bool :=
  !state.any fun known => known.shape.hasIndex index

/-- The states of no table but one have the index. -/
def indexOnlyOn
    (knowledge : Knowledge Name Index Column Fn)
    (index : Index)
    (table : Name) : Bool :=
  (knowledge.set table [none]).all fun states =>
    states.all (lacksIndex index)

/-- Change every state, when every state can be changed. -/
def changeAll
    {Before After : Type}
    (change : Before → Option After) : List Before → Option (List After)
  | [] => some []
  | state :: rest =>
    match change state, changeAll change rest with
    | some next, some others => some (next :: others)
    | _, _ => none

/-- What is known after a statement that cannot fail. -/
def advance
    (knowledge : Knowledge Name Index Column Fn) :
    Statement Name Index Column Fn Value →
      Option (Knowledge Name Index Column Fn)
  | .pragma => some knowledge
  | .createTable ifNotExists name columns primaryKey =>
    (changeAll (createdState ifNotExists columns primaryKey)
      (knowledge.of name)).map (knowledge.set name)
  | .createIndex index name columns =>
    if indexOnlyOn knowledge index name then
      (changeAll (indexedState index columns) (knowledge.of name)).map
        (knowledge.set name)
    else none
  | .renameTable source target =>
    if (knowledge.of source).all Option.isSome &&
        (knowledge.of target).all Option.isNone &&
        decide (source ≠ target) then
      some ((knowledge.set source [none]).set target (knowledge.of source))
    else none
  | .dropTable name =>
    if (knowledge.of name).all Option.isSome then
      some (knowledge.set name [none])
    else none
  | .addColumn name column _ =>
    (changeAll (widenedState column) (knowledge.of name)).map
      (knowledge.set name)
  | .insertSelect conflict target selection source filter =>
    (changeAll
      (fun states : Option (Known Name Index Column Fn) ×
          Option (Known Name Index Column Fn) =>
        filledState conflict selection filter.isSome states.1 states.2)
      ((knowledge.of target).flatMap fun into =>
        (knowledge.of source).map fun table => (into, table))).map
      fun states => knowledge.set target states.dedup

end Analysis

section Soundness

variable {Name Index Column Fn Value After Before : Type} {conflict : Conflict}

/-- A value after what was done to it. -/
def applied
    (meaning : Interpretation Column Fn Value) : Option Fn → Value → Value
  | none, value => value
  | some function, value => meaning.rewrite function value

/-- A row has the carried columns of another row. -/
def Carries
    (meaning : Interpretation Column Fn Value)
    (carried : List (Carried Column Fn))
    (row kept : Column → Value) : Prop :=
  ∀ entry ∈ carried,
    kept entry.2.2 = applied meaning entry.2.1 (row entry.1)

/-- Rows carry every row of one table of the starting database. -/
def HoldsRows
    (meaning : Interpretation Column Fn Value)
    (start : Database Name Index Column Value)
    (rows : List (Column → Value))
    (held : Name × List (Carried Column Fn)) : Prop :=
  ∀ original, start held.1 = some original →
    ∀ row ∈ original.rows, ∃ kept ∈ rows, Carries meaning held.2 row kept

structure Fits
    (meaning : Interpretation Column Fn Value)
    (start : Database Name Index Column Value)
    (known : Known Name Index Column Fn)
    (table : StoredTable Index Column Value) : Prop where
  shape : table.shape = known.shape
  isEmpty : known.isEmpty = true → table.rows = []
  holds : ∀ held ∈ known.holds, HoldsRows meaning start table.rows held

def FitsState
    (meaning : Interpretation Column Fn Value)
    (start : Database Name Index Column Value) :
    Option (Known Name Index Column Fn) →
      Option (StoredTable Index Column Value) → Prop
  | none, none => True
  | some known, some table => Fits meaning start known table
  | _, _ => False

variable {meaning : Interpretation Column Fn Value}
variable {start db : Database Name Index Column Value}
variable {knowledge next : Knowledge Name Index Column Fn}

variable {state : Option (Known Name Index Column Fn)}
  {table : Option (StoredTable Index Column Value)}

theorem FitsState.exists_of_isSome
    (fits : FitsState meaning start state table)
    (present : state.isSome = true) :
    ∃ known stored, state = some known ∧ table = some stored ∧
      Fits meaning start known stored := by
  cases state with
  | none => cases present
  | some known =>
    cases table with
    | none => cases fits
    | some stored => exact ⟨known, stored, rfl, rfl, fits⟩

theorem FitsState.none_of_isNone
    (fits : FitsState meaning start state table)
    (absent : state.isNone = true) :
    table = none := by
  cases state with
  | some known => cases absent
  | none =>
    cases table with
    | none => rfl
    | some stored => cases fits

variable {rows : List (Column → Value)}

variable {held : Name × List (Carried Column Fn)}

theorem HoldsRows.mono
    {more : List (Column → Value)}
    (holds : HoldsRows meaning start rows held)
    (grows : ∀ row ∈ rows, row ∈ more) :
    HoldsRows meaning start more held := by
  intro original found row member
  obtain ⟨kept, keptMember, carries⟩ := holds original found row member
  exact ⟨kept, grows kept keptMember, carries⟩

theorem HoldsRows.update_column
    [DecidableEq Column]
    (holds : HoldsRows meaning start rows held)
    (column : Column)
    (initial : Value) :
    HoldsRows meaning start
      (rows.map fun row => Function.update row column initial)
      (held.1, held.2.filter fun carried => carried.2.2 ≠ column) := by
  intro original found row member
  obtain ⟨kept, keptMember, carries⟩ := holds original found row member
  refine ⟨_, List.mem_map.mpr ⟨kept, keptMember, rfl⟩, ?_⟩
  intro entry entryMember
  obtain ⟨wasCarried, other⟩ := List.mem_filter.mp entryMember
  rw [Function.update_of_ne (of_decide_eq_true other)]
  exact carries entry wasCarried

variable [DecidableEq Name] [Keyed Name]

/-- Each table is in one of the states that are known possible. -/
def Models
    (meaning : Interpretation Column Fn Value)
    (start : Database Name Index Column Value)
    (knowledge : Knowledge Name Index Column Fn)
    (db : Database Name Index Column Value) : Prop :=
  ∀ name, ∃ state ∈ knowledge.of name,
    FitsState meaning start state (db name)

/-- Doing a rewrite twice is doing it once. -/
def Interpretation.Idempotent
    (meaning : Interpretation Column Fn Value) : Prop :=
  ∀ function value,
    meaning.rewrite function (meaning.rewrite function value) =
      meaning.rewrite function value

theorem lookup_of_mem
    {Key Entry : Type}
    [DecidableEq Key]
    {entries : List (Key × Entry)}
    (distinct : (entries.map Prod.fst).Nodup)
    {entry : Key × Entry}
    (member : entry ∈ entries) :
    entries.lookup entry.1 = some entry.2 := by
  induction entries with
  | nil => cases member
  | cons first rest inductionHypothesis =>
    obtain ⟨key, value⟩ := first
    obtain ⟨fresh, restDistinct⟩ := List.nodup_cons.mp distinct
    rcases List.mem_cons.mp member with rfl | later
    · simp
    · have differs : (entry.1 == key) = false := by
        rw [beq_eq_false_iff_ne]
        intro same
        exact fresh (same ▸ List.mem_map.mpr ⟨entry, later, rfl⟩)
      rw [List.lookup_cons, differs]
      exact inductionHypothesis restDistinct later

theorem Knowledge.of_set
    (states : List (Option (Known Name Index Column Fn)))
    (name other : Name) :
    (knowledge.set name states).of other =
      if other = name then states else knowledge.of other := by
  by_cases same : other = name
  · simp [Knowledge.of, Knowledge.set, Trie.find_put, same]
  · have unequal : Keyed.key other ≠ Keyed.key name :=
      fun keys => same (Keyed.key_injective keys)
    simp [Knowledge.of, Knowledge.set, Trie.find_put, unequal, same]

variable {name : Name}

variable {states : List (Option (Known Name Index Column Fn))}

theorem Models.update
    (models : Models meaning start knowledge db)
    (member : state ∈ states)
    (fits : FitsState meaning start state table) :
    Models meaning start (knowledge.set name states)
      (Function.update db name table) := by
  intro other
  rw [Knowledge.of_set]
  by_cases same : other = name
  · subst same
    exact ⟨state, by simpa using member, by simpa using fits⟩
  · rw [Function.update_of_ne same]
    simpa [same] using models other

theorem Models.retain
    (models : Models meaning start knowledge db)
    (member : state ∈ states)
    (fits : FitsState meaning start state (db name)) :
    Models meaning start (knowledge.set name states) db := by
  have updated :
      Models meaning start (knowledge.set name states)
        (Function.update db name (db name)) :=
    models.update member fits
  rwa [Function.update_eq_self] at updated

theorem mem_of_changeAll
    {change : Before → Option After}
    {states : List Before}
    {changed : List After}
    (mapped : changeAll change states = some changed)
    {state : Before}
    (member : state ∈ states) :
    ∃ next ∈ changed, change state = some next := by
  induction states generalizing changed with
  | nil => cases member
  | cons first rest inductionHypothesis =>
    unfold changeAll at mapped
    split at mapped
    · rename_i image images firstChanged restChanged
      cases mapped
      rcases List.mem_cons.mp member with rfl | later
      · exact ⟨image, List.mem_cons_self, firstChanged⟩
      · obtain ⟨next, nextMember, nextChanged⟩ :=
          inductionHypothesis restChanged later
        exact ⟨next, List.mem_cons_of_mem _ nextMember, nextChanged⟩
    · cases mapped

theorem exists_of_mem_changed
    {change : Before → Option After}
    {states : List Before}
    {changed : List After}
    (mapped : changeAll change states = some changed)
    {next : After}
    (member : next ∈ changed) :
    ∃ state ∈ states, change state = some next := by
  induction states generalizing changed with
  | nil =>
    cases mapped
    cases member
  | cons first rest inductionHypothesis =>
    unfold changeAll at mapped
    split at mapped
    · rename_i image images firstChanged restChanged
      cases mapped
      rcases List.mem_cons.mp member with rfl | later
      · exact ⟨first, List.mem_cons_self, firstChanged⟩
      · obtain ⟨state, stateMember, stateChanged⟩ :=
          inductionHypothesis restChanged later
        exact ⟨state, List.mem_cons_of_mem _ stateMember, stateChanged⟩
    · cases mapped

variable [DecidableEq Index] [DecidableEq Column] [DecidableEq Fn]
variable [DecidableEq Value] [Inhabited Value] [Enumerated Name]

variable {columns : List Column}

theorem createTable_sound
    (models : Models meaning start knowledge db)
    {ifNotExists : Bool}
    {primaryKey : List Column}
    (advanced :
      advance knowledge
          (.createTable ifNotExists name columns primaryKey :
            Statement Name Index Column Fn Value) =
        some next) :
    ∃ after,
      execute meaning db (.createTable ifNotExists name columns primaryKey) =
          .ok after ∧
        Models meaning start next after := by
  obtain ⟨states, mapped, rfl⟩ := Option.map_eq_some_iff.mp advanced
  obtain ⟨state, member, fits⟩ := models name
  obtain ⟨changed, changedMember, created⟩ := mem_of_changeAll mapped member
  cases state with
  | none =>
    have absent := fits.none_of_isNone rfl
    cases created
    refine ⟨Function.update db name (some (.empty columns primaryKey)),
      by simp [execute, absent], models.update changedMember ?_⟩
    exact
      { shape := rfl
        isEmpty := fun _ => rfl
        holds := fun held heldMember => (by cases heldMember) }
  | some known =>
    obtain ⟨_, stored, -, present, -⟩ := fits.exists_of_isSome rfl
    cases ifNotExists with
    | false => cases created
    | true =>
      cases created
      exact ⟨db, by simp [execute, present],
        models.retain changedMember fits⟩

variable {index : Index}

omit [DecidableEq Name] [DecidableEq Column] [DecidableEq Fn]
  [DecidableEq Value] [Inhabited Value] [Enumerated Name] in
theorem lacksIndex_of_indexOnlyOn
    {other : Name}
    (only : indexOnlyOn knowledge index name = true)
    (differs : other ≠ name) :
    (knowledge.of other).all (lacksIndex index) = true := by
  have unequal : Keyed.key other ≠ Keyed.key name :=
    fun keys => differs (Keyed.key_injective keys)
  cases found : knowledge.find (Keyed.key other) with
  | none => simp [Knowledge.of, found, lacksIndex]
  | some states =>
    have stored : (knowledge.set name [none]).find (Keyed.key other) =
        some states := by
      simp [Knowledge.set, Trie.find_put, unequal, found]
    simpa [Knowledge.of, found] using Trie.all_find only stored

omit [DecidableEq Column] [DecidableEq Fn] [DecidableEq Value]
  [Inhabited Value] in
theorem hasIndex_eq_of_indexOnlyOn
    (models : Models meaning start knowledge db)
    (only : indexOnlyOn knowledge index name = true)
    {table : StoredTable Index Column Value}
    (present : db name = some table) :
    hasIndex db index = table.shape.hasIndex index := by
  rw [Bool.eq_iff_iff]
  constructor
  · intro found
    obtain ⟨other, -, holder⟩ := List.any_eq_true.mp found
    obtain ⟨stored, otherPresent, has⟩ := (Option.any_eq_true _ _).mp holder
    by_cases same : other = name
    · rw [same, present] at otherPresent
      cases otherPresent
      exact has
    · obtain ⟨state, member, fits⟩ := models other
      have lacks := List.all_eq_true.mp
        (lacksIndex_of_indexOnlyOn only same) state member
      rw [otherPresent] at fits
      cases state with
      | none => cases fits
      | some known =>
        have shapes : stored.shape = known.shape := fits.shape
        rw [shapes] at has
        simp [lacksIndex, has] at lacks
  · intro has
    exact List.any_eq_true.mpr ⟨name, Enumerated.mem_all name, by
      simp [present, has]⟩

theorem createIndex_sound
    (models : Models meaning start knowledge db)
    (advanced :
      advance knowledge
          (.createIndex index name columns :
            Statement Name Index Column Fn Value) =
        some next) :
    ∃ after,
      execute meaning db (.createIndex index name columns) = .ok after ∧
        Models meaning start next after := by
  obtain ⟨only, mappedStates⟩ := Option.ite_none_right_eq_some.mp advanced
  obtain ⟨states, mapped, rfl⟩ := Option.map_eq_some_iff.mp mappedStates
  obtain ⟨state, member, fits⟩ := models name
  obtain ⟨changed, changedMember, indexed⟩ := mem_of_changeAll mapped member
  cases state with
  | none => cases indexed
  | some known =>
    obtain ⟨_, stored, same, present, fitsStored⟩ :=
      fits.exists_of_isSome rfl
    cases same
    have exists_iff := hasIndex_eq_of_indexOnlyOn models only present
    rw [fitsStored.shape] at exists_iff
    cases has : known.shape.hasIndex index with
    | true =>
      simp only [indexedState, has, if_true, Option.some.injEq] at indexed
      subst indexed
      refine ⟨db, ?_, models.retain changedMember fits⟩
      simp [execute, present, exists_iff, has]
    | false =>
      simp only [indexedState, has, Bool.false_eq_true, if_false,
        Option.ite_none_right_eq_some, Option.some.injEq] at indexed
      obtain ⟨hasColumns, rfl⟩ := indexed
      refine ⟨Function.update db name
        (some (stored.reshape (stored.shape.addIndex index columns) rfl)),
        ?_, models.update changedMember ?_⟩
      · simp [execute, present, exists_iff, has, fitsStored.shape,
          hasColumns]
      · exact
          { shape := by
              change stored.shape.addIndex index columns = _
              rw [fitsStored.shape]
            isEmpty := fitsStored.isEmpty
            holds := fitsStored.holds }

variable {source target : Name}

theorem renameTable_sound
    (models : Models meaning start knowledge db)
    (advanced :
      advance knowledge
          (.renameTable source target :
            Statement Name Index Column Fn Value) =
        some next) :
    ∃ after,
      execute meaning db (.renameTable source target) = .ok after ∧
        Models meaning start next after := by
  obtain ⟨allowed, moved⟩ := Option.ite_none_right_eq_some.mp advanced
  cases moved
  simp only [Bool.and_eq_true, decide_eq_true_eq] at allowed
  obtain ⟨⟨allPresent, allAbsent⟩, differs⟩ := allowed
  obtain ⟨state, member, fits⟩ := models source
  obtain ⟨known, stored, rfl, present, -⟩ :=
    fits.exists_of_isSome (List.all_eq_true.mp allPresent state member)
  obtain ⟨targetState, targetMember, targetFits⟩ := models target
  have absent := targetFits.none_of_isNone
    (List.all_eq_true.mp allAbsent targetState targetMember)
  have emptied : Models meaning start (knowledge.set source [none])
      (Function.update db source none) :=
    models.update (List.mem_singleton.mpr rfl) trivial
  refine ⟨Function.update (Function.update db source none) target
    (some stored), by simp [execute, present, absent], ?_⟩
  rw [present] at fits
  exact emptied.update member fits

theorem dropTable_sound
    (models : Models meaning start knowledge db)
    (advanced :
      advance knowledge
          (.dropTable name : Statement Name Index Column Fn Value) =
        some next) :
    ∃ after,
      execute meaning db (.dropTable name) = .ok after ∧
        Models meaning start next after := by
  obtain ⟨allPresent, dropped⟩ := Option.ite_none_right_eq_some.mp advanced
  cases dropped
  obtain ⟨state, member, fits⟩ := models name
  obtain ⟨_, stored, -, present, -⟩ :=
    fits.exists_of_isSome (List.all_eq_true.mp allPresent state member)
  exact ⟨Function.update db name none, by simp [execute, present],
    models.update (List.mem_singleton.mpr rfl) trivial⟩

theorem addColumn_sound
    (models : Models meaning start knowledge db)
    {column : Column}
    {initial : Value}
    (advanced :
      advance knowledge
          (.addColumn name column initial :
            Statement Name Index Column Fn Value) =
        some next) :
    ∃ after,
      execute meaning db (.addColumn name column initial) = .ok after ∧
        Models meaning start next after := by
  obtain ⟨states, mapped, rfl⟩ := Option.map_eq_some_iff.mp advanced
  obtain ⟨state, member, fits⟩ := models name
  obtain ⟨changed, changedMember, widened⟩ := mem_of_changeAll mapped member
  cases state with
  | none => cases widened
  | some known =>
    obtain ⟨_, stored, same, present, fitsStored⟩ :=
      fits.exists_of_isSome rfl
    cases same
    obtain ⟨fresh, made⟩ := Option.ite_none_left_eq_some.mp widened
    cases made
    rw [← fitsStored.shape] at fresh
    refine ⟨Function.update db name
      (some (stored.addColumn column initial fun member =>
        fresh (Or.inr member))), by simp [execute, present, fresh],
      models.update changedMember ?_⟩
    exact
      { shape := by
          change stored.shape.addColumn column = _
          rw [fitsStored.shape]
        isEmpty := fun isEmpty => by
          change List.map _ stored.rows = []
          rw [fitsStored.isEmpty isEmpty, List.map_nil]
        holds := fun held heldMember => by
          obtain ⟨before, beforeMember, rfl⟩ := List.mem_map.mp heldMember
          exact (fitsStored.holds before beforeMember).update_column column
            initial }

variable {selection : Selection Column Fn}

variable {targetKey : List Column}

omit [DecidableEq Name] [DecidableEq Index] [DecidableEq Fn]
  [DecidableEq Value] [Enumerated Name] in
theorem rowKey_selectRow
    {sourceKey : List Column}
    (copies :
      targetKey.map (copiedColumn selection) = sourceKey.map some)
    (row : Column → Value) :
    rowKey targetKey (selectRow meaning selection row) =
      rowKey sourceKey row := by
  induction targetKey generalizing sourceKey with
  | nil =>
    cases sourceKey with
    | nil => rfl
    | cons source rest => cases copies
  | cons target rest inductionHypothesis =>
    cases sourceKey with
    | nil => cases copies
    | cons source others =>
      simp only [List.map_cons, List.cons.injEq] at copies
      obtain ⟨copied, later⟩ := copies
      have value : selectRow meaning selection row target = row source := by
        unfold copiedColumn at copied
        split at copied
        · rename_i found
          cases copied
          simp [selectRow, found, Expr.eval]
        · cases copied
      exact List.cons_eq_cons.mpr ⟨value, inductionHypothesis later⟩

variable {carried : List (Carried Column Fn)}

omit [DecidableEq Name] [DecidableEq Index] [DecidableEq Value]
  [Inhabited Value] [Enumerated Name] in
theorem mem_of_carryAll
    {entries : List (Column × Expr Column Fn)}
    {moved : Carried Column Fn}
    (member : moved ∈ carryAll carried entries) :
    ∃ column ∈ carried, ∃ entry ∈ entries, carry column entry = some moved := by
  induction entries generalizing carried with
  | nil => cases member
  | cons entry rest inductionHypothesis =>
    have suffix := List.dropWhile_suffix (l := carried)
      fun column => (carry column entry).isNone
    unfold carryAll at member
    split at member
    · obtain ⟨column, before, other, later, carriedOn⟩ :=
        inductionHypothesis member
      exact ⟨column, before, other, List.mem_cons_of_mem _ later, carriedOn⟩
    · rename_i column others remaining
      rw [remaining] at suffix
      rcases List.mem_append.mp member with here | there
      · exact ⟨column, suffix.subset List.mem_cons_self, entry,
          List.mem_cons_self, Option.mem_toList.mp here⟩
      · obtain ⟨column, before, other, later, carriedOn⟩ :=
          inductionHypothesis there
        exact ⟨column, suffix.subset (List.mem_cons_of_mem _ before), other,
          List.mem_cons_of_mem _ later, carriedOn⟩

omit [DecidableEq Name] [DecidableEq Index] [DecidableEq Fn]
  [DecidableEq Value] [Inhabited Value] [Enumerated Name] in
theorem hasColumns_of_offers
    {shape : Shape Index Column}
    (offered : offers shape columns = true) :
    shape.hasColumns columns = true := by
  rcases Bool.or_eq_true _ _ ▸ offered with ordered | listed
  · have sublist := List.isSublist_iff_sublist.mp ordered
    exact List.all_eq_true.mpr fun column member =>
      decide_eq_true (sublist.subset member)
  · exact listed

omit [DecidableEq Name] [DecidableEq Index] [DecidableEq Fn]
  [DecidableEq Value] [Inhabited Value] [Enumerated Name] in
theorem selectable_of_canSelect
    {target source : Shape Index Column}
    (can : canSelect selection target source = true) :
    selectable selection target source = true := by
  obtain ⟨names, reads⟩ := Bool.and_eq_true_iff.mp can
  exact Bool.and_eq_true_iff.mpr
    ⟨hasColumns_of_offers names, hasColumns_of_offers reads⟩

omit [DecidableEq Name] [DecidableEq Index] [DecidableEq Value]
  [Enumerated Name] in
theorem Carries.select
    (idempotent : meaning.Idempotent)
    {row kept : Column → Value}
    (carries : Carries meaning carried row kept) :
    Carries meaning
      (carryAll carried selection.entries)
      row (selectRow meaning selection kept) := by
  intro entry member
  obtain ⟨before, beforeMember, choice, choiceMember, carriedOn⟩ :=
    mem_of_carryAll member
  have found := lookup_of_mem selection.distinct choiceMember
  have was := carries before beforeMember
  obtain ⟨target, expr⟩ := choice
  cases expr with
  | column source =>
    obtain ⟨same, made⟩ := Option.ite_none_right_eq_some.mp carriedOn
    cases made
    subst same
    simpa [selectRow, found, Expr.eval] using was
  | rewritten function source =>
    obtain ⟨⟨same, earlier⟩, made⟩ :=
      Option.ite_none_right_eq_some.mp carriedOn
    cases made
    subst same
    rcases earlier with unchanged | rewritten
    · rw [unchanged] at was
      simp [selectRow, found, Expr.eval, was, applied]
    · rw [rewritten] at was
      simp [selectRow, found, Expr.eval, was, applied, idempotent _ _]
  | computed function reads => cases carriedOn

omit [DecidableEq Name] [DecidableEq Index] [DecidableEq Column]
  [DecidableEq Fn] [DecidableEq Value] [Inhabited Value]
  [Enumerated Name] in
theorem filteredRows_sublist
    (filter : Option Fn)
    (rows : List (Column → Value)) :
    (filteredRows meaning filter rows).Sublist rows := by
  cases filter with
  | none => exact List.Sublist.refl rows
  | some function => exact List.filter_sublist

variable {filter : Option Fn}

omit [DecidableEq Name] [DecidableEq Index] [DecidableEq Fn]
  [DecidableEq Value] [Enumerated Name] in
theorem selectedRows_keysDistinct
    (table : StoredTable Index Column Value)
    (copies :
      targetKey.map (copiedColumn selection) =
        table.shape.primaryKey.map some) :
    (((filteredRows meaning filter table.rows).map
      (selectRow meaning selection)).map (rowKey targetKey)).Nodup := by
  have keys : ((filteredRows meaning filter table.rows).map
      (selectRow meaning selection)).map (rowKey targetKey) =
      (filteredRows meaning filter table.rows).map
        (rowKey table.shape.primaryKey) := by
    rw [List.map_map]
    exact List.map_congr_left fun row _ => rowKey_selectRow copies row
  rw [keys]
  exact table.keysDistinct.sublist ((filteredRows_sublist filter _).map _)

omit [DecidableEq Name] [Keyed Name] [DecidableEq Index]
  [DecidableEq Value] [Enumerated Name] in
theorem HoldsRows.copied
    (idempotent : meaning.Idempotent)
    {table : StoredTable Index Column Value}
    (all : ∀ row ∈ table.rows.map (selectRow meaning selection), row ∈ rows)
    {holds : List (Name × List (Carried Column Fn))}
    (holdsSource :
      ∀ held ∈ holds, HoldsRows meaning start table.rows held)
    {held : Name × List (Carried Column Fn)}
    (member : held ∈ carryHeld selection holds) :
    HoldsRows meaning start rows held := by
  obtain ⟨before, beforeMember, rfl⟩ := List.mem_map.mp member
  intro original found row rowMember
  obtain ⟨kept, keptMember, carries⟩ :=
    holdsSource before beforeMember original found row rowMember
  exact ⟨_, all _ (List.mem_map.mpr ⟨kept, keptMember, rfl⟩),
    carries.select idempotent⟩

variable {into : Known Name Index Column Fn}

omit [DecidableEq Name] [Keyed Name] [DecidableEq Index]
  [Enumerated Name] in
/-- A copy that replaces rows ends with everything that it copied. -/
theorem replaced_sound
    (idempotent : meaning.Idempotent)
    (filter : Option Fn)
    {table : Known Name Index Column Fn}
    {target source : StoredTable Index Column Value}
    (fitsTarget : Fits meaning start into target)
    (fitsSource : Fits meaning start table source)
    (copies : copiesKey selection into.shape table.shape = true) :
    ∃ after,
      target.insertRows .replace
          ((filteredRows meaning filter source.rows).map
            (selectRow meaning selection)) = some after ∧
        Fits meaning start
          { into with
            isEmpty := false
            holds :=
              if filter.isSome then []
              else carryHeld selection table.holds }
          after := by
  have sameKeys := of_decide_eq_true copies
  rw [← fitsTarget.shape, ← fitsSource.shape] at sameKeys
  have distinct :
      (((filteredRows meaning filter source.rows).map
        (selectRow meaning selection)).map
          (rowKey target.shape.primaryKey)).Nodup :=
    selectedRows_keysDistinct source sameKeys
  obtain ⟨after, inserted, all, -⟩ :=
    StoredTable.insertRows_replace distinct
  refine ⟨after, inserted,
    { shape := (StoredTable.insertRows_shape inserted).trans fitsTarget.shape
      isEmpty := fun isEmpty => (by cases isEmpty)
      holds := fun held member => ?_ }⟩
  cases filter with
  | some function => cases member
  | none =>
    exact HoldsRows.copied idempotent all fitsSource.holds member

omit [DecidableEq Name] [Keyed Name] [DecidableEq Index]
  [Enumerated Name] in
/-- A copy that the analysis accepts is carried out. -/
theorem filledState_sound
    (idempotent : meaning.Idempotent)
    {table : Known Name Index Column Fn}
    {filled : Option (Known Name Index Column Fn)}
    (accepted :
      filledState conflict selection filter.isSome (some into)
        (some table) = some filled)
    {target source : StoredTable Index Column Value}
    (fitsTarget : Fits meaning start into target)
    (fitsSource : Fits meaning start table source) :
    selectable selection target.shape source.shape = true ∧
      ∃ after,
        target.insertRows conflict
            ((filteredRows meaning filter source.rows).map
              (selectRow meaning selection)) = some after ∧
          FitsState meaning start filled (some after) := by
  obtain ⟨can, byConflict⟩ := Option.ite_none_right_eq_some.mp accepted
  rw [fitsTarget.shape, fitsSource.shape]
  refine ⟨selectable_of_canSelect can, ?_⟩
  cases conflict with
  | ignore =>
    cases byConflict
    obtain ⟨after, inserted, kept⟩ :=
      target.insertRows_ignore ((filteredRows meaning filter source.rows).map
        (selectRow meaning selection))
    exact ⟨after, inserted,
      { shape := (StoredTable.insertRows_shape inserted).trans
          fitsTarget.shape
        isEmpty := fun isEmpty => (by cases isEmpty)
        holds := fun held member =>
          (fitsTarget.holds held member).mono kept }⟩
  | replace =>
    obtain ⟨copies, made⟩ := Option.ite_none_right_eq_some.mp byConflict
    cases made
    exact replaced_sound idempotent filter fitsTarget fitsSource copies
  | abort =>
    obtain ⟨allowed, made⟩ := Option.ite_none_right_eq_some.mp byConflict
    obtain ⟨copies, isEmpty⟩ := Bool.and_eq_true_iff.mp allowed
    cases made
    obtain ⟨after, inserted, fits⟩ :=
      replaced_sound idempotent filter fitsTarget fitsSource copies
    refine ⟨after, ?_, fits⟩
    have sameKeys := of_decide_eq_true copies
    rw [← fitsTarget.shape, ← fitsSource.shape] at sameKeys
    rw [StoredTable.insertRows_abort
      (selectedRows_keysDistinct source sameKeys)
      (fun row _ => by simp [StoredTable.holdsKey,
        fitsTarget.isEmpty isEmpty])]
    exact inserted

theorem insertSelect_sound
    (idempotent : meaning.Idempotent)
    (models : Models meaning start knowledge db)
    (advanced :
      advance knowledge
          (.insertSelect conflict target selection source filter :
            Statement Name Index Column Fn Value) =
        some next) :
    ∃ after,
      execute meaning db
          (.insertSelect conflict target selection source filter) =
          .ok after ∧
        Models meaning start next after := by
  obtain ⟨states, mapped, rfl⟩ := Option.map_eq_some_iff.mp advanced
  obtain ⟨intoState, intoMember, intoFits⟩ := models target
  obtain ⟨tableState, tableMember, tableFits⟩ := models source
  have pairMember : (intoState, tableState) ∈
      (knowledge.of target).flatMap fun into =>
        (knowledge.of source).map fun table => (into, table) :=
    List.mem_flatMap.mpr ⟨intoState, intoMember,
      List.mem_map.mpr ⟨tableState, tableMember, rfl⟩⟩
  obtain ⟨filled, filledMember, accepted⟩ := mem_of_changeAll mapped pairMember
  cases intoState with
  | none => cases accepted
  | some into =>
    cases tableState with
    | none => cases accepted
    | some table =>
      obtain ⟨_, storedInto, same, presentInto, fitsInto⟩ :=
        intoFits.exists_of_isSome rfl
      cases same
      obtain ⟨_, storedTable, same, presentTable, fitsTable⟩ :=
        tableFits.exists_of_isSome rfl
      cases same
      obtain ⟨canSelect, after, inserted, fits⟩ :=
        filledState_sound idempotent accepted fitsInto fitsTable
      refine ⟨Function.update db target (some after), ?_,
        models.update (List.mem_dedup.mpr filledMember) fits⟩
      simp [execute, presentInto, presentTable, canSelect, inserted]

/-- A statement that the analysis accepts succeeds as it says. -/
theorem advance_sound
    (idempotent : meaning.Idempotent)
    (models : Models meaning start knowledge db)
    {statement : Statement Name Index Column Fn Value}
    (advanced : advance knowledge statement = some next) :
    ∃ after, execute meaning db statement = .ok after ∧
      Models meaning start next after := by
  cases statement with
  | pragma =>
    cases advanced
    exact ⟨db, rfl, models⟩
  | createTable ifNotExists name columns primaryKey =>
    exact createTable_sound models advanced
  | createIndex index name columns => exact createIndex_sound models advanced
  | renameTable source target => exact renameTable_sound models advanced
  | dropTable name => exact dropTable_sound models advanced
  | addColumn name column initial => exact addColumn_sound models advanced
  | insertSelect conflict target selection source filter =>
    exact insertSelect_sound idempotent models advanced

end Soundness

end VendingSystem.Sql
