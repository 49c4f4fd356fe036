import VendingSystem.DaemonMigrationChecks

namespace VendingSystem.Daemon

open VendingSystem.Sql

/-!
# Runs of the migrations

As long as the process dies only where the migrations can be run again, no
statement fails, and the last version is reached with every row.
-/

variable {inputs : MigrationInputs} {version : Nat}
  {start db : MigrationDatabase} {state : MigrationState}

theorem builtAt_of_builtPoint
    (inputs : MigrationInputs)
    (start : MigrationDatabase)
    {point : MigrationPoint}
    (known : builtPoint version = some point) :
    ∃ built, builtAt inputs version = some (built, point.1) ∧
      Models (meaningOf inputs) start point.2 built := by
  induction version generalizing point with
  | zero =>
    cases known
    exact ⟨fun _ => none, rfl, fun table => ⟨none, by
      simp [Knowledge.of], trivial⟩⟩
  | succ version inductionHypothesis =>
    obtain ⟨before, knownBefore, later⟩ := Option.bind_eq_some_iff.mp known
    obtain ⟨upgrade, listed, mapped⟩ := Option.bind_eq_some_iff.mp later
    obtain ⟨found, explored, rfl⟩ := Option.map_eq_some_iff.mp mapped
    obtain ⟨built, builtBefore, models⟩ := inductionHypothesis knownBefore
    obtain ⟨after, run, afterModels⟩ :=
      runMigration_sound (meaningOf_idempotent inputs) models explored
    exact ⟨after, by simp [builtAt, builtBefore, listed, run], afterModels⟩

/-- A database with the schema of a version and without rows. -/
def builtDatabase
    (inputs : MigrationInputs)
    (version : Nat) : MigrationDatabase :=
  ((builtAt inputs version).map Prod.fst).getD fun _ => none

theorem hasSchema_builtDatabase
    (inputs : MigrationInputs)
    (version : Nat) :
    HasSchema inputs version (builtDatabase inputs version) := by
  intro table
  unfold schemaAt builtDatabase
  cases builtAt inputs version with
  | none => rfl
  | some built => rfl

theorem exists_state_of_schemaKnown
    (inputs : MigrationInputs)
    (known : schemaKnown version = true)
    (table : MigrationTable) :
    ∃ state, (builtKnowledge version).of table = [state] ∧
      schemaAt inputs version table = state.map Known.shape := by
  obtain ⟨found, single⟩ := Bool.and_eq_true_iff.mp known
  obtain ⟨point, pointFound⟩ := Option.isSome_iff_exists.mp found
  have length := List.all_eq_true.mp single table (Enumerated.mem_all table)
  obtain ⟨state, states⟩ := List.length_eq_one_iff.mp (beq_iff_eq.mp length)
  obtain ⟨built, builtFound, models⟩ :=
    builtAt_of_builtPoint inputs (fun _ => none) pointFound
  refine ⟨state, states, ?_⟩
  have sameKnowledge : builtKnowledge version = point.2 := by
    simp [builtKnowledge, pointFound]
  obtain ⟨other, member, fits⟩ := models table
  rw [← sameKnowledge, states, List.mem_singleton] at member
  subst member
  simp only [schemaAt, builtFound, Option.bind_some]
  cases other with
  | none => simp [fits.none_of_isNone rfl]
  | some known =>
    obtain ⟨_, stored, same, present, fitsKnown⟩ :=
      fits.exists_of_isSome rfl
    cases same
    simp [present, fitsKnown.shape]

/-- A database with a schema fits it when it holds the rows asked for. -/
theorem models_holding
    (known : schemaKnown version = true)
    {carried :
      MigrationTable →
        Shape MigrationIndex MigrationColumn →
          Option (List (Carried MigrationColumn MigrationFunction))}
    (schema : HasSchema inputs version db)
    (holds : ∀ table stored columns, db table = some stored →
      carried table stored.shape = some columns →
        HoldsRows (meaningOf inputs) start stored.rows (table, columns)) :
    Models (meaningOf inputs) start (holding version carried) db := by
  intro table
  obtain ⟨state, states, shape⟩ :=
    exists_state_of_schemaKnown inputs known table
  have sameShape := (schema table).trans shape
  unfold holding
  rw [of_foldl_set, if_pos (Enumerated.mem_all table), states]
  refine ⟨_, List.mem_singleton.mpr rfl, ?_⟩
  cases present : db table with
  | none =>
    rw [present] at sameShape
    cases state with
    | none => trivial
    | some known => cases sameShape
  | some stored =>
    rw [present] at sameShape
    cases state with
    | none => cases sameShape
    | some known =>
      have shapes : stored.shape = known.shape :=
        Option.some.inj sameShape
      exact
        { shape := shapes
          isEmpty := fun isEmpty => (by cases isEmpty)
          holds := fun held member => by
            rw [Option.mem_toList, Option.map_eq_some_iff] at member
            obtain ⟨columns, asked, rfl⟩ := member
            exact holds table stored columns present (shapes ▸ asked) }

theorem models_startKnowledge
    (known : schemaKnown version = true)
    (schema : HasSchema inputs version start) :
    Models (meaningOf inputs) start (startKnowledge version) start := by
  refine models_holding known schema fun table stored columns present asked => ?_
  obtain ⟨-, made⟩ := Option.ite_none_right_eq_some.mp asked
  cases made
  intro original found row member
  rw [present, Option.some.injEq] at found
  subst found
  refine ⟨row, member, fun entry entryMember => ?_⟩
  obtain ⟨column, -, rfl⟩ := List.mem_map.mp entryMember
  rfl

theorem builtColumns_of_hasSchema
    (known : schemaKnown version = true)
    (schema : HasSchema inputs version db)
    {table : MigrationTable}
    {stored : StoredTable MigrationIndex MigrationColumn Cell}
    (present : db table = some stored) :
    builtColumns version table = some stored.shape.columns := by
  obtain ⟨state, states, shape⟩ :=
    exists_state_of_schemaKnown inputs known table
  have sameShape := (schema table).trans shape
  rw [present] at sameShape
  cases state with
  | none => cases sameShape
  | some known =>
    have shapes : stored.shape = known.shape := Option.some.inj sameShape
    simp [builtColumns, states, columnsOf, shapes]

theorem hasSchema_of_models_holding
    (known : schemaKnown version = true)
    {carried :
      MigrationTable →
        Shape MigrationIndex MigrationColumn →
          Option (List (Carried MigrationColumn MigrationFunction))}
    (models :
      Models (meaningOf inputs) start (holding version carried) db) :
    HasSchema inputs version db := by
  intro table
  obtain ⟨state, states, shape⟩ :=
    exists_state_of_schemaKnown inputs known table
  obtain ⟨found, member, fits⟩ := models table
  unfold holding at member
  rw [of_foldl_set, if_pos (Enumerated.mem_all table), states,
    List.map_singleton, List.mem_singleton] at member
  subst member
  rw [shape]
  cases state with
  | none => simp [FitsState.none_of_isNone fits rfl]
  | some known =>
    obtain ⟨_, stored, same, present, fitsKnown⟩ :=
      FitsState.exists_of_isSome fits rfl
    cases same
    simp [present, fitsKnown.shape]

theorem holdsRows_of_models_holding
    (known : schemaKnown version = true)
    {carried :
      MigrationTable →
        Shape MigrationIndex MigrationColumn →
          Option (List (Carried MigrationColumn MigrationFunction))}
    (models :
      Models (meaningOf inputs) start (holding version carried) db)
    {table : MigrationTable}
    (present : (builtColumns version table).isSome = true) :
    ∃ stored, db table = some stored ∧
      ∀ columns, carried table stored.shape = some columns →
        HoldsRows (meaningOf inputs) start stored.rows (table, columns) := by
  obtain ⟨state, states, -⟩ := exists_state_of_schemaKnown inputs known table
  obtain ⟨found, member, fits⟩ := models table
  unfold holding at member
  rw [of_foldl_set, if_pos (Enumerated.mem_all table), states,
    List.map_singleton, List.mem_singleton] at member
  subst member
  cases state with
  | none => simp [builtColumns, states, columnsOf] at present
  | some known =>
    obtain ⟨_, stored, same, stays, fitsKnown⟩ :=
      FitsState.exists_of_isSome fits rfl
    cases same
    refine ⟨stored, stays, fun columns asked => ?_⟩
    refine fitsKnown.holds _ (Option.mem_toList.mpr
      (Option.map_eq_some_iff.mpr ⟨columns, ?_, rfl⟩))
    rw [← asked, fitsKnown.shape]

theorem applied_rewrittenBelowV3
    (inputs : MigrationInputs)
    (version : Nat)
    (table : MigrationTable)
    (column : MigrationColumn)
    (value : Cell) :
    applied (meaningOf inputs) (rewrittenBelowV3 version table column)
        value =
      migratedValue version table column value := by
  unfold rewrittenBelowV3 migratedValue
  split <;> rfl

theorem rowsPreserved_of_models
    (known : schemaKnown version = true)
    (schema : HasSchema inputs version start)
    (knownLast : schemaKnown 21 = true)
    (lastPresent :
      ∀ table ∈ preservedTables, (builtColumns 21 table).isSome = true)
    (models :
      Models (meaningOf inputs) start (targetKnowledge version) db) :
    RowsPreserved version start db := by
  intro table preserved original present
  obtain ⟨stored, stays, holds⟩ :=
    holdsRows_of_models_holding knownLast models (lastPresent table preserved)
  refine ⟨stored, stays, fun row member => ?_⟩
  obtain ⟨kept, keptMember, carries⟩ := holds _ (by
    rw [if_pos preserved, builtColumns_of_hasSchema known schema present]
    rfl) original present row member
  refine ⟨kept, keptMember, fun column columnMember lasting => ?_⟩
  have carried := carries
    (column, rewrittenBelowV3 version table column, currentColumn column)
    (List.mem_map.mpr ⟨column, List.mem_filter.mpr
      ⟨columnMember, decide_eq_true lasting⟩, rfl⟩)
  rw [carried, applied_rewrittenBelowV3]

theorem survivesDeath_of_twenty
    (late : 20 ≤ version)
    (table : MigrationTable)
    (columns : Option (List MigrationColumn)) :
    survivesDeath version table columns = true := by
  simp [survivesDeath, late]

instance : Nonempty MigrationTable := ⟨.runtimeMetadata⟩

/--
From a database of any released version, a run that dies only where the
migrations can be run again meets no failing statement, and it can always be
brought to the last version with every row.
-/
theorem migrations_restartable_of_survivable_deaths
    (inputs : MigrationInputs)
    {version : Nat}
    (released : version ≤ 21)
    {start : MigrationDatabase}
    (schema : HasSchema inputs version start)
    {events : List MigratorEvent}
    {state : MigrationState}
    (survivable :
      (migrationRunner inputs).RunMeets DiesSurvivably
        (unopened start version) events)
    (run :
      (migrationRunner inputs).run (unopened start version) events =
        some state) :
    state.phase ≠ .refused ∧ Restartable inputs version start state := by
  have succeeds := explorationSucceeds_of_released released
  unfold explorationSucceeds at succeeds
  simp only [Bool.and_eq_true] at succeeds
  obtain ⟨⟨⟨⟨⟨known, knownLast⟩, lastPresent⟩, distinct⟩, closed⟩, covered⟩ :=
    succeeds
  split at covered
  · rename_i first last foundFirst foundLast
    obtain ⟨startCovered, targetCovered⟩ := Bool.and_eq_true_iff.mp covered
    have listed : ∀ point ∈ recoveryOf version,
        migrationDeathRule.Recoverable (recoveryOf version) point :=
      fun point member =>
        DeathRule.recoverable_of_mem (of_decide_eq_true distinct) member
    have idempotent := meaningOf_idempotent inputs
    have recovered : Recovered (meaningOf inputs) start (recoveryOf version)
        start version :=
      ⟨first, foundFirst,
        (models_startKnowledge known schema).covered startCovered⟩
    have initial : SafeState (meaningOf inputs) start migrationDeathRule
        (recoveryOf version) 21 (unopened start version) := recovered
    have safe : SafeState (meaningOf inputs) start migrationDeathRule
        (recoveryOf version) 21 state :=
      Machine.run_keeps_of_meets
        (fun holds meets step =>
          SafeState.step idempotent closed listed holds meets step)
        initial survivable run
    refine ⟨fun refused => ?_, ?_⟩
    · unfold SafeState at safe
      rw [refused] at safe
      exact safe
    · obtain ⟨more, final, alive, continued, phase, atVersion, knowledge,
        models, recoverable⟩ := safe.finishes idempotent closed listed
      obtain ⟨reached, foundReached, reachedModels⟩ :=
        recoverable.models models fun table =>
          survivesDeath_of_twenty (Nat.le_add_left 20 1) table
            (tableColumns final.db (some table))
      rw [foundLast, Option.some.injEq] at foundReached
      subst foundReached
      have target := reachedModels.covered targetCovered
      exact ⟨more, final, alive, continued, phase, atVersion,
        hasSchema_of_models_holding knownLast target,
        rowsPreserved_of_models known schema knownLast
          (List.all_eq_true.mp lastPresent) target⟩
  · cases covered

/-- A store without stored tasks, whose texts change no JSON. -/
def plainInputs : MigrationInputs where
  withSlotSalesState document _ := document
  taskIdentity _ _ _ _ _ := .null
  currentTask _ := none
  now := .null

/-- A start, some steps, and the death of the process. -/
def interruptedAfter (steps : Nat) : List MigratorEvent :=
  .start :: List.replicate steps .step ++ [.die]

/-- The process dies while V9 copies the stock movements. -/
theorem migrations_restartable_of_survivable_deaths_in_v9 :
    ∃ state,
      (migrationRunner plainInputs).run
          (unopened (builtDatabase plainInputs 7) 7)
          (interruptedAfter 21) = some state ∧
        state.phase ≠ .refused ∧
        Restartable plainInputs 7 (builtDatabase plainInputs 7) state := by
  have runs : ((migrationRunner plainInputs).run
      (unopened (builtDatabase plainInputs 7) 7)
      (interruptedAfter 21)).isSome = true := by
    decide +kernel
  have survivable : (migrationRunner plainInputs).RunMeets DiesSurvivably
      (unopened (builtDatabase plainInputs 7) 7) (interruptedAfter 21) := by
    decide +kernel
  obtain ⟨state, run⟩ := Option.isSome_iff_exists.mp runs
  exact ⟨state, run, migrations_restartable_of_survivable_deaths plainInputs
    (by decide) (hasSchema_builtDatabase plainInputs 7) survivable run⟩

def isRefused (state : MigrationState) : Bool :=
  match state.phase with
  | .refused => true
  | _ => false

theorem phase_of_isRefused
    (refused : isRefused state = true) :
    state.phase = .refused := by
  unfold isRefused at refused
  split at refused
  · assumption
  · cases refused

theorem not_restartable_of_refused
    (refused : state.phase = .refused) :
    ¬ Restartable inputs version start state := by
  rintro ⟨events, last, -, run, finished, -⟩
  cases events with
  | nil =>
    cases run
    rw [refused] at finished
    cases finished
  | cons event rest =>
    obtain ⟨next, step, -⟩ := Machine.run_cons_iff.mp run
    obtain ⟨db, persisted, phase⟩ := state
    dsimp only at refused
    subst refused
    cases event <;> cases step

/--
From version 6, the process dies after the first added column of V7; the next
run adds the column again and is refused.
-/
theorem migrations_not_restartable_in_v7 :
    ∃ state,
      HasSchema plainInputs 6 (builtDatabase plainInputs 6) ∧
        (migrationRunner plainInputs).run
            (unopened (builtDatabase plainInputs 6) 6)
            (interruptedAfter 16 ++ .start :: List.replicate 16 .step) =
          some state ∧
        state.phase = .refused ∧
        ¬ Restartable plainInputs 6 (builtDatabase plainInputs 6) state := by
  have refused : ((migrationRunner plainInputs).run
      (unopened (builtDatabase plainInputs 6) 6)
      (interruptedAfter 16 ++ .start :: List.replicate 16 .step)).any
        isRefused = true := by
    decide +kernel
  obtain ⟨state, run, isRefused⟩ := (Option.any_eq_true _ _).mp refused
  have phase := phase_of_isRefused isRefused
  exact ⟨state, hasSchema_builtDatabase plainInputs 6, run, phase,
    not_restartable_of_refused phase⟩

end VendingSystem.Daemon
