import VendingSystem.Machine
import VendingSystem.SqlAnalysis

namespace VendingSystem.Sql

/-!
# Migrations that can be interrupted

Each statement is durable by itself; a transaction takes effect as a whole.
The process may die between any two of them.  When the states in which it may
die are all states from which `explore` succeeds, every run ends as intended.
-/

section Migrator

variable (Name Index Column Fn Value : Type)

/-- One durable step; a transaction re-creates indexes and writes a version. -/
inductive Action where
  | statement (statement : Statement Name Index Column Fn Value)
  | transaction
      (statements : List (Statement Name Index Column Fn Value))
      (restored : List Name)
      (omitted : Column)
      (version : Nat)
  | writeVersion (version : Nat)

/-- What a migration does may depend on the columns of one table. -/
structure Migration where
  due : Nat → Bool
  reads : Option Name
  actions :
    Option (List Column) →
      Option (List (Action Name Index Column Fn Value))

inductive Phase where
  | down
  | running
      (current : List (Action Name Index Column Fn Value))
      (todo : List (Migration Name Index Column Fn Value))
  | finished
  | refused

structure MigratorState where
  db : Database Name Index Column Value
  version : Nat
  phase : Phase Name Index Column Fn Value

inductive MigratorEvent where
  | start
  | step
  | die
  deriving Repr, DecidableEq

end Migrator

section Execution

variable {Name Index Column Fn Value : Type}
variable [DecidableEq Name] [DecidableEq Index] [DecidableEq Column]
variable [DecidableEq Value] [Inhabited Value]
variable [Enumerated Name] [Enumerated Index]

/-- Statements that re-create, in the order of their names, some indexes. -/
def restoredIndexes
    (indexesOf : Name → List (Index × List Column))
    (restored : List Name)
    (omitted : Column) : List (Statement Name Index Column Fn Value) :=
  Enumerated.all.flatMap fun index =>
    restored.flatMap fun name =>
      ((indexesOf name).filter fun entry =>
        entry.1 = index ∧ omitted ∉ entry.2).map fun entry =>
          .createIndex entry.1 name entry.2

def tableIndexes
    (db : Database Name Index Column Value)
    (name : Name) : List (Index × List Column) :=
  ((db name).map fun table => table.shape.indexes).getD []

/-- The columns of a table, as a migration reads them. -/
def tableColumns
    (db : Database Name Index Column Value)
    (name : Option Name) : Option (List Column) :=
  name.bind fun name => (db name).map fun table => table.shape.columns

/-- Carry out one durable step on the database and the version. -/
def act
    (meaning : Interpretation Column Fn Value)
    (db : Database Name Index Column Value)
    (version : Nat) :
    Action Name Index Column Fn Value →
      Except (SqlError Name) (Database Name Index Column Value × Nat)
  | .statement statement =>
    (execute meaning db statement).map fun after => (after, version)
  | .transaction statements restored omitted written =>
    ((statements ++
        restoredIndexes (tableIndexes db) restored omitted).foldlM
      (execute meaning) db).map fun after => (after, written)
  | .writeVersion written => .ok (db, written)

def runActions
    (meaning : Interpretation Column Fn Value)
    (db : Database Name Index Column Value)
    (version : Nat) :
    List (Action Name Index Column Fn Value) →
      Option (Database Name Index Column Value × Nat)
  | [] => some (db, version)
  | action :: rest =>
    match act meaning db version action with
    | .ok next => runActions meaning next.1 next.2 rest
    | .error _ => none

/-- A migration that nothing interrupts. -/
def runMigration
    (meaning : Interpretation Column Fn Value)
    (db : Database Name Index Column Value)
    (version : Nat)
    (migration : Migration Name Index Column Fn Value) :
    Option (Database Name Index Column Value × Nat) :=
  (migration.actions (tableColumns db migration.reads)).bind
    (runActions meaning db version)

/-- The migrations that are due at a version. -/
def dueAt
    (migrations : List (Migration Name Index Column Fn Value))
    (version : Nat) : List (Migration Name Index Column Fn Value) :=
  migrations.filter fun migration => migration.due version

/-- One step of a migrator, or the death of its process. -/
def migratorStep
    (meaning : Interpretation Column Fn Value)
    (migrations : List (Migration Name Index Column Fn Value))
    (state : MigratorState Name Index Column Fn Value) :
    MigratorEvent → Option (MigratorState Name Index Column Fn Value)
  | .start =>
    match state.phase with
    | .down =>
      some
        { state with
          phase := .running [] (dueAt migrations state.version) }
    | _ => none
  | .die =>
    match state.phase with
    | .running _ _ => some { state with phase := .down }
    | _ => none
  | .step =>
    match state.phase with
    | .running (action :: rest) todo =>
      match act meaning state.db state.version action with
      | .ok (db, version) =>
        some { db, version, phase := .running rest todo }
      | .error _ => some { state with phase := .refused }
    | .running [] (migration :: rest) =>
      match migration.actions
          (tableColumns state.db migration.reads) with
      | some actions => some { state with phase := .running actions rest }
      | none => some { state with phase := .refused }
    | .running [] [] => some { state with phase := .finished }
    | _ => none

def migrator
    (meaning : Interpretation Column Fn Value)
    (migrations : List (Migration Name Index Column Fn Value)) :
    Machine (MigratorState Name Index Column Fn Value) MigratorEvent where
  step := migratorStep meaning migrations

end Execution

section Exploration

variable {Name Index Column Fn Value : Type}

/--
When the process may die: the state that each table must be in at a version,
and the tables that matter only while another table allows it.
-/
structure DeathRule (Name Column : Type) where
  survives : Nat → Name → Option (List Column) → Bool
  gates : List (Name × Name)

/-- A persisted version with what is known of the database then. -/
abbrev Point (Name Index Column Fn : Type) : Type :=
  Nat × Knowledge Name Index Column Fn

/-- A point on the way, with the tables that changed on the step to it. -/
abbrev Passed (Name Index Column Fn : Type) : Type :=
  Point Name Index Column Fn × List Name

/-- What an exploration found: where it passed and where it ended. -/
abbrev Findings (Name Index Column Fn : Type) : Type :=
  List (Passed Name Index Column Fn) × Point Name Index Column Fn

/-- The columns that a state of a table has. -/
def columnsOf
    (state : Option (Known Name Index Column Fn)) : Option (List Column) :=
  state.map fun known => known.shape.columns

def indexesOf
    (state : Option (Known Name Index Column Fn)) :
    List (Index × List Column) :=
  (state.map fun known => known.shape.indexes).getD []

/-- The tables that a statement may change. -/
def Statement.touched :
    Statement Name Index Column Fn Value → List Name
  | .pragma => []
  | .createTable _ name _ _ => [name]
  | .createIndex _ name _ => [name]
  | .renameTable source target => [source, target]
  | .dropTable name => [name]
  | .addColumn name _ _ => [name]
  | .insertSelect _ target _ _ _ => [target]

variable [DecidableEq Name] [Keyed Name] [DecidableEq Index]
variable [DecidableEq Column] [DecidableEq Fn]

/-- The indexes of a table when all its possible states have the same. -/
def knownIndexes
    (knowledge : Knowledge Name Index Column Fn)
    (name : Name) : List (Index × List Column) :=
  ((knowledge.of name).head?.map indexesOf).getD []

def indexesKnown
    (knowledge : Knowledge Name Index Column Fn)
    (name : Name) : Bool :=
  (knowledge.of name).all fun state =>
    decide (indexesOf state = knownIndexes knowledge name)

/-- What is known in the first state is enough for the second. -/
def weaker
    (state weak : Option (Known Name Index Column Fn)) : Bool :=
  match state, weak with
  | none, none => true
  | some known, some less =>
    decide (known.shape = less.shape) &&
      (!less.isEmpty || known.isEmpty) &&
      less.holds.all fun held =>
        known.holds.any fun more =>
          decide (more.1 = held.1) &&
            (held.2.isSublist more.2 ||
              held.2.all fun entry => decide (entry ∈ more.2))
  | _, _ => false

/-- Advance through statements that are carried out together. -/
def advanceAll
    (knowledge : Knowledge Name Index Column Fn) :
    List (Statement Name Index Column Fn Value) →
      Option (Knowledge Name Index Column Fn)
  | [] => some knowledge
  | statement :: rest =>
    match advance knowledge statement with
    | some next => advanceAll next rest
    | none => none

/-- The cases of what a migration reads. -/
def branches
    (point : Point Name Index Column Fn) :
    Option Name →
      List (Option (List Column) × Point Name Index Column Fn)
  | none => [(none, point)]
  | some name =>
    ((point.2.of name).map columnsOf).dedup.map fun columns =>
      (columns, point.1, point.2.set name
        ((point.2.of name).filter fun state =>
          decide (columnsOf state = columns)))

/-- One point for several that differ in some tables only. -/
def join
    (touched : List Name) :
    List (Point Name Index Column Fn) →
      Option (Findings Name Index Column Fn)
  | [] => none
  | [point] => some ([], point)
  | first :: others =>
    let joined := (first.1, touched.foldl
      (fun knowledge name =>
        knowledge.set name
          ((first :: others).flatMap fun point => point.2.of name).dedup)
      first.2)
    if others.all fun other => decide (other.1 = first.1) then
      some ([(joined, touched)], joined)
    else none

variable [Enumerated Name] [Enumerated Index]

/-- The tables to look at after an action; a new version concerns them all. -/
def Action.touched
    (version : Nat) :
    Action Name Index Column Fn Value → List Name
  | .statement executed => executed.touched
  | .transaction _ _ _ _ => Enumerated.all
  | .writeVersion written =>
    if written = version then [] else Enumerated.all

def covers
    (knowledge weak : Knowledge Name Index Column Fn) : Bool :=
  Enumerated.all.all fun name =>
    (knowledge.of name).all fun state => (weak.of name).any (weaker state)

def advanceAction
    (point : Point Name Index Column Fn) :
    Action Name Index Column Fn Value → Option (Point Name Index Column Fn)
  | .statement statement =>
    (advance point.2 statement).map fun next => (point.1, next)
  | .transaction statements restored omitted written =>
    if restored.all (indexesKnown point.2) then
      (advanceAll point.2 (statements ++
        restoredIndexes (knownIndexes point.2) restored omitted)).map
          fun next => (written, next)
    else none
  | .writeVersion written => some (written, point.2)

/-- The points after each action, and the last of them. -/
def exploreActions
    (point : Point Name Index Column Fn) :
    List (Action Name Index Column Fn Value) →
      Option (Findings Name Index Column Fn)
  | [] => some ([], point)
  | action :: rest =>
    match advanceAction point action with
    | none => none
    | some next =>
      match exploreActions next rest with
      | none => none
      | some found =>
        some ((next, action.touched point.1) :: found.1, found.2)

/-- Explore what a migration does in one of its cases. -/
def exploreBranch
    (migration : Migration Name Index Column Fn Value)
    (branch : Option (List Column) × Point Name Index Column Fn) :
    Option (Findings Name Index Column Fn) :=
  match migration.actions branch.1 with
  | none => none
  | some actions =>
    match exploreActions branch.2 actions with
    | none => none
    | some found =>
      some ((branch.2, migration.reads.toList) :: found.1, found.2)

def exploreMigration
    (point : Point Name Index Column Fn)
    (migration : Migration Name Index Column Fn Value) :
    Option (Findings Name Index Column Fn) :=
  match changeAll (exploreBranch migration)
      (branches point migration.reads) with
  | none => none
  | some found =>
    let passed := found.flatMap Prod.fst
    match join (passed.flatMap Prod.snd).dedup (found.map Prod.snd) with
    | none => none
    | some last => some (passed ++ last.1, last.2)

def exploreMigrations
    (point : Point Name Index Column Fn) :
    List (Migration Name Index Column Fn Value) →
      Option (Findings Name Index Column Fn)
  | [] => some ([], point)
  | migration :: rest =>
    match exploreMigration point migration with
    | none => none
    | some found =>
      match exploreMigrations found.2 rest with
      | none => none
      | some later => some (found.1 ++ later.1, later.2)

namespace DeathRule

/-- The states of a table in which the process may die. -/
def surviving
    (rule : DeathRule Name Column)
    (point : Point Name Index Column Fn)
    (name : Name) : List (Option (Known Name Index Column Fn)) :=
  (point.2.of name).filter fun state =>
    rule.survives point.1 name (columnsOf state)

/-- The tables to look at after some tables changed. -/
def affected
    (rule : DeathRule Name Column)
    (touched : List Name) : List Name :=
  touched ++
    (rule.gates.filter fun gate => decide (gate.1 ∈ touched)).map Prod.snd

/-- Some table on which this one depends does not let the process die. -/
def gated
    (rule : DeathRule Name Column)
    (point : Point Name Index Column Fn)
    (name : Name) : Bool :=
  rule.gates.any fun gate =>
    decide (gate.2 = name) && (rule.surviving point gate.1).isEmpty

/-- If the process dies, the table is in a state that can be recovered. -/
def recoverableAt
    (rule : DeathRule Name Column)
    (recovery : List (Point Name Index Column Fn))
    (point : Point Name Index Column Fn)
    (name : Name) : Bool :=
  rule.gated point name ||
    match recovery.lookup point.1 with
    | none => false
    | some known =>
      (rule.surviving point name).all fun state =>
        (known.of name).any (weaker state)

/-- Every run from a recoverable point passes such points to one version. -/
def closedUnder
    (rule : DeathRule Name Column)
    (migrations : List (Migration Name Index Column Fn Value))
    (version : Nat)
    (recovery : List (Point Name Index Column Fn)) : Bool :=
  recovery.all fun point =>
    match exploreMigrations point (dueAt migrations point.1) with
    | none => false
    | some found =>
      (found.1.all fun passed =>
        (rule.affected passed.2).all
          (rule.recoverableAt recovery passed.1)) &&
        decide (found.2.1 = version)

/-- Add the states of one table at a point to what is known of its version. -/
def widenAt
    (rule : DeathRule Name Column)
    (point : Point Name Index Column Fn)
    (recovery : List (Point Name Index Column Fn))
    (name : Name) : List (Point Name Index Column Fn) :=
  if rule.gated point name then recovery
  else
    let known := (recovery.lookup point.1).getD .leaf
    let states := (known.find (Keyed.key name)).getD []
    let more := (rule.surviving point name).filter fun state =>
      !states.any (weaker state)
    if more.isEmpty then recovery
    else
      (point.1, known.set name (states ++ more)) ::
        recovery.filter fun other => decide (other.1 ≠ point.1)

/-- Add the points at which runs from the known points may die. -/
def widen
    (rule : DeathRule Name Column)
    (migrations : List (Migration Name Index Column Fn Value))
    (recovery : List (Point Name Index Column Fn)) :
    List (Point Name Index Column Fn) :=
  (recovery.flatMap fun point =>
    match exploreMigrations point (dueAt migrations point.1) with
    | none => []
    | some found => found.1).foldl
    (fun recovery passed =>
      (rule.affected passed.2).foldl (rule.widenAt passed.1) recovery)
    recovery

end DeathRule

end Exploration

end VendingSystem.Sql
