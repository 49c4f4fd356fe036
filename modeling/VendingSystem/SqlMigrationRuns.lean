import VendingSystem.SqlMigrations

namespace VendingSystem.Sql

/-!
# Runs of an interrupted migrator

What an exploration that is closed under death says of the machine: in every
run whose deaths its rule allows, no statement fails, and from every reached
state the migrator can be brought to its last version, where the database is
as the exploration says.
-/

section States

variable {Name Index Column Fn Value : Type}
variable {meaning : Interpretation Column Fn Value}
variable {start db : Database Name Index Column Value}

variable {name : Name} {state : Option (Known Name Index Column Fn)}

theorem columnsOf_of_fits
    (fits : FitsState meaning start state (db name)) :
    columnsOf state = tableColumns db (some name) := by
  cases state with
  | none => simp [columnsOf, tableColumns, fits.none_of_isNone rfl]
  | some known =>
    obtain ⟨_, stored, same, present, fitsKnown⟩ :=
      fits.exists_of_isSome rfl
    cases same
    simp [columnsOf, tableColumns, present, fitsKnown.shape]

theorem indexesOf_of_fits
    (fits : FitsState meaning start state (db name)) :
    indexesOf state = tableIndexes db name := by
  cases state with
  | none => simp [indexesOf, tableIndexes, fits.none_of_isNone rfl]
  | some known =>
    obtain ⟨_, stored, same, present, fitsKnown⟩ :=
      fits.exists_of_isSome rfl
    cases same
    simp [indexesOf, tableIndexes, present, fitsKnown.shape]

variable [DecidableEq Name] [DecidableEq Index] [DecidableEq Column]
variable [DecidableEq Fn]

theorem weaker_sound
    {weak : Option (Known Name Index Column Fn)}
    {table : Option (StoredTable Index Column Value)}
    (enough : weaker state weak = true)
    (fits : FitsState meaning start state table) :
    FitsState meaning start weak table := by
  cases state with
  | none =>
    cases weak with
    | none => exact fits
    | some less => cases enough
  | some known =>
    cases weak with
    | none => cases enough
    | some less =>
      obtain ⟨_, stored, same, rfl, fitsKnown⟩ :=
        fits.exists_of_isSome rfl
      cases same
      simp only [weaker, Bool.and_eq_true, decide_eq_true_eq] at enough
      obtain ⟨⟨shapes, empties⟩, allHeld⟩ := enough
      refine
        { shape := fitsKnown.shape.trans shapes
          isEmpty := fun isEmpty => fitsKnown.isEmpty (by
            simpa [isEmpty] using empties)
          holds := fun held member => ?_ }
      obtain ⟨more, moreMember, stronger⟩ :=
        List.any_eq_true.mp (List.all_eq_true.mp allHeld held member)
      obtain ⟨sameName, included⟩ := Bool.and_eq_true_iff.mp stronger
      have subset : ∀ entry ∈ held.2, entry ∈ more.2 := by
        rcases Bool.or_eq_true _ _ ▸ included with ordered | listed
        · exact (List.isSublist_iff_sublist.mp ordered).subset
        · intro entry entryMember
          exact of_decide_eq_true (List.all_eq_true.mp listed entry entryMember)
      intro original found row rowMember
      rw [← of_decide_eq_true sameName] at found
      obtain ⟨kept, keptMember, carries⟩ :=
        fitsKnown.holds more moreMember original found row rowMember
      exact ⟨kept, keptMember, fun entry entryMember =>
        carries entry (subset entry entryMember)⟩

theorem weaker_refl (state : Option (Known Name Index Column Fn)) :
    weaker state state = true := by
  cases state with
  | none => rfl
  | some known =>
    simp only [weaker, decide_true, Bool.not_or_self, Bool.and_true,
      Bool.true_and]
    refine List.all_eq_true.mpr fun held member =>
      List.any_eq_true.mpr ⟨held, member, ?_⟩
    simp [List.isSublist_iff_sublist]

variable [Keyed Name]

variable {knowledge : Knowledge Name Index Column Fn}

theorem Models.covered
    {weak : Knowledge Name Index Column Fn}
    [Enumerated Name]
    (models : Models meaning start knowledge db)
    (enough : covers knowledge weak = true) :
    Models meaning start weak db := by
  intro name
  obtain ⟨state, member, fits⟩ := models name
  obtain ⟨less, lessMember, less_of⟩ := List.any_eq_true.mp
    (List.all_eq_true.mp (List.all_eq_true.mp enough name
      (Enumerated.mem_all name)) state member)
  exact ⟨less, lessMember, weaker_sound less_of fits⟩

/-- A statement leaves the knowledge of the tables that it does not touch. -/
theorem of_advance_of_untouched
    {next : Knowledge Name Index Column Fn}
    {statement : Statement Name Index Column Fn Value}
    (advanced : advance knowledge statement = some next)
    (untouched : name ∉ statement.touched) :
    next.of name = knowledge.of name := by
  cases statement with
  | pragma =>
    cases advanced
    rfl
  | createTable ifNotExists table columns primaryKey =>
    obtain ⟨states, -, rfl⟩ := Option.map_eq_some_iff.mp advanced
    rw [Knowledge.of_set,
      if_neg (by simpa [Statement.touched] using untouched)]
  | createIndex index table columns =>
    obtain ⟨-, mapped⟩ := Option.ite_none_right_eq_some.mp advanced
    obtain ⟨states, -, rfl⟩ := Option.map_eq_some_iff.mp mapped
    rw [Knowledge.of_set,
      if_neg (by simpa [Statement.touched] using untouched)]
  | renameTable source target =>
    obtain ⟨-, moved⟩ := Option.ite_none_right_eq_some.mp advanced
    cases moved
    simp only [Statement.touched, List.mem_cons, List.not_mem_nil, or_false,
      not_or] at untouched
    rw [Knowledge.of_set, if_neg untouched.2, Knowledge.of_set,
      if_neg untouched.1]
  | dropTable table =>
    obtain ⟨-, dropped⟩ := Option.ite_none_right_eq_some.mp advanced
    cases dropped
    rw [Knowledge.of_set,
      if_neg (by simpa [Statement.touched] using untouched)]
  | addColumn table column initial =>
    obtain ⟨states, -, rfl⟩ := Option.map_eq_some_iff.mp advanced
    rw [Knowledge.of_set,
      if_neg (by simpa [Statement.touched] using untouched)]
  | insertSelect conflict target selection source filter =>
    obtain ⟨states, -, rfl⟩ := Option.map_eq_some_iff.mp advanced
    rw [Knowledge.of_set,
      if_neg (by simpa [Statement.touched] using untouched)]

end States

section Actions

variable {Name Index Column Fn Value : Type}
variable [DecidableEq Name] [Keyed Name] [DecidableEq Index]
variable [DecidableEq Column] [DecidableEq Fn]
variable [DecidableEq Value] [Inhabited Value]
variable [Enumerated Name] [Enumerated Index]
variable {meaning : Interpretation Column Fn Value}
variable {start db : Database Name Index Column Value}
variable {knowledge next : Knowledge Name Index Column Fn}

omit [Enumerated Index] in
theorem advanceAll_sound
    (idempotent : meaning.Idempotent)
    {statements : List (Statement Name Index Column Fn Value)}
    (models : Models meaning start knowledge db)
    (advanced : advanceAll knowledge statements = some next) :
    ∃ after, statements.foldlM (execute meaning) db = .ok after ∧
      Models meaning start next after := by
  induction statements generalizing knowledge db with
  | nil =>
    cases advanced
    exact ⟨db, rfl, models⟩
  | cons statement rest inductionHypothesis =>
    unfold advanceAll at advanced
    split at advanced
    · rename_i middle first
      obtain ⟨between, executed, middleModels⟩ :=
        advance_sound idempotent models first
      obtain ⟨after, later, nextModels⟩ :=
        inductionHypothesis middleModels advanced
      refine ⟨after, ?_, nextModels⟩
      simp only [List.foldlM_cons, executed]
      exact later
    · cases advanced

omit [DecidableEq Name] [DecidableEq Fn] [DecidableEq Value]
  [Inhabited Value] [Enumerated Name] in
theorem restoredIndexes_eq
    (models : Models meaning start knowledge db)
    {restored : List Name}
    (known : restored.all (indexesKnown knowledge) = true)
    (omitted : Column) :
    (restoredIndexes (tableIndexes db) restored omitted :
        List (Statement Name Index Column Fn Value)) =
      restoredIndexes (knownIndexes knowledge) restored omitted := by
  unfold restoredIndexes
  refine List.flatMap_congr fun index _ =>
    List.flatMap_congr fun name member => ?_
  obtain ⟨state, stateMember, fits⟩ := models name
  have same := of_decide_eq_true (List.all_eq_true.mp
    (List.all_eq_true.mp known name member) state stateMember)
  rw [← indexesOf_of_fits fits, same]

variable {point : Point Name Index Column Fn}

theorem act_sound
    (idempotent : meaning.Idempotent)
    {version : Nat}
    (models : Models meaning start knowledge db)
    {action : Action Name Index Column Fn Value}
    (advanced : advanceAction (version, knowledge) action = some point) :
    ∃ after, act meaning db version action = .ok (after, point.1) ∧
      Models meaning start point.2 after := by
  cases action with
  | statement statement =>
    obtain ⟨following, accepted, rfl⟩ := Option.map_eq_some_iff.mp advanced
    obtain ⟨after, executed, followingModels⟩ :=
      advance_sound idempotent models accepted
    exact ⟨after, by simp [act, executed, Except.map], followingModels⟩
  | transaction statements restored omitted written =>
    obtain ⟨known, mapped⟩ := Option.ite_none_right_eq_some.mp advanced
    obtain ⟨following, accepted, rfl⟩ := Option.map_eq_some_iff.mp mapped
    rw [← restoredIndexes_eq models known] at accepted
    obtain ⟨after, executed, followingModels⟩ :=
      advanceAll_sound idempotent models accepted
    exact ⟨after, by simp [act, executed, Except.map], followingModels⟩
  | writeVersion written =>
    cases advanced
    exact ⟨db, rfl, models⟩

omit [DecidableEq Value] [Inhabited Value] in
theorem of_advanceAction_of_untouched
    {after : Point Name Index Column Fn}
    {action : Action Name Index Column Fn Value}
    (advanced : advanceAction point action = some after)
    {name : Name}
    (untouched : name ∉ action.touched point.1) :
    after.1 = point.1 ∧ after.2.of name = point.2.of name := by
  cases action with
  | statement statement =>
    obtain ⟨following, accepted, rfl⟩ := Option.map_eq_some_iff.mp advanced
    exact ⟨rfl, of_advance_of_untouched accepted untouched⟩
  | transaction statements restored omitted written =>
    exact absurd (Enumerated.mem_all name) untouched
  | writeVersion written =>
    cases advanced
    by_cases same : written = point.1
    · exact ⟨same, rfl⟩
    · simp only [Action.touched, same, if_false] at untouched
      exact absurd (Enumerated.mem_all name) untouched

end Actions

section Recovery

variable {Name Index Column Fn Value : Type}
variable [DecidableEq Name] [Keyed Name] [DecidableEq Index]
variable [DecidableEq Column] [DecidableEq Fn] [Enumerated Name]
variable {meaning : Interpretation Column Fn Value}
variable {start db : Database Name Index Column Value}
variable {rule : DeathRule Name Column}
variable {recovery : List (Point Name Index Column Fn)}

namespace DeathRule

/-- Whatever the process leaves at the point is known to be recoverable. -/
def Recoverable
    (rule : DeathRule Name Column)
    (recovery : List (Point Name Index Column Fn))
    (point : Point Name Index Column Fn) : Prop :=
  ∀ name, rule.recoverableAt recovery point name = true

/-- The tables that changed on the way to a point were looked at there. -/
def LookedAt
    (rule : DeathRule Name Column)
    (recovery : List (Point Name Index Column Fn))
    (passed : List (Passed Name Index Column Fn)) : Prop :=
  ∀ step ∈ passed,
    (rule.affected step.2).all (rule.recoverableAt recovery step.1) = true

omit [Enumerated Name] in
theorem Recoverable.step
    {before after : Point Name Index Column Fn}
    (recoverable : rule.Recoverable recovery before)
    {touched : List Name}
    (same : ∀ name, name ∉ touched →
      after.1 = before.1 ∧ after.2.of name = before.2.of name)
    (looked : rule.LookedAt recovery [(after, touched)]) :
    rule.Recoverable recovery after := by
  intro name
  have checked := List.all_eq_true.mp (looked _ (List.mem_singleton.mpr rfl))
  by_cases concerned : name ∈ rule.affected touched
  · exact checked name concerned
  · simp only [affected, List.mem_append, List.mem_map, List.mem_filter,
      decide_eq_true_eq, not_or, not_exists, not_and] at concerned
    obtain ⟨untouched, ungated⟩ := concerned
    obtain ⟨version, states⟩ := same name untouched
    have survivors : ∀ other, other ∉ touched →
        rule.surviving after other = rule.surviving before other := by
      intro other otherUntouched
      simp only [surviving, version, (same other otherUntouched).2]
    have gates : rule.gated after name = rule.gated before name := by
      rw [gated, gated, Bool.eq_iff_iff, List.any_eq_true, List.any_eq_true]
      refine exists_congr fun gate => and_congr_right fun member => ?_
      by_cases guards : gate.2 = name
      · have outside : gate.1 ∉ touched :=
          fun inside => ungated gate ⟨member, inside⟩ guards
        rw [survivors gate.1 outside]
      · simp [guards]
    have earlier := recoverable name
    unfold recoverableAt at earlier ⊢
    rw [gates, survivors name untouched, version]
    exact earlier

variable {point : Point Name Index Column Fn}

omit [Enumerated Name] in
theorem recoverable_of_mem
    (distinct : (recovery.map Prod.fst).Nodup)
    (member : point ∈ recovery) :
    rule.Recoverable recovery point := by
  intro name
  have found := lookup_of_mem distinct member
  simp only [recoverableAt, found, Bool.or_eq_true]
  refine Or.inr (List.all_eq_true.mpr fun state survivor =>
    List.any_eq_true.mpr ⟨state, (List.mem_filter.mp survivor).1, ?_⟩)
  exact weaker_refl state

omit [Enumerated Name] in
/-- What the process leaves when it dies at a recoverable point. -/
theorem Recoverable.models
    [Nonempty Name]
    (recoverable : rule.Recoverable recovery point)
    (models : Models meaning start point.2 db)
    (survives : ∀ name,
      rule.survives point.1 name (tableColumns db (some name)) = true) :
    ∃ known, recovery.lookup point.1 = some known ∧
      Models meaning start known db := by
  have survivor : ∀ name, ∃ state ∈ rule.surviving point name,
      FitsState meaning start state (db name) := by
    intro name
    obtain ⟨state, member, fits⟩ := models name
    exact ⟨state, List.mem_filter.mpr ⟨member, by
      rw [columnsOf_of_fits fits]
      exact survives name⟩, fits⟩
  have atName : ∀ name, ∃ known, recovery.lookup point.1 = some known ∧
      ∃ state ∈ known.of name, FitsState meaning start state (db name) := by
    intro name
    obtain ⟨state, member, fits⟩ := survivor name
    have open_ : rule.gated point name = false := by
      rw [gated, List.any_eq_false]
      intro gate _
      obtain ⟨other, otherMember, _⟩ := survivor gate.1
      have nonempty : (rule.surviving point gate.1).isEmpty = false :=
        List.isEmpty_eq_false_iff.mpr (List.ne_nil_of_mem otherMember)
      simp [nonempty]
    have listed := recoverable name
    unfold recoverableAt at listed
    rw [open_, Bool.false_or] at listed
    split at listed
    · cases listed
    · rename_i known found
      obtain ⟨weak, weakMember, enough⟩ :=
        List.any_eq_true.mp (List.all_eq_true.mp listed state member)
      exact ⟨known, found, weak, weakMember, weaker_sound enough fits⟩
  obtain ⟨known, found, -⟩ := atName (Classical.arbitrary Name)
  refine ⟨known, found, fun name => ?_⟩
  obtain ⟨other, otherFound, state, member, fits⟩ := atName name
  rw [found, Option.some.injEq] at otherFound
  subst otherFound
  exact ⟨state, member, fits⟩

end DeathRule

end Recovery

section Explorations

variable {Name Index Column Fn Value : Type}
variable [DecidableEq Name] [Keyed Name] [DecidableEq Index]
variable [DecidableEq Column] [DecidableEq Fn]
variable [Enumerated Name] [Enumerated Index]
variable {meaning : Interpretation Column Fn Value}
variable {start db : Database Name Index Column Value}
variable {rule : DeathRule Name Column}
variable {recovery : List (Point Name Index Column Fn)}
variable {point last : Point Name Index Column Fn}
variable {passed : List (Passed Name Index Column Fn)}

theorem exploreActions_cons
    {action : Action Name Index Column Fn Value}
    {rest : List (Action Name Index Column Fn Value)}
    (explored : exploreActions point (action :: rest) = some (passed, last)) :
    ∃ next later,
      advanceAction point action = some next ∧
        exploreActions next rest = some (later, last) ∧
        passed = (next, action.touched point.1) :: later := by
  unfold exploreActions at explored
  split at explored
  · cases explored
  · rename_i next advanced
    split at explored
    · cases explored
    · rename_i found foundNext
      cases explored
      exact ⟨next, found.1, advanced, foundNext, rfl⟩

variable {name : Name}

theorem of_exploreActions_of_untouched
    {actions : List (Action Name Index Column Fn Value)}
    (explored : exploreActions point actions = some (passed, last))
    (untouched : name ∉ passed.flatMap Prod.snd) :
    last.1 = point.1 ∧ last.2.of name = point.2.of name := by
  induction actions generalizing point passed with
  | nil =>
    cases explored
    exact ⟨rfl, rfl⟩
  | cons action rest inductionHypothesis =>
    obtain ⟨next, later, advanced, followed, rfl⟩ :=
      exploreActions_cons explored
    rw [List.flatMap_cons, List.mem_append, not_or] at untouched
    obtain ⟨version, states⟩ :=
      of_advanceAction_of_untouched advanced untouched.1
    obtain ⟨laterVersion, laterStates⟩ :=
      inductionHypothesis followed untouched.2
    exact ⟨laterVersion.trans version, laterStates.trans states⟩

theorem Recoverable.action
    {action : Action Name Index Column Fn Value}
    {next : Point Name Index Column Fn}
    (recoverable : rule.Recoverable recovery point)
    (advanced : advanceAction point action = some next)
    (looked : rule.LookedAt recovery [(next, action.touched point.1)]) :
    rule.Recoverable recovery next :=
  recoverable.step
    (fun _ untouched => of_advanceAction_of_untouched advanced untouched)
    looked

theorem Recoverable.actions
    {actions : List (Action Name Index Column Fn Value)}
    (recoverable : rule.Recoverable recovery point)
    (explored : exploreActions point actions = some (passed, last))
    (looked : rule.LookedAt recovery passed) :
    rule.Recoverable recovery last := by
  induction actions generalizing point passed with
  | nil =>
    cases explored
    exact recoverable
  | cons action rest inductionHypothesis =>
    obtain ⟨next, later, advanced, followed, rfl⟩ :=
      exploreActions_cons explored
    refine inductionHypothesis (Recoverable.action recoverable advanced ?_)
      followed fun step member =>
        looked step (List.mem_cons_of_mem _ member)
    intro step member
    rw [List.mem_singleton] at member
    subst member
    exact looked _ List.mem_cons_self

/-- Knowing one point is knowing the other, at the same version. -/
def Leads
    (meaning : Interpretation Column Fn Value)
    (start : Database Name Index Column Value)
    (point next : Point Name Index Column Fn) : Prop :=
  next.1 = point.1 ∧
    ∀ db, Models meaning start point.2 db → Models meaning start next.2 db

omit [DecidableEq Index] [DecidableEq Column] [DecidableEq Fn]
  [Enumerated Name] [Enumerated Index] in
theorem of_foldl_set
    (states : Name → List (Option (Known Name Index Column Fn)))
    (touched : List Name)
    (knowledge : Knowledge Name Index Column Fn)
    (name : Name) :
    (touched.foldl (fun knowledge name =>
      knowledge.set name (states name)) knowledge).of name =
      if name ∈ touched then states name else knowledge.of name := by
  induction touched generalizing knowledge with
  | nil => simp
  | cons first rest inductionHypothesis =>
    rw [List.foldl_cons, inductionHypothesis, Knowledge.of_set]
    by_cases later : name ∈ rest
    · simp [later]
    · by_cases here : name = first
      · simp [here]
      · simp [later, here]

omit [Enumerated Name] [Enumerated Index] in
/-- A joined point follows from each of its points. -/
theorem join_leads
    {touched : List Name}
    {points : List (Point Name Index Column Fn)}
    (joined : join touched points = some (passed, last))
    {chosen : Point Name Index Column Fn}
    (member : chosen ∈ points)
    (same : ∀ other ∈ points, ∀ name, name ∉ touched →
      other.2.of name = chosen.2.of name) :
    Leads meaning start chosen last ∧
      (passed = [] ∧ last = chosen ∨ passed = [(last, touched)] ∧
        ∀ name, name ∉ touched → last.2.of name = chosen.2.of name) := by
  match points, joined with
  | [], joined => cases joined
  | [single], joined =>
    cases joined
    rw [List.mem_singleton] at member
    subst member
    exact ⟨⟨rfl, fun _ models => models⟩, Or.inl ⟨rfl, rfl⟩⟩
  | first :: second :: others, joined =>
    obtain ⟨versions, made⟩ := Option.ite_none_right_eq_some.mp joined
    cases made
    have version : first.1 = chosen.1 := by
      rcases List.mem_cons.mp member with rfl | later
      · rfl
      · exact (of_decide_eq_true
          (List.all_eq_true.mp versions chosen later)).symm
    have untouched : ∀ name, name ∉ touched →
        first.2.of name = chosen.2.of name :=
      same first List.mem_cons_self
    refine ⟨⟨version, fun db models name => ?_⟩, Or.inr ⟨rfl, ?_⟩⟩
    · obtain ⟨state, stateMember, fits⟩ := models name
      refine ⟨state, ?_, fits⟩
      rw [of_foldl_set (fun name => (List.flatMap
        (fun point : Point Name Index Column Fn => point.2.of name)
        (first :: second :: others)).dedup)]
      by_cases changed : name ∈ touched
      · simp only [changed, if_true, List.mem_dedup]
        exact List.mem_flatMap.mpr ⟨chosen, member, stateMember⟩
      · simp only [changed, if_false]
        rw [untouched name changed]
        exact stateMember
    · intro name changed
      rw [of_foldl_set (fun name => (List.flatMap
        (fun point : Point Name Index Column Fn => point.2.of name)
        (first :: second :: others)).dedup)]
      simp only [changed, if_false]
      exact untouched name changed

variable {branch : Option (List Column) × Point Name Index Column Fn}

omit [DecidableEq Index] [DecidableEq Fn] [Enumerated Name]
  [Enumerated Index] in
theorem of_mem_branches
    {reads : Option Name}
    (member : branch ∈ branches point reads) :
    branch.2.1 = point.1 ∧
      ∀ name, name ∉ reads.toList →
        branch.2.2.of name = point.2.of name := by
  cases reads with
  | none =>
    rw [branches, List.mem_singleton] at member
    subst member
    exact ⟨rfl, fun _ _ => rfl⟩
  | some table =>
    obtain ⟨columns, -, rfl⟩ := List.mem_map.mp member
    refine ⟨rfl, fun name different => ?_⟩
    rw [Knowledge.of_set, if_neg (by simpa using different)]

omit [DecidableEq Index] [DecidableEq Fn] [Enumerated Name]
  [Enumerated Index] in
/-- The database is in the case of what it lets a migration read. -/
theorem exists_branch
    (models : Models meaning start point.2 db)
    (reads : Option Name) :
    ∃ branch ∈ branches point reads,
      branch.1 = tableColumns db reads ∧
        Models meaning start branch.2.2 db := by
  cases reads with
  | none => exact ⟨_, List.mem_singleton.mpr rfl, rfl, models⟩
  | some table =>
    obtain ⟨state, member, fits⟩ := models table
    refine ⟨_, List.mem_map.mpr ⟨columnsOf state, List.mem_dedup.mpr
      (List.mem_map.mpr ⟨state, member, rfl⟩), rfl⟩,
      columnsOf_of_fits fits, models.retain ?_ fits⟩
    exact List.mem_filter.mpr ⟨member, decide_eq_true rfl⟩

variable {found : Findings Name Index Column Fn}

theorem exploreBranch_cases
    {migration : Migration Name Index Column Fn Value}
    (explored : exploreBranch migration branch = some found) :
    ∃ actions later,
      migration.actions branch.1 = some actions ∧
        exploreActions branch.2 actions = some (later, found.2) ∧
        found.1 = (branch.2, migration.reads.toList) :: later := by
  unfold exploreBranch at explored
  split at explored
  · cases explored
  · rename_i actions taken
    split at explored
    · cases explored
    · rename_i followed foundBranch
      cases explored
      exact ⟨actions, followed.1, taken, foundBranch, rfl⟩

theorem exploreMigration_cases
    {migration : Migration Name Index Column Fn Value}
    (explored :
      exploreMigration point migration = some (passed, last)) :
    ∃ found joined,
      changeAll (exploreBranch migration)
          (branches point migration.reads) = some found ∧
        join ((found.flatMap Prod.fst).flatMap Prod.snd).dedup
          (found.map Prod.snd) = some (joined, last) ∧
        passed = found.flatMap Prod.fst ++ joined := by
  unfold exploreMigration at explored
  split at explored
  · cases explored
  · rename_i found changed
    dsimp only at explored
    split at explored
    · cases explored
    · rename_i ending joined
      cases explored
      exact ⟨found, ending.1, changed, joined, rfl⟩

/-- A case leaves the knowledge of the tables that it does not touch. -/
theorem of_exploreBranch_of_untouched
    {migration : Migration Name Index Column Fn Value}
    (member : branch ∈ branches point migration.reads)
    (explored : exploreBranch migration branch = some found)
    (untouched : name ∉ found.1.flatMap Prod.snd) :
    found.2.2.of name = point.2.of name := by
  obtain ⟨actions, later, -, followed, passes⟩ := exploreBranch_cases explored
  rw [passes, List.flatMap_cons, List.mem_append, not_or] at untouched
  rw [(of_exploreActions_of_untouched followed untouched.2).2]
  exact (of_mem_branches member).2 name untouched.1

theorem exploreMigration_sound
    {migration : Migration Name Index Column Fn Value}
    (explored :
      exploreMigration point migration = some (passed, last))
    (models : Models meaning start point.2 db) :
    ∃ actions branch later reached,
      migration.actions (tableColumns db migration.reads) = some actions ∧
        branch.1 = point.1 ∧
        Models meaning start branch.2 db ∧
        exploreActions branch actions = some (later, reached) ∧
        Leads meaning start reached last ∧
        ∀ (rule : DeathRule Name Column)
          (recovery : List (Point Name Index Column Fn)),
          rule.Recoverable recovery point →
            rule.LookedAt recovery passed →
              rule.Recoverable recovery branch ∧
                rule.LookedAt recovery later ∧
                rule.Recoverable recovery last := by
  obtain ⟨found, joinedSteps, changed, joined, rfl⟩ :=
    exploreMigration_cases explored
  obtain ⟨branch, member, reads, branchModels⟩ :=
    exists_branch models migration.reads
  obtain ⟨findings, findingsMember, exploredBranch⟩ :=
    mem_of_changeAll changed member
  obtain ⟨version, others⟩ := of_mem_branches member
  obtain ⟨actions, later, taken, followed, passes⟩ :=
    exploreBranch_cases exploredBranch
  have untouchedEnds : ∀ other ∈ found, ∀ name,
      name ∉ ((found.flatMap Prod.fst).flatMap Prod.snd).dedup →
        other.2.2.of name = point.2.of name := by
    intro other otherMember name outside
    obtain ⟨otherBranch, otherBranchMember, otherExplored⟩ :=
      exists_of_mem_changed changed otherMember
    refine of_exploreBranch_of_untouched otherBranchMember otherExplored ?_
    intro inside
    obtain ⟨step, stepMember, touched⟩ := List.mem_flatMap.mp inside
    exact outside (List.mem_dedup.mpr (List.mem_flatMap.mpr
      ⟨step, List.mem_flatMap.mpr ⟨other, otherMember, stepMember⟩, touched⟩))
  obtain ⟨leads, ending⟩ := join_leads 
    joined (List.mem_map.mpr ⟨findings, findingsMember, rfl⟩) (by
      intro other otherMember name outside
      obtain ⟨source, sourceMember, rfl⟩ := List.mem_map.mp otherMember
      rw [untouchedEnds source sourceMember name outside,
        untouchedEnds findings findingsMember name outside])
  refine ⟨actions, branch.2, later, findings.2, reads ▸ taken, version,
    branchModels, followed, leads, fun rule recovery recoverable looked => ?_⟩
  have lookedBranch : rule.LookedAt recovery findings.1 := fun step here =>
    looked step (List.mem_append_left _
      (List.mem_flatMap.mpr ⟨findings, findingsMember, here⟩))
  rw [passes] at lookedBranch
  have branchRecoverable : rule.Recoverable recovery branch.2 :=
    recoverable.step (fun name outside => ⟨version, others name outside⟩)
      fun step here => by
        rw [List.mem_singleton] at here
        subst here
        exact lookedBranch _ List.mem_cons_self
  have lookedLater : rule.LookedAt recovery later := fun step here =>
    lookedBranch step (List.mem_cons_of_mem _ here)
  have reachedRecoverable :=
    Recoverable.actions branchRecoverable followed lookedLater
  refine ⟨branchRecoverable, lookedLater, ?_⟩
  rcases ending with ⟨-, rfl⟩ | ⟨rfl, same⟩
  · exact reachedRecoverable
  · exact reachedRecoverable.step
      (fun name outside => ⟨leads.1, same name outside⟩)
      fun step here => looked step (List.mem_append_right _ here)

theorem exploreMigrations_cons
    {migration : Migration Name Index Column Fn Value}
    {rest : List (Migration Name Index Column Fn Value)}
    (explored :
      exploreMigrations point (migration :: rest) = some (passed, last)) :
    ∃ here middle later,
      exploreMigration point migration = some (here, middle) ∧
        exploreMigrations middle rest = some (later, last) ∧
        passed = here ++ later := by
  unfold exploreMigrations at explored
  split at explored
  · cases explored
  · rename_i found foundHere
    split at explored
    · cases explored
    · rename_i later foundLater
      cases explored
      exact ⟨found.1, found.2, later.1, foundHere, foundLater, rfl⟩

variable [DecidableEq Value] [Inhabited Value]

theorem runActions_sound
    (idempotent : meaning.Idempotent)
    {actions : List (Action Name Index Column Fn Value)}
    (models : Models meaning start point.2 db)
    (explored : exploreActions point actions = some (passed, last)) :
    ∃ after, runActions meaning db point.1 actions = some (after, last.1) ∧
      Models meaning start last.2 after := by
  induction actions generalizing point passed db with
  | nil =>
    cases explored
    exact ⟨db, rfl, models⟩
  | cons action rest inductionHypothesis =>
    obtain ⟨next, later, advanced, followed, rfl⟩ :=
      exploreActions_cons explored
    obtain ⟨between, done, nextModels⟩ :=
      act_sound idempotent models advanced
    obtain ⟨after, run, lastModels⟩ :=
      inductionHypothesis nextModels followed
    exact ⟨after, by simp only [runActions, done, run], lastModels⟩

theorem runMigration_sound
    (idempotent : meaning.Idempotent)
    {migration : Migration Name Index Column Fn Value}
    (models : Models meaning start point.2 db)
    (explored :
      exploreMigration point migration = some (passed, last)) :
    ∃ after, runMigration meaning db point.1 migration =
        some (after, last.1) ∧
      Models meaning start last.2 after := by
  obtain ⟨actions, branch, later, reached, taken, version, branchModels,
    followed, leads, -⟩ := exploreMigration_sound explored models
  obtain ⟨after, run, reachedModels⟩ :=
    runActions_sound idempotent branchModels followed
  refine ⟨after, ?_, leads.2 after reachedModels⟩
  rw [leads.1, ← run, version]
  simp [runMigration, taken]

end Explorations

section Runs

variable {Name Index Column Fn Value : Type} {persisted version : Nat}
variable [DecidableEq Name] [Keyed Name] [DecidableEq Index]
variable [DecidableEq Column] [DecidableEq Fn]
variable [DecidableEq Value] [Inhabited Value]
variable [Enumerated Name] [Enumerated Index]
variable {meaning : Interpretation Column Fn Value}
variable {start db : Database Name Index Column Value}

variable {migrations : List (Migration Name Index Column Fn Value)}
variable {rule : DeathRule Name Column}
variable {recovery : List (Point Name Index Column Fn)}

variable {state next : MigratorState Name Index Column Fn Value}

namespace DeathRule

/-- A death happens only where the rule lets every table survive it. -/
def Allows
    (rule : DeathRule Name Column)
    (state : MigratorState Name Index Column Fn Value)
    (event : MigratorEvent) : Prop :=
  event = .die →
    ∀ name, rule.survives state.version name
      (tableColumns state.db (some name)) = true

end DeathRule

/-- The persisted state is one from which a run is known to succeed. -/
def Recovered
    (meaning : Interpretation Column Fn Value)
    (start : Database Name Index Column Value)
    (recovery : List (Point Name Index Column Fn))
    (db : Database Name Index Column Value)
    (persisted : Nat) : Prop :=
  ∃ known, recovery.lookup persisted = some known ∧
    Models meaning start known db

/-- What is left to do is known to succeed, and so is a restart on the way. -/
structure Working
    (meaning : Interpretation Column Fn Value)
    (start : Database Name Index Column Value)
    (rule : DeathRule Name Column)
    (recovery : List (Point Name Index Column Fn))
    (version : Nat)
    (db : Database Name Index Column Value)
    (persisted : Nat)
    (current : List (Action Name Index Column Fn Value))
    (todo : List (Migration Name Index Column Fn Value)) : Prop where
  known :
    ∃ knowledge passed reached middle later last,
      Models meaning start knowledge db ∧
        rule.Recoverable recovery (persisted, knowledge) ∧
        exploreActions (persisted, knowledge) current =
          some (passed, reached) ∧
        rule.LookedAt recovery passed ∧
        Leads meaning start reached middle ∧
        rule.Recoverable recovery middle ∧
        exploreMigrations middle todo = some (later, last) ∧
        rule.LookedAt recovery later ∧
        last.1 = version

/-- The invariant of the runs whose deaths are allowed. -/
def SafeState
    (meaning : Interpretation Column Fn Value)
    (start : Database Name Index Column Value)
    (rule : DeathRule Name Column)
    (recovery : List (Point Name Index Column Fn))
    (version : Nat)
    (state : MigratorState Name Index Column Fn Value) : Prop :=
  match state.phase with
  | .down => Recovered meaning start recovery state.db state.version
  | .running current todo =>
    Working meaning start rule recovery version state.db state.version
      current todo
  | .finished =>
    state.version = version ∧
      ∃ knowledge, Models meaning start knowledge state.db ∧
        rule.Recoverable recovery (version, knowledge)
  | .refused => False

omit [DecidableEq Value] [Inhabited Value] in
theorem Recovered.working
    (recovered : Recovered meaning start recovery db persisted)
    (closed : rule.closedUnder migrations version recovery = true)
    (known : ∀ point ∈ recovery, rule.Recoverable recovery point) :
    Working meaning start rule recovery version db persisted []
      (dueAt migrations persisted) := by
  obtain ⟨knowledge, found, models⟩ := recovered
  have member : (persisted, knowledge) ∈ recovery := by
    obtain ⟨leading, trailing, split, -⟩ :=
      List.lookup_eq_some_iff.mp found
    rw [split]
    simp
  have checked := List.all_eq_true.mp closed _ member
  dsimp only at checked
  split at checked
  · cases checked
  · rename_i findings explored
    simp only [Bool.and_eq_true, decide_eq_true_eq] at checked
    exact
      { known := ⟨knowledge, [], _, _, findings.1, findings.2, models,
          known _ member, rfl, fun step none => (by cases none),
          ⟨rfl, fun _ models => models⟩, known _ member, explored,
          fun step here => List.all_eq_true.mp checked.1 step here,
          checked.2⟩ }

variable {todo : List (Migration Name Index Column Fn Value)}

theorem Working.action
    {action : Action Name Index Column Fn Value}
    {rest : List (Action Name Index Column Fn Value)}
    (idempotent : meaning.Idempotent)
    (working :
      Working meaning start rule recovery version db persisted
        (action :: rest) todo) :
    ∃ after written,
      act meaning db persisted action = .ok (after, written) ∧
        Working meaning start rule recovery version after written rest
          todo := by
  obtain ⟨knowledge, passed, reached, middle, later, last, models,
    recoverable, explored, looked, leads, remaining⟩ := working.known
  obtain ⟨point, others, advanced, followed, rfl⟩ :=
    exploreActions_cons explored
  obtain ⟨after, done, pointModels⟩ := act_sound idempotent models advanced
  refine ⟨after, point.1, done, ⟨point.2, others, reached, middle, later, last,
    pointModels, ?_, followed, fun step member =>
      looked step (List.mem_cons_of_mem _ member), leads, remaining⟩⟩
  refine Recoverable.action recoverable advanced fun step member => ?_
  rw [List.mem_singleton] at member
  subst member
  exact looked _ List.mem_cons_self

omit [DecidableEq Value] [Inhabited Value] in
/-- A working migrator takes up its next migration. -/
theorem Working.migration
    {migration : Migration Name Index Column Fn Value}
    {rest : List (Migration Name Index Column Fn Value)}
    (working :
      Working meaning start rule recovery version db persisted []
        (migration :: rest)) :
    ∃ actions,
      migration.actions (tableColumns db migration.reads) = some actions ∧
        Working meaning start rule recovery version db persisted actions
          rest := by
  obtain ⟨knowledge, passed, reached, middle, later, last, models,
    -, explored, -, leads, recoverable, remaining, looked, target⟩ :=
    working.known
  cases explored
  obtain ⟨here, following, others, exploredHere, exploredRest, rfl⟩ :=
    exploreMigrations_cons remaining
  obtain ⟨actions, branch, steps, branchEnd, taken, branchVersion,
    branchModels, followed, branchLeads, recover⟩ :=
    exploreMigration_sound exploredHere (leads.2 _ models)
  obtain ⟨branchRecoverable, lookedSteps, followingRecoverable⟩ :=
    recover rule recovery recoverable
      fun step member => looked step (List.mem_append_left _ member)
  have sameVersion : branch.1 = persisted :=
    branchVersion.trans leads.1
  refine ⟨actions, taken, ⟨branch.2, steps, branchEnd, following, others,
    last, branchModels, ?_, ?_, lookedSteps, branchLeads,
    followingRecoverable, exploredRest, fun step member =>
      looked step (List.mem_append_right _ member), target⟩⟩
  · rw [← sameVersion]
    exact branchRecoverable
  · rw [← sameVersion]
    exact followed

omit [DecidableEq Value] [Inhabited Value] in
theorem Working.finished
    (working :
      Working meaning start rule recovery version db persisted [] []) :
    persisted = version ∧
      ∃ knowledge, Models meaning start knowledge db ∧
        rule.Recoverable recovery (version, knowledge) := by
  obtain ⟨knowledge, passed, reached, middle, later, last, models,
    -, explored, -, leads, recoverable, remaining, looked, target⟩ :=
    working.known
  cases explored
  cases remaining
  have sameVersion : persisted = version := leads.1.symm.trans target
  refine ⟨sameVersion, middle.2, leads.2 _ models, ?_⟩
  rw [← target]
  exact recoverable

/-- A step of the machine, taken apart by its event. -/
theorem SafeState.step
    [Nonempty Name]
    (idempotent : meaning.Idempotent)
    (closed : rule.closedUnder migrations version recovery = true)
    (known : ∀ point ∈ recovery, rule.Recoverable recovery point)
    {event : MigratorEvent}
    (safe : SafeState meaning start rule recovery version state)
    (allowed : rule.Allows state event)
    (taken : (migrator meaning migrations).step state event = some next) :
    SafeState meaning start rule recovery version next := by
  obtain ⟨db, persisted, phase⟩ := state
  cases event with
  | start =>
    cases phase with
    | down =>
      cases taken
      exact Recovered.working safe closed known
    | running current todo | finished | refused => cases taken
  | die =>
    cases phase with
    | running current todo =>
      cases taken
      obtain ⟨knowledge, passed, reached, middle, later, last, models,
        recoverable, remaining⟩ := safe.known
      exact recoverable.models models (allowed rfl)
    | down | finished | refused => cases taken
  | step =>
    cases phase with
    | running current todo =>
      cases current with
      | cons action rest =>
        obtain ⟨after, written, done, working⟩ :=
          Working.action idempotent safe
        simp only [migrator, migratorStep, done,
          Option.some.injEq] at taken
        subst taken
        exact working
      | nil =>
        cases todo with
        | cons migration rest =>
          obtain ⟨actions, chosen, working⟩ := Working.migration safe
          simp only [migrator, migratorStep, chosen,
            Option.some.injEq] at taken
          subst taken
          exact working
        | nil =>
          cases taken
          exact Working.finished safe
    | down | finished | refused => cases taken

/-- A finished migration is at its version, with what is known there. -/
def Finished
    (meaning : Interpretation Column Fn Value)
    (start : Database Name Index Column Value)
    (rule : DeathRule Name Column)
    (recovery : List (Point Name Index Column Fn))
    (version : Nat)
    (state : MigratorState Name Index Column Fn Value) : Prop :=
  state.phase = .finished ∧ state.version = version ∧
    ∃ knowledge, Models meaning start knowledge state.db ∧
      rule.Recoverable recovery (version, knowledge)

theorem Working.finishes
    (idempotent : meaning.Idempotent)
    (migrations : List (Migration Name Index Column Fn Value))
    {current : List (Action Name Index Column Fn Value)}
    (working :
      Working meaning start rule recovery version db persisted current
        todo) :
    ∃ steps last,
      (migrator meaning migrations).run
          { db := db, version := persisted, phase := .running current todo }
          (List.replicate steps .step) = some last ∧
        Finished meaning start rule recovery version last := by
  induction todo generalizing db persisted current with
  | nil =>
    induction current generalizing db persisted with
    | nil =>
      obtain ⟨atVersion, known⟩ := working.finished
      exact ⟨1, { db, version := persisted, phase := .finished }, rfl,
        rfl, atVersion, known⟩
    | cons action rest inductionHypothesis =>
      obtain ⟨after, written, done, later⟩ := working.action idempotent
      obtain ⟨steps, last, run, finished⟩ := inductionHypothesis later
      refine ⟨steps + 1, last, ?_, finished⟩
      rw [List.replicate_succ, Machine.run_cons_iff]
      exact ⟨_, by simp only [migrator, migratorStep, done], run⟩
  | cons migration others todoHypothesis =>
    induction current generalizing db persisted with
    | nil =>
      obtain ⟨actions, taken, later⟩ := working.migration
      obtain ⟨steps, last, run, finished⟩ := todoHypothesis later
      refine ⟨steps + 1, last, ?_, finished⟩
      rw [List.replicate_succ, Machine.run_cons_iff]
      exact ⟨_, by simp only [migrator, migratorStep, taken], run⟩
    | cons action rest inductionHypothesis =>
      obtain ⟨after, written, done, later⟩ := working.action idempotent
      obtain ⟨steps, last, run, finished⟩ := inductionHypothesis later
      refine ⟨steps + 1, last, ?_, finished⟩
      rw [List.replicate_succ, Machine.run_cons_iff]
      exact ⟨_, by simp only [migrator, migratorStep, done], run⟩

theorem SafeState.finishes
    (idempotent : meaning.Idempotent)
    (closed : rule.closedUnder migrations version recovery = true)
    (known : ∀ point ∈ recovery, rule.Recoverable recovery point)
    (safe : SafeState meaning start rule recovery version state) :
    ∃ events last,
      (∀ event ∈ events, event ≠ .die) ∧
        (migrator meaning migrations).run state events = some last ∧
        Finished meaning start rule recovery version last := by
  have alive : ∀ steps, ∀ event ∈ List.replicate steps MigratorEvent.step,
      event ≠ .die := by
    intro steps event member
    rw [List.eq_of_mem_replicate member]
    decide
  obtain ⟨db, persisted, phase⟩ := state
  cases phase with
  | down =>
    obtain ⟨steps, last, run, finished⟩ :=
      (Recovered.working safe closed known).finishes idempotent migrations
    refine ⟨.start :: List.replicate steps .step, last, ?_, ?_, finished⟩
    · intro event member
      rcases List.mem_cons.mp member with rfl | later
      · decide
      · exact alive steps event later
    · exact Machine.run_cons_iff.mpr ⟨_, rfl, run⟩
  | running current todo =>
    obtain ⟨steps, last, run, finished⟩ :=
      Working.finishes idempotent migrations safe
    exact ⟨_, last, alive steps, run, finished⟩
  | finished =>
    exact ⟨[], _, fun event member => (by cases member), rfl, rfl, safe⟩
  | refused => exact absurd safe id

end Runs

end VendingSystem.Sql
