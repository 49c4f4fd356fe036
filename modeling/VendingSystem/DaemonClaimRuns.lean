import VendingSystem.DaemonClaim

namespace VendingSystem.Daemon

/-!
# Claims over restarts

Wherever the process dies, the next recovery finds either the accepted claim
with its cache, or copies of its credentials, or a clearing that has begun.
-/

/-- An acceptance has begun and its cache is not in place. -/
def ClaimStore.pending (store : ClaimStore) : Bool :=
  store.journal.any fun journal =>
    journal.operation = .accept && !store.completes journal

/--
The marker vouches for copies that are not the credentials of the cache's
claim, and a recovery would restore them.
-/
def Exposed (store : ClaimStore) : Prop :=
  store.pending = true ∧ store.backupsReady = true ∧
    ∃ account ∈ accounts,
      store.backups account ≠
        secretsOf (store.cache.map (·.claim)) account

instance (store : ClaimStore) : Decidable (Exposed store) :=
  inferInstanceAs (Decidable (_ ∧ _ ∧ _))

/-- A rollback writes, and a failed cache write has not taken effect. -/
def StepSurvives (store : ClaimStore) : ClaimAction → Outcome → Prop
  | .writeSecret .rollBack _ _, outcome => outcome = .succeeds
  | .writeCache _, outcome => outcome = .reports → store.journal = none
  | _, _ => True

instance (store : ClaimStore) :
    ∀ action outcome, Decidable (StepSurvives store action outcome)
  | .writeSecret .rollBack _ _, outcome =>
    inferInstanceAs (Decidable (outcome = .succeeds))
  | .writeCache _, outcome =>
    inferInstanceAs (Decidable (outcome = .reports → store.journal = none))
  | .writeSecret .replace _ _, _ | .writeSecret .recover _ _, _
  | .writeSecret .clear _ _, _ | .writeBackup _ _, _ | .writeReady _, _
  | .writeJournal _, _ | .removeCache, _ | .removeJournal, _ => isTrue trivial

/-- What the steps of a claim survive. -/
def claimHazards : Hazards ClaimStore ClaimAction where
  allows store action outcome :=
    (outcome ≠ .succeeds → ¬ Exposed store) ∧
      StepSurvives store action outcome
  mayDie store _ := ¬ Exposed store

instance (store : ClaimStore) (action : ClaimAction) (outcome : Outcome) :
    Decidable (claimHazards.allows store action outcome) :=
  inferInstanceAs (Decidable (_ ∧ _))

instance (store : ClaimStore) (action : ClaimAction) :
    Decidable (claimHazards.mayDie store action) :=
  inferInstanceAs (Decidable (¬ _))

/-- The cache and the credentials are those of the accepted claim. -/
structure Held (store : ClaimStore) : Prop where
  cached : store.cache.map (·.claim) = store.accepted
  secrets : store.secrets = secretsOf store.accepted

/-- No transaction is open. -/
structure Settled (store : ClaimStore) : Prop where
  closed : store.journal = none
  held : Held store

/-- An acceptance is open, and its cache is not in place. -/
structure Replacing (journal : ClaimJournal) (store : ClaimStore) : Prop where
  opened : store.journal = some journal
  accepts : journal.operation = .accept
  older : ∀ cache ∈ store.cache, cache.generation ≠ journal.generation
  cached : store.cache.map (·.claim) = store.accepted

inductive Recoverable (store : ClaimStore) : Prop where
  | settled (settled : Settled store)
  | completing
      (journal : ClaimJournal)
      (opened : store.journal = some journal)
      (accepts : journal.operation = .accept)
      (cache : ProfileCache)
      (written : store.cache = some cache)
      (current : cache.generation = journal.generation)
      (held : Held store)
  | replacing
      (journal : ClaimJournal)
      (replacing : Replacing journal store)
      (copied : store.backupsReady = true →
        store.backups = secretsOf store.accepted)
      (kept : store.backupsReady = false →
        store.secrets = secretsOf store.accepted)
  | clearing
      (journal : ClaimJournal)
      (opened : store.journal = some journal)
      (clears : journal.operation = .clear)
      (gone : store.accepted = none)

/-- What is left when an operation ends. -/
def Ended (succeeded : Bool) (store : ClaimStore) : Prop :=
  if succeeded then Settled store else Recoverable store

variable {store before after : ClaimStore} {journal : ClaimJournal}
  {action : ClaimAction} {rest : List ClaimAction} {secrets : Secrets}
  {cache : ProfileCache} {operation : ClaimOperation}
  {daemon next : ClaimDaemon} {event : ClaimEvent}

theorem Ended.recoverable
    {succeeded : Bool}
    (ended : Ended succeeded store) :
    Recoverable store := by
  cases succeeded with
  | true => exact .settled ended
  | false => exact ended

theorem Replacing.incomplete
    (replacing : Replacing journal store) :
    store.completes journal = false := by
  cases cached : store.cache with
  | none => simp [ClaimStore.completes, cached]
  | some cache =>
    have older := replacing.older cache cached
    simp [ClaimStore.completes, cached, older]

/-- A rolled-back acceptance recovers as long as it is not exposed. -/
theorem Replacing.recoverable
    (replacing : Replacing journal store)
    (secrets : store.secrets = secretsOf store.accepted)
    (unexposed : ¬ Exposed store) :
    Recoverable store := by
  refine .replacing journal replacing (fun ready => ?_) (fun _ => secrets)
  funext account
  by_contra differs
  refine unexposed ⟨?_, ready, account, ?_, ?_⟩
  · simp [ClaimStore.pending, replacing.opened, replacing.accepts,
      replacing.incomplete]
  · cases account <;> decide
  · rwa [replacing.cached]

/-- Two stores that differ in their copies at most. -/
def CopiesAside (before after : ClaimStore) : Prop :=
  ∃ backups backupsReady, after = { before with backups, backupsReady }

/-- Two stores that differ in their secrets at most. -/
def SecretsAside (before after : ClaimStore) : Prop :=
  ∃ secrets, after = { before with secrets }

theorem mem_accounts (account : Account) : account ∈ accounts := by
  cases account <;> decide

/-- The copies that are still to be written, after some of them. -/
structure CopiesLeft
    (before : ClaimStore)
    (secrets : Secrets)
    (ready : Bool)
    (actions : List ClaimAction)
    (store : ClaimStore) : Prop where
  aside : CopiesAside before store
  copies : ∀ account, store.backups account = secrets account ∨
    ClaimAction.writeBackup account (secrets account) ∈ actions
  marker : store.backupsReady = ready ∨ ClaimAction.writeReady ready ∈ actions
  only : ∀ action ∈ actions,
    (∃ account, action = .writeBackup account (secrets account)) ∨
      action = .writeReady ready

theorem CopiesLeft.step
    {ready : Bool}
    (left : CopiesLeft before secrets ready (action :: rest) store) :
    CopiesLeft before secrets ready rest (action.apply store) := by
  obtain ⟨backups, marker, rfl⟩ := left.aside
  have only := fun other member =>
    left.only other (List.mem_cons_of_mem action member)
  rcases left.only action List.mem_cons_self with ⟨written, rfl⟩ | rfl
  · refine ⟨⟨_, _, rfl⟩, fun account => ?_, ?_, only⟩
    · by_cases same : account = written
      · subst same
        exact .inl (if_pos rfl)
      · rcases left.copies account with done | waits
        · exact .inl ((if_neg same).trans done)
        · rcases List.mem_cons.mp waits with head | later
          · cases head
            exact absurd rfl same
          · exact .inr later
    · rcases left.marker with done | waits
      · exact .inl done
      · exact .inr (by simpa using waits)
  · refine ⟨⟨_, _, rfl⟩, fun account => ?_, .inl rfl, only⟩
    rcases left.copies account with done | waits
    · exact .inl done
    · exact .inr (by simpa using waits)

/-- Writing the copies, where any store that differs in them recovers. -/
theorem writeCopies_keeps
    (crash : ∀ store, CopiesAside before store → ¬ Exposed store →
      Recoverable store)
    (secrets : Secrets)
    (ready : Bool) :
    (writeCopies secrets ready).Keeps claimMedium claimHazards Recoverable
      (fun copied store => CopiesAside before store ∧
        if copied then store.backups = secrets ∧ store.backupsReady = ready
        else ¬ Exposed store)
      before := by
  refine .performAll (CopiesLeft before secrets ready) ?_ ?_ ?_ ?_
  · intro action rest store left unexposed
    exact crash store left.aside unexposed
  · intro action rest store outcome left allowed
    obtain ⟨backups, marker, rfl⟩ := left.aside
    by_cases succeeded : outcome = .succeeds
    · subst succeeded
      rw [if_pos rfl]
      exact left.step
    · rw [if_neg succeeded]
      have unexposed := allowed.1 succeeded
      rcases left.only action List.mem_cons_self with
        ⟨account, rfl⟩ | rfl <;>
        cases outcome <;> first
          | exact absurd rfl succeeded
          | exact ⟨⟨_, _, rfl⟩, unexposed⟩
  · intro store left
    refine ⟨left.aside, ?_⟩
    rw [if_pos rfl]
    refine ⟨funext fun account => ?_, ?_⟩
    · exact (left.copies account).resolve_right List.not_mem_nil
    · exact left.marker.resolve_right List.not_mem_nil
  · exact
      { aside := ⟨_, _, rfl⟩
        copies := fun account => .inr (by
          simp [mem_accounts])
        marker := .inr (by simp)
        only := by
          intro action member
          simp only [List.mem_append, List.mem_map, List.mem_singleton]
            at member
          rcases member with ⟨account, -, rfl⟩ | rfl
          · exact .inl ⟨account, rfl⟩
          · exact .inr rfl }

/-- The secrets that are still to be written, after some of them. -/
structure SecretsLeft
    (before : ClaimStore)
    (purpose : Purpose)
    (secrets : Secrets)
    (actions : List ClaimAction)
    (store : ClaimStore) : Prop where
  aside : SecretsAside before store
  written : ∀ account, store.secrets account = secrets account ∨
    ClaimAction.writeSecret purpose account (secrets account) ∈ actions
  only : ∀ action ∈ actions,
    ∃ account, action = .writeSecret purpose account (secrets account)

theorem SecretsLeft.step
    {purpose : Purpose}
    (left : SecretsLeft before purpose secrets (action :: rest) store) :
    SecretsLeft before purpose secrets rest (action.apply store) := by
  obtain ⟨former, rfl⟩ := left.aside
  obtain ⟨written, rfl⟩ := left.only action List.mem_cons_self
  refine ⟨⟨_, rfl⟩, fun account => ?_, fun other member =>
    left.only other (List.mem_cons_of_mem _ member)⟩
  by_cases same : account = written
  · subst same
    exact .inl (if_pos rfl)
  · rcases left.written account with done | waits
    · exact .inl ((if_neg same).trans done)
    · rcases List.mem_cons.mp waits with head | later
      · cases head
        exact absurd rfl same
      · exact .inr later

theorem writeSecrets_keeps
    (crash : ∀ store, SecretsAside before store → Recoverable store)
    (purpose : Purpose)
    (secrets : Secrets) :
    (writeSecrets purpose secrets).Keeps claimMedium claimHazards Recoverable
      (fun written store => SecretsAside before store ∧
        if written then store.secrets = secrets else purpose ≠ .rollBack)
      before := by
  refine .performAll (SecretsLeft before purpose secrets) ?_ ?_ ?_ ?_
  · intro action rest store left unexposed
    exact crash store left.aside
  · intro action rest store outcome left allowed
    by_cases succeeded : outcome = .succeeds
    · subst succeeded
      rw [if_pos rfl]
      exact left.step
    · rw [if_neg succeeded]
      obtain ⟨former, rfl⟩ := left.aside
      obtain ⟨account, rfl⟩ := left.only action List.mem_cons_self
      refine ⟨?_, ?_⟩
      · cases outcome <;> first
          | exact absurd rfl succeeded
          | exact ⟨former, rfl⟩
      · rw [if_neg Bool.false_ne_true]
        rintro rfl
        exact succeeded allowed.2
  · intro store left
    refine ⟨left.aside, ?_⟩
    rw [if_pos rfl]
    funext account
    exact (left.written account).resolve_right List.not_mem_nil
  · exact
      { aside := ⟨_, rfl⟩
        written := fun account => .inr
          (List.mem_map.mpr ⟨account, mem_accounts account, rfl⟩)
        only := by
          intro action member
          obtain ⟨account, -, rfl⟩ := List.mem_map.mp member
          exact ⟨account, rfl⟩ }

theorem not_exposed_of_unready
    (unready : store.backupsReady = false) :
    ¬ Exposed store := by
  rintro ⟨-, ready, -⟩
  rw [unready] at ready
  cases ready

theorem CopiesAside.held
    (aside : CopiesAside before after)
    (held : Held before) :
    Held after := by
  obtain ⟨backups, ready, rfl⟩ := aside
  exact ⟨held.cached, held.secrets⟩

/-- With the right credentials in place, only the journal is left to go. -/
theorem finishTransaction_keeps
    (held : Held before)
    (crash : ∀ store, CopiesAside before store → ¬ Exposed store →
      Recoverable store)
    (generation : Nat) :
    (finishTransaction generation).Keeps claimMedium claimHazards Recoverable
      Ended before := by
  refine .bind (.weaken (writeCopies_keeps crash absentSecrets false)
    (fun _ recoverable => recoverable) ?_)
  rintro cleared store ⟨aside, copies⟩
  cases cleared with
  | false => exact crash store aside copies
  | true =>
    have unexposed := not_exposed_of_unready copies.2
    refine .bind ⟨fun _ => crash store aside unexposed, ?_⟩
    intro outcome allowed
    have kept := aside.held held
    cases outcome with
    | fails | reports => exact crash store aside unexposed
    | succeeds => exact ⟨rfl, kept.cached, kept.secrets⟩

theorem Recoverable.of_clearing
    (opened : store.journal = some journal)
    (clears : journal.operation = .clear)
    (gone : store.accepted = none) :
    Recoverable store :=
  .clearing journal opened clears gone

theorem clearTransaction_keeps
    (opened : before.journal = some journal)
    (clears : journal.operation = .clear)
    (gone : before.accepted = none)
    (generation : Nat) :
    (clearTransaction generation).Keeps claimMedium claimHazards Recoverable
      Ended before := by
  have still : Recoverable before := .of_clearing opened clears gone
  refine .bind ⟨fun _ => still, fun outcome allowed => ?_⟩
  cases outcome with
  | fails | reports => exact still
  | succeeds =>
    refine .bind (.weaken (writeSecrets_keeps ?_ .clear absentSecrets)
      (fun _ recoverable => recoverable) ?_)
    · rintro store ⟨secrets, rfl⟩
      exact .of_clearing opened clears gone
    · rintro erased store ⟨⟨secrets, rfl⟩, written⟩
      cases erased with
      | false => exact Recoverable.of_clearing opened clears gone
      | true =>
        refine finishTransaction_keeps ⟨?_, ?_⟩ ?_ generation
        · exact gone.symm
        · exact written.trans (congrArg secretsOf gone).symm
        · rintro after ⟨backups, ready, rfl⟩ -
          exact .of_clearing opened clears gone

/-- An acceptance under way, with copies of the accepted credentials. -/
structure Guarded (journal : ClaimJournal) (store : ClaimStore) : Prop where
  replacing : Replacing journal store
  ready : store.backupsReady = true
  copied : store.backups = secretsOf store.accepted

theorem Guarded.recoverable
    (guarded : Guarded journal store) :
    Recoverable store := by
  refine .replacing journal guarded.replacing (fun _ => guarded.copied) ?_
  intro unready
  rw [guarded.ready] at unready
  cases unready

theorem SecretsAside.guarded
    (aside : SecretsAside before after)
    (guarded : Guarded journal before) :
    Guarded journal after := by
  obtain ⟨secrets, rfl⟩ := aside
  have replacing := guarded.replacing
  exact ⟨⟨replacing.opened, replacing.accepts, replacing.older,
    replacing.cached⟩, guarded.ready, guarded.copied⟩

theorem CopiesAside.replacing
    (aside : CopiesAside before after)
    (replacing : Replacing journal before) :
    Replacing journal after := by
  obtain ⟨backups, ready, rfl⟩ := aside
  exact ⟨replacing.opened, replacing.accepts, replacing.older,
    replacing.cached⟩

theorem Replacing.copies_recoverable
    (replacing : Replacing journal before)
    (secrets : before.secrets = secretsOf before.accepted)
    (store : ClaimStore)
    (aside : CopiesAside before store)
    (unexposed : ¬ Exposed store) :
    Recoverable store := by
  refine (aside.replacing replacing).recoverable ?_ unexposed
  obtain ⟨backups, ready, rfl⟩ := aside
  exact secrets

theorem recoverCopies_keeps
    (guarded : Guarded journal before)
    (generation : Nat) :
    (do
      let restored ← writeSecrets .recover before.backups
      if ¬ restored then return false
      finishTransaction generation : ClaimProgram Bool).Keeps
      claimMedium claimHazards Recoverable Ended before := by
  refine .bind (.weaken
    (writeSecrets_keeps ?_ .recover before.backups)
    (fun _ recoverable => recoverable) ?_)
  · intro store aside
    exact (aside.guarded guarded).recoverable
  · rintro restored store ⟨aside, written⟩
    have kept := aside.guarded guarded
    cases restored with
    | false => exact kept.recoverable
    | true =>
      have secrets : store.secrets = secretsOf store.accepted := by
        rw [if_pos rfl] at written
        obtain ⟨values, rfl⟩ := aside
        exact written.trans guarded.copied
      exact finishTransaction_keeps ⟨kept.replacing.cached, secrets⟩
        (kept.replacing.copies_recoverable secrets) generation

theorem completes_of_held
    (written : store.cache = some cache)
    (current : cache.generation = journal.generation)
    (held : Held store) :
    store.completes journal = true := by
  have accepted : store.accepted = some cache.claim := by
    rw [← held.cached, written]
    rfl
  simp [ClaimStore.completes, written, current, held.secrets, accepted,
    secretsOf, ClaimCredentials.secrets]

/-- The recovery ends with no transaction open, or can be tried again. -/
theorem recoverClaimTransaction_keeps
    (recoverable : Recoverable before) :
    recoverClaimTransaction.Keeps claimMedium claimHazards Recoverable Ended
      before := by
  refine .bind ?_
  cases recoverable with
  | settled settled =>
    simp only [getStore, CrashProgram.Keeps, settled.closed]
    exact settled
  | completing journal opened accepts cache written current held =>
    simp only [getStore, CrashProgram.Keeps, opened, accepts,
      completes_of_held written current held, if_true]
    refine finishTransaction_keeps held ?_ journal.generation
    rintro store ⟨backups, ready, rfl⟩ -
    exact .completing journal opened accepts cache written current
      ⟨held.cached, held.secrets⟩
  | replacing journal replacing copied kept =>
    simp only [getStore, CrashProgram.Keeps, replacing.opened,
      replacing.accepts, replacing.incomplete, Bool.false_eq_true, if_false]
    cases ready : before.backupsReady with
    | true =>
      exact recoverCopies_keeps ⟨replacing, ready, copied ready⟩
        journal.generation
    | false =>
      have still : Recoverable before :=
        .replacing journal replacing copied kept
      refine .bind ⟨fun _ => still, fun outcome allowed => ?_⟩
      cases outcome with
      | fails | reports => exact still
      | succeeds => exact ⟨rfl, replacing.cached, kept ready⟩
  | clearing journal opened clears gone =>
    simp only [getStore, CrashProgram.Keeps, opened, clears]
    exact clearTransaction_keeps opened clears gone journal.generation

/-- A rollback with all its writes gives back the accepted credentials. -/
theorem rollBack_keeps
    (guarded : Guarded journal before) :
    (rollBack (secretsOf before.accepted)).Keeps claimMedium claimHazards
      Recoverable (fun _ => Recoverable) before := by
  refine .bind (.weaken
    (writeSecrets_keeps ?_ .rollBack (secretsOf before.accepted))
    (fun _ recoverable => recoverable) ?_)
  · intro store aside
    exact (aside.guarded guarded).recoverable
  · rintro written store ⟨aside, restored⟩
    cases written with
    | false => exact absurd rfl restored
    | true =>
      have kept := aside.guarded guarded
      have secrets : store.secrets = secretsOf store.accepted := by
        rw [if_pos rfl] at restored
        obtain ⟨values, rfl⟩ := aside
        exact restored
      have crash := kept.replacing.copies_recoverable secrets
      refine .bind (.weaken (writeCopies_keeps crash absentSecrets false)
        (fun _ recoverable => recoverable) ?_)
      rintro cleared after ⟨copies, state⟩
      have unexposed : ¬ Exposed after := by
        cases cleared with
        | true => exact not_exposed_of_unready state.2
        | false => exact state
      have still := crash after copies unexposed
      refine .bind ⟨fun _ => still, fun outcome allowed => ?_⟩
      cases outcome with
      | fails | reports => exact still
      | succeeds =>
        have held := copies.held ⟨kept.replacing.cached, secrets⟩
        exact Recoverable.settled ⟨rfl, held.cached, held.secrets⟩

/-- A store with no transaction open may be left anywhere. -/
theorem Settled.copiesAside
    (settled : Settled before)
    (aside : CopiesAside before after) :
    Settled after := by
  have held := aside.held settled.held
  obtain ⟨backups, ready, rfl⟩ := aside
  exact ⟨settled.closed, held⟩

theorem clearAfterFailure_keeps
    (crash : ∀ store, CopiesAside before store → ¬ Exposed store →
      Recoverable store) :
    (do
      let _ ← clearCredentialBackups
      return false : ClaimProgram Bool).Keeps
      claimMedium claimHazards Recoverable Ended before := by
  refine .bind (.weaken (writeCopies_keeps crash absentSecrets false)
    (fun _ recoverable => recoverable) ?_)
  rintro cleared store ⟨aside, copies⟩
  cases cleared with
  | true => exact crash store aside (not_exposed_of_unready copies.2)
  | false => exact crash store aside copies

/-- The credentials and the cache are replaced, under the journal. -/
theorem replace_keeps
    (guarded : Guarded journal before)
    (profile : ProvisioningProfile) :
    (do
      let replaced ← writeSecrets .replace profile.credentials.secrets
      if ¬ replaced then
        rollBack (secretsOf before.accepted)
        return false
      let cached ← CrashProgram.performOne
        (.writeCache
          { generation := journal.generation, profile := profile.snapshot
            claim := profile.credentials })
      if ¬ cached then
        rollBack (secretsOf before.accepted)
        return false
      finishTransaction journal.generation : ClaimProgram Bool).Keeps
      claimMedium claimHazards Recoverable Ended before := by
  refine .bind (.weaken
    (writeSecrets_keeps ?_ .replace profile.credentials.secrets)
    (fun _ recoverable => recoverable) ?_)
  · intro store aside
    exact (aside.guarded guarded).recoverable
  · rintro replaced store ⟨aside, written⟩
    have kept := aside.guarded guarded
    have accepted : store.accepted = before.accepted := by
      obtain ⟨values, rfl⟩ := aside
      rfl
    have rolledBack := rollBack_keeps kept
    rw [accepted] at rolledBack
    cases replaced with
    | false =>
      exact .bind (.weaken rolledBack (fun _ recoverable => recoverable)
        (fun _ _ recoverable => recoverable))
    | true =>
      refine .bind ⟨fun _ => kept.recoverable, fun outcome allowed => ?_⟩
      cases outcome with
      | fails =>
        exact .bind (.weaken rolledBack (fun _ recoverable => recoverable)
          (fun _ _ recoverable => recoverable))
      | reports =>
        have opened := kept.replacing.opened
        rw [allowed.2 rfl] at opened
        cases opened
      | succeeds =>
        have held : Held (ClaimAction.apply
            (.writeCache
              { generation := journal.generation
                profile := profile.snapshot
                claim := profile.credentials }) store) :=
          ⟨rfl, written⟩
        refine finishTransaction_keeps held ?_ journal.generation
        rintro after ⟨backups, ready, rfl⟩ -
        exact .completing journal kept.replacing.opened
          kept.replacing.accepts _ rfl rfl ⟨held.cached, held.secrets⟩

theorem nextGeneration_newer
    (written : store.cache = some cache) :
    cache.generation ≠ store.nextGeneration := by
  simp only [ClaimStore.nextGeneration, written, Option.map_some,
    Option.getD_some]
  omega

theorem journal_guarded
    (settled : Settled before)
    (aside : CopiesAside before store)
    (copies : store.backups = before.secrets ∧ store.backupsReady = true) :
    Guarded { operation := .accept, generation := before.nextGeneration }
      (ClaimAction.apply
        (.writeJournal
          { operation := .accept, generation := before.nextGeneration })
        store) := by
  obtain ⟨backups, ready, rfl⟩ := aside
  exact
    { replacing :=
        { opened := rfl
          accepts := rfl
          older := fun cache written => nextGeneration_newer written
          cached := settled.held.cached }
      ready := copies.2
      copied := copies.1.trans settled.held.secrets }

theorem acceptProfile_keeps
    (recoverable : Recoverable before)
    (profile : ProvisioningProfile)
    (admitted : Bool) :
    (acceptProfile profile admitted).Keeps claimMedium claimHazards
      Recoverable Ended before := by
  refine .bind (.weaken (recoverClaimTransaction_keeps recoverable)
    (fun _ recoverable => recoverable) ?_)
  intro recovered start ended
  cases recovered with
  | false => exact ended
  | true =>
    have settled : Settled start := ended
    have crash (store : ClaimStore) (aside : CopiesAside start store)
        (_ : ¬ Exposed store) : Recoverable store :=
      .settled (settled.copiesAside aside)
    refine .bind ?_
    cases admitted with
    | false => exact Recoverable.settled settled
    | true =>
      refine .bind (.weaken (writeCopies_keeps crash start.secrets true)
        (fun _ recoverable => recoverable) ?_)
      rintro copied store ⟨aside, copies⟩
      cases copied with
      | false =>
        refine clearAfterFailure_keeps ?_
        intro after further unexposed
        exact .settled ((settled.copiesAside aside).copiesAside further)
      | true =>
        have still := settled.copiesAside aside
        refine .bind ⟨fun _ => .settled still, ?_⟩
        have guarded := journal_guarded settled aside copies
        intro outcome allowed
        cases outcome with
        | fails =>
          refine clearAfterFailure_keeps ?_
          intro after further unexposed
          exact .settled (still.copiesAside further)
        | reports =>
          refine clearAfterFailure_keeps ?_
          exact guarded.replacing.copies_recoverable still.held.secrets
        | succeeds =>
          have accepted : store.accepted = start.accepted := by
            obtain ⟨backups, ready, rfl⟩ := aside
            rfl
          have replaced := replace_keeps guarded profile
          have previous : secretsOf (ClaimAction.apply
              (.writeJournal
                { operation := .accept
                  generation := start.nextGeneration })
              store).accepted = start.secrets :=
            (congrArg secretsOf accepted).trans settled.held.secrets.symm
          rw [previous] at replaced
          exact replaced

theorem acceptRefreshedProfile_keeps
    (recoverable : Recoverable before)
    (profile : ProfileSnapshot)
    (admitted : Bool) :
    (acceptRefreshedProfile profile admitted).Keeps claimMedium claimHazards
      Recoverable (fun _ => Recoverable) before := by
  refine .bind (.weaken (recoverClaimTransaction_keeps recoverable)
    (fun _ recoverable => recoverable) ?_)
  intro recovered start ended
  cases recovered with
  | false => exact ended.recoverable
  | true =>
    have settled : Settled start := ended
    have still : Recoverable start := .settled settled
    refine .bind ?_
    cases cached : start.cache with
    | none =>
      simp only [getStore, CrashProgram.Keeps, cached]
      exact still
    | some accepted =>
      simp only [getStore, CrashProgram.Keeps, cached]
      split_ifs with identity revision refused
      · exact still
      · exact still
      · have renewed (generation : Nat) : Settled (ClaimAction.apply
            (.writeCache
              { generation, profile, claim := accepted.claim }) start) := by
          have claim : start.accepted = some accepted.claim := by
            rw [← settled.held.cached, cached]
            rfl
          exact ⟨settled.closed, rfl, settled.held.secrets.trans
            (congrArg secretsOf claim)⟩
        refine .bind ⟨fun _ => still, fun outcome allowed => ?_⟩
        cases outcome with
        | fails => exact still
        | reports => exact .settled (renewed _)
        | succeeds =>
          have done := renewed start.nextGeneration
          exact Recoverable.settled
            ⟨done.closed, done.held.cached, done.held.secrets⟩
      · exact still

theorem clearClaim_keeps
    (recoverable : Recoverable before) :
    clearClaim.Keeps claimMedium claimHazards Recoverable Ended before := by
  refine .bind (.bind ⟨fun _ => recoverable, fun outcome allowed => ?_⟩)
  cases outcome with
  | fails => exact recoverable
  | reports => exact Recoverable.of_clearing rfl rfl rfl
  | succeeds => exact clearTransaction_keeps rfl rfl rfl _

/-- The steps of an operation that accepts no claim and clears none. -/
def ClaimAction.Quiet : ClaimAction → Prop
  | writeCache _ | writeJournal _ => False
  | _ => True

/-- An assignment that changes the generation in memory alone. -/
def AssignsGeneration (update : ClaimStore → ClaimStore) : Prop :=
  ∃ generation, update = fun store => { store with generation }

section Performs

variable {acts : ClaimAction → Prop}

theorem performs_of_quiet
    {Result : Type}
    {program : ClaimProgram Result}
    (quiet : ∀ action : ClaimAction, action.Quiet → acts action)
    (performs : program.Performs ClaimAction.Quiet AssignsGeneration) :
    program.Performs acts AssignsGeneration := by
  induction program with
  | done result => trivial
  | read next inductionHypothesis =>
    exact fun store => inductionHypothesis store (performs store)
  | assign update next inductionHypothesis =>
    exact ⟨performs.1, inductionHypothesis performs.2⟩
  | perform action next inductionHypothesis =>
    exact ⟨quiet action performs.1, fun succeeded =>
      inductionHypothesis succeeded (performs.2 succeeded)⟩

theorem performOne_performs
    (act : acts action) :
    (CrashProgram.performOne action : ClaimProgram Bool).Performs acts
      AssignsGeneration :=
  ⟨act, fun _ => trivial⟩

theorem writeSecrets_quiet (purpose : Purpose) (secrets : Secrets) :
    (writeSecrets purpose secrets).Performs ClaimAction.Quiet
      AssignsGeneration := by
  refine .performAll fun action member => ?_
  obtain ⟨account, -, rfl⟩ := List.mem_map.mp member
  trivial

theorem writeCopies_quiet (secrets : Secrets) (ready : Bool) :
    (writeCopies secrets ready).Performs ClaimAction.Quiet
      AssignsGeneration := by
  refine .performAll fun action member => ?_
  simp only [List.mem_append, List.mem_map, List.mem_singleton] at member
  rcases member with ⟨account, -, rfl⟩ | rfl <;> trivial

theorem finishTransaction_quiet (generation : Nat) :
    (finishTransaction generation).Performs ClaimAction.Quiet
      AssignsGeneration := by
  refine (writeCopies_quiet _ _).bind fun cleared => ?_
  cases cleared with
  | false => trivial
  | true =>
    refine (performOne_performs trivial).bind fun removed => ?_
    cases removed with
    | false => trivial
    | true => exact ⟨⟨generation, rfl⟩, trivial⟩

theorem clearTransaction_quiet (generation : Nat) :
    (clearTransaction generation).Performs ClaimAction.Quiet
      AssignsGeneration := by
  refine (performOne_performs trivial).bind fun uncached => ?_
  cases uncached with
  | false => trivial
  | true =>
    refine (writeSecrets_quiet _ _).bind fun erased => ?_
    cases erased with
    | false => trivial
    | true => exact finishTransaction_quiet generation

theorem recoverClaimTransaction_quiet :
    recoverClaimTransaction.Performs ClaimAction.Quiet AssignsGeneration := by
  intro store
  dsimp only [CrashProgram.bind]
  cases store.journal with
  | none => trivial
  | some journal =>
    obtain ⟨operation, generation⟩ := journal
    cases operation with
    | clear => exact clearTransaction_quiet generation
    | accept =>
      dsimp only
      split_ifs
      · exact finishTransaction_quiet generation
      · refine (writeSecrets_quiet _ _).bind fun restored => ?_
        cases restored with
        | false => trivial
        | true => exact finishTransaction_quiet generation
      · refine (performOne_performs trivial).bind fun removed => ?_
        cases removed with
        | false => trivial
        | true => exact ⟨⟨generation, rfl⟩, trivial⟩

theorem rollBack_quiet (previous : Secrets) :
    (rollBack previous).Performs ClaimAction.Quiet AssignsGeneration := by
  refine (writeSecrets_quiet _ _).bind fun restored => ?_
  refine (writeCopies_quiet _ _).bind fun cleared => ?_
  exact (performOne_performs trivial).bind fun removed => trivial

/-- The steps of an acceptance write its claim alone. -/
def ClaimAction.Accepts (profile : ProvisioningProfile) :
    ClaimAction → Prop
  | writeCache cache => cache.claim = profile.credentials
  | writeJournal journal => journal.operation = .accept
  | _ => True

theorem ClaimAction.Quiet.accepts
    (profile : ProvisioningProfile)
    (action : ClaimAction)
    (quiet : action.Quiet) :
    action.Accepts profile := by
  cases action with
  | writeCache cache | writeJournal journal => cases quiet
  | writeSecret | writeBackup | writeReady | removeCache | removeJournal =>
    trivial

theorem acceptProfile_performs
    (profile : ProvisioningProfile)
    (admitted : Bool) :
    (acceptProfile profile admitted).Performs
      (ClaimAction.Accepts profile) AssignsGeneration := by
  have quiet {Result : Type} {program : ClaimProgram Result}
      (performs : program.Performs ClaimAction.Quiet AssignsGeneration) :
      program.Performs (ClaimAction.Accepts profile) AssignsGeneration :=
    performs_of_quiet (ClaimAction.Quiet.accepts profile) performs
  have failed {Result : Type} {program : ClaimProgram Result}
      (performs : program.Performs ClaimAction.Quiet AssignsGeneration) :
      (program >>= fun _ => pure false).Performs
        (ClaimAction.Accepts profile) AssignsGeneration :=
    (quiet performs).bind fun _ => trivial
  refine (quiet recoverClaimTransaction_quiet).bind fun recovered => ?_
  cases recovered with
  | false => trivial
  | true =>
    refine .bind (fun store => trivial) fun store => ?_
    cases admitted with
    | false => trivial
    | true =>
      refine (quiet (writeCopies_quiet _ _)).bind fun copied => ?_
      cases copied with
      | false => exact failed (writeCopies_quiet _ _)
      | true =>
        refine CrashProgram.Performs.bind
          (performOne_performs ?_) fun journalled => ?_
        · exact rfl
        cases journalled with
        | false => exact failed (writeCopies_quiet _ _)
        | true =>
          refine (quiet (writeSecrets_quiet _ _)).bind fun replaced => ?_
          cases replaced with
          | false => exact failed (rollBack_quiet _)
          | true =>
            refine CrashProgram.Performs.bind
              (performOne_performs ?_) fun cached => ?_
            · exact rfl
            cases cached with
            | false => exact failed (rollBack_quiet _)
            | true => exact quiet (finishTransaction_quiet _)

end Performs

/-- Where the accepted claim is left, the cache is the old one or none. -/
structure Untouched (before store : ClaimStore) : Prop where
  accepted : store.accepted = before.accepted
  cache : ∀ cache ∈ store.cache, before.cache = some cache

theorem recoverClaimTransaction_untouched (before : ClaimStore) :
    recoverClaimTransaction.Keeps claimMedium claimHazards (Untouched before)
      (fun _ => Untouched before) before := by
  refine recoverClaimTransaction_quiet.keeps ?_ ?_
    ⟨rfl, fun cache written => written⟩
  · intro action outcome store quiet untouched
    cases action with
    | writeCache cache | writeJournal journal => cases quiet
    | writeSecret | writeBackup | writeReady | removeJournal =>
      cases outcome <;> exact ⟨untouched.accepted, untouched.cache⟩
    | removeCache =>
      cases outcome with
      | succeeds => exact ⟨untouched.accepted, fun cache gone => nomatch gone⟩
      | fails | reports => exact untouched
  · rintro update store ⟨generation, rfl⟩ untouched
    exact ⟨untouched.accepted, untouched.cache⟩

/-- An acceptance leaves the accepted claim, or makes its own the accepted. -/
theorem acceptProfile_accepted
    (before : ClaimStore)
    (profile : ProvisioningProfile)
    (admitted : Bool) :
    (acceptProfile profile admitted).Keeps claimMedium claimHazards
      (fun store => store.accepted = before.accepted ∨
        store.accepted = some profile.credentials)
      (fun _ store => store.accepted = before.accepted ∨
        store.accepted = some profile.credentials)
      before := by
  refine (acceptProfile_performs profile admitted).keeps ?_ ?_ (.inl rfl)
  · intro action outcome store accepts kept
    cases action with
    | writeCache cache =>
      have own : some cache.claim = some profile.credentials :=
        congrArg some accepts
      cases outcome with
      | succeeds | reports => exact .inr own
      | fails => exact kept
    | writeJournal journal =>
      have running : journal.operation ≠ .clear := by
        rw [show journal.operation = .accept from accepts]
        exact nofun
      cases outcome with
      | succeeds | reports =>
        simpa [CrashProgram.outcomeState, claimMedium, ClaimAction.apply,
          ClaimAction.report, running] using kept
      | fails => exact kept
    | writeSecret | writeBackup | writeReady | removeCache | removeJournal =>
      cases outcome <;> exact kept
  · rintro update store ⟨generation, rfl⟩ kept
    exact kept

/-- The cached profile is no older, and the accepted claim is the same. -/
structure Refreshed (before store : ClaimStore) : Prop where
  accepted : store.accepted = before.accepted
  revisions : ∀ cache ∈ before.cache, ∀ renewed ∈ store.cache,
    cache.profile.profileRevision ≤ renewed.profile.profileRevision

theorem Untouched.refreshed
    (untouched : Untouched before store) :
    Refreshed before store where
  accepted := untouched.accepted
  revisions := by
    intro cache cached renewed written
    have same := untouched.cache renewed written
    rw [Option.mem_def.mp cached] at same
    cases same
    exact Nat.le_refl _

/-- A refresh that would be applied is not of a lower revision. -/
def NotLower
    (store : ClaimStore)
    (profile : ProfileSnapshot)
    (admitted : Bool) : Prop :=
  ∀ cache ∈ store.cache, admitted = true →
    cache.profile.machineId = profile.machineId →
    cache.profile.machineCode = profile.machineCode →
    cache.profile.profileRevision ≤ profile.profileRevision

instance (store : ClaimStore) (profile : ProfileSnapshot) (admitted : Bool) :
    Decidable (NotLower store profile admitted) :=
  inferInstanceAs (Decidable (∀ cache ∈ store.cache, _ → _ → _ → _))

theorem acceptRefreshedProfile_refreshed
    (recoverable : Recoverable before)
    {profile : ProfileSnapshot}
    {admitted : Bool}
    (notLower : NotLower before profile admitted) :
    (acceptRefreshedProfile profile admitted).Keeps claimMedium claimHazards
      (Refreshed before) (fun _ => Refreshed before) before := by
  refine .bind (.weaken
    ((recoverClaimTransaction_keeps recoverable).and
      (recoverClaimTransaction_untouched before))
    (fun _ kept => kept.2.refreshed) ?_)
  rintro recovered start ⟨ended, untouched⟩
  have still := untouched.refreshed
  cases recovered with
  | false => exact still
  | true =>
    have settled : Settled start := ended
    refine .bind ?_
    cases cached : start.cache with
    | none =>
      simp only [getStore, CrashProgram.Keeps, cached]
      exact still
    | some accepted =>
      simp only [getStore, CrashProgram.Keeps, cached]
      split_ifs with identity revision admits
      · exact still
      · exact still
      · simp only [not_or, not_not, ne_eq] at identity
        have former := untouched.cache accepted cached
        have newer := notLower accepted former admits identity.1 identity.2
        have renewed (generation : Nat) : Refreshed before
            (ClaimAction.apply
              (.writeCache
                { generation, profile, claim := accepted.claim })
              start) := by
          refine ⟨?_, ?_⟩
          · refine Eq.trans ?_ untouched.accepted
            rw [← settled.held.cached, cached]
            rfl
          · intro cache written other own
            rw [Option.mem_def.mp written] at former
            cases former
            cases own
            exact newer
        refine .bind ⟨fun _ => still, fun outcome allowed => ?_⟩
        cases outcome with
        | fails => exact still
        | reports => exact renewed _
        | succeeds =>
          have done := renewed start.nextGeneration
          exact ⟨done.accepted, done.revisions⟩
      · exact still

/-- The steps of a clearing write its journal alone. -/
def ClaimAction.Clears : ClaimAction → Prop
  | writeCache _ => False
  | writeJournal journal => journal.operation = .clear
  | _ => True

theorem ClaimAction.Quiet.clears
    (action : ClaimAction)
    (quiet : action.Quiet) :
    action.Clears := by
  cases action with
  | writeCache cache | writeJournal journal => cases quiet
  | writeSecret | writeBackup | writeReady | removeCache | removeJournal =>
    trivial

theorem clearClaim_performs :
    clearClaim.Performs ClaimAction.Clears AssignsGeneration := by
  refine .bind (fun store => trivial) fun store => ?_
  refine CrashProgram.Performs.bind (performOne_performs ?_)
    fun journalled => ?_
  · exact rfl
  · cases journalled with
    | false => trivial
    | true =>
      exact performs_of_quiet ClaimAction.Quiet.clears
        (clearTransaction_quiet _)

theorem clearClaim_accepted (before : ClaimStore) :
    clearClaim.Keeps claimMedium claimHazards
      (fun store => store.accepted = before.accepted ∨ store.accepted = none)
      (fun _ store =>
        store.accepted = before.accepted ∨ store.accepted = none)
      before := by
  refine (clearClaim_performs).keeps ?_ ?_ (.inl rfl)
  · intro action outcome store clears kept
    cases action with
    | writeCache cache => cases clears
    | writeJournal journal =>
      have gone : (if journal.operation = .clear then none
          else store.accepted) = none := if_pos clears
      cases outcome with
      | succeeds | reports => exact .inr gone
      | fails => exact kept
    | writeSecret | writeBackup | writeReady | removeCache | removeJournal =>
      cases outcome <;> exact kept
  · rintro update store ⟨generation, rfl⟩ kept
    exact kept

/-- What an operation may do to the accepted claim. -/
def Changes (operation : ClaimOperation) (before after : ClaimStore) : Prop :=
  after.accepted = before.accepted ∨
    match operation with
    | .recover | .acceptRefreshedProfile _ _ => False
    | .acceptProfile profile _ => after.accepted = some profile.credentials
    | .clearClaim => after.accepted = none

/-- What holds after each step of a run. -/
structure ClaimStep
    (before : ClaimStore)
    (event : ClaimEvent)
    (after : ClaimStore) : Prop where
  /-- Without a journal, cache and credentials are those of one claim. -/
  held : after.journal = none → Held after
  changes : ∀ operation outcomes, event = .perform operation outcomes →
    Changes operation before after
  revisions : ∀ profile admitted outcomes,
    event = .perform (.acceptRefreshedProfile profile admitted) outcomes →
      ∀ cache ∈ before.cache, ∀ renewed ∈ after.cache,
        cache.profile.profileRevision ≤ renewed.profile.profileRevision

/-- Every step of the run is one of an atomic claim. -/
def ClaimAtomic (events : List ClaimEvent) : Prop :=
  ∀ leading event trailing before after,
    leading ++ event :: trailing = events →
    claimDaemon.run .unclaimed leading = some before →
    claimDaemon.step before event = some after →
    ClaimStep before.store event after.store

/-- The steps of an event survive, and a refresh is not of a lower revision. -/
def ClaimSurvives (daemon : ClaimDaemon) : ClaimEvent → Prop
  | .die => True
  | .perform operation outcomes =>
    operation.program.Meets claimMedium claimHazards daemon.store outcomes ∧
      match operation with
      | .acceptRefreshedProfile profile admitted =>
        NotLower daemon.store profile admitted
      | _ => True

instance (daemon : ClaimDaemon) :
    ∀ event, Decidable (ClaimSurvives daemon event)
  | .die => isTrue trivial
  | .perform .recover outcomes =>
    inferInstanceAs (Decidable (recoverClaimTransaction.Meets claimMedium
      claimHazards daemon.store outcomes ∧ True))
  | .perform (.acceptProfile profile admitted) outcomes =>
    inferInstanceAs (Decidable ((acceptProfile profile admitted).Meets
      claimMedium claimHazards daemon.store outcomes ∧ True))
  | .perform .clearClaim outcomes =>
    inferInstanceAs (Decidable (clearClaim.Meets claimMedium claimHazards
      daemon.store outcomes ∧ True))
  | .perform (.acceptRefreshedProfile profile admitted) outcomes =>
    inferInstanceAs (Decidable
      ((acceptRefreshedProfile profile admitted).Meets claimMedium
        claimHazards daemon.store outcomes ∧
          NotLower daemon.store profile admitted))

theorem Recoverable.held
    (recoverable : Recoverable store)
    (closed : store.journal = none) :
    Held store := by
  cases recoverable with
  | settled settled => exact settled.held
  | completing journal opened
  | clearing journal opened =>
    rw [closed] at opened
    cases opened
  | replacing journal replacing =>
    have opened := replacing.opened
    rw [closed] at opened
    cases opened

/-- A process that starts again finds what the last one left. -/
theorem Recoverable.restarted
    (recoverable : Recoverable store) :
    Recoverable (ClaimDaemon.restarted store).store := by
  cases recoverable with
  | settled settled =>
    exact .settled ⟨settled.closed, settled.held.cached,
      settled.held.secrets⟩
  | completing journal opened accepts cache written current held =>
    exact .completing journal opened accepts cache written current
      ⟨held.cached, held.secrets⟩
  | replacing journal replacing copied kept =>
    exact .replacing journal ⟨replacing.opened, replacing.accepts,
      replacing.older, replacing.cached⟩ copied kept
  | clearing journal opened clears gone =>
    exact .clearing journal opened clears gone

theorem operation_keeps
    (recoverable : Recoverable before)
    (operation : ClaimOperation) :
    operation.program.Keeps claimMedium claimHazards Recoverable
      (fun _ => Recoverable) before := by
  cases operation with
  | recover =>
    exact (recoverClaimTransaction_keeps recoverable).weaken
      (fun _ still => still) (fun _ _ ended => ended.recoverable)
  | acceptProfile profile admitted =>
    exact (acceptProfile_keeps recoverable profile admitted).weaken
      (fun _ still => still) (fun _ _ ended => ended.recoverable)
  | acceptRefreshedProfile profile admitted =>
    exact acceptRefreshedProfile_keeps recoverable profile admitted
  | clearClaim =>
    exact (clearClaim_keeps recoverable).weaken
      (fun _ still => still) (fun _ _ ended => ended.recoverable)

theorem operation_changes
    (recoverable : Recoverable before)
    (notLower : ∀ profile admitted,
      operation = .acceptRefreshedProfile profile admitted →
        NotLower before profile admitted) :
    operation.program.Keeps claimMedium claimHazards
      (Changes operation before) (fun _ => Changes operation before)
      before := by
  cases operation with
  | recover =>
    exact (recoverClaimTransaction_untouched before).weaken
      (fun _ kept => .inl kept.accepted) (fun _ _ kept => .inl kept.accepted)
  | acceptProfile profile admitted =>
    exact acceptProfile_accepted before profile admitted
  | acceptRefreshedProfile profile admitted =>
    exact (acceptRefreshedProfile_refreshed recoverable
      (notLower profile admitted rfl)).weaken
      (fun _ kept => .inl kept.accepted) (fun _ _ kept => .inl kept.accepted)
  | clearClaim => exact clearClaim_accepted before

theorem perform_step
    {outcomes : List Outcome}
    (step : claimDaemon.step daemon (.perform operation outcomes) = some next)
    (meets : operation.program.Meets claimMedium claimHazards daemon.store
      outcomes)
    {condition : ClaimStore → Prop}
    (restarts : ∀ store, condition store →
      condition (ClaimDaemon.restarted store).store)
    (keeps : operation.program.Keeps claimMedium claimHazards condition
      (fun _ => condition) daemon.store) :
    condition next.store := by
  have ran := keeps.run meets
  simp only [claimDaemon] at step
  split_ifs at step
  generalize ends : operation.program.run claimMedium daemon.store outcomes =
    last at step ran
  obtain ⟨store, result⟩ := last
  cases result with
  | none =>
    cases step
    exact restarts store ran
  | some succeeded =>
    cases step
    exact ran

theorem step_recoverable
    (recoverable : Recoverable daemon.store)
    (survives : ClaimSurvives daemon event)
    (step : claimDaemon.step daemon event = some next) :
    Recoverable next.store := by
  cases event with
  | die =>
    cases step
    exact recoverable.restarted
  | perform operation outcomes =>
    exact perform_step step survives.1 (fun _ still => still.restarted)
      (operation_keeps recoverable operation)

theorem unclaimed_recoverable : Recoverable ClaimDaemon.unclaimed.store :=
  .settled ⟨rfl, rfl, rfl⟩

theorem claimStep_of_survives
    (recoverable : Recoverable daemon.store)
    (survives : ClaimSurvives daemon event)
    (step : claimDaemon.step daemon event = some next) :
    ClaimStep daemon.store event next.store where
  held := (step_recoverable recoverable survives step).held
  changes := by
    rintro operation outcomes rfl
    refine perform_step step survives.1 (fun _ kept => kept) ?_
    refine operation_changes recoverable ?_
    rintro profile admitted rfl
    exact survives.2
  revisions := by
    rintro profile admitted outcomes rfl
    have refreshed : Refreshed daemon.store next.store := by
      refine perform_step step survives.1 ?_
        (acceptRefreshedProfile_refreshed recoverable survives.2)
      intro store kept
      exact ⟨kept.accepted, kept.revisions⟩
    exact refreshed.revisions

/--
Accepting a claim is atomic over crashes in a run whose steps all survive, and
whose refreshes are not of a lower revision.
-/
theorem claim_is_crash_atomic
    {events : List ClaimEvent}
    (survives : claimDaemon.RunMeets ClaimSurvives .unclaimed events) :
    ClaimAtomic events := by
  rintro leading event trailing before after rfl run step
  obtain ⟨first, later⟩ := survives.split
  have recoverable := Machine.run_keeps_of_meets step_recoverable
    unclaimed_recoverable first run
  exact claimStep_of_survives recoverable (later before run).1 step

/-- The profile of a claim whose secrets are all this one. -/
def profileOf (secret : Nat) : ProvisioningProfile where
  snapshot :=
    { machineId := 1, machineCode := 1, profileRevision := 1, content := 0 }
  credentials :=
    { machineSecret := secret, mqttSigningSecret := secret
      mqttPassword := none }

def succeedTimes (count : Nat) : List Outcome :=
  List.replicate count .succeeds

/-- The machine starts and accepts a first claim. -/
def firstClaim : List ClaimEvent :=
  [.perform .recover [],
    .perform (.acceptProfile (profileOf 1) true) (succeedTimes 14)]

/--
The second secret of the next claim cannot be written, and neither can the
first one be given back.
-/
def failedRollBack : ClaimEvent :=
  .perform (.acceptProfile (profileOf 2) true)
    (succeedTimes 6 ++ [.fails, .fails] ++ succeedTimes 5)

/-- The machine secret of the second claim stays with the first cache. -/
theorem failedRollBack_mixes_claims :
    ¬ ClaimAtomic (firstClaim ++ [failedRollBack]) := by
  intro atomic
  have mixed : ∃ before after,
      claimDaemon.run .unclaimed firstClaim = some before ∧
      claimDaemon.step before failedRollBack = some after ∧
      after.store.journal = none ∧
      after.store.secrets .machineSecret = some 2 ∧
      after.store.accepted = some (profileOf 1).credentials :=
    ⟨_, _, rfl, rfl, rfl, rfl, rfl⟩
  obtain ⟨before, after, run, step, closed, secret, accepted⟩ := mixed
  have kept := atomic firstClaim failedRollBack [] before after rfl run step
  have secrets := (kept.held closed).secrets
  rw [accepted] at secrets
  rw [secrets] at secret
  exact absurd secret (by decide)

/-- The process dies while the secrets are replaced, and recovers. -/
def interruptedClaim : List ClaimEvent :=
  firstClaim ++
    [.perform (.acceptProfile (profileOf 2) true) (succeedTimes 6),
      .perform .recover (succeedTimes 8)]

theorem interruptedClaim_is_atomic : ClaimAtomic interruptedClaim :=
  claim_is_crash_atomic (by decide)

end VendingSystem.Daemon
