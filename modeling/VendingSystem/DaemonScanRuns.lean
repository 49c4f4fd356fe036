import VendingSystem.DaemonScanAttempts

namespace VendingSystem.Daemon

/-!
# Every run of the scanner and its submissions

An arm's epoch is its name: the loop's bytes, the completed frames and the
codes underway each belong to one epoch, and an epoch that was left never
comes back.
-/

/-- The armer is the same, or has left its epoch without taking its arm. -/
def PaymentCodeScanArmer.Moves (before after : PaymentCodeScanArmer) : Prop :=
  after = before ∨
    before.epoch < after.epoch ∧
      ∀ state, after.arm = some state →
        ∃ arm, state = .armed arm ∧ arm.epoch = after.epoch

namespace PaymentCodeScanArmer.Moves

theorem armAt
    (armer : PaymentCodeScanArmer)
    (orderNo attemptId armedAtMs : Nat) :
    armer.Moves (armer.armAt orderNo attemptId armedAtMs) := by
  unfold PaymentCodeScanArmer.armAt
  split
  · exact .inl rfl
  · refine .inr ⟨Nat.lt_succ_self _, fun state isState => ?_⟩
    cases isState
    exact ⟨_, rfl, rfl⟩

theorem clear (armer : PaymentCodeScanArmer) : armer.Moves armer.clear :=
  .inr ⟨Nat.lt_succ_self _, fun _ isState => by cases isState⟩

theorem clearMatching
    (armer : PaymentCodeScanArmer)
    (expected : PaymentCodeScanArm) :
    armer.Moves (armer.clearMatching expected) := by
  unfold PaymentCodeScanArmer.clearMatching
  split
  · exact clear armer
  · exact .inl rfl

end PaymentCodeScanArmer.Moves

/-- The arm was put in an epoch, and is in force as long as that lasts. -/
structure PaymentCodeScanArmer.Puts
    (armer : PaymentCodeScanArmer)
    (epoch : Nat)
    (arm : PaymentCodeScanArm) : Prop where
  past : epoch ≤ armer.epoch
  named : arm.epoch = epoch
  current : armer.epoch = epoch → armer.arm = some (.armed arm)

variable {arm : PaymentCodeScanArm} {epoch : Nat} {daemon : ScanDaemon}
  {armer : PaymentCodeScanArmer} {store : Store} {submission : Submission}
  {loop : ScannerLoop} {event : ScanEvent}

theorem PaymentCodeScanArmer.Puts.of_lt
    {before after : PaymentCodeScanArmer}
    (puts : before.Puts epoch arm)
    (later : before.epoch < after.epoch) : after.Puts epoch arm where
  past := puts.past.trans later.le
  named := puts.named
  current isCurrent := by
    have := puts.past
    omega

theorem PaymentCodeScanArmer.Puts.moves
    {before after : PaymentCodeScanArmer}
    (puts : before.Puts epoch arm)
    (moves : before.Moves after) : after.Puts epoch arm := by
  rcases moves with rfl | ⟨later, _⟩
  · exact puts
  · exact puts.of_lt later

/-- The bytes are all of one epoch, and what is framed is among them. -/
structure LoopInvariant
    (armer : PaymentCodeScanArmer)
    (loop : ScannerLoop) : Prop where
  framed : loop.framer.FedBy (loop.fed.map ReceivedByte.byte)
  fed : ∀ received ∈ loop.fed, ∃ epoch,
    loop.observedArmEpoch = some epoch ∧ armer.Puts epoch received.arm
  checked : ∀ checked ∈ loop.checked,
    loop.observedArmEpoch = some checked.epoch ∧
      armer.Puts checked.epoch checked.arm
  completed : ∀ frame ∈ loop.completed,
    (∀ received ∈ frame.received, armer.Puts frame.epoch received.arm) ∧
      frame.raw.authCode.Sublist (frame.received.map ReceivedByte.byte)

/-- A code whose arm was taken, while or after it is in force. -/
structure TakenCode
    (armer : PaymentCodeScanArmer)
    (scan : ArmedPaymentCode) : Prop where
  armed : ∀ received ∈ scan.received, received.arm = scan.arm
  framed : scan.raw.authCode.Sublist (scan.received.map ReceivedByte.byte)
  past : scan.arm.epoch < armer.epoch
  taken : ∀ state, armer.arm = some state →
    state.arm.epoch = scan.arm.epoch → state = .consumed scan.arm

/-- An attempt that was begun: its arm is gone, and its order has it. -/
structure DoneAttempt
    (armer : PaymentCodeScanArmer)
    (store : Store)
    (attempt : BegunAttempt) : Prop where
  past : attempt.scan.arm.epoch < armer.epoch
  gone : ∀ state, armer.arm = some state →
    state.arm.epoch ≠ attempt.scan.arm.epoch
  stored : (store.attemptOf attempt.orderNo).isSome = true

/-- What a phase of the submission has established. -/
def PhaseInvariant
    (daemon : ScanDaemon)
    (scan : ArmedPaymentCode) : SubmissionPhase → Prop
  | .beginning snapshot =>
    scan.arm.orderNo = snapshot.orderNo ∧
      ∀ attempt ∈ daemon.begun,
        attempt.orderNo ≠ snapshot.orderNo ∧
          attempt.scan.arm.epoch ≠ scan.arm.epoch
  | .checking attempt _
  | .submitting attempt _ _
  | .finishing attempt _ _ => attempt ∈ daemon.begun
  | _ => True

structure ScanInvariant (daemon : ScanDaemon) : Prop where
  named : ∀ arm, daemon.armer.arm = some (.armed arm) →
    arm.epoch = daemon.armer.epoch
  held : ∀ arm, daemon.armer.arm = some (.consumed arm) →
    ∃ scan ∈ daemon.underway, scan.arm = arm
  loop : LoopInvariant daemon.armer daemon.loop
  underway : ∀ scan ∈ daemon.underway, TakenCode daemon.armer scan
  done : ∀ attempt ∈ daemon.begun,
    DoneAttempt daemon.armer daemon.store attempt
  epochs : (daemon.begun.map fun attempt => attempt.scan.arm.epoch).Nodup
  orders : (daemon.begun.map BegunAttempt.orderNo).Nodup
  sent : ∀ attempt ∈ daemon.sent, attempt ∈ daemon.begun
  phase : ∀ submission, daemon.submission = some submission →
    PhaseInvariant daemon submission.scan submission.phase

/-- The state keeps what a run has to satisfy. -/
theorem ScanInvariant.safe
    (invariant : ScanInvariant daemon) : daemon.Safe where
  arms := by
    have distinct : ((daemon.begun.map fun attempt =>
        attempt.scan.arm).map PaymentCodeScanArm.epoch).Nodup := by
      rw [List.map_map]
      exact invariant.epochs
    exact distinct.of_map _
  orders := invariant.orders
  sent := invariant.sent

theorem ScanInvariant.initial
    (store : Store)
    (suffix : ScannerFrameSuffix) :
    ScanInvariant (.initial store suffix) where
  named _ isArm := by cases isArm
  held _ isArm := by cases isArm
  loop :=
    { framed := List.Sublist.refl _
      fed := fun _ isFed => absurd isFed List.not_mem_nil
      checked := fun _ isChecked => by cases isChecked
      completed := fun _ isFrame => absurd isFrame List.not_mem_nil }
  underway _ isScan := absurd isScan List.not_mem_nil
  done _ isBegun := absurd isBegun List.not_mem_nil
  epochs := List.nodup_nil
  orders := List.nodup_nil
  sent _ isSent := absurd isSent List.not_mem_nil
  phase _ isSubmission := by cases isSubmission

section Moving

variable {before after : PaymentCodeScanArmer}

theorem LoopInvariant.moves
    (invariant : LoopInvariant before loop)
    (moves : ∀ {epoch arm}, before.Puts epoch arm → after.Puts epoch arm) :
    LoopInvariant after loop where
  framed := invariant.framed
  fed received isFed := by
    obtain ⟨epoch, observed, puts⟩ := invariant.fed received isFed
    exact ⟨epoch, observed, moves puts⟩
  checked checked isChecked :=
    ⟨(invariant.checked checked isChecked).1,
      moves (invariant.checked checked isChecked).2⟩
  completed frame isFrame :=
    ⟨fun received isReceived =>
      moves ((invariant.completed frame isFrame).1 received isReceived),
      (invariant.completed frame isFrame).2⟩

theorem TakenCode.moves
    {scan : ArmedPaymentCode}
    (taken : TakenCode before scan)
    (moves : before.Moves after) : TakenCode after scan := by
  rcases moves with rfl | ⟨later, onlyNew⟩
  · exact taken
  · refine ⟨taken.armed, taken.framed, taken.past.trans later, ?_⟩
    intro state isState sameEpoch
    obtain ⟨arm, rfl, isNew⟩ := onlyNew state isState
    have past := taken.past
    simp only [PaymentCodeScanArmState.arm] at sameEpoch
    omega

theorem DoneAttempt.moves
    {attempt : BegunAttempt}
    (done : DoneAttempt before store attempt)
    (moves : before.Moves after) : DoneAttempt after store attempt := by
  rcases moves with rfl | ⟨later, onlyNew⟩
  · exact done
  · refine ⟨done.past.trans later, ?_, done.stored⟩
    intro state isState sameEpoch
    obtain ⟨arm, rfl, isNew⟩ := onlyNew state isState
    have past := done.past
    simp only [PaymentCodeScanArmState.arm] at sameEpoch
    omega

end Moving

theorem ScanInvariant.moves
    (invariant : ScanInvariant daemon)
    (moves : daemon.armer.Moves armer) :
    ScanInvariant { daemon with armer } where
  named arm isArm := by
    rcases moves with rfl | ⟨_, onlyNew⟩
    · exact invariant.named arm isArm
    · obtain ⟨other, same, isNew⟩ := onlyNew _ isArm
      cases same
      exact isNew
  held arm isArm := by
    rcases moves with rfl | ⟨_, onlyNew⟩
    · exact invariant.held arm isArm
    · obtain ⟨_, same, _⟩ := onlyNew _ isArm
      cases same
  loop := invariant.loop.moves fun puts => puts.moves moves
  underway scan isScan := (invariant.underway scan isScan).moves moves
  done attempt isBegun := (invariant.done attempt isBegun).moves moves
  epochs := invariant.epochs
  orders := invariant.orders
  sent := invariant.sent
  phase := invariant.phase

theorem ScanInvariant.stores
    (invariant : ScanInvariant daemon)
    (keeps : daemon.store.AttemptsKept store) :
    ScanInvariant { daemon with store } where
  named := invariant.named
  held := invariant.held
  loop := invariant.loop
  underway := invariant.underway
  done attempt isBegun :=
    ⟨(invariant.done attempt isBegun).past,
      (invariant.done attempt isBegun).gone,
      keeps _ (invariant.done attempt isBegun).stored⟩
  epochs := invariant.epochs
  orders := invariant.orders
  sent := invariant.sent
  phase := invariant.phase

theorem ScanInvariant.inPhase
    {phase : SubmissionPhase}
    (invariant : ScanInvariant daemon)
    (isSubmission : daemon.submission = some submission)
    (established : PhaseInvariant daemon submission.scan phase) :
    ScanInvariant (daemon.inPhase submission.scan phase) := by
  have same : (daemon.inPhase submission.scan phase).underway =
      daemon.underway := by
    simp [ScanDaemon.underway, ScanDaemon.inPhase, isSubmission]
  exact {
    named := invariant.named
    held := fun arm isArm => same ▸ invariant.held arm isArm
    loop := invariant.loop
    underway := fun scan isScan => invariant.underway scan (same ▸ isScan)
    done := invariant.done
    epochs := invariant.epochs
    orders := invariant.orders
    sent := invariant.sent
    phase := by
      intro other isOther
      cases isOther
      exact established }

theorem ScanInvariant.loops
    (invariant : ScanInvariant daemon)
    (isLoop : LoopInvariant daemon.armer loop)
    (same : loop.sending = daemon.loop.sending) :
    ScanInvariant { daemon with loop } := by
  have underway : ({ daemon with loop } : ScanDaemon).underway =
      daemon.underway := by
    simp [ScanDaemon.underway, same]
  exact {
    named := invariant.named
    held := fun arm isArm => underway ▸ invariant.held arm isArm
    loop := isLoop
    underway := fun scan isScan =>
      invariant.underway scan (underway ▸ isScan)
    done := invariant.done
    epochs := invariant.epochs
    orders := invariant.orders
    sent := invariant.sent
    phase := invariant.phase }

theorem LoopInvariant.receive
    (invariant : LoopInvariant armer loop)
    (named : ∀ arm, armer.arm = some (.armed arm) → arm.epoch = armer.epoch)
    (reading : loop.isReading = true)
    (bytes : List UInt8)
    (nowMs : Nat) : LoopInvariant armer (loop.receive armer bytes nowMs) := by
  have observed : (loop.observe armer.epoch).observedArmEpoch =
      some armer.epoch := by
    unfold ScannerLoop.observe
    split
    next same => exact same
    · rfl
  have isChecked : ∀ checked ∈ armer.accepting?.map fun arm =>
        ({ bytes, nowMs, arm, epoch := armer.epoch } : CheckedBytes),
      (loop.observe armer.epoch).observedArmEpoch = some checked.epoch ∧
        armer.Puts checked.epoch checked.arm := by
    intro checked isMade
    obtain ⟨arm, accepts, rfl⟩ := Option.map_eq_some_iff.mp isMade
    have isArmed : armer.arm = some (.armed arm) := by
      unfold PaymentCodeScanArmer.accepting? at accepts
      split at accepts
      next same =>
        cases accepts
        exact same
      · cases accepts
    exact ⟨observed, le_rfl, named arm isArmed, fun _ => isArmed⟩
  have none : loop.completed = [] := by
    simp only [ScannerLoop.isReading, Bool.and_eq_true, decide_eq_true_eq]
      at reading
    exact reading.1.2
  have noFrame : ∀ frame ∈ (loop.receive armer bytes nowMs).completed,
      False := by
    intro frame isFrame
    have isOld : frame ∈ loop.completed := by
      unfold ScannerLoop.receive ScannerLoop.observe at isFrame
      split at isFrame
      · exact isFrame
      · exact isFrame
    rw [none] at isOld
    cases isOld
  refine ⟨?_, ?_, isChecked, fun frame isFrame =>
    (noFrame frame isFrame).elim⟩
  · unfold ScannerLoop.receive ScannerLoop.observe
    split
    · exact invariant.framed
    · exact List.nil_sublist _
  · unfold ScannerLoop.receive ScannerLoop.observe
    split
    · exact invariant.fed
    · exact fun _ isFed => absurd isFed List.not_mem_nil

theorem LoopInvariant.push
    {checked : CheckedBytes}
    (invariant : LoopInvariant armer loop)
    (isChecked : loop.checked = some checked) :
    LoopInvariant armer (loop.push checked) := by
  obtain ⟨observed, puts⟩ := invariant.checked checked isChecked
  have bytes : (loop.push checked).fed.map ReceivedByte.byte =
      loop.fed.map ReceivedByte.byte ++ checked.bytes := by
    simp [ScannerLoop.push, Function.comp_def]
  obtain ⟨framed, codes⟩ :=
    invariant.framed.pushBytes checked.bytes checked.nowMs
  have allPut : ∀ received ∈ (loop.push checked).fed,
      armer.Puts checked.epoch received.arm := by
    intro received isFed
    rcases List.mem_append.mp isFed with isOld | isNew
    · obtain ⟨epoch, isObserved, isPut⟩ := invariant.fed received isOld
      cases isObserved.symm.trans observed
      exact isPut
    · obtain ⟨byte, _, rfl⟩ := List.mem_map.mp isNew
      exact puts
  refine ⟨?_, fun received isFed =>
    ⟨checked.epoch, observed, allPut received isFed⟩,
    fun _ isNone => (by cases isNone), ?_⟩
  · rw [bytes]
    exact framed
  · intro frame isFrame
    obtain ⟨raw, isRaw, rfl⟩ := List.mem_map.mp isFrame
    refine ⟨allPut, ?_⟩
    show raw.authCode.Sublist ((loop.push checked).fed.map ReceivedByte.byte)
    rw [bytes]
    exact codes raw isRaw

theorem consumeAtEpoch_some
    {before after : PaymentCodeScanArmer}
    {expectedEpoch scannedAtMs : Nat}
    (consumed : before.consumeAtEpoch expectedEpoch scannedAtMs =
      some (arm, after)) :
    before.epoch = expectedEpoch ∧ before.arm = some (.armed arm) ∧
      after.epoch = before.epoch + 1 ∧ after.arm = some (.consumed arm) := by
  unfold PaymentCodeScanArmer.consumeAtEpoch at consumed
  split at consumed
  · cases consumed
  next same =>
  split at consumed
  · cases consumed
  next accepted accepts =>
  split at consumed
  · cases consumed
  cases consumed
  refine ⟨not_not.mp same, ?_, rfl, rfl⟩
  unfold PaymentCodeScanArmer.accepting? at accepts
  split at accepts
  next isArmed =>
    cases accepts
    exact isArmed
  · cases accepts

/-- The code of a frame belongs to the arm that is taken for it. -/
theorem ScanInvariant.consume
    {frame : CompletedFrame}
    {rest : List CompletedFrame}
    (invariant : ScanInvariant daemon)
    (isFree : daemon.loop.sending = none)
    (isCompleted : daemon.loop.completed = frame :: rest)
    (scannerEventId : String) :
    ScanInvariant (daemon.consume frame rest scannerEventId) := by
  have isFrame := invariant.loop.completed frame
    (isCompleted ▸ List.mem_cons_self)
  have others : ∀ other ∈ rest, other ∈ daemon.loop.completed :=
    fun other isOther => isCompleted ▸ List.mem_cons_of_mem _ isOther
  unfold ScanDaemon.consume
  split
  · exact invariant.loops
      { framed := invariant.loop.framed
        fed := invariant.loop.fed
        checked := invariant.loop.checked
        completed := fun other isOther =>
          invariant.loop.completed other (others other isOther) } rfl
  next arm armer consumed =>
  obtain ⟨sameEpoch, isArmed, next, isTaken⟩ := consumeAtEpoch_some consumed
  have later : daemon.armer.epoch < armer.epoch := by omega
  have isNamed := invariant.named arm isArmed
  have underway : daemon.underway =
      daemon.queue ++ (daemon.submission.map Submission.scan).toList := by
    simp [ScanDaemon.underway, isFree]
  have old : ∀ scan ∈ daemon.underway, TakenCode armer scan := by
    intro scan isScan
    have taken := invariant.underway scan isScan
    refine ⟨taken.armed, taken.framed, taken.past.trans later, ?_⟩
    intro state isState sameArm
    cases isState.symm.trans isTaken
    have same := taken.taken _ isArmed sameArm
    cases same
  have new : TakenCode armer
      { raw := frame.raw
        arm
        scannerEventId
        received := frame.received } := by
    refine ⟨?_, isFrame.2, isNamed ▸ later, ?_⟩
    · intro received isReceived
      have same := (isFrame.1 received isReceived).current sameEpoch
      cases same.symm.trans isArmed
      rfl
    · intro state isState _
      exact Option.some.inj (isState.symm.trans isTaken)
  exact {
    named := by
      intro other isOther
      cases isOther.symm.trans isTaken
    held := by
      intro other isOther
      cases isOther.symm.trans isTaken
      exact ⟨_, List.mem_append_left _ (List.mem_append_left _
        List.mem_cons_self), rfl⟩
    loop :=
      { framed := invariant.loop.framed
        fed := fun received isFed => by
          obtain ⟨epoch, observed, puts⟩ := invariant.loop.fed received isFed
          exact ⟨epoch, observed, puts.of_lt later⟩
        checked := fun checked isChecked =>
          ⟨(invariant.loop.checked checked isChecked).1,
            (invariant.loop.checked checked isChecked).2.of_lt later⟩
        completed := fun other isOther => by
          have isOld := invariant.loop.completed other (others other isOther)
          exact ⟨fun received isReceived =>
            (isOld.1 received isReceived).of_lt later, isOld.2⟩ }
    underway := by
      intro scan isScan
      rw [ScanDaemon.underway, List.append_assoc] at isScan
      rcases List.mem_append.mp isScan with isNew | isOld
      · rw [List.mem_singleton.mp isNew]
        exact new
      · exact old scan (underway ▸ isOld)
    done := by
      intro attempt isBegun
      have done := invariant.done attempt isBegun
      refine ⟨done.past.trans later, ?_, done.stored⟩
      intro state isState
      cases isState.symm.trans isTaken
      have gone := done.gone _ isArmed
      exact gone
    epochs := invariant.epochs
    orders := invariant.orders
    sent := invariant.sent
    phase := invariant.phase }

/-- A code that goes on is still underway. -/
theorem ScanInvariant.same_underway
    {before after : ScanDaemon}
    (invariant : ScanInvariant before)
    (armer : after.armer = before.armer)
    (store : after.store = before.store)
    (begun : after.begun = before.begun)
    (sent : after.sent = before.sent)
    (loop : LoopInvariant before.armer after.loop)
    (underway : ∀ scan, scan ∈ after.underway ↔ scan ∈ before.underway)
    (phase : ∀ submission, after.submission = some submission →
      PhaseInvariant before submission.scan submission.phase) :
    ScanInvariant after where
  named := by
    rw [armer]
    exact invariant.named
  held := by
    simp only [armer, underway]
    exact invariant.held
  loop := by
    rw [armer]
    exact loop
  underway := by
    simp only [armer, underway]
    exact invariant.underway
  done := by
    rw [armer, store, begun]
    exact invariant.done
  epochs := by
    rw [begun]
    exact invariant.epochs
  orders := by
    rw [begun]
    exact invariant.orders
  sent := by
    rw [begun, sent]
    exact invariant.sent
  phase submission isSubmission := by
    have established := phase submission isSubmission
    unfold PhaseInvariant at established ⊢
    rw [begun]
    exact established

theorem mem_underway_of_submission
    (isSubmission : daemon.submission = some submission) :
    submission.scan ∈ daemon.underway := by
  simp [ScanDaemon.underway, isSubmission]

theorem ScanInvariant.drop
    (invariant : ScanInvariant daemon)
    (isSubmission : daemon.submission = some submission)
    (released :
      daemon.armer.arm ≠ some (.consumed submission.scan.arm)) :
    ScanInvariant { daemon with submission := none } := by
  have underway : daemon.underway =
      ({ daemon with submission := none } : ScanDaemon).underway ++
        [submission.scan] := by
    simp [ScanDaemon.underway, isSubmission]
  exact {
    named := invariant.named
    held := by
      intro arm isArm
      obtain ⟨scan, isScan, same⟩ := invariant.held arm isArm
      rw [underway] at isScan
      rcases List.mem_append.mp isScan with isOther | isOwn
      · exact ⟨scan, isOther, same⟩
      · rw [List.mem_singleton.mp isOwn] at same
        rw [← same] at isArm
        exact absurd isArm released
    loop := invariant.loop
    underway := fun scan isScan => invariant.underway scan
      (underway ▸ List.mem_append_left _ isScan)
    done := invariant.done
    epochs := invariant.epochs
    orders := invariant.orders
    sent := invariant.sent
    phase := fun _ isNone => by cases isNone }

theorem clearMatching_releases
    (armer : PaymentCodeScanArmer)
    (expected : PaymentCodeScanArm)
    (state : PaymentCodeScanArmState)
    (isState : (armer.clearMatching expected).arm = some state) :
    state.arm ≠ expected := by
  unfold PaymentCodeScanArmer.clearMatching at isState
  split at isState
  · cases isState
  next differs =>
    rw [isState] at differs
    simpa using differs

section

variable (invariant : ScanInvariant daemon)

include invariant

theorem ScanInvariant.lock
    (isSubmission : daemon.submission = some submission) :
    ScanInvariant (daemon.lock submission.scan) := by
  unfold ScanDaemon.lock
  split
  next snapshot shown =>
    split
    next holds =>
      obtain ⟨ordered, consumed, awaits⟩ := holds
      refine invariant.inPhase isSubmission ⟨ordered, ?_⟩
      intro attempt isBegun
      have done := invariant.done attempt isBegun
      constructor
      · intro sameOrder
        obtain ⟨session, _, found, _, _, sameAttempt⟩ :=
          Store.currentTransaction_some shown
        have stored := done.stored
        simp only [CurrentTransaction.awaitsPaymentCode, Bool.and_eq_true,
          sameAttempt, Option.isNone_iff_eq_none] at awaits
        rw [sameOrder, Store.attemptOf, found, Option.bind_some,
          awaits.2] at stored
        cases stored
      · intro sameEpoch
        simp only [PaymentCodeScanArmer.isConsumed, decide_eq_true_eq]
          at consumed
        exact done.gone _ consumed sameEpoch.symm
    · exact invariant.inPhase isSubmission trivial
  · exact invariant.inPhase isSubmission trivial

/-- Beginning an attempt uses up the arm and the order. -/
theorem ScanInvariant.begin
    {snapshot : CurrentTransaction}
    (isSubmission : daemon.submission = some submission)
    (isBeginning : submission.phase = .beginning snapshot)
    (input : SubmissionInput) :
    ScanInvariant (daemon.begin submission.scan snapshot input) := by
  have established := invariant.phase submission isSubmission
  rw [isBeginning] at established
  obtain ⟨ordered, others⟩ := established
  have taken := invariant.underway _ (mem_underway_of_submission isSubmission)
  unfold ScanDaemon.begin
  split
  · exact invariant.inPhase isSubmission trivial
  next store begun =>
  obtain ⟨_, keeps, stored⟩ := beginPaymentCodeAttempt_ok begun
  have moved : ScanInvariant (({ daemon with
      store
      armer := daemon.armer.clearMatching submission.scan.arm } :
        ScanDaemon).inPhase submission.scan .ending) :=
    ((invariant.stores keeps).moves
      (.clearMatching daemon.armer submission.scan.arm)).inPhase
        isSubmission trivial
  have later : daemon.armer.epoch ≤
      (daemon.armer.clearMatching submission.scan.arm).epoch := by
    rcases PaymentCodeScanArmer.Moves.clearMatching daemon.armer
        submission.scan.arm with same | ⟨later, _⟩
    · rw [same]
    · exact later.le
  exact {
    named := moved.named
    held := moved.held
    loop := moved.loop
    underway := moved.underway
    done := by
      intro attempt isBegun
      rcases List.mem_cons.mp isBegun with rfl | isOld
      · refine ⟨taken.past.trans_le later, ?_, stored⟩
        intro state isState sameEpoch
        have isTaken := taken.moves
          (.clearMatching daemon.armer submission.scan.arm)
        have same := isTaken.taken state isState sameEpoch
        apply clearMatching_releases _ _ state isState
        rw [same]
        rfl
      · exact moved.done attempt isOld
    epochs := by
      rw [List.map_cons, List.nodup_cons]
      refine ⟨?_, moved.epochs⟩
      intro isOld
      obtain ⟨attempt, isBegun, same⟩ := List.mem_map.mp isOld
      exact (others attempt isBegun).2 same
    orders := by
      rw [List.map_cons, List.nodup_cons]
      refine ⟨?_, moved.orders⟩
      intro isOld
      obtain ⟨attempt, isBegun, same⟩ := List.mem_map.mp isOld
      exact (others attempt isBegun).1 same
    sent := fun attempt isSent =>
      List.mem_cons_of_mem _ (moved.sent attempt isSent)
    phase := by
      intro other isOther
      cases isOther
      exact List.mem_cons_self }

theorem ScanInvariant.submit
    {attempt : BegunAttempt}
    (isSubmission : daemon.submission = some submission)
    (isBegun : attempt ∈ daemon.begun)
    (snapshot : CurrentTransaction)
    (retries : Nat)
    (input : SubmissionInput) :
    ScanInvariant
      (daemon.submit submission.scan attempt snapshot retries input) := by
  have sends : ScanInvariant { daemon with sent := attempt :: daemon.sent } :=
    { named := invariant.named
      held := invariant.held
      loop := invariant.loop
      underway := invariant.underway
      done := invariant.done
      epochs := invariant.epochs
      orders := invariant.orders
      sent := by
        intro other isSent
        rcases List.mem_cons.mp isSent with rfl | isOld
        · exact isBegun
        · exact invariant.sent other isOld
      phase := invariant.phase }
  unfold ScanDaemon.submit
  split
  · simp only
    split
    · exact sends.inPhase isSubmission isBegun
    · exact sends.inPhase isSubmission isBegun
  · exact invariant.inPhase isSubmission trivial

theorem ScanInvariant.refresh
    (isSubmission : daemon.submission = some submission)
    (snapshot : CurrentTransaction)
    (input : SubmissionInput) :
    ScanInvariant (daemon.refresh submission.scan snapshot input) := by
  unfold ScanDaemon.refresh
  simp only
  split
  next store stored =>
    have keeps : daemon.store.AttemptsKept store := by
      split at stored
      · exact .applyBackendOrderStatus stored
      · exact .upsertOrderSession stored
    exact (invariant.stores keeps).inPhase isSubmission trivial
  · exact invariant.inPhase isSubmission trivial

/-- Each step of a submission keeps the invariant. -/
theorem ScanInvariant.advance
    (isSubmission : daemon.submission = some submission)
    (input : SubmissionInput) :
    ScanInvariant
      (daemon.advance submission.scan input submission.phase) := by
  have established := invariant.phase submission isSubmission
  cases phase : submission.phase with
  | received =>
    unfold ScanDaemon.advance
    simp only
    split
    · exact invariant.inPhase isSubmission trivial
    next notHeld =>
      refine invariant.drop isSubmission fun held => notHeld ?_
      simp [PaymentCodeScanArmer.isConsumed, held]
  | guarding =>
    unfold ScanDaemon.advance
    simp only
    split
    · exact invariant.inPhase isSubmission trivial
    · exact invariant.inPhase isSubmission trivial
  | locking => exact invariant.lock isSubmission
  | beginning snapshot => exact invariant.begin isSubmission phase input
  | checking attempt snapshot =>
    rw [phase] at established
    unfold ScanDaemon.advance
    simp only
    split
    · exact invariant.inPhase isSubmission established
    · exact invariant.inPhase isSubmission trivial
  | submitting attempt snapshot retries =>
    rw [phase] at established
    exact invariant.submit isSubmission established snapshot retries input
  | finishing attempt snapshot response =>
    have stored := invariant.stores (.finishPaymentCodeAttempt daemon.store
      attempt.orderNo (response.getD .unreachable) input.now)
    unfold ScanDaemon.advance ScanDaemon.finish
    simp only
    split
    · exact stored.inPhase isSubmission trivial
    · exact stored.inPhase isSubmission trivial
  | refreshing snapshot => exact invariant.refresh isSubmission snapshot input
  | ending =>
    refine (invariant.moves (.clearMatching daemon.armer _)).drop
      isSubmission fun held => ?_
    exact clearMatching_releases _ _ _ held rfl

end

theorem ScanInvariant.step
    {before after : ScanDaemon}
    (invariant : ScanInvariant before)
    (step : scanMachine.step before event = some after) :
    ScanInvariant after := by
  cases event with
  | reopen suffix =>
    simp only [scanMachine, ScanDaemon.step, Option.ite_none_right_eq_some]
      at step
    obtain ⟨reading, same⟩ := step
    cases same
    simp only [ScannerLoop.isReading, Bool.and_eq_true,
      Option.isNone_iff_eq_none] at reading
    exact invariant.loops
      { framed := List.Sublist.refl _
        fed := fun _ isFed => absurd isFed List.not_mem_nil
        checked := fun _ isChecked => by cases isChecked
        completed := fun _ isFrame => absurd isFrame List.not_mem_nil }
      reading.2.symm
  | receive bytes nowMs =>
    simp only [scanMachine, ScanDaemon.step, Option.ite_none_right_eq_some,
      Bool.and_eq_true] at step
    obtain ⟨⟨reading, _⟩, same⟩ := step
    cases same
    refine invariant.loops
      (invariant.loop.receive invariant.named reading bytes nowMs) ?_
    unfold ScannerLoop.receive ScannerLoop.observe
    split
    · rfl
    · rfl
  | push =>
    obtain ⟨checked, isChecked, rfl⟩ := Option.map_eq_some_iff.mp step
    exact invariant.loops (invariant.loop.push isChecked) rfl
  | consume scannerEventId =>
    simp only [scanMachine, ScanDaemon.step] at step
    split at step
    next frame rest isFree isCompleted =>
      cases step
      exact invariant.consume isFree isCompleted scannerEventId
    · cases step
  | send =>
    obtain ⟨scan, isSending, rfl⟩ := Option.map_eq_some_iff.mp step
    refine invariant.same_underway rfl rfl rfl rfl
      ⟨invariant.loop.framed, invariant.loop.fed, invariant.loop.checked,
        invariant.loop.completed⟩ (fun other => ?_) invariant.phase
    simp only [ScanDaemon.underway, isSending, Option.toList_none,
      Option.toList_some, List.mem_append, List.mem_singleton,
      List.nil_append]
    tauto
  | watch =>
    simp only [scanMachine, ScanDaemon.step] at step
    split at step
    next scan rest isFree isQueue =>
      cases step
      refine invariant.same_underway rfl rfl rfl rfl invariant.loop
        (fun other => ?_) ?_
      · simp only [ScanDaemon.underway, ScanDaemon.inPhase, isFree, isQueue,
          Option.map_some, Option.map_none, Option.toList_some,
          Option.toList_none, List.mem_append, List.mem_cons,
          List.append_nil, List.not_mem_nil, or_false]
        tauto
      · intro submission isSubmission
        cases isSubmission
        trivial
    · cases step
  | advance input =>
    obtain ⟨submission, isSubmission, rfl⟩ :=
      Option.map_eq_some_iff.mp step
    exact invariant.advance isSubmission input
  | fail =>
    obtain ⟨submission, isSubmission, made⟩ :=
      Option.bind_eq_some_iff.mp step
    split at made
    · cases made
    · cases made
      exact invariant.inPhase isSubmission trivial
  | arm orderNo attemptId armedAtMs =>
    cases step
    exact invariant.moves (.armAt _ _ _ _)
  | clear =>
    simp only [scanMachine, ScanDaemon.step, Option.ite_none_left_eq_some]
      at step
    obtain ⟨_, same⟩ := step
    cases same
    exact invariant.moves (.clear _)
  | sync current attemptId armedAtMs =>
    simp only [scanMachine, ScanDaemon.step, Option.ite_none_left_eq_some]
      at step
    obtain ⟨_, same⟩ := step
    cases same
    apply invariant.moves
    split
    · exact .clear _
    · exact .armAt _ _ _ _
  | answered orderNo status now =>
    simp only [scanMachine, ScanDaemon.step] at step
    split at step
    next store stored =>
      cases step
      exact invariant.stores (.applyBackendOrderStatus stored)
    · cases step
  | upsert input now =>
    simp only [scanMachine, ScanDaemon.step] at step
    split at step
    next store stored =>
      cases step
      exact invariant.stores (.upsertOrderSession stored)
    · cases step
  | elsewhere store =>
    simp only [scanMachine, ScanDaemon.step, Option.ite_none_right_eq_some]
      at step
    obtain ⟨keeps, same⟩ := step
    cases same
    exact invariant.stores (.of_keepsAttempts keeps)

/-- Only beginning adds an attempt. -/
theorem ScanInvariant.begins
    {before after : ScanDaemon}
    (invariant : ScanInvariant before)
    (step : scanMachine.step before event = some after) :
    after.begun = before.begun ∨
      ∃ attempt, after.begun = attempt :: before.begun ∧
        BeginsProperly before.store attempt := by
  cases event with
  | advance input =>
    obtain ⟨submission, isSubmission, rfl⟩ :=
      Option.map_eq_some_iff.mp step
    have established := invariant.phase submission isSubmission
    cases phase : submission.phase with
    | received =>
      left
      unfold ScanDaemon.advance
      simp only
      split
      · rfl
      · rfl
    | locking =>
      left
      unfold ScanDaemon.advance ScanDaemon.lock
      simp only
      split
      · split
        · rfl
        · rfl
      · rfl
    | beginning snapshot =>
      rw [phase] at established
      have taken := invariant.underway _
        (mem_underway_of_submission isSubmission)
      unfold ScanDaemon.advance ScanDaemon.begin
      simp only
      split
      · exact .inl rfl
      next store begun =>
        exact .inr ⟨_, rfl,
          { ordered := established.1
            armed := taken.armed
            framed := taken.framed
            payable := (beginPaymentCodeAttempt_ok begun).1 }⟩
    | submitting attempt snapshot retries =>
      left
      unfold ScanDaemon.advance ScanDaemon.submit
      simp only
      split
      · split
        · rfl
        · rfl
      · rfl
    | finishing attempt snapshot response =>
      left
      unfold ScanDaemon.advance ScanDaemon.finish
      simp only
      split
      · rfl
      · rfl
    | refreshing snapshot =>
      left
      unfold ScanDaemon.advance ScanDaemon.refresh
      simp only
      split
      · rfl
      · rfl
    | guarding | checking attempt snapshot | ending => exact .inl rfl
  | reopen suffix =>
    simp only [scanMachine, ScanDaemon.step, Option.ite_none_right_eq_some]
      at step
    obtain ⟨_, same⟩ := step
    cases same
    exact .inl rfl
  | receive bytes nowMs =>
    simp only [scanMachine, ScanDaemon.step, Option.ite_none_right_eq_some]
      at step
    obtain ⟨_, same⟩ := step
    cases same
    exact .inl rfl
  | push =>
    obtain ⟨checked, _, rfl⟩ := Option.map_eq_some_iff.mp step
    exact .inl rfl
  | consume scannerEventId =>
    left
    simp only [scanMachine, ScanDaemon.step] at step
    split at step
    · cases step
      unfold ScanDaemon.consume
      split
      · rfl
      · rfl
    · cases step
  | send =>
    obtain ⟨scan, _, rfl⟩ := Option.map_eq_some_iff.mp step
    exact .inl rfl
  | watch =>
    left
    simp only [scanMachine, ScanDaemon.step] at step
    split at step
    · cases step
      rfl
    · cases step
  | fail =>
    left
    obtain ⟨submission, _, made⟩ := Option.bind_eq_some_iff.mp step
    split at made
    · cases made
    · cases made
      rfl
  | arm orderNo attemptId armedAtMs =>
    cases step
    exact .inl rfl
  | clear =>
    simp only [scanMachine, ScanDaemon.step, Option.ite_none_left_eq_some]
      at step
    obtain ⟨_, same⟩ := step
    cases same
    exact .inl rfl
  | sync current attemptId armedAtMs =>
    simp only [scanMachine, ScanDaemon.step, Option.ite_none_left_eq_some]
      at step
    obtain ⟨_, same⟩ := step
    cases same
    exact .inl rfl
  | answered orderNo status now =>
    left
    simp only [scanMachine, ScanDaemon.step] at step
    split at step
    · cases step
      rfl
    · cases step
  | upsert input now =>
    left
    simp only [scanMachine, ScanDaemon.step] at step
    split at step
    · cases step
      rfl
    · cases step
  | elsewhere store =>
    simp only [scanMachine, ScanDaemon.step, Option.ite_none_right_eq_some]
      at step
    obtain ⟨_, same⟩ := step
    cases same
    exact .inl rfl

/-- A row that agrees takes a code exactly when it is shown as waiting. -/
theorem OrderSession.Agrees.takes_iff
    {session : OrderSession}
    {current : CurrentTransaction}
    (agrees : session.Agrees)
    (latest : store.latestOrderSession = some session)
    (found : store.orderSessions.find? current.orderNo = some session)
    (shown : session.currentTransaction = .ok current)
    (attempt : current.paymentCodeAttempt = session.paymentAttempt)
    (scan : PaymentCodeScan)
    (now : Time) :
    (beginPaymentCodeAttempt store current.orderNo scan now).isOk = true ↔
      current.awaitsPaymentCode = true := by
  obtain ⟨sameMethod, sameAction⟩ := agrees.shown current (by
    rw [shown]
    rfl)
  rw [beginPaymentCodeAttempt_isOk found]
  simp only [Store.awaitsPaymentCode, latest, Option.any_some, beq_self_eq_true,
    Bool.and_true, Bool.and_eq_true, beq_iff_eq,
    CurrentTransaction.awaitsPaymentCode, sameMethod, sameAction, attempt,
    Option.isNone_iff_eq_none]
  constructor
  · rintro ⟨free, ⟨isMethod, isOpen⟩, isAction⟩
    refine ⟨⟨isMethod, isAction⟩, ?_⟩
    cases stored : session.paymentAttempt with
    | none => rfl
    | some value =>
      have ended := (agrees.waiting isMethod isAction).2 value stored
      rw [stored] at free
      simp only [Option.any_some, Bool.or_eq_false_iff] at free
      rcases ended with active | spent
      · exact absurd active (by simp [free.1])
      · exact absurd spent (by simp [free.2])
  · rintro ⟨⟨isMethod, isAction⟩, isNone⟩
    refine ⟨by simp [isNone], ⟨isMethod, ?_⟩, isAction⟩
    simpa using (agrees.waiting isMethod isAction).1

/-- A sync with the current order makes the scanner live for it. -/
theorem ScanInvariant.syncs
    {current : Option CurrentTransaction}
    (invariant : ScanInvariant daemon)
    (shown : daemon.store.currentTransaction = .ok current)
    (idle : daemon.underway = [])
    (agrees : ∀ session ∈ daemon.store.latestOrderSession, session.Agrees)
    (attemptId armedAtMs : Nat) :
    LiveFor (daemon.sync current attemptId armedAtMs).armer daemon.store
      current := by
  cases current with
  | none => rfl
  | some current =>
    obtain ⟨session, latest, found, isShown, _, sameAttempt⟩ :=
      Store.currentTransaction_some shown
    intro scan now
    rw [(agrees session latest).takes_iff latest found isShown sameAttempt]
    unfold ScanDaemon.sync
    simp only
    by_cases awaits : current.awaitsPaymentCode = true
    · simp only [Option.filter_some, awaits, ↓reduceIte, iff_true]
      unfold PaymentCodeScanArmer.armAt
      split
      next own =>
        obtain ⟨state, isState, sameOrder⟩ := (Option.any_eq_true _ _).mp own
        cases state with
        | armed arm =>
          exact ⟨arm, by simp [PaymentCodeScanArmer.accepting?, isState],
            of_decide_eq_true sameOrder⟩
        | consumed arm =>
          obtain ⟨scan, isUnderway, _⟩ := invariant.held arm isState
          rw [idle] at isUnderway
          cases isUnderway
      · exact ⟨_, rfl, rfl⟩
    · simp [Option.filter_some, awaits, PaymentCodeScanArmer.clear,
        PaymentCodeScanArmer.accepting?]

theorem ScanInvariant.stepSafe
    {before after : ScanDaemon}
    (invariant : ScanInvariant before)
    (regular : Regular before event)
    (step : scanMachine.step before event = some after) :
    before.StepSafe event after where
  safe := (invariant.step step).safe
  begins := invariant.begins step
  finishes input scan attempt snapshot response isEvent isFinishing := by
    subst isEvent
    have answers := regular (attempt, response.getD .unreachable) (by
      simp [ScanDaemon.finishing?, isFinishing])
    simp only [scanMachine, ScanDaemon.step, isFinishing, Option.map_some,
      Option.some.injEq] at step
    have stored : after.store = finishPaymentCodeAttempt before.store
        attempt.orderNo (response.getD .unreachable) input.now := by
      rw [← step]
      unfold ScanDaemon.advance ScanDaemon.finish
      simp only
      split
      · rfl
      · rfl
    rw [stored]
    exact answers.finishes input.now
  syncs current attemptId armedAtMs isEvent shown idle := by
    subst isEvent
    have agrees := regular (by
      rw [shown]
      rfl) idle
    simp only [scanMachine, ScanDaemon.step, Option.ite_none_left_eq_some]
      at step
    obtain ⟨_, same⟩ := step
    cases same
    exact invariant.syncs shown idle agrees attemptId armedAtMs

/-- Every step of a regular run is safe. -/
theorem scanned_codes_are_safe
    (store : Store)
    (suffix : ScannerFrameSuffix)
    (events : List ScanEvent)
    (regular : scanMachine.RunMeets Regular (.initial store suffix) events) :
    scanMachine.RunMeets
      (fun daemon event => ∀ next, scanMachine.step daemon event = some next →
        daemon.StepSafe event next)
      (.initial store suffix) events :=
  Machine.runMeets_of_meets
    (fun invariant _ step => ScanInvariant.step invariant step)
    (fun invariant isRegular _ step =>
      ScanInvariant.stepSafe invariant isRegular step)
    (.initial store suffix) regular

/-- A new order that waits for a payment code. -/
def waitingOrder : OrderSessionUpsert where
  orderNo := 1
  paymentMethod := "payment_code"
  paymentProvider := none
  items := []
  status := "pending_payment"
  nextAction := "wait_payment"
  paymentAttempt := none
  recoveryStrategy := "local"
  lastBackendStatus := none
  lastError := none

/-- The backend's word that the attempt failed. -/
def failedStatus : BackendStatus where
  orderStatus := some "pending_payment"
  fulfillmentState := none
  nextAction := some "wait_payment"
  payment := none
  paymentMethod := none
  paymentProviderCode := none
  expiresAt := none
  paymentCodeAttempt := some
    [("idempotencyKey", .text "key"), ("status", .text "failed"),
      ("canRetry", .flag false)]
  vending := none

def waitingTransaction : CurrentTransaction where
  orderNo := 1
  productSummary := []
  paymentMethod := "payment_code"
  paymentProvider := none
  orderStatus := "pending_payment"
  nextAction := "wait_payment"
  paymentCodeAttempt := none

def reply (response : Option PaymentCodeResponse) : ScanEvent :=
  .advance
    { now := 0
      idempotencyKey := "key"
      guardPasses := true
      response
      answer := .error "offline" }

/-- A code is scanned for the order and its attempt begins. -/
def scannedCode : List ScanEvent :=
  [.upsert waitingOrder 0, .sync (some waitingTransaction) 1 0,
    .receive [50, 56, 50, 57, 49, 50] 1, .push, .consume "scan", .send,
    .watch, reply none, reply none, reply none, reply none, reply none]

/-- A code is scanned, sent and answered. -/
theorem scanned_codes_are_safe_answered :
    scanMachine.RunMeets
      (fun daemon event => ∀ next, scanMachine.step daemon event = some next →
        daemon.StepSafe event next)
      (.initial .empty .none)
      (scannedCode ++
        [reply (some ⟨"querying", false, none⟩), reply none, reply none,
          reply none]) :=
  scanned_codes_are_safe .empty .none _ (by decide)

/-- The backend ends the attempt while the last request is lost. -/
def lostRequests : List ScanEvent :=
  scannedCode ++
    [reply none, reply none, reply none, .answered 1 failedStatus 0]

/-- A lost request makes a failed attempt unknown and retryable. -/
theorem final_status_is_taken_back :
    ¬ ∀ store suffix events,
      scanMachine.RunMeets
        (fun daemon event => ∀ next,
          scanMachine.step daemon event = some next →
            daemon.StepSafe event next)
        (.initial store suffix) events := by
  intro safe
  have meets := (safe .empty .none (lostRequests ++ [reply none])).split.2
  have last := (meets _ rfl).1 _ rfl
  have finished := last.finishes _ _ _ _ _ rfl rfl
  exact (finished.kept _ rfl (by decide) _ rfl).1 (by decide)

end VendingSystem.Daemon
