import VendingSystem.DaemonSerialRuns

namespace VendingSystem.Daemon

/-!
# A dispense whose acknowledgement is recovered returns

In an execution that delivers every frame and lets both parties act, the
controller accepts the frame, finishes the dispense and comes to rest; from then
on every read or wait of the host brings it closer to the completing frame.
-/

/-- The line delivers and both parties act, again and again. -/
structure Fair
    {request : DispenseRequest}
    (execution : request.exchange.Execution) : Prop where
  hostActs : ∀ index,
    (∀ failure, (execution.state index).host ≠ .returned failure) →
    ∃ later, index ≤ later ∧
      (execution.event later = .hostReads ∨
        execution.event later = .hostWaitEnds)
  delivers : ∀ index,
    (execution.state index).toController ≠ [] →
    ∃ later, index ≤ later ∧ execution.event later = .controllerReceives
  advances : ∀ index,
    (execution.state index).controller.phase ≠ .idle →
    ∃ later, index ≤ later ∧ execution.event later = .controllerAdvances

/-- The steps that a dispense under way still takes. -/
def ControllerPhase.stepsLeft : ControllerPhase → Nat
  | .idle => 0
  | .resetting announced => 1 + (announcements - announced)
  | .pickup announced => 5 + (announcements - announced)
  | .dispensing announced => 9 + (announcements - announced)

theorem advance_stepsLeft
    {before after : Controller}
    {sent : Option LowerFrame}
    (step : before.advance = some (after, sent)) :
    after.phase.stepsLeft < before.phase.stepsLeft := by
  obtain ⟨phase, started⟩ := before
  cases phase <;>
    simp only [Controller.advance, reduceCtorEq, Option.some.injEq] at step
  all_goals
    split at step <;> obtain ⟨rfl, -⟩ := Prod.mk.inj step <;>
      simp only [ControllerPhase.stepsLeft, announcements] at * <;> omega

section Steps

variable {request : DispenseRequest} {exchange next : Exchange}
  {event : LineEvent} {frames : List LowerFrame} {point : HostPoint}
  {controller after before : Controller} {query : Nat}

/-- After the acceptance the controller only goes through its dispense. -/
theorem Exchange.Conversing.controller_cases
    (conversing : exchange.Conversing request)
    (started : exchange.controller.started = 1)
    (step : request.exchangeStep exchange event = some next) :
    (next.controller = exchange.controller ∧ event ≠ .controllerAdvances) ∨
      ∃ sent, exchange.controller.advance = some (next.controller, sent) := by
  cases event with
  | hostReads =>
    cases onLine : exchange.toHost with
    | nil => simp [DispenseRequest.exchangeStep, onLine] at step
    | cons frame rest =>
      simp only [DispenseRequest.exchangeStep, onLine,
        Option.map_eq_some_iff] at step
      obtain ⟨move, -, rfl⟩ := step
      exact Or.inl ⟨rfl, (by simp)⟩
  | hostWaitEnds =>
    obtain ⟨move, -, rfl⟩ := Option.map_eq_some_iff.mp step
    exact Or.inl ⟨rfl, (by simp)⟩
  | commandDeadlinePasses =>
    obtain ⟨move, -, rfl⟩ := Option.map_eq_some_iff.mp step
    exact Or.inl ⟨rfl, (by simp)⟩
  | controllerReceives =>
    cases conversing.delivers with
    | pending controller => simp [controller] at started
    | delivered _ onlyQueries =>
      cases onLine : exchange.toController with
      | nil => simp [DispenseRequest.exchangeStep, onLine] at step
      | cons frame rest =>
        rw [onLine] at onlyQueries
        cases onlyQueries frame List.mem_cons_self
        simp only [DispenseRequest.exchangeStep, onLine,
          receive_statusQuery, Option.some.injEq] at step
        subst step
        exact Or.inl ⟨rfl, (by simp)⟩
  | controllerBeats =>
    cases step
    exact Or.inl ⟨rfl, (by simp)⟩
  | controllerAdvances =>
    obtain ⟨⟨after, sent⟩, advances, rfl⟩ := Option.map_eq_some_iff.mp step
    exact Or.inr ⟨sent, advances⟩

theorem Exchange.Conversing.started_kept
    (conversing : exchange.Conversing request)
    (started : exchange.controller.started = 1)
    (step : request.exchangeStep exchange event = some next) :
    next.controller.started = 1 := by
  rcases conversing.controller_cases started step with
    ⟨same, -⟩ | ⟨sent, advances⟩
  · rw [same]
    exact started
  · exact (advance_started advances).trans started

/-- The completing frame has not been read. -/
def Ahead (controller : Controller) : Prop :=
  controller = { phase := .idle, started := 0 } ∨ Underway controller

/-- The completing frame is ahead until the controller sends it. -/
theorem Ahead.move
    {before after : Controller}
    {frames : List LowerFrame}
    (ahead : Ahead before)
    (moves : ControllerMove before frames after) :
    LowerFrame.resetCompletedFrame ∈ frames ∨ Ahead after := by
  cases moves with
  | beats => exact Or.inr ahead
  | accepts started =>
    rcases ahead with idle | underway
    · cases idle
      exact Or.inr (Or.inr (.dispensing 0))
    · cases underway
  | advances step =>
    rcases ahead with rfl | underway
    · simp [Controller.advance] at step
    · cases underway with
      | dispensing announced =>
        simp only [Controller.advance, Option.some.injEq] at step
        split at step <;> obtain ⟨rfl, -⟩ := Prod.mk.inj step
        · exact Or.inr (Or.inr (.dispensing _))
        · exact Or.inr (Or.inr (.pickup 0))
      | pickup announced =>
        simp only [Controller.advance, Option.some.injEq] at step
        split at step <;> obtain ⟨rfl, -⟩ := Prod.mk.inj step
        · exact Or.inr (Or.inr (.pickup _))
        · exact Or.inr (Or.inr .resetting)
      | resetting =>
        simp only [Controller.advance, announcements,
          Nat.zero_lt_succ, if_true, Option.some.injEq] at step
        obtain ⟨-, rfl⟩ := Prod.mk.inj step
        exact Or.inl List.mem_cons_self

theorem Ahead.announced
    {first last : Controller}
    (ahead : Ahead first)
    (sends : Sends first frames last)
    (finished : last = { phase := .idle, started := 1 }) :
    LowerFrame.resetCompletedFrame ∈ frames := by
  induction sends with
  | refl controller =>
    subst finished
    rcases ahead with idle | underway
    · cases idle
    · cases underway
  | move moves _ inductionHypothesis =>
    rcases ahead.move moves with sent | still
    · exact List.mem_append_left _ sent
    · exact List.mem_append_right _ (inductionHypothesis still finished)

theorem Heard.ahead
    (heard : Heard point controller)
    (running : ∀ failure, point ≠ .returned failure) :
    Ahead controller := by
  cases heard with
  | nothing => exact Or.inl rfl
  | lateAck => exact Or.inl rfl
  | lateStatus => exact Or.inr (.dispensing _)
  | acknowledged wait underway => exact Or.inr underway
  | completed => exact absurd rfl (running none)

theorem Heard.completing
    (heard : Heard point before)
    (moves : ControllerMove before [.resetCompletedFrame] after)
    (running : ∀ failure, point ≠ .returned failure) :
    ∃ wait, point = .awaitingCompletion wait := by
  cases heard with
  | nothing =>
    rcases moves.frame_cases with ⟨frame, -⟩ | ⟨_, _, frame, -⟩ | step
    · cases frame
    · cases frame
    · simp [Controller.advance] at step
  | lateAck =>
    rcases moves.frame_cases with ⟨frame, -⟩ | ⟨_, _, frame, -⟩ | step
    · cases frame
    · cases frame
    · simp [Controller.advance] at step
  | @lateStatus query announced read last =>
    have few : announced < announcements := by
      simp only [announcements, commandAttempts] at last ⊢
      omega
    rcases moves.frame_cases with ⟨frame, -⟩ | ⟨_, _, frame, -⟩ | step
    · cases frame
    · cases frame
    · simp [Controller.advance, few] at step
  | acknowledged wait underway => exact ⟨wait, rfl⟩
  | completed => exact absurd rfl (running none)

/-- The waits that may still end before the completing frame is awaited. -/
def HostPoint.waitsLeft : HostPoint → Nat
  | .awaitingAck _ => 5
  | .queryingStatus _ query => 5 - query
  | .returned _ => 0
  | _ => 1

/-- The frames before the completing one. -/
def framesAhead (frames : List LowerFrame) : Nat :=
  (frames.takeWhile fun frame => frame ≠ .resetCompletedFrame).length

theorem framesAhead_append
    (announced : LowerFrame.resetCompletedFrame ∈ frames)
    (later : List LowerFrame) :
    framesAhead (frames ++ later) = framesAhead frames := by
  induction frames with
  | nil => cases announced
  | cons frame rest inductionHypothesis =>
    by_cases completing : frame = .resetCompletedFrame
    · simp [framesAhead, completing]
    · have inRest :=
        (List.mem_cons.mp announced).resolve_left (Ne.symm completing)
      simpa [framesAhead, completing] using inductionHypothesis inRest

/-- What the host still does before it has read the completing frame. -/
def Exchange.hostStepsLeft (exchange : Exchange) : Nat :=
  match exchange.host with
  | .returned _ => 0
  | point => framesAhead exchange.toHost + point.waitsLeft

theorem hostStepsLeft_of_running
    (running : ∀ failure, exchange.host ≠ .returned failure) :
    exchange.hostStepsLeft =
      framesAhead exchange.toHost + exchange.host.waitsLeft := by
  cases point : exchange.host with
  | returned failure => exact absurd point (running failure)
  | _ => simp [Exchange.hostStepsLeft, point]

theorem hostStepsLeft_le (exchange : Exchange) :
    exchange.hostStepsLeft ≤
      framesAhead exchange.toHost + exchange.host.waitsLeft := by
  cases point : exchange.host <;> simp [Exchange.hostStepsLeft, point]

theorem waitsLeft_le (point : HostPoint) : point.waitsLeft ≤ 5 := by
  cases point <;> simp [HostPoint.waitsLeft]

theorem readCompletion_waitsLeft
    (wait : CompletionWait)
    (frame : LowerFrame) :
    (request.readCompletion wait frame).point.waitsLeft ≤ 1 := by
  cases frame with
  | idleHeartbeat =>
    simp only [DispenseRequest.readCompletion]
    split <;> simp [DispenseRequest.complete, DispenseRequest.report,
      HostPoint.waitsLeft]
  | pickupTimeout =>
    simp only [DispenseRequest.readCompletion,
      DispenseRequest.warnPickupTimeout]
    split <;> simp [DispenseRequest.report, HostPoint.waitsLeft]
  | _ =>
    simp [DispenseRequest.readCompletion, DispenseRequest.complete,
      DispenseRequest.report, HostMove.to, HostPoint.waitsLeft]

theorem readStatus_waitsLeft
    (last : query ≤ commandAttempts)
    (frame : LowerFrame) :
    (request.readStatus (some 1) query frame).point.waitsLeft ≤ 5 - query ∨
      (request.readStatus (some 1) query frame).point = .awaitingAck 2 := by
  have room : 1 ≤ 5 - query := by
    simp only [commandAttempts] at last
    omega
  simp only [DispenseRequest.readStatus, DispenseRequest.statusAnswered,
    DispenseRequest.statusMissed]
  split
  · split
    · exact Or.inl room
    · exact Or.inr rfl
  · split
    · exact Or.inl (Nat.sub_le_sub_left (Nat.le_succ query) 5)
    · exact Or.inr rfl

theorem Heard.read_waitsLeft
    {frame : LowerFrame}
    {move : HostMove}
    (heard : Heard point before)
    (read : request.read point frame = some move)
    (heardNext : Heard move.point after) :
    move.point.waitsLeft ≤ point.waitsLeft := by
  cases heard with
  | nothing => exact waitsLeft_le _
  | lateAck first last =>
    cases read
    refine (readStatus_waitsLeft last frame).resolve_right fun again => ?_
    rw [again] at heardNext
    cases heardNext
  | lateStatus few last =>
    cases read
    refine (readStatus_waitsLeft last frame).resolve_right fun again => ?_
    rw [again] at heardNext
    cases heardNext
  | acknowledged wait underway =>
    cases read
    exact readCompletion_waitsLeft _ frame
  | completed => cases read

theorem statusMissed_waitsLeft
    {ofAttempt : Option Nat}
    (more : query < commandAttempts)
    (error : String) :
    (request.statusMissed ofAttempt query error).point.waitsLeft <
      5 - query := by
  simp only [DispenseRequest.statusMissed, more, if_true,
    DispenseRequest.queryStatus, HostPoint.waitsLeft]
  simp only [commandAttempts] at more
  omega

theorem Heard.waitEnds_waitsLeft
    {move : HostMove}
    (heard : Heard point controller)
    (listening : ∀ wait, point ≠ .awaitingCompletion wait)
    (recovers :
      ∀ ofAttempt query, point = .queryingStatus ofAttempt query →
        query < commandAttempts)
    (ends : request.waitEnds point = some move) :
    move.point.waitsLeft < point.waitsLeft := by
  cases heard with
  | nothing =>
    cases ends
    decide
  | lateAck first last =>
    cases ends
    exact statusMissed_waitsLeft (recovers _ _ rfl) _
  | lateStatus few last =>
    cases ends
    exact statusMissed_waitsLeft (recovers _ _ rfl) _
  | acknowledged wait underway => exact absurd rfl (listening wait)
  | completed => cases ends

/-- Every read and every wait of the host brings it to the completing frame. -/
theorem Exchange.Conversing.hostActs
    (accepted : request.Accepted)
    (unarmed : request.debugInjectFault = false)
    (conversing : exchange.Conversing request)
    (running : ∀ failure, exchange.host ≠ .returned failure)
    (undisturbed : exchange.Undisturbed event)
    (recovers : exchange.RecoversAck event)
    (acts : event = .hostReads ∨ event = .hostWaitEnds)
    (step : request.exchangeStep exchange event = some next) :
    next.hostStepsLeft < exchange.hostStepsLeft := by
  obtain ⟨read, heard, sends⟩ := conversing.heard
  have later := conversing.step accepted unarmed undisturbed recovers step
  obtain ⟨readNext, heardNext, -⟩ := later.heard
  have bound := hostStepsLeft_le next
  rw [hostStepsLeft_of_running running]
  rcases acts with rfl | rfl
  · cases onLine : exchange.toHost with
    | nil => simp [DispenseRequest.exchangeStep, onLine] at step
    | cons frame rest =>
      simp only [DispenseRequest.exchangeStep, onLine,
        Option.map_eq_some_iff] at step
      obtain ⟨move, reads, rfl⟩ := step
      rw [onLine] at sends
      obtain ⟨ready, middle, fits, moves, -⟩ := heard.next_frame sends
      by_cases completing : frame = .resetCompletedFrame
      · subst completing
        obtain ⟨wait, point⟩ := fits.completing moves running
        rw [point] at reads ⊢
        cases reads
        simp [Exchange.hostStepsLeft, Exchange.moveHost,
          DispenseRequest.readCompletion, DispenseRequest.complete,
          HostPoint.waitsLeft]
      · have fewer : framesAhead (frame :: rest) = framesAhead rest + 1 := by
          simp [framesAhead, completing]
        have waits := fits.read_waitsLeft reads heardNext
        change _ ≤ framesAhead rest + move.point.waitsLeft at bound
        omega
  · simp only [DispenseRequest.exchangeStep,
      Option.map_eq_some_iff] at step
    obtain ⟨move, ends, rfl⟩ := step
    have waits : move.point.waitsLeft < exchange.host.waitsLeft :=
      heard.waitEnds_waitsLeft undisturbed.listening
        (fun ofAttempt query point =>
          (Exchange.RecoversAck.of_waitEnds point).mp recovers) ends
    change _ ≤ framesAhead exchange.toHost + move.point.waitsLeft at bound
    omega

/-- What the controller sends after it came to rest comes later. -/
theorem Exchange.Conversing.others
    (conversing : exchange.Conversing request)
    (finished : exchange.controller = { phase := .idle, started := 1 })
    (running : ∀ failure, exchange.host ≠ .returned failure)
    (others : event ≠ .hostReads ∧ event ≠ .hostWaitEnds)
    (undisturbed : exchange.Undisturbed event)
    (step : request.exchangeStep exchange event = some next) :
    next.hostStepsLeft = exchange.hostStepsLeft := by
  obtain ⟨read, heard, sends⟩ := conversing.heard
  have announced :=
    (heard.ahead running).announced sends finished
  cases event with
  | hostReads => exact absurd rfl others.1
  | hostWaitEnds => exact absurd rfl others.2
  | commandDeadlinePasses =>
    exact absurd undisturbed Exchange.Undisturbed.before_deadline
  | controllerReceives =>
    cases onLine : exchange.toController with
    | nil => simp [DispenseRequest.exchangeStep, onLine] at step
    | cons frame rest =>
      simp only [DispenseRequest.exchangeStep, onLine,
        Option.some.injEq] at step
      subst step
      simp only [Exchange.hostStepsLeft, framesAhead_append announced]
  | controllerBeats =>
    cases step
    simp only [Exchange.hostStepsLeft, framesAhead_append announced]
  | controllerAdvances =>
    obtain ⟨⟨after, sent⟩, advances, rfl⟩ := Option.map_eq_some_iff.mp step
    simp [finished, Controller.advance] at advances

end Steps

section Executions

variable {request : DispenseRequest} {heartbeats first : Nat}
variable {execution : request.exchange.Execution}

theorem conversing_of_recovers
    (accepted : request.Accepted)
    (unarmed : request.debugInjectFault = false)
    (start : execution.state 0 = request.opened heartbeats)
    (undisturbed : ∀ index,
      (execution.state index).Undisturbed (execution.event index))
    (recovers : ∀ index,
      (execution.state index).RecoversAck (execution.event index))
    (index : Nat) :
    (execution.state index).Conversing request :=
  execution.keeps (fun exchange => exchange.Conversing request)
    (start ▸ opened_conversing heartbeats)
    (fun index _ conversing =>
      conversing.step accepted unarmed (undisturbed index) (recovers index)
        (execution.steps index))
    (Nat.zero_le index)

theorem eventually_accepted
    (accepted : request.Accepted)
    (fair : Fair execution)
    (conversing : ∀ index, (execution.state index).Conversing request) :
    ∃ index, (execution.state index).controller.started = 1 := by
  cases (conversing 0).delivers with
  | delivered started => exact ⟨0, started⟩
  | pending controller queries onLine onlyQueries =>
    obtain ⟨later, -, receives⟩ := fair.delivers 0 (by simp [onLine])
    cases (conversing later).delivers with
    | delivered started => exact ⟨later, started⟩
    | pending controller queries onLine onlyQueries =>
      have step := execution.steps later
      simp only [DispenseRequest.exchange, receives,
        DispenseRequest.exchangeStep, onLine, controller,
        accepted.receive, Option.some.injEq] at step
      exact ⟨later + 1, by rw [← step]⟩

theorem started_from
    (conversing : ∀ index, (execution.state index).Conversing request)
    (started : (execution.state first).controller.started = 1)
    {index : Nat}
    (after : first ≤ index) :
    (execution.state index).controller.started = 1 :=
  execution.keeps (fun exchange => exchange.controller.started = 1) started
    (fun index _ started =>
      (conversing index).started_kept started (execution.steps index)) after

theorem eventually_finished
    (fair : Fair execution)
    (conversing : ∀ index, (execution.state index).Conversing request)
    (started : (execution.state first).controller.started = 1) :
    ∃ index, first ≤ index ∧
      (execution.state index).controller.phase = .idle := by
  refine execution.reaches_of_rank
    (fun exchange => exchange.controller.phase = .idle)
    (fun exchange => exchange.controller.phase.stepsLeft) ?_ ?_
  · intro index after _
    rcases (conversing index).controller_cases
        (started_from conversing started after) (execution.steps index) with
      ⟨same, -⟩ | ⟨sent, advances⟩
    · exact Nat.le_of_eq (congrArg (·.phase.stepsLeft) same)
    · exact Nat.le_of_lt (advance_stepsLeft advances)
  · intro index after busy
    obtain ⟨later, past, event⟩ := fair.advances index busy
    refine ⟨later, past, Or.inr ?_⟩
    rcases (conversing later).controller_cases
        (started_from conversing started (Nat.le_trans after past))
        (execution.steps later) with
      ⟨-, other⟩ | ⟨sent, advances⟩
    · exact absurd event other
    · exact advance_stepsLeft advances

theorem finished_from
    (conversing : ∀ index, (execution.state index).Conversing request)
    (finished :
      (execution.state first).controller =
        { phase := .idle, started := 1 })
    {index : Nat}
    (after : first ≤ index) :
    (execution.state index).controller = { phase := .idle, started := 1 } := by
  refine execution.keeps
    (fun exchange => exchange.controller = { phase := .idle, started := 1 })
    finished (fun index _ finished => ?_) after
  have started : (execution.state index).controller.started = 1 := by
    rw [finished]
  rcases (conversing index).controller_cases started
      (execution.steps index) with
    ⟨same, -⟩ | ⟨sent, advances⟩
  · exact same.trans finished
  · simp [finished, Controller.advance] at advances

/-- The host of a finished dispense reads its completing frame. -/
theorem eventually_returned
    (accepted : request.Accepted)
    (unarmed : request.debugInjectFault = false)
    (fair : Fair execution)
    (conversing : ∀ index, (execution.state index).Conversing request)
    (undisturbed : ∀ index,
      (execution.state index).Undisturbed (execution.event index))
    (recovers : ∀ index,
      (execution.state index).RecoversAck (execution.event index))
    (finished :
      (execution.state first).controller =
        { phase := .idle, started := 1 }) :
    ∃ index, first ≤ index ∧
      ∃ failure, (execution.state index).host = .returned failure := by
  have acts : ∀ index,
      (¬ ∃ failure, (execution.state index).host = .returned failure) →
      (execution.event index = .hostReads ∨
        execution.event index = .hostWaitEnds) →
      (execution.state (index + 1)).hostStepsLeft <
        (execution.state index).hostStepsLeft :=
    fun index running event =>
      (conversing index).hostActs accepted unarmed
        (not_exists.mp running) (undisturbed index) (recovers index) event
        (execution.steps index)
  refine execution.reaches_of_rank
    (fun exchange => ∃ failure, exchange.host = .returned failure)
    Exchange.hostStepsLeft ?_ ?_
  · intro index after running
    by_cases event : execution.event index = .hostReads ∨
        execution.event index = .hostWaitEnds
    · exact Nat.le_of_lt (acts index running event)
    · exact Nat.le_of_eq ((conversing index).others
        (finished_from conversing finished after) (not_exists.mp running)
        (not_or.mp event) (undisturbed index) (execution.steps index))
  · intro index after running
    obtain ⟨later, past, event⟩ :=
      fair.hostActs index (not_exists.mp running)
    refine ⟨later, past, ?_⟩
    by_cases returned :
        ∃ failure, (execution.state later).host = .returned failure
    · exact Or.inl returned
    · exact Or.inr (acts later returned event)

theorem eventually_completed
    (accepted : request.Accepted)
    (unarmed : request.debugInjectFault = false)
    (fair : Fair execution)
    (start : execution.state 0 = request.opened heartbeats)
    (undisturbed : ∀ index,
      (execution.state index).Undisturbed (execution.event index))
    (recovers : ∀ index,
      (execution.state index).RecoversAck (execution.event index)) :
    ∃ index, (execution.state index).host = .returned none := by
  have conversing := conversing_of_recovers accepted unarmed start
    undisturbed recovers
  obtain ⟨first, started⟩ := eventually_accepted accepted fair conversing
  obtain ⟨rest, after, idle⟩ := eventually_finished fair conversing started
  have finished : (execution.state rest).controller =
      { phase := .idle, started := 1 } := by
    have count := started_from conversing started after
    rcases controller : (execution.state rest).controller with ⟨phase, number⟩
    simp_all
  obtain ⟨index, -, failure, returned⟩ := eventually_returned accepted unarmed
    fair conversing undisturbed recovers finished
  cases failure with
  | none => exact ⟨index, returned⟩
  | some failure =>
    exact absurd returned ((conversing index).conforms.neverFails failure)

end Executions

end VendingSystem.Daemon
