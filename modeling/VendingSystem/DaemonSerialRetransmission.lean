import VendingSystem.DaemonSerialCompletion

namespace VendingSystem.Daemon

/-!
# A dispense frame that is written again

The host writes the frame again when a status query shows an idle controller
or no status at all, although the first frame is never lost.
-/

section Repetition

variable {request : DispenseRequest} {exchange next : Exchange}

def LineEvent.ofController (event : LineEvent) : Prop :=
  event = .controllerReceives ∨ event = .controllerAdvances

theorem idle_of_advance
    {controller : Controller}
    (resting : controller.advance = none) :
    controller = { phase := .idle, started := controller.started } := by
  obtain ⟨phase, started⟩ := controller
  cases phase with
  | idle => rfl
  | _ => simp [Controller.advance] at resting

theorem runs_to_idle (exchange : Exchange) :
    ∃ events rest,
      (∀ event ∈ events, event.ofController) ∧
      request.exchange.run exchange events = some rest ∧
      rest.controller =
        { phase := .idle, started := exchange.controller.started } ∧
      rest.toController = exchange.toController := by
  induction measure : exchange.controller.phase.stepsLeft using
    Nat.strong_induction_on generalizing exchange with
  | _ bound inductionHypothesis =>
    cases advances : exchange.controller.advance with
    | none =>
      exact ⟨[], exchange, nofun, rfl, idle_of_advance advances, rfl⟩
    | some advanced =>
      obtain ⟨after, sent⟩ := advanced
      obtain ⟨events, rest, own, run, idle, line⟩ :=
        inductionHypothesis _ (measure ▸ advance_stepsLeft advances)
          { exchange with
            controller := after
            toHost := exchange.toHost ++ sent.toList } rfl
      refine ⟨.controllerAdvances :: events, rest, ?_, ?_, ?_, line⟩
      · intro event member
        rcases List.mem_cons.mp member with rfl | later
        · exact Or.inr rfl
        · exact own event later
      · refine Machine.run_cons_iff.mpr ⟨_, ?_, run⟩
        simp [DispenseRequest.exchange, DispenseRequest.exchangeStep,
          advances]
      · rw [idle, advance_started advances]

theorem receives_known
    (accepted : request.Accepted)
    {started : Nat}
    (idle : exchange.controller = { phase := .idle, started := started })
    {frame : List UInt8}
    {rest : List (List UInt8)}
    (onLine : exchange.toController = frame :: rest)
    (known : frame = request.frame ∨ frame = buildStatusQueryFrame) :
    ∃ next, request.exchange.step exchange .controllerReceives = some next ∧
      next.toController = rest ∧
      next.controller.started =
        started + if frame = request.frame then 1 else 0 := by
  have step :
      request.exchange.step exchange .controllerReceives =
        some
          { exchange with
            toController := rest
            controller := (exchange.controller.receive frame).1
            toHost := exchange.toHost ++
              [(exchange.controller.receive frame).2] } := by
    simp only [DispenseRequest.exchange, DispenseRequest.exchangeStep, onLine]
  refine ⟨_, step, rfl, ?_⟩
  rcases known with rfl | rfl
  · simp [idle, accepted.receive]
  · simp [idle, accepted.notQuery.symm]

/--
A controller that takes its time with what is on the line starts a dispense for
every dispense frame there.
-/
theorem runs_to_started
    (accepted : request.Accepted)
    {frames : List (List UInt8)}
    (onLine : exchange.toController = frames)
    (known : ∀ frame ∈ frames,
      frame = request.frame ∨ frame = buildStatusQueryFrame) :
    ∃ events last,
      (∀ event ∈ events, event.ofController) ∧
      request.exchange.run exchange events = some last ∧
      last.controller.started =
        exchange.controller.started + frames.count request.frame := by
  induction frames generalizing exchange with
  | nil => exact ⟨[], exchange, nofun, rfl, rfl⟩
  | cons frame rest inductionHypothesis =>
    obtain ⟨resting, idle, ownResting, toIdle, controller, line⟩ :=
      runs_to_idle exchange
    rw [onLine] at line
    obtain ⟨received, step, remaining, count⟩ :=
      receives_known accepted controller line (known frame List.mem_cons_self)
    obtain ⟨events, last, own, run, started⟩ :=
      inductionHypothesis remaining fun other member =>
        known other (List.mem_cons_of_mem _ member)
    refine ⟨resting ++ .controllerReceives :: events, last, ?_, ?_, ?_⟩
    · intro event member
      rcases List.mem_append.mp member with before | after
      · exact ownResting event before
      · rcases List.mem_cons.mp after with rfl | later
        · exact Or.inl rfl
        · exact own event later
    · exact Machine.run_append_iff.mpr
        ⟨idle, toIdle, Machine.run_cons_iff.mpr ⟨received, step, run⟩⟩
    · rw [started, count, List.count_cons]
      simp only [beq_iff_eq]
      omega

/-- The dispense frames that were started or are on their way. -/
def Exchange.writtenDispenses
    (request : DispenseRequest)
    (exchange : Exchange) : Nat :=
  exchange.controller.started + exchange.toController.count request.frame

theorem Exchange.Delivers.written_once
    (accepted : request.Accepted)
    (delivers : exchange.Delivers request) :
    exchange.writtenDispenses request = 1 ∧
      ∀ frame ∈ exchange.toController,
        frame = request.frame ∨ frame = buildStatusQueryFrame := by
  have uncounted : ∀ {frames : List (List UInt8)},
      (∀ frame ∈ frames, frame = buildStatusQueryFrame) →
      frames.count request.frame = 0 := fun onlyQueries =>
    List.count_eq_zero.mpr fun member =>
      accepted.notQuery (onlyQueries _ member)
  cases delivers with
  | pending controller queries onLine onlyQueries =>
    refine ⟨?_, fun frame member => ?_⟩
    · simp [Exchange.writtenDispenses, controller, onLine,
        uncounted onlyQueries]
    · rw [onLine] at member
      exact (List.mem_cons.mp member).imp_right (onlyQueries frame)
  | delivered started onlyQueries =>
    exact ⟨by simp [Exchange.writtenDispenses, started,
      uncounted onlyQueries], fun frame member =>
        Or.inr (onlyQueries frame member)⟩

theorem readStatus_repeats
    {query : Nat}
    {frame : LowerFrame}
    (unrecovered : ¬ frame.answersQuery query = true) :
    request.readStatus (some 1) query frame = request.beginAttempt 2 := by
  rw [LowerFrame.answersQuery_iff] at unrecovered
  obtain ⟨notInProgress, notMissed⟩ := not_or.mp unrecovered
  simp only [DispenseRequest.readStatus, DispenseRequest.statusAnswered,
    DispenseRequest.statusMissed]
  cases status : frame.isLowerControllerStatus with
  | true => simp [notInProgress]
  | false =>
    have noMore : ¬ query < commandAttempts := fun more =>
      notMissed ⟨status, more⟩
    simp [noMore]

/-- A conversation ends when the dispense frame is written again. -/
theorem Exchange.Conversing.repeats
    (conversing : exchange.Conversing request)
    {event : LineEvent}
    (unrecovered : ¬ exchange.RecoversAck event)
    (step : request.exchangeStep exchange event = some next) :
    next.controller = exchange.controller ∧
      next.toController = exchange.toController ++ [request.frame] := by
  obtain ⟨read, heard, -⟩ := conversing.heard
  have querying : ∃ query,
      exchange.host = .queryingStatus (some 1) query := by
    cases point : exchange.host with
    | queryingStatus ofAttempt query =>
      rw [point] at heard
      cases heard with
      | lateAck => exact ⟨query, rfl⟩
      | lateStatus => exact ⟨query, rfl⟩
    | _ =>
      simp [Exchange.RecoversAck, Exchange.recoversAck, point] at unrecovered
  obtain ⟨query, point⟩ := querying
  cases event with
  | hostReads =>
    cases onLine : exchange.toHost with
    | nil => simp [DispenseRequest.exchangeStep, onLine] at step
    | cons frame rest =>
      rw [Exchange.RecoversAck.of_read point onLine] at unrecovered
      simp only [DispenseRequest.exchangeStep, onLine, point,
        DispenseRequest.read, readStatus_repeats unrecovered,
        Option.map_some, Option.some.injEq] at step
      subst step
      exact ⟨rfl, rfl⟩
  | hostWaitEnds =>
    rw [Exchange.RecoversAck.of_waitEnds point] at unrecovered
    simp only [DispenseRequest.exchangeStep, point,
      DispenseRequest.waitEnds, DispenseRequest.statusMissed, unrecovered,
      if_false, Option.map_some, Option.some.injEq] at step
    subst step
    exact ⟨rfl, rfl⟩
  | _ =>
    simp [Exchange.RecoversAck, Exchange.recoversAck, point] at unrecovered

/-- A frame that was written again can be taken for a second dispense. -/
theorem Exchange.Conversing.starts_twice
    (accepted : request.Accepted)
    (conversing : exchange.Conversing request)
    {event : LineEvent}
    (unrecovered : ¬ exchange.RecoversAck event)
    (step : request.exchangeStep exchange event = some next) :
    ∃ events last,
      (∀ event ∈ events, event.ofController) ∧
      request.exchange.run next events = some last ∧
      last.controller.started = 2 := by
  obtain ⟨controller, onLine⟩ := conversing.repeats unrecovered step
  obtain ⟨once, known⟩ := conversing.delivers.written_once accepted
  obtain ⟨events, last, own, run, started⟩ :=
    @runs_to_started request next accepted _ rfl fun frame member => by
      rw [onLine] at member
      rcases List.mem_append.mp member with earlier | again
      · exact known frame earlier
      · exact Or.inl (List.mem_singleton.mp again)
  refine ⟨events, last, own, run, ?_⟩
  rw [started, controller, onLine, List.count_append]
  simp only [Exchange.writtenDispenses] at once
  simp only [List.count_singleton_self]
  omega

end Repetition

/-- What is asked of every schedule of a dispense. -/
def Exchange.MeetsCondition
    (exchange : Exchange)
    (event : LineEvent) : Prop :=
  exchange.Undisturbed event ∧ exchange.RecoversAck event

instance (exchange : Exchange) (event : LineEvent) :
    Decidable (exchange.MeetsCondition event) :=
  inferInstanceAs (Decidable (_ ∧ _))

theorem conversing_of_run
    {request : DispenseRequest}
    (accepted : request.Accepted)
    (unarmed : request.debugInjectFault = false)
    {heartbeats : Nat}
    {events : List LineEvent}
    {last : Exchange}
    (meets :
      request.exchange.RunMeets Exchange.MeetsCondition
        (request.opened heartbeats) events)
    (run : request.exchange.run (request.opened heartbeats) events =
      some last) :
    last.Conversing request :=
  Machine.run_keeps_of_meets
    (fun conversing meets step =>
      conversing.step accepted unarmed meets.1 meets.2 step)
    (opened_conversing heartbeats) meets run

/--
A dispense whose first missing acknowledgement is recovered by the status query
that follows never fails and starts one dispense, and in every fair execution it
returns; and the first step that does not recover it writes the dispense frame
again, which the controller can take for a second dispense.
-/
theorem dispense_completes_of_recovered_ack
    {command : DispenseCommandPayload}
    {request : DispenseRequest}
    (prepared : prepareDispense command false = .ok request)
    (heartbeats : Nat) :
    (∀ events last,
      request.exchange.RunMeets Exchange.MeetsCondition
        (request.opened heartbeats) events →
      request.exchange.run (request.opened heartbeats) events = some last →
      last.Conforms) ∧
    (∀ execution : request.exchange.Execution,
      execution.state 0 = request.opened heartbeats →
      Fair execution →
      (∀ index, (execution.state index).MeetsCondition
        (execution.event index)) →
      ∃ index, (execution.state index).host = .returned none ∧
        (execution.state index).controller.started = 1) ∧
    (∀ events before event after,
      request.exchange.RunMeets Exchange.MeetsCondition
        (request.opened heartbeats) events →
      request.exchange.run (request.opened heartbeats) events =
        some before →
      ¬ before.RecoversAck event →
      request.exchange.step before event = some after →
      ∃ later last,
        (∀ event ∈ later, event.ofController) ∧
        request.exchange.run after later = some last ∧
        last.controller.started = 2) := by
  have accepted := accepted_of_prepareDispense prepared
  have unarmed : request.debugInjectFault = false :=
    (prepareDispense_ok prepared).1
  refine ⟨fun events last meets run => ?_,
    fun execution start fair meets => ?_,
    fun events before event after meets run unrecovered step => ?_⟩
  · exact (conversing_of_run accepted unarmed meets run).conforms
  · have undisturbed := fun index => (meets index).1
    have recovers := fun index => (meets index).2
    obtain ⟨index, returned⟩ := eventually_completed accepted unarmed fair
      start undisturbed recovers
    have conforms := (conversing_of_recovers accepted unarmed start
      undisturbed recovers index).conforms
    exact ⟨index, returned, conforms.started returned⟩
  · exact (conversing_of_run accepted unarmed meets run).starts_twice accepted
      unrecovered step

/-- One item of the slot that the protocol document takes for its example. -/
def documentedCommand : DispenseCommandPayload where
  commandNo := 1
  orderNo := 1
  slot := { rowNo := 2, cellNo := 5 }
  quantity := 1
  timeoutSeconds := 120
  recovery := none

def documentedRequest : DispenseRequest where
  command := documentedCommand
  frame := [0x55, 0x02, 0x05, 0x31]
  debugInjectFault := false

instance : Inhabited LineEvent := ⟨.controllerBeats⟩

theorem documentedRequest_prepared :
    prepareDispense documentedCommand false = .ok documentedRequest := by
  decide +kernel

/-- The acknowledgement comes late and the status query recovers it. -/
def recoveredSchedule : List LineEvent :=
  [.hostWaitEnds, .controllerReceives, .controllerReceives, .hostReads,
    .hostReads, .controllerReceives] ++
    List.replicate 12 .controllerAdvances ++ List.replicate 8 .hostReads

/-- Nothing is left to do but heartbeats. -/
def Exchange.Settled (exchange : Exchange) : Prop :=
  exchange.host = .returned none ∧ exchange.toController = [] ∧
    exchange.controller = { phase := .idle, started := 1 }

instance (exchange : Exchange) : Decidable exchange.Settled :=
  inferInstanceAs (Decidable (_ ∧ _ ∧ _))

/-- The states of the schedule and of heartbeats ever after. -/
def recoveredState : Nat → Exchange :=
  documentedRequest.exchange.extendedState (documentedRequest.opened 0)
    recoveredSchedule

theorem recoveredSchedule_settles :
    (∀ index < 26, (recoveredState index).MeetsCondition
      (recoveredSchedule.getD index default)) ∧
    (∀ index < 26, 5 < index →
      (recoveredState index).toController = []) ∧
    (∀ index < 26, 17 < index →
      (recoveredState index).controller.phase = .idle) ∧
    (recoveredState 26).Settled := by
  decide +kernel

theorem recoveredState_settled
    {index : Nat}
    (after : 26 ≤ index) :
    (recoveredState index).Settled := by
  induction index, after using Nat.le_induction with
  | base => exact recoveredSchedule_settles.2.2.2
  | succ index after inductionHypothesis =>
    obtain ⟨returned, line, controller⟩ := inductionHypothesis
    have elapsed : recoveredSchedule.length ≤ index := after
    have beats : recoveredState (index + 1) =
        { recoveredState index with
          toHost := (recoveredState index).toHost ++
            [(recoveredState index).controller.phase.status] } :=
      Machine.extendedState_succ elapsed rfl
    rw [beats]
    exact ⟨returned, line, controller⟩

/-- The late acknowledgement, its recovery and heartbeats ever after. -/
theorem exists_fair_execution :
    ∃ execution : documentedRequest.exchange.Execution,
      execution.state 0 = documentedRequest.opened 0 ∧ Fair execution ∧
      ∀ index, (execution.state index).MeetsCondition
        (execution.event index) := by
  have runs : (documentedRequest.exchange.run (documentedRequest.opened 0)
      recoveredSchedule).isSome = true := by decide +kernel
  obtain ⟨last, run⟩ := Option.isSome_iff_exists.mp runs
  obtain ⟨meets, delivered, rested, -⟩ := recoveredSchedule_settles
  refine ⟨.ofRun (fun _ => rfl) run, rfl, ⟨?_, ?_, ?_⟩, ?_⟩
  · intro index running
    by_cases within : index ≤ 25
    · exact ⟨25, within, Or.inl rfl⟩
    · exact absurd (recoveredState_settled (by omega)).1 (running none)
  · intro index waiting
    by_cases within : index ≤ 5
    · exact ⟨5, within, rfl⟩
    · by_cases scheduled : index < 26
      · exact absurd (delivered index scheduled (by omega)) waiting
      · exact absurd (recoveredState_settled (by omega)).2.1 waiting
  · intro index busy
    by_cases within : index ≤ 17
    · exact ⟨17, within, rfl⟩
    · by_cases scheduled : index < 26
      · exact absurd (rested index scheduled (by omega)) busy
      · have settled : (recoveredState index).Settled :=
          recoveredState_settled (by omega)
        exact absurd (congrArg Controller.phase settled.2.2) busy
  · intro index
    by_cases scheduled : index < 26
    · exact meets index scheduled
    · have elapsed : recoveredSchedule.length ≤ index := Nat.not_lt.mp scheduled
      have beats : recoveredSchedule.getD index default = .controllerBeats := by
        rw [List.getD_eq_getElem?_getD, List.getElem?_eq_none elapsed]
        rfl
      change (recoveredState index).MeetsCondition
        (recoveredSchedule.getD index default)
      have settled : (recoveredState index).Settled :=
        recoveredState_settled elapsed
      rw [beats]
      simp [Exchange.MeetsCondition, Exchange.Undisturbed,
        Exchange.disturbedBy, Exchange.RecoversAck, Exchange.recoversAck,
        settled.1]

theorem dispense_completes_in_documented_slot :
    prepareDispense documentedCommand false = .ok documentedRequest ∧
      ∃ execution : documentedRequest.exchange.Execution,
        execution.state 0 = documentedRequest.opened 0 ∧ Fair execution ∧
        ∃ index, (execution.state index).host = .returned none ∧
          (execution.state index).controller.started = 1 := by
  obtain ⟨execution, start, fair, meets⟩ := exists_fair_execution
  exact ⟨documentedRequest_prepared, execution, start, fair,
    (dispense_completes_of_recovered_ack documentedRequest_prepared 0).2.1
      execution start fair meets⟩

/--
The acknowledgement window ends before the controller has the frame, and an idle
heartbeat of before answers the status query.  The frame is written again; then
the late acknowledgement is read, and after it the answer to the repetition.
-/
def lateAckSchedule : List LineEvent :=
  [.hostWaitEnds, .hostReads, .controllerReceives, .controllerReceives,
    .controllerReceives, .hostReads, .hostReads, .hostReads]

theorem dispense_fails_after_late_ack :
    prepareDispense documentedCommand false = .ok documentedRequest ∧
      documentedRequest.exchange.RunMeets Exchange.Undisturbed
        (documentedRequest.opened 1) lateAckSchedule ∧
      ((documentedRequest.exchange.run (documentedRequest.opened 1)
        lateAckSchedule).map fun last =>
          (last.host, last.controller)) =
        some
          (.returned (some (.unknown
            "lower controller rejected command: controller busy")),
          { phase := .dispensing 0, started := 1 }) := by
  have undisturbed : documentedRequest.exchange.RunMeets Exchange.Undisturbed
      (documentedRequest.opened 1) lateAckSchedule := by decide +kernel
  refine ⟨documentedRequest_prepared, undisturbed, ?_⟩
  decide +kernel

end VendingSystem.Daemon
