import VendingSystem.DaemonSerialLine

namespace VendingSystem.Daemon

/-!
# What a dispense makes of the answers of the controller

What is on the line are the frames of the controller's steps since the state
that the host has read up to.  Once the dispense frame is written again, the
controller may take it for a second dispense.
-/

/-- The controller does one thing and sends what belongs to it. -/
inductive ControllerMove :
    Controller → List LowerFrame → Controller → Prop where
  | beats (controller : Controller) :
      ControllerMove controller [controller.phase.status] controller
  | accepts (started : Nat) :
      ControllerMove { phase := .idle, started := started } [.ack]
        { phase := .dispensing 0, started := started + 1 }
  | advances
      {before after : Controller}
      {sent : Option LowerFrame}
      (step : before.advance = some (after, sent)) :
      ControllerMove before sent.toList after

/-- The frames that the controller sends on its way to a later state. -/
inductive Sends : Controller → List LowerFrame → Controller → Prop where
  | refl (controller : Controller) : Sends controller [] controller
  | move
      {first middle last : Controller}
      {frames rest : List LowerFrame}
      (moves : ControllerMove first frames middle)
      (later : Sends middle rest last) :
      Sends first (frames ++ rest) last

variable {first last : Controller} {frames rest : List LowerFrame}
  {ofAttempt : Option Nat} {request : DispenseRequest}
  {exchange next : Exchange}

theorem Sends.snoc
    {middle : Controller}
    {next : List LowerFrame}
    (sends : Sends first frames middle)
    (moves : ControllerMove middle next last) :
    Sends first (frames ++ next) last := by
  induction sends with
  | refl controller =>
    simpa using Sends.move moves (.refl last)
  | move earlier _ inductionHypothesis =>
    rw [List.append_assoc]
    exact .move earlier (inductionHypothesis moves)

theorem ControllerMove.started_le
    (moves : ControllerMove first frames last) :
    first.started ≤ last.started := by
  cases moves with
  | beats => exact Nat.le_refl _
  | accepts started => exact Nat.le_succ started
  | advances step =>
    exact Nat.le_of_eq (advance_started step).symm

theorem Sends.started_le
    (sends : Sends first frames last) :
    first.started ≤ last.started := by
  induction sends with
  | refl => exact Nat.le_refl _
  | move moves _ inductionHypothesis =>
    exact Nat.le_trans moves.started_le inductionHypothesis

/-- A started dispense that has not been announced complete. -/
inductive Underway : Controller → Prop where
  | dispensing (announced : Nat) :
      Underway { phase := .dispensing announced, started := 1 }
  | pickup (announced : Nat) :
      Underway { phase := .pickup announced, started := 1 }
  | resetting : Underway { phase := .resetting 0, started := 1 }

/-- Where the host waits, given what it has read of the controller. -/
inductive Heard : HostPoint → Controller → Prop where
  | nothing : Heard (.awaitingAck 1) { phase := .idle, started := 0 }
  | lateAck
      {query : Nat}
      (first : 1 ≤ query)
      (last : query ≤ commandAttempts) :
      Heard (.queryingStatus (some 1) query) { phase := .idle, started := 0 }
  | lateStatus
      {query announced : Nat}
      (read : announced + 2 ≤ query)
      (last : query ≤ commandAttempts) :
      Heard (.queryingStatus (some 1) query)
        { phase := .dispensing announced, started := 1 }
  | acknowledged
      (wait : CompletionWait)
      {controller : Controller}
      (underway : Underway controller) :
      Heard (.awaitingCompletion wait) controller
  | completed
      {controller : Controller}
      (started : controller.started = 1) :
      Heard (.returned none) controller

/-- A step of the controller that sends nothing tells the host nothing. -/
theorem Heard.silent
    {point : HostPoint}
    {before after : Controller}
    (heard : Heard point before)
    (step : before.advance = some (after, none)) :
    Heard point after := by
  cases heard with
  | nothing => simp [Controller.advance] at step
  | lateAck first last => simp [Controller.advance] at step
  | @lateStatus query announced read last =>
    -- Fewer than three reads follow the acknowledgement.
    have few : announced < announcements := by
      simp only [announcements, commandAttempts] at last ⊢
      omega
    simp [Controller.advance, few] at step
  | acknowledged wait underway =>
    refine .acknowledged wait ?_
    cases underway with
    | dispensing announced =>
      simp only [Controller.advance, Option.some.injEq] at step
      split at step
      · simp at step
      · cases step
        exact .pickup 0
    | pickup announced =>
      simp only [Controller.advance, Option.some.injEq] at step
      split at step
      · simp at step
      · cases step
        exact .resetting
    | resetting => simp [Controller.advance, announcements] at step
  | completed started =>
    exact .completed ((advance_started step).trans started)

/-- The heartbeats have stopped or the command deadline passes. -/
def Exchange.disturbedBy
    (exchange : Exchange)
    (event : LineEvent) : Bool :=
  match exchange.host, event with
  | .awaitingCompletion _, .hostWaitEnds => true
  | _, .commandDeadlinePasses => true
  | _, _ => false

/-- The heartbeats keep arriving and the command deadline does not pass. -/
def Exchange.Undisturbed
    (exchange : Exchange)
    (event : LineEvent) : Prop :=
  exchange.disturbedBy event = false

/-- A frame that leaves a status query with hope for an answer. -/
def LowerFrame.answersQuery (frame : LowerFrame) (query : Nat) : Bool :=
  frame.indicatesCommandInProgress ||
    (!frame.isLowerControllerStatus && query < commandAttempts)

/-- What the line lets a status query see does not refute the command. -/
def Exchange.recoversAck
    (exchange : Exchange)
    (event : LineEvent) : Bool :=
  match exchange.host, event with
  | .queryingStatus _ query, .hostReads =>
    exchange.toHost.head?.all fun frame => frame.answersQuery query
  | .queryingStatus _ query, .hostWaitEnds => query < commandAttempts
  | _, _ => true

/--
A status query after a missing acknowledgement is answered: the first status
that one of its reads gets says that the command is in progress.
-/
def Exchange.RecoversAck
    (exchange : Exchange)
    (event : LineEvent) : Prop :=
  exchange.recoversAck event = true

instance Exchange.decidableUndisturbed
    (exchange : Exchange)
    (event : LineEvent) : Decidable (exchange.Undisturbed event) :=
  inferInstanceAs (Decidable (_ = _))

instance (exchange : Exchange) (event : LineEvent) :
    Decidable (exchange.RecoversAck event) :=
  inferInstanceAs (Decidable (_ = _))

theorem LowerFrame.answersQuery_iff {frame : LowerFrame} {query : Nat} :
    frame.answersQuery query = true ↔
      frame.indicatesCommandInProgress = true ∨
        frame.isLowerControllerStatus = false ∧ query < commandAttempts := by
  simp [LowerFrame.answersQuery]

theorem Exchange.RecoversAck.of_read
    {query : Nat}
    {frame : LowerFrame}
    (point : exchange.host = .queryingStatus ofAttempt query)
    (onLine : exchange.toHost = frame :: rest) :
    exchange.RecoversAck .hostReads ↔ frame.answersQuery query = true := by
  simp [Exchange.RecoversAck, Exchange.recoversAck, point, onLine]

theorem Exchange.RecoversAck.of_waitEnds
    {query : Nat}
    (point : exchange.host = .queryingStatus ofAttempt query) :
    exchange.RecoversAck .hostWaitEnds ↔ query < commandAttempts := by
  simp [Exchange.RecoversAck, Exchange.recoversAck, point]

theorem Exchange.Undisturbed.listening
    (undisturbed : exchange.Undisturbed .hostWaitEnds)
    (wait : CompletionWait) :
    exchange.host ≠ .awaitingCompletion wait := by
  intro point
  simp [Exchange.Undisturbed, Exchange.disturbedBy, point] at undisturbed

theorem Exchange.Undisturbed.before_deadline :
    ¬ exchange.Undisturbed .commandDeadlinePasses := by
  cases point : exchange.host <;>
    simp [Exchange.Undisturbed, Exchange.disturbedBy, point]

theorem ControllerMove.silent_step
    {before after : Controller}
    (moves : ControllerMove before [] after) :
    before.advance = some (after, none) := by
  generalize nothing : [] = frames at moves
  cases moves with
  | beats => cases nothing
  | accepts => cases nothing
  | @advances _ _ sent step =>
    cases sent with
    | none => exact step
    | some frame => cases nothing

theorem ControllerMove.sends_one
    {before after : Controller}
    {frame : LowerFrame}
    {others : List LowerFrame}
    (moves : ControllerMove before (frame :: others) after) :
    others = [] := by
  generalize sent : frame :: others = frames at moves
  cases moves with
  | beats => exact (List.cons_eq_cons.mp sent).2
  | accepts => exact (List.cons_eq_cons.mp sent).2
  | @advances _ _ answer step =>
    cases answer with
    | none => cases sent
    | some _ => exact (List.cons_eq_cons.mp sent).2

theorem ControllerMove.frame_cases
    {before after : Controller}
    {frame : LowerFrame}
    (moves : ControllerMove before [frame] after) :
    (frame = before.phase.status ∧ after = before) ∨
      (∃ started, before = { phase := .idle, started := started } ∧
        frame = .ack ∧
        after = { phase := .dispensing 0, started := started + 1 }) ∨
      before.advance = some (after, some frame) := by
  generalize single : [frame] = frames at moves
  cases moves with
  | beats => exact Or.inl ⟨List.singleton_inj.mp single, rfl⟩
  | accepts started =>
    exact Or.inr (Or.inl ⟨started, rfl, List.singleton_inj.mp single, rfl⟩)
  | @advances _ _ sent step =>
    cases sent with
    | none => cases single
    | some other =>
      cases single
      exact Or.inr (Or.inr step)

/-- The move of the host only asks for the status. -/
def HostMove.OnlyQueries (move : HostMove) : Prop :=
  ∀ frame ∈ move.written, frame = buildStatusQueryFrame

section Reading

variable {request : DispenseRequest} {frame : LowerFrame}
  {before after : Controller} {query : Nat} {point : HostPoint}

theorem acknowledge_onlyQueries
    (unarmed : request.debugInjectFault = false) :
    request.acknowledge.OnlyQueries := by
  simp [HostMove.OnlyQueries, DispenseRequest.acknowledge, unarmed]

theorem queryStatus_onlyQueries
    (ofAttempt : Option Nat)
    (query : Nat) :
    (DispenseRequest.queryStatus ofAttempt query).OnlyQueries := by
  simp [HostMove.OnlyQueries, DispenseRequest.queryStatus]

theorem readStatus_again
    (other : frame.isLowerControllerStatus = false)
    (more : query < commandAttempts) :
    request.readStatus ofAttempt query frame =
      DispenseRequest.queryStatus ofAttempt (query + 1) := by
  simp [DispenseRequest.readStatus, DispenseRequest.statusMissed, other, more]

theorem readStatus_inProgress
    (inProgress : frame.indicatesCommandInProgress = true) :
    request.readStatus ofAttempt query frame = request.acknowledge := by
  have status : frame.isLowerControllerStatus = true := by
    cases frame <;> simp_all [LowerFrame.indicatesCommandInProgress,
      LowerFrame.isLowerControllerStatus, LowerFrame.isHeartbeat]
  simp [DispenseRequest.readStatus, DispenseRequest.statusAnswered, status,
    inProgress]

theorem Heard.read_awaitingAck
    (unarmed : request.debugInjectFault = false)
    (moves :
      ControllerMove { phase := .idle, started := 0 } [frame] after) :
    Heard (request.readAck 1 frame).point after ∧
      (request.readAck 1 frame).OnlyQueries := by
  rcases moves.frame_cases with
    ⟨rfl, rfl⟩ | ⟨started, same, rfl, rfl⟩ | step
  · exact ⟨.nothing, by simp [HostMove.OnlyQueries, DispenseRequest.readAck,
      ControllerPhase.status, LowerFrame.isHeartbeat, HostMove.to]⟩
  · cases same
    exact ⟨.acknowledged _ (.dispensing 0), acknowledge_onlyQueries unarmed⟩
  · simp [Controller.advance] at step

/-- A status query before the acknowledgement is only passed by it. -/
theorem Heard.read_lateAck
    (first : 1 ≤ query)
    (moves : ControllerMove { phase := .idle, started := 0 } [frame] after)
    (recovers : frame.answersQuery query = true) :
    Heard (request.readStatus (some 1) query frame).point after ∧
      (request.readStatus (some 1) query frame).OnlyQueries := by
  rcases moves.frame_cases with
    ⟨rfl, rfl⟩ | ⟨started, same, rfl, rfl⟩ | step
  · simp [LowerFrame.answersQuery_iff, ControllerPhase.status,
      LowerFrame.indicatesCommandInProgress,
      LowerFrame.isLowerControllerStatus, LowerFrame.isHeartbeat] at recovers
  · cases same
    have more : query < commandAttempts :=
      ((LowerFrame.answersQuery_iff.mp recovers).resolve_left
        (by simp [LowerFrame.indicatesCommandInProgress])).2
    rw [readStatus_again rfl more]
    exact ⟨.lateStatus (Nat.succ_le_succ first) more,
      queryStatus_onlyQueries _ _⟩
  · simp [Controller.advance] at step

theorem Heard.read_lateStatus
    (unarmed : request.debugInjectFault = false)
    {announced : Nat}
    (read : announced + 2 ≤ query)
    (last : query ≤ commandAttempts)
    (moves :
      ControllerMove { phase := .dispensing announced, started := 1 } [frame]
        after)
    (recovers : frame.answersQuery query = true) :
    Heard (request.readStatus (some 1) query frame).point after ∧
      (request.readStatus (some 1) query frame).OnlyQueries := by
  have few : announced < announcements := by
    simp only [announcements, commandAttempts] at last ⊢
    omega
  rcases moves.frame_cases with
    ⟨rfl, rfl⟩ | ⟨started, same, -, -⟩ | step
  · rw [readStatus_inProgress rfl]
    exact ⟨.acknowledged _ (.dispensing announced),
      acknowledge_onlyQueries unarmed⟩
  · cases same
  · simp only [Controller.advance, few, if_true, Option.some.injEq,
      Prod.mk.injEq] at step
    obtain ⟨rfl, rfl⟩ := step
    have more : query < commandAttempts :=
      ((LowerFrame.answersQuery_iff.mp recovers).resolve_left
        (by simp [LowerFrame.indicatesCommandInProgress])).2
    rw [readStatus_again rfl more]
    exact ⟨.lateStatus (by omega) more, queryStatus_onlyQueries _ _⟩

/-- A dispense under way is read on to its completion. -/
theorem Heard.read_acknowledged
    (wait : CompletionWait)
    (underway : Underway before)
    (moves : ControllerMove before [frame] after) :
    Heard (request.readCompletion wait frame).point after ∧
      (request.readCompletion wait frame).OnlyQueries := by
  cases underway with
  | dispensing announced =>
    rcases moves.frame_cases with
      ⟨rfl, rfl⟩ | ⟨started, same, -, -⟩ | step
    · exact ⟨.acknowledged _ (.dispensing announced), by
        simp [HostMove.OnlyQueries, DispenseRequest.readCompletion,
          ControllerPhase.status, DispenseRequest.report]⟩
    · cases same
    · simp only [Controller.advance, Option.some.injEq] at step
      split at step <;> simp only [Prod.mk.injEq, reduceCtorEq, and_false,
        Option.some.injEq] at step
      obtain ⟨rfl, rfl⟩ := step
      exact ⟨.acknowledged _ (.dispensing _), by
        simp [HostMove.OnlyQueries, DispenseRequest.readCompletion,
          DispenseRequest.report]⟩
  | pickup announced =>
    rcases moves.frame_cases with
      ⟨rfl, rfl⟩ | ⟨started, same, -, -⟩ | step
    · exact ⟨.acknowledged _ (.pickup announced), by
        simp [HostMove.OnlyQueries, DispenseRequest.readCompletion,
          ControllerPhase.status, DispenseRequest.report]⟩
    · cases same
    · simp only [Controller.advance, Option.some.injEq] at step
      split at step <;> simp only [Prod.mk.injEq, reduceCtorEq, and_false,
        Option.some.injEq] at step
      obtain ⟨rfl, rfl⟩ := step
      exact ⟨.acknowledged _ (.pickup _), by
        simp [HostMove.OnlyQueries, DispenseRequest.readCompletion,
          DispenseRequest.report]⟩
  | resetting =>
    rcases moves.frame_cases with
      ⟨rfl, rfl⟩ | ⟨started, same, -, -⟩ | step
    · exact ⟨.acknowledged _ .resetting, by
        simp [HostMove.OnlyQueries, DispenseRequest.readCompletion,
          ControllerPhase.status, DispenseRequest.report]⟩
    · cases same
    · simp only [Controller.advance, announcements, Nat.zero_lt_succ,
        if_true, Option.some.injEq, Prod.mk.injEq] at step
      obtain ⟨rfl, rfl⟩ := step
      exact ⟨.completed rfl, by
        simp [HostMove.OnlyQueries, DispenseRequest.readCompletion,
          DispenseRequest.complete]⟩

theorem Heard.reads_move
    (unarmed : request.debugInjectFault = false)
    (heard : Heard point before)
    (moves : ControllerMove before [frame] after)
    (recovers :
      ∀ ofAttempt query, point = .queryingStatus ofAttempt query →
        frame.answersQuery query = true)
    {move : HostMove}
    (read : request.read point frame = some move) :
    Heard move.point after ∧ move.OnlyQueries := by
  cases heard with
  | nothing =>
    cases read
    exact Heard.read_awaitingAck unarmed moves
  | lateAck first last =>
    cases read
    exact Heard.read_lateAck first moves (recovers _ _ rfl)
  | lateStatus few last =>
    cases read
    exact Heard.read_lateStatus unarmed few last moves (recovers _ _ rfl)
  | acknowledged wait underway =>
    cases read
    exact Heard.read_acknowledged _ underway moves
  | completed started => cases read

theorem Heard.next_frame
    (heard : Heard point first)
    (sends : Sends first (frame :: rest) last) :
    ∃ ready middle, Heard point ready ∧
      ControllerMove ready [frame] middle ∧ Sends middle rest last := by
  generalize onLine : frame :: rest = frames at sends
  induction sends with
  | refl => cases onLine
  | @move first middle last frames later moves sends inductionHypothesis =>
    cases frames with
    | nil =>
      exact inductionHypothesis (heard.silent moves.silent_step) onLine
    | cons other others =>
      obtain ⟨rfl, same⟩ := List.cons_eq_cons.mp onLine
      cases moves.sends_one
      change rest = later at same
      subst same
      exact ⟨first, middle, heard, moves, sends⟩

theorem Heard.reads
    (unarmed : request.debugInjectFault = false)
    (heard : Heard point first)
    (sends : Sends first (frame :: rest) last)
    (recovers :
      ∀ ofAttempt query, point = .queryingStatus ofAttempt query →
        frame.answersQuery query = true)
    {move : HostMove}
    (read : request.read point frame = some move) :
    ∃ middle, Heard move.point middle ∧ Sends middle rest last ∧
      move.OnlyQueries := by
  obtain ⟨ready, middle, fits, moves, later⟩ := heard.next_frame sends
  obtain ⟨heardNext, queries⟩ := fits.reads_move unarmed moves recovers read
  exact ⟨middle, heardNext, later, queries⟩

/-- The end of a wait for an answer is followed by another status query. -/
theorem Heard.waitEnds
    {controller : Controller}
    (heard : Heard point controller)
    (listening : ∀ wait, point ≠ .awaitingCompletion wait)
    (recovers :
      ∀ ofAttempt query, point = .queryingStatus ofAttempt query →
        query < commandAttempts)
    {move : HostMove}
    (ends : request.waitEnds point = some move) :
    Heard move.point controller ∧ move.OnlyQueries := by
  cases heard with
  | nothing =>
    cases ends
    exact ⟨.lateAck (Nat.le_refl _) (by decide),
      queryStatus_onlyQueries _ _⟩
  | lateAck first last =>
    have more := recovers _ _ rfl
    simp only [DispenseRequest.waitEnds, DispenseRequest.statusMissed, more,
      if_true, Option.some.injEq] at ends
    subst ends
    exact ⟨.lateAck (Nat.le_succ_of_le first) more,
      queryStatus_onlyQueries _ _⟩
  | lateStatus read last =>
    have more := recovers _ _ rfl
    simp only [DispenseRequest.waitEnds, DispenseRequest.statusMissed, more,
      if_true, Option.some.injEq] at ends
    subst ends
    exact ⟨.lateStatus (Nat.le_succ_of_le read) more,
      queryStatus_onlyQueries _ _⟩
  | acknowledged wait underway => exact absurd rfl (listening wait)
  | completed started => cases ends

end Reading

/-- The frame of a request is one that an idle controller accepts. -/
structure DispenseRequest.Accepted (request : DispenseRequest) : Prop where
  receive : ∀ started,
    ({ phase := .idle, started := started } : Controller).receive
        request.frame =
      ({ phase := .dispensing 0, started := started + 1 }, .ack)
  notQuery : request.frame ≠ buildStatusQueryFrame

theorem accepted_of_prepareDispense
    {command : DispenseCommandPayload}
    {debugInjectFault : Bool}
    (prepared : prepareDispense command debugInjectFault = .ok request) :
    request.Accepted := by
  obtain ⟨-, row, cell, frame, exists_⟩ := prepareDispense_ok prepared
  refine ⟨fun started => ?_, ?_⟩
  · simp [frame, Controller.receive, Controller.receiveDispense, exists_]
  · simp [frame, buildStatusQueryFrame]

@[simp] theorem receive_statusQuery (controller : Controller) :
    controller.receive buildStatusQueryFrame =
      (controller, controller.phase.status) := by
  simp [Controller.receive, buildStatusQueryFrame]

/-- What has not been delivered to the controller, and what it has started. -/
inductive Exchange.Delivers
    (request : DispenseRequest)
    (exchange : Exchange) : Prop where
  | pending
      (controller : exchange.controller = { phase := .idle, started := 0 })
      (queries : List (List UInt8))
      (onLine : exchange.toController = request.frame :: queries)
      (onlyQueries : ∀ frame ∈ queries, frame = buildStatusQueryFrame)
  | delivered
      (started : exchange.controller.started = 1)
      (onlyQueries :
        ∀ frame ∈ exchange.toController, frame = buildStatusQueryFrame)

/-- The dispense frame was written once and its answers are being read. -/
structure Exchange.Conversing
    (request : DispenseRequest)
    (exchange : Exchange) : Prop where
  delivers : exchange.Delivers request
  heard : ∃ read, Heard exchange.host read ∧
    Sends read exchange.toHost exchange.controller

theorem opened_conversing (heartbeats : Nat) :
    (request.opened heartbeats).Conversing request where
  delivers := .pending rfl [] rfl (by simp)
  heard := by
    refine ⟨{ phase := .idle, started := 0 }, .nothing, ?_⟩
    induction heartbeats with
    | zero => exact .refl _
    | succ heartbeats inductionHypothesis =>
      exact .move (.beats { phase := .idle, started := 0 }) inductionHypothesis

theorem Exchange.Delivers.moveHost
    (delivers : exchange.Delivers request)
    {move : HostMove}
    (onlyQueries : move.OnlyQueries) :
    ({ exchange with toHost := rest }.moveHost move).Delivers request := by
  cases delivers with
  | pending controller queries onLine earlier =>
    refine .pending controller (queries ++ move.written) ?_ ?_
    · simp [Exchange.moveHost, onLine]
    · intro frame member
      rcases List.mem_append.mp member with old | new
      · exact earlier frame old
      · exact onlyQueries frame new
  | delivered started earlier =>
    refine .delivered started ?_
    intro frame member
    rcases List.mem_append.mp member with old | new
    · exact earlier frame old
    · exact onlyQueries frame new

theorem Exchange.Conversing.receives
    (accepted : request.Accepted)
    (conversing : exchange.Conversing request)
    (step : request.exchangeStep exchange .controllerReceives = some next) :
    next.Conversing request := by
  obtain ⟨read, heard, sends⟩ := conversing.heard
  cases conversing.delivers with
  | pending controller queries onLine onlyQueries =>
    simp only [DispenseRequest.exchangeStep, onLine, controller,
      accepted.receive, Option.some.injEq] at step
    subst step
    exact ⟨.delivered rfl onlyQueries, read, heard,
      (controller ▸ sends).snoc (.accepts 0)⟩
  | delivered started onlyQueries =>
    cases onLine : exchange.toController with
    | nil => simp [DispenseRequest.exchangeStep, onLine] at step
    | cons frame rest =>
      rw [onLine] at onlyQueries
      cases onlyQueries frame List.mem_cons_self
      simp only [DispenseRequest.exchangeStep, onLine,
        receive_statusQuery, Option.some.injEq] at step
      subst step
      exact ⟨.delivered started fun frame member =>
          onlyQueries frame (List.mem_cons_of_mem _ member),
        read, heard, sends.snoc (.beats _)⟩

/-- A step that recovers the acknowledgement keeps the conversation. -/
theorem Exchange.Conversing.step
    (accepted : request.Accepted)
    (unarmed : request.debugInjectFault = false)
    (conversing : exchange.Conversing request)
    {event : LineEvent}
    (undisturbed : exchange.Undisturbed event)
    (recovers : exchange.RecoversAck event)
    (step : request.exchangeStep exchange event = some next) :
    next.Conversing request := by
  obtain ⟨read, heard, sends⟩ := conversing.heard
  cases event with
  | hostReads =>
    cases onLine : exchange.toHost with
    | nil => simp [DispenseRequest.exchangeStep, onLine] at step
    | cons frame rest =>
      simp only [DispenseRequest.exchangeStep, onLine,
        Option.map_eq_some_iff] at step
      obtain ⟨move, reads, rfl⟩ := step
      obtain ⟨middle, fits, later, onlyQueries⟩ :=
        heard.reads unarmed (onLine ▸ sends)
          (fun ofAttempt query point =>
            (Exchange.RecoversAck.of_read point onLine).mp recovers) reads
      exact ⟨conversing.delivers.moveHost onlyQueries, middle, fits, later⟩
  | hostWaitEnds =>
    simp only [DispenseRequest.exchangeStep,
      Option.map_eq_some_iff] at step
    obtain ⟨move, ends, rfl⟩ := step
    obtain ⟨fits, onlyQueries⟩ := heard.waitEnds undisturbed.listening
      (fun ofAttempt query point =>
        (Exchange.RecoversAck.of_waitEnds point).mp recovers) ends
    exact ⟨conversing.delivers.moveHost onlyQueries, read, fits, sends⟩
  | commandDeadlinePasses =>
    exact absurd undisturbed Exchange.Undisturbed.before_deadline
  | controllerReceives => exact conversing.receives accepted step
  | controllerBeats =>
    simp only [DispenseRequest.exchangeStep, Option.some.injEq] at step
    subst step
    refine ⟨?_, read, heard, sends.snoc (.beats _)⟩
    cases conversing.delivers with
    | pending controller queries onLine onlyQueries =>
      exact .pending controller queries onLine onlyQueries
    | delivered started onlyQueries => exact .delivered started onlyQueries
  | controllerAdvances =>
    simp only [DispenseRequest.exchangeStep,
      Option.map_eq_some_iff] at step
    obtain ⟨⟨after, sent⟩, advances, rfl⟩ := step
    refine ⟨?_, read, heard, sends.snoc (.advances advances)⟩
    cases conversing.delivers with
    | pending controller queries onLine onlyQueries =>
      rw [controller] at advances
      simp [Controller.advance] at advances
    | delivered started onlyQueries =>
      exact .delivered ((advance_started advances).trans started) onlyQueries

/-- What the claim of a correct dispense asks of a reached state. -/
structure Exchange.Conforms (exchange : Exchange) : Prop where
  neverFails : ∀ failure, exchange.host ≠ .returned (some failure)
  startsOnce : exchange.controller.started ≤ 1
  started : exchange.host = .returned none → exchange.controller.started = 1

theorem Exchange.Conversing.conforms
    (conversing : exchange.Conversing request) : exchange.Conforms := by
  obtain ⟨read, heard, sends⟩ := conversing.heard
  have startsOnce : exchange.controller.started ≤ 1 := by
    cases conversing.delivers with
    | pending controller => simp [controller]
    | delivered started => exact Nat.le_of_eq started
  refine ⟨?_, startsOnce, ?_⟩
  · intro failure point
    rw [point] at heard
    cases heard
  · intro point
    rw [point] at heard
    cases heard with
    | completed started =>
      have counted := sends.started_le
      omega

end VendingSystem.Daemon
