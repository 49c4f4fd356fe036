import Mathlib.Tactic.Common
import VendingSystem.DaemonSerialDispense

namespace VendingSystem.Daemon

/-!
# What the heartbeat probes do to the completion phase

`wait_for_completion` reads the line in its loop, and after two silent seconds
once more in a heartbeat probe.  The loop interprets a frame; the probe only
asks whether it is a status.
-/

/-- What a read of the completion phase ends with. -/
inductive CompletionInput where
  | frame (frame : LowerFrame)
  /-- The time of the read runs out. -/
  | silence
  /-- The loop finds the command deadline passed. -/
  | deadline
  deriving Repr, DecidableEq

namespace DispenseRequest

variable (request : DispenseRequest)

/-- The point that an input takes the host to. -/
def hear (point : HostPoint) (input : CompletionInput) : HostPoint :=
  let move :=
    match input with
    | .frame frame => request.read point frame
    | .silence => request.waitEnds point
    | .deadline => DispenseRequest.deadlinePasses point
  (move.map HostMove.point).getD point

/-- `wait_for_completion` on the inputs of its reads. -/
def waitForCompletion (inputs : List CompletionInput) : HostPoint :=
  inputs.foldl request.hear (.awaitingCompletion .start)

end DispenseRequest

/-- How a completion phase ends. -/
inductive CompletionVerdict where
  | completed
  | faulted (fault : LowerControllerFault)
  /-- By another fault, an unknown or unexpected frame, or the time. -/
  | otherwise
  deriving Repr, DecidableEq

/-- The phase as far as the inputs have decided it. -/
inductive CompletionWatch where
  | watching (probing : Bool) (pickedUp : Bool) (unanswered : Nat)
  | decided (verdict : CompletionVerdict)
  deriving Repr, DecidableEq

/-- What a frame decides, whoever reads it. -/
def judgeFrame (pickedUp : Bool) : LowerFrame → CompletionWatch
  | .resetCompletedFrame => .decided .completed
  | .idleHeartbeat =>
    if pickedUp then .decided .completed else .watching false pickedUp 0
  | .mechanicalError => .decided (.faulted .sharedMechanical)
  | .pickupPlatformBlocked => .decided (.faulted .pickupPlatformBlocked)
  | .pickupCompleted => .watching false true 0
  | .ack | .dispensingHeartbeat | .pickupHeartbeat | .resetHeartbeat
  | .arrivalAtOutlet | .pickupTimeout => .watching false pickedUp 0
  | _ => .decided .otherwise

/-- One more probe without an answer. -/
def countUnanswered (pickedUp : Bool) (unanswered : Nat) : CompletionWatch :=
  if commandAttempts ≤ unanswered + 1 then .decided .otherwise
  else .watching false pickedUp (unanswered + 1)

/-- What the next input decides. -/
def watchInput : CompletionWatch → CompletionInput → CompletionWatch
  | .decided verdict, _ => .decided verdict
  | .watching _ pickedUp _, .frame frame => judgeFrame pickedUp frame
  | .watching false pickedUp unanswered, .silence =>
    .watching true pickedUp unanswered
  | .watching true pickedUp unanswered, .silence =>
    countUnanswered pickedUp unanswered
  | .watching false _ _, .deadline => .decided .otherwise
  | .watching true pickedUp unanswered, .deadline =>
    .watching true pickedUp unanswered

/-- Unless the phase has ended, its reader is known. -/
def CompletionWatch.ReadBy (probing : Bool) (watch : CompletionWatch) : Prop :=
  ∀ other pickedUp unanswered,
    watch = .watching other pickedUp unanswered → other = probing

theorem judgeFrame_readBy (pickedUp : Bool) (frame : LowerFrame) :
    (judgeFrame pickedUp frame).ReadBy false := by
  intro other next unanswered isWatching
  cases frame <;> cases pickedUp <;> cases isWatching <;> rfl

theorem countUnanswered_readBy (pickedUp : Bool) (unanswered : Nat) :
    (countUnanswered pickedUp unanswered).ReadBy false := by
  intro other next count isWatching
  unfold countUnanswered at isWatching
  split at isWatching
  · cases isWatching
  · cases isWatching
    rfl

theorem decided_readBy (verdict : CompletionVerdict) (probing : Bool) :
    (CompletionWatch.decided verdict).ReadBy probing := by
  intro other pickedUp unanswered isWatching
  cases isWatching

/-- What the inputs decide. -/
def watchInputs (inputs : List CompletionInput) : CompletionWatch :=
  inputs.foldl watchInput (.watching false false 0)

/-- The host failed with a fault of the shared hardware. -/
def HostPoint.Jammed (fault : LowerControllerFault) : HostPoint → Prop
  | .returned (some failure) =>
    failure.errorCode = "JAMMED" ∧ failure.lowerControllerFault = some fault
  | _ => False

/-- The phase ends as its inputs decide. -/
structure CompletesRight
    (request : DispenseRequest)
    (inputs : List CompletionInput) : Prop where
  completes : watchInputs inputs = .decided .completed →
    request.waitForCompletion inputs = .returned none
  faults : ∀ fault, watchInputs inputs = .decided (.faulted fault) →
    (request.waitForCompletion inputs).Jammed fault
  onlyThen : request.waitForCompletion inputs = .returned none →
    watchInputs inputs = .decided .completed

/-- A frame as a probe takes it: a status is an answer, any other is none. -/
def probed (frame : LowerFrame) : CompletionInput :=
  if frame.isLowerControllerStatus then .frame .dispensingHeartbeat
  else .silence

/-- The inputs, with each frame of a probe as the probe takes it. -/
def heardInputs : Bool → List CompletionInput → List CompletionInput
  | _, [] => []
  | false, .silence :: rest => .silence :: heardInputs true rest
  | false, input :: rest => input :: heardInputs false rest
  | true, .frame frame :: rest => probed frame :: heardInputs false rest
  | true, .silence :: rest => .silence :: heardInputs false rest
  | true, .deadline :: rest => .deadline :: heardInputs true rest

/-- The frames that probes read make no difference to what is decided. -/
structure ProbesDoNotMatter (inputs : List CompletionInput) : Prop where
  completed : watchInputs inputs = .decided .completed ↔
    watchInputs (heardInputs false inputs) = .decided .completed
  faulted : ∀ fault, watchInputs inputs = .decided (.faulted fault) →
    watchInputs (heardInputs false inputs) = .decided (.faulted fault)

/-- The host stands where the inputs it made something of put it. -/
inductive Follows : HostPoint → CompletionWatch → Prop where
  | listening (wait : CompletionWait) :
      Follows (.awaitingCompletion wait)
        (.watching false wait.pickupCompleted wait.probeFailures)
  | probing (wait : CompletionWait) :
      Follows (.probing wait)
        (.watching true wait.pickupCompleted wait.probeFailures)
  | completed : Follows (.returned none) (.decided .completed)
  | faulted {failure : DispenseFailure} {fault : LowerControllerFault} :
      failure.errorCode = "JAMMED" →
      failure.lowerControllerFault = some fault →
      Follows (.returned (some failure)) (.decided (.faulted fault))
  | otherwise {failure : DispenseFailure} :
      failure.errorCode ≠ "JAMMED" →
      Follows (.returned (some failure)) (.decided .otherwise)

namespace Follows

variable
  {request : DispenseRequest}
  {point : HostPoint}
  {watch : CompletionWatch}

theorem completed_iff (follows : Follows point watch) :
    point = .returned none ↔ watch = .decided .completed := by
  cases follows <;> simp

theorem jammed_iff
    (follows : Follows point watch)
    (fault : LowerControllerFault) :
    point.Jammed fault ↔ watch = .decided (.faulted fault) := by
  cases follows with
  | faulted isJammed isFault => simp [HostPoint.Jammed, isJammed, isFault]
  | otherwise notJammed => simp [HostPoint.Jammed, notJammed]
  | _ => simp [HostPoint.Jammed]

/-- The loop makes of a frame what the frame decides. -/
theorem readCompletion
    (wait : CompletionWait)
    (noFailures : wait.probeFailures = 0)
    (frame : LowerFrame) :
    Follows (request.readCompletion wait frame).point
      (judgeFrame wait.pickupCompleted frame) := by
  have go (next : CompletionWait)
      (sameFailures : next.probeFailures = 0) :
      Follows (.awaitingCompletion next)
        (.watching false next.pickupCompleted 0) :=
    sameFailures ▸ Follows.listening next
  cases frame with
  | idleHeartbeat =>
    unfold DispenseRequest.readCompletion judgeFrame
    simp only
    split
    · exact .completed
    · exact go wait noFailures
  | pickupTimeout =>
    show Follows (request.warnPickupTimeout wait).point _
    unfold DispenseRequest.warnPickupTimeout
    split
    · exact go wait noFailures
    · exact go { wait with
        pickupTimeoutWarnings := wait.pickupTimeoutWarnings + 1 } noFailures
  | resetCompletedFrame => exact .completed
  | pickupCompleted =>
    exact go { wait with pickupCompleted := true } noFailures
  | arrivalAtOutlet =>
    exact go { wait with outletOpenedReported := true } noFailures
  | pickupHeartbeat =>
    exact go { wait with pickupWaitingReported := true } noFailures
  | ack | dispensingHeartbeat | resetHeartbeat => exact go wait noFailures
  | mechanicalError => exact .faulted rfl rfl
  | pickupPlatformBlocked => exact .faulted rfl rfl
  | _ => exact .otherwise (show "UNKNOWN" ≠ "JAMMED" by decide)

theorem probeFailed (wait : CompletionWait) :
    Follows (DispenseRequest.probeFailed wait).point
      (countUnanswered wait.pickupCompleted wait.probeFailures) := by
  unfold DispenseRequest.probeFailed countUnanswered
  simp only
  split
  · exact .otherwise (by decide)
  · exact .listening { wait with probeFailures := wait.probeFailures + 1 }

theorem hear_listening
    (wait : CompletionWait)
    (input : CompletionInput) :
    Follows (request.hear (.awaitingCompletion wait) input)
      (watchInput
        (.watching false wait.pickupCompleted wait.probeFailures) input) := by
  cases input with
  | frame frame =>
    exact readCompletion { wait with probeFailures := 0 } rfl frame
  | silence => exact .probing wait
  | deadline => exact .otherwise (by decide)

theorem hear_probing
    (wait : CompletionWait)
    (frame : LowerFrame) :
    Follows (request.hear (.probing wait) (.frame frame))
      (watchInput (.watching true wait.pickupCompleted wait.probeFailures)
        (probed frame)) := by
  unfold DispenseRequest.hear probed
  simp only [DispenseRequest.read, Option.map_some, Option.getD_some]
  split
  · exact .listening { wait with probeFailures := 0 }
  · exact probeFailed wait

end Follows

theorem hear_returned
    (request : DispenseRequest)
    (failure : Option DispenseFailure)
    (inputs : List CompletionInput) :
    inputs.foldl request.hear (.returned failure) = .returned failure := by
  induction inputs with
  | nil => rfl
  | cons input rest inductionHypothesis =>
    cases input <;> exact inductionHypothesis

theorem watch_decided
    (verdict : CompletionVerdict)
    (inputs : List CompletionInput) :
    inputs.foldl watchInput (.decided verdict) = .decided verdict := by
  induction inputs with
  | nil => rfl
  | cons input rest inductionHypothesis => exact inductionHypothesis

/-- A step of the host is the watch's step on what the host made of it. -/
theorem Follows.foldl
    {request : DispenseRequest}
    (inputs : List CompletionInput)
    (wait : CompletionWait) :
    Follows (inputs.foldl request.hear (.awaitingCompletion wait))
        ((heardInputs false inputs).foldl watchInput
          (.watching false wait.pickupCompleted wait.probeFailures)) ∧
      Follows (inputs.foldl request.hear (.probing wait))
        ((heardInputs true inputs).foldl watchInput
          (.watching true wait.pickupCompleted wait.probeFailures)) := by
  induction inputs generalizing wait with
  | nil => exact ⟨.listening wait, .probing wait⟩
  | cons input rest inductionHypothesis =>
    -- After a read that is not the start of a probe the loop listens again.
    have later {point : HostPoint} {watch : CompletionWatch}
        (follows : Follows point watch)
        (listens : watch.ReadBy false) :
        Follows (rest.foldl request.hear point)
          ((heardInputs false rest).foldl watchInput watch) := by
      cases follows with
      | listening next => exact (inductionHypothesis next).1
      | probing next => cases listens _ _ _ rfl
      | completed =>
        rw [hear_returned, watch_decided]
        exact .completed
      | faulted isJammed isFault =>
        rw [hear_returned, watch_decided]
        exact .faulted isJammed isFault
      | otherwise notJammed =>
        rw [hear_returned, watch_decided]
        exact .otherwise notJammed
    constructor
    · cases input with
      | frame frame =>
        exact later (Follows.hear_listening wait (.frame frame))
          (judgeFrame_readBy _ _)
      | silence => exact (inductionHypothesis wait).2
      | deadline =>
        exact later (Follows.hear_listening wait .deadline) (decided_readBy _ _)
    · cases input with
      | frame frame =>
        refine later (Follows.hear_probing wait frame) ?_
        unfold probed
        split
        · exact judgeFrame_readBy _ .dispensingHeartbeat
        · exact countUnanswered_readBy _ _
      | silence =>
        exact later (Follows.probeFailed wait) (countUnanswered_readBy _ _)
      | deadline => exact (inductionHypothesis wait).2

theorem waitForCompletion_follows
    (request : DispenseRequest)
    (inputs : List CompletionInput) :
    Follows (request.waitForCompletion inputs)
      (watchInputs (heardInputs false inputs)) :=
  (Follows.foldl inputs .start).1

/--
The completion phase ends as its inputs decide exactly when the frames that
heartbeat probes read make no difference.
-/
theorem completesRight_iff
    (request : DispenseRequest)
    (inputs : List CompletionInput) :
    CompletesRight request inputs ↔ ProbesDoNotMatter inputs := by
  have follows := waitForCompletion_follows request inputs
  constructor
  · intro right
    exact
      { completed :=
          ⟨fun completed => follows.completed_iff.mp (right.completes completed),
            fun heard => right.onlyThen (follows.completed_iff.mpr heard)⟩
        faulted := fun fault isFault =>
          (follows.jammed_iff fault).mp (right.faults fault isFault) }
  · intro same
    exact
      { completes := fun completed =>
          follows.completed_iff.mpr (same.completed.mp completed)
        faults := fun fault isFault =>
          (follows.jammed_iff fault).mpr (same.faulted fault isFault)
        onlyThen := fun returned =>
          same.completed.mpr (follows.completed_iff.mp returned) }

/-- The reset completion frame comes after two silent seconds. -/
theorem probe_loses_completion :
    ¬ ∀ (request : DispenseRequest) (inputs : List CompletionInput),
      CompletesRight request inputs := by
  intro right
  let request : DispenseRequest :=
    { command :=
        { commandNo := 1, orderNo := 1, slot := { rowNo := 2, cellNo := 5 }
          quantity := 1, timeoutSeconds := 120, recovery := none }
      frame := [0x55, 0x02, 0x05, 0x31]
      debugInjectFault := false }
  have completes :=
    (right request [.silence, .frame .resetCompletedFrame]).completes rfl
  cases completes

end VendingSystem.Daemon
