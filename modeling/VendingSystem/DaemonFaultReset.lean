import Mathlib.Data.List.Count
import VendingSystem.DaemonSerialFrames
import VendingSystem.Machine

namespace VendingSystem.Daemon

/-!
# The fault reset and the lower controller

`run_fault_reset_on_port` and a controller that repeats its status, takes the
reset frame when it is faulted, and ends an accepted reset with three
completion frames or with a fault.  No read runs into a timeout of the host.
-/

inductive FaultResetStatus where
  | succeeded
  | rejectedNotFaulted
  | mechanicalFault
  | pickupPlatformBlocked
  | failed
  deriving Repr, DecidableEq

structure FaultResetResult where
  status : FaultResetStatus
  message : String
  lowerControllerFault : Option LowerControllerFault
  deriving Repr, DecidableEq

def resetResult
    (status : FaultResetStatus)
    (message : String)
    (fault : Option LowerControllerFault) : FaultResetResult where
  status := status
  message := message
  lowerControllerFault := fault

def requiredResetCompletedFrames : Nat := 3

/-- What `run_fault_reset_on_port` waits for. -/
inductive ResetPoint where
  | awaitingAck
  | observing (completedFrames : Nat)
  | returned (result : FaultResetResult)
  deriving Repr, DecidableEq

/-- What the host makes of a frame while it waits for the answer. -/
def readResetAck (frame : LowerFrame) : ResetPoint :=
  match frame with
  | .ack => .observing 0
  | .busy => .returned (resetResult .rejectedNotFaulted
      "lower controller rejected fault reset (not faulted or reset already in progress)"
      none)
  | .boundaryError => .returned (resetResult .failed
      "fault reset frame rejected (format error, expected 4-byte HEX frame without newline)"
      none)
  | .crcError => .returned (resetResult .failed
      "fault reset frame rejected (crc error)" none)
  | .mechanicalError => .returned (resetResult .mechanicalFault
      "lower controller reported mechanical fault while accepting reset"
      (some .sharedMechanical))
  | .pickupPlatformBlocked => .returned (resetResult .pickupPlatformBlocked
      "lower controller reported pickup platform blocked while accepting reset"
      (some .pickupPlatformBlocked))
  | frame =>
    if frame.isHeartbeat then .awaitingAck
    else
      let description := frame.describe
      .returned (resetResult .failed
        s!"unexpected frame while waiting for fault reset ack: {description}"
        none)

/-- What the host makes of a frame while it observes the reset. -/
def readReset (completedFrames : Nat) (frame : LowerFrame) : ResetPoint :=
  match frame with
  | .resetCompletedFrame => .observing (completedFrames + 1)
  | .idleHeartbeat =>
    if requiredResetCompletedFrames ≤ completedFrames then
      .returned (resetResult .succeeded
        "lower controller fault reset completed" none)
    else .observing completedFrames
  | .mechanicalError => .returned (resetResult .mechanicalFault
      "lower controller reported mechanical fault during reset"
      (some .sharedMechanical))
  | .pickupPlatformBlocked => .returned (resetResult .pickupPlatformBlocked
      "pickup platform still blocked after reset"
      (some .pickupPlatformBlocked))
  | _ => .observing completedFrames

/-- The next frame of the line, at a point that reads. -/
def ResetPoint.read (point : ResetPoint) (frame : LowerFrame) :
    Option ResetPoint :=
  match point with
  | .awaitingAck => some (readResetAck frame)
  | .observing completedFrames => some (readReset completedFrames frame)
  | .returned _ => none

/-- The status of a controller that no reset of this host has reached. -/
inductive ControllerStatus where
  | idle
  | dispensing
  | pickup
  | resetting
  | faulted (fault : LowerControllerFault)
  deriving Repr, DecidableEq

def faultFrame : LowerControllerFault → LowerFrame
  | .sharedMechanical => .mechanicalError
  | .pickupPlatformBlocked => .pickupPlatformBlocked

def ControllerStatus.heartbeat : ControllerStatus → LowerFrame
  | .idle => .idleHeartbeat
  | .dispensing => .dispensingHeartbeat
  | .pickup => .pickupHeartbeat
  | .resetting => .resetHeartbeat
  | .faulted fault => faultFrame fault

/-- How far the controller is with the reset it was asked for. -/
inductive ResetPhase where
  /-- The reset frame has not arrived. -/
  | unasked (status : ControllerStatus)
  | refused (status : ControllerStatus)
  | resetting
  /-- Some of the three completion frames are sent. -/
  | announcing (sent : Nat)
  /-- The reset is complete, and the idle heartbeat sent or not. -/
  | completed (idleSent : Bool)
  | failed (fault : LowerControllerFault)
  deriving Repr, DecidableEq

namespace ResetPhase

def heartbeat : ResetPhase → LowerFrame
  | unasked status | refused status => status.heartbeat
  | resetting | announcing _ => .resetHeartbeat
  | completed _ => .idleHeartbeat
  | failed fault => faultFrame fault

/-- The controller after a heartbeat. -/
def beaten : ResetPhase → ResetPhase
  | completed _ => completed true
  | phase => phase

end ResetPhase

/-- A frame on the line. -/
structure SentFrame where
  frame : LowerFrame
  /-- It was sent before the controller answered the reset frame. -/
  beforeAnswer : Bool
  deriving Repr, DecidableEq

structure FaultReset where
  host : ResetPoint
  controller : ResetPhase
  /-- What the controller sent and the host has not read. -/
  line : List SentFrame
  deriving Repr, DecidableEq

inductive ResetEvent where
  | hostReads
  | controllerReceives
  | controllerBeats
  | controllerAnnounces
  | controllerFails (fault : LowerControllerFault)
  deriving Repr, DecidableEq

namespace FaultReset

variable (run : FaultReset)

/-- The controller sends a frame after its answer, or as its answer. -/
def send (controller : ResetPhase) (frame : LowerFrame) : FaultReset :=
  { run with
    controller := controller
    line := run.line ++ [{ frame, beforeAnswer := false }] }

end FaultReset

def faultResetStep (run : FaultReset) : ResetEvent → Option FaultReset
  | .hostReads =>
    match run.line with
    | [] => none
    | sent :: rest =>
      (run.host.read sent.frame).map fun host =>
        { run with host, line := rest }
  | .controllerReceives =>
    match run.controller with
    | .unasked (.faulted _) => some (run.send .resetting .ack)
    | .unasked status => some (run.send (.refused status) .busy)
    | _ => none
  | .controllerBeats =>
    match run.controller with
    | .unasked status =>
      some { run with
        line := run.line ++
          [{ frame := status.heartbeat, beforeAnswer := true }] }
    | phase => some (run.send phase.beaten phase.heartbeat)
  | .controllerAnnounces =>
    match run.controller with
    | .resetting => some (run.send (.announcing 1) .resetCompletedFrame)
    | .announcing sent =>
      if sent + 1 < requiredResetCompletedFrames then
        some (run.send (.announcing (sent + 1)) .resetCompletedFrame)
      else some (run.send (.completed false) .resetCompletedFrame)
    | _ => none
  | .controllerFails fault =>
    match run.controller with
    | .resetting => some (run.send (.failed fault) (faultFrame fault))
    | _ => none

def faultReset : Machine FaultReset ResetEvent where
  step := faultResetStep

/-- The reset frame is written, and earlier frames are still unread. -/
def FaultReset.start
    (unread : List LowerFrame)
    (status : ControllerStatus) : FaultReset where
  host := .awaitingAck
  controller := .unasked status
  line := unread.map fun frame => { frame, beforeAnswer := true }

structure VerdictAgrees (run : FaultReset) : Prop where
  succeeds : ∀ result, run.host = .returned result →
    (result.status = .succeeded ↔ ∃ idleSent, run.controller = .completed idleSent)
  mechanical : ∀ result, run.host = .returned result →
    result.status = .mechanicalFault →
    run.controller = .failed .sharedMechanical
  blocked : ∀ result, run.host = .returned result →
    result.status = .pickupPlatformBlocked →
    run.controller = .failed .pickupPlatformBlocked
  rejected : ∀ result, run.host = .returned result →
    result.status = .rejectedNotFaulted →
    ∃ status, run.controller = .refused status
  returns : run.line = [] →
    (run.controller = .completed true ∨
      (∃ fault, run.controller = .failed fault) ∨
      ∃ status, run.controller = .refused status) →
    ∃ result, run.host = .returned result

/-- Before the answer the host reads nothing but heartbeats. -/
def HeartbeatsBeforeAnswer (run : FaultReset) (event : ResetEvent) : Prop :=
  event = .hostReads → run.host = .awaitingAck →
    ∀ sent ∈ run.line.head?, sent.beforeAnswer = true →
      sent.frame.isHeartbeat = true

instance (run : FaultReset) (event : ResetEvent) :
    Decidable (HeartbeatsBeforeAnswer run event) :=
  inferInstanceAs (Decidable (event = .hostReads → run.host = .awaitingAck →
    ∀ sent ∈ run.line.head?, sent.beforeAnswer = true →
      sent.frame.isHeartbeat = true))

def IsResetFrame (frame : LowerFrame) : Prop :=
  frame = .resetHeartbeat ∨ frame = .resetCompletedFrame

/-- What an accepted reset has sent beyond what the host has read. -/
inductive Outlook : ResetPhase → Nat → List LowerFrame → Prop where
  | resetting {frames : List LowerFrame} :
      (∀ frame ∈ frames, frame = .resetHeartbeat) →
      Outlook .resetting 0 frames
  | announcing {sent completedFrames : Nat} {frames : List LowerFrame} :
      (∀ frame ∈ frames, IsResetFrame frame) →
      completedFrames + frames.count .resetCompletedFrame = sent →
      sent < requiredResetCompletedFrames →
      Outlook (.announcing sent) completedFrames frames
  | completed {idleSent : Bool} {completedFrames : Nat}
      {leading trailing : List LowerFrame} :
      (∀ frame ∈ leading, IsResetFrame frame) →
      completedFrames + leading.count .resetCompletedFrame =
        requiredResetCompletedFrames →
      (∀ frame ∈ trailing, frame = .idleHeartbeat) →
      (idleSent = true → trailing ≠ []) →
      Outlook (.completed idleSent) completedFrames (leading ++ trailing)
  | failed {fault : LowerControllerFault}
      {leading trailing : List LowerFrame} :
      (∀ frame ∈ leading, frame = .resetHeartbeat) →
      (∀ frame ∈ trailing, frame = faultFrame fault) →
      trailing ≠ [] →
      Outlook (.failed fault) 0 (leading ++ trailing)

/-- What the controller may send once it has accepted the reset. -/
inductive PhaseSends : ResetPhase → ResetPhase → LowerFrame → Prop where
  | beats (phase : ResetPhase) : PhaseSends phase phase.beaten phase.heartbeat
  | begins : PhaseSends .resetting (.announcing 1) .resetCompletedFrame
  | announces {sent : Nat} :
      sent + 1 < requiredResetCompletedFrames →
      PhaseSends (.announcing sent) (.announcing (sent + 1))
        .resetCompletedFrame
  | completes {sent : Nat} :
      ¬ sent + 1 < requiredResetCompletedFrames →
      PhaseSends (.announcing sent) (.completed false) .resetCompletedFrame
  | fails (fault : LowerControllerFault) :
      PhaseSends .resetting (.failed fault) (faultFrame fault)

theorem forall_append_singleton
    {Element : Type}
    {property : Element → Prop}
    {elements : List Element}
    {last : Element}
    (all : ∀ element ∈ elements, property element)
    (ofLast : property last) :
    ∀ element ∈ elements ++ [last], property element := by
  intro element member
  rcases List.mem_append.mp member with inElements | isLast
  · exact all element inElements
  · exact List.mem_singleton.mp isLast ▸ ofLast

variable {frame : LowerFrame} {completedFrames : Nat} {phase next : ResetPhase}

theorem Outlook.send
    {frames : List LowerFrame}
    (outlook : Outlook phase completedFrames frames)
    (sends : PhaseSends phase next frame) :
    Outlook next completedFrames (frames ++ [frame]) := by
  cases outlook with
  | resetting heartbeats =>
    cases sends with
    | beats => exact .resetting (forall_append_singleton heartbeats rfl)
    | begins =>
      have noneYet : frames.count .resetCompletedFrame = 0 :=
        List.count_eq_zero_of_not_mem fun member => by
          cases heartbeats _ member
      refine .announcing (forall_append_singleton
        (fun frame member => .inl (heartbeats frame member)) (.inr rfl)) ?_
        (by decide)
      rw [List.count_append, noneYet]
      rfl
    | fails fault =>
      exact .failed heartbeats (by simp) (List.cons_ne_nil _ _)
  | announcing resetFrames counted below =>
    cases sends with
    | beats =>
      refine .announcing (forall_append_singleton resetFrames (.inl rfl))
        ?_ below
      rw [List.count_append]
      exact counted
    | announces more =>
      refine .announcing (forall_append_singleton resetFrames (.inr rfl))
        ?_ more
      rw [List.count_append, ← Nat.add_assoc, counted]
      rfl
    | completes last =>
      have completed := @Outlook.completed false completedFrames
        (frames ++ [.resetCompletedFrame]) []
        (forall_append_singleton resetFrames (.inr rfl))
        (by
          rw [List.count_append, ← Nat.add_assoc, counted]
          show _ + 1 = _
          omega)
        (fun _ member => absurd member List.not_mem_nil)
        (fun sent => by cases sent)
      rwa [List.append_nil] at completed
  | completed resetFrames counted idle _ =>
    cases sends with
    | beats =>
      rw [List.append_assoc]
      exact .completed resetFrames counted
        (forall_append_singleton idle rfl) (fun _ => by simp)
  | failed heartbeats faults _ =>
    cases sends with
    | beats =>
      rw [List.append_assoc]
      exact .failed heartbeats (forall_append_singleton faults rfl) (by simp)

/-- The verdict on a reset that ended with a fault. -/
def faultStatus : LowerControllerFault → FaultResetStatus
  | .sharedMechanical => .mechanicalFault
  | .pickupPlatformBlocked => .pickupPlatformBlocked

/-- What the host makes of the next frame of an accepted reset. -/
theorem Outlook.read
    {rest : List LowerFrame}
    (outlook : Outlook phase completedFrames (frame :: rest)) :
    (∃ more, readReset completedFrames frame = .observing more ∧
      Outlook phase more rest) ∨
    (∃ result idleSent, readReset completedFrames frame = .returned result ∧
      phase = .completed idleSent ∧ result.status = .succeeded) ∨
    (∃ result fault, readReset completedFrames frame = .returned result ∧
      phase = .failed fault ∧ result.status = faultStatus fault) := by
  generalize isFrames : frame :: rest = frames at outlook
  cases outlook with
  | resetting heartbeats =>
    subst isFrames
    rw [heartbeats frame List.mem_cons_self]
    exact .inl ⟨0, rfl, .resetting fun later member =>
      heartbeats later (List.mem_cons_of_mem _ member)⟩
  | announcing resetFrames counted below =>
    subst isFrames
    have later : ∀ later ∈ rest, IsResetFrame later := fun later member =>
      resetFrames later (List.mem_cons_of_mem _ member)
    rcases resetFrames frame List.mem_cons_self with rfl | rfl
    · exact .inl ⟨completedFrames, rfl, .announcing later counted below⟩
    · refine .inl ⟨completedFrames + 1, rfl, .announcing later ?_ below⟩
      rw [List.count_cons_self] at counted
      omega
  | @completed idleSent _ leading trailing resetFrames counted idle isSent =>
    cases leading with
    | nil =>
      rw [List.nil_append] at isFrames
      subst isFrames
      rw [idle frame List.mem_cons_self]
      have enough : requiredResetCompletedFrames ≤ completedFrames :=
        counted.ge
      refine .inr (.inl ⟨_, idleSent, if_pos enough, rfl, rfl⟩)
    | cons head others =>
      cases isFrames
      have later : ∀ later ∈ others, IsResetFrame later :=
        fun later member =>
          resetFrames later (List.mem_cons_of_mem _ member)
      rcases resetFrames frame List.mem_cons_self with rfl | rfl
      · exact .inl ⟨completedFrames, rfl,
          .completed later counted idle isSent⟩
      · refine .inl ⟨completedFrames + 1, rfl,
          .completed later ?_ idle isSent⟩
        rw [List.count_cons_self] at counted
        omega
  | @failed fault leading trailing heartbeats faults nonempty =>
    cases leading with
    | nil =>
      rw [List.nil_append] at isFrames
      subst isFrames
      rw [faults frame List.mem_cons_self]
      cases fault with
      | sharedMechanical => exact .inr (.inr ⟨_, _, rfl, rfl, rfl⟩)
      | pickupPlatformBlocked => exact .inr (.inr ⟨_, _, rfl, rfl, rfl⟩)
    | cons head others =>
      cases isFrames
      rw [heartbeats frame List.mem_cons_self]
      exact .inl ⟨0, rfl, .failed
        (fun later member =>
          heartbeats later (List.mem_cons_of_mem _ member))
        faults nonempty⟩

/-- Frames that were sent before the answer. -/
def BeforeAnswer (line : List SentFrame) : Prop :=
  ∀ sent ∈ line, sent.beforeAnswer = true

def frames (line : List SentFrame) : List LowerFrame :=
  line.map SentFrame.frame

/-- The host knows of the reset what it can know from what it has read. -/
inductive Consistent : FaultReset → Prop where
  | unasked {status : ControllerStatus} {line : List SentFrame} :
      BeforeAnswer line →
      Consistent ⟨.awaitingAck, .unasked status, line⟩
  | refused {status : ControllerStatus} {before after : List SentFrame} :
      BeforeAnswer before →
      Consistent
        ⟨.awaitingAck, .refused status, before ++ ⟨.busy, false⟩ :: after⟩
  | accepted {phase : ResetPhase} {before after : List SentFrame} :
      BeforeAnswer before →
      Outlook phase 0 (frames after) →
      Consistent ⟨.awaitingAck, phase, before ++ ⟨.ack, false⟩ :: after⟩
  | observing {phase : ResetPhase} {completedFrames : Nat}
      {line : List SentFrame} :
      Outlook phase completedFrames (frames line) →
      Consistent ⟨.observing completedFrames, phase, line⟩
  | rejected {status : ControllerStatus} {line : List SentFrame}
      {result : FaultResetResult} :
      result.status = .rejectedNotFaulted →
      Consistent ⟨.returned result, .refused status, line⟩
  | succeeded {idleSent : Bool} {line : List SentFrame}
      {result : FaultResetResult} :
      result.status = .succeeded →
      Consistent ⟨.returned result, .completed idleSent, line⟩
  | faulted {fault : LowerControllerFault} {line : List SentFrame}
      {result : FaultResetResult} :
      result.status = faultStatus fault →
      Consistent ⟨.returned result, .failed fault, line⟩

theorem readResetAck_heartbeat
    (heartbeat : frame.isHeartbeat = true) :
    readResetAck frame = .awaitingAck := by
  cases frame <;> cases heartbeat <;> rfl

theorem Consistent.hostReads
    {run next : FaultReset}
    (consistent : Consistent run)
    (heartbeats : HeartbeatsBeforeAnswer run .hostReads)
    (step : faultResetStep run .hostReads = some next) : Consistent next := by
  -- The host passes over a frame from before the answer.
  have passes {sent : SentFrame} {rest : List SentFrame}
      {controller : ResetPhase}
      (isRun : run = ⟨.awaitingAck, controller, sent :: rest⟩)
      (before : sent.beforeAnswer = true) :
      next = ⟨.awaitingAck, controller, rest⟩ := by
    have heartbeat := heartbeats rfl (by rw [isRun]) sent (by rw [isRun]; rfl)
      before
    rw [isRun] at step
    simp only [faultResetStep, ResetPoint.read, Option.map_some,
      readResetAck_heartbeat heartbeat, Option.some.injEq] at step
    exact step.symm
  cases consistent with
  | @unasked status line before =>
    cases line with
    | nil => cases step
    | cons sent rest =>
      rw [passes rfl (before sent List.mem_cons_self)]
      exact .unasked fun later member =>
        before later (List.mem_cons_of_mem _ member)
  | @refused status before after isBefore =>
    cases before with
    | nil =>
      cases step
      exact .rejected rfl
    | cons sent rest =>
      rw [passes rfl (isBefore sent List.mem_cons_self)]
      exact .refused fun later member =>
        isBefore later (List.mem_cons_of_mem _ member)
  | @accepted phase before after isBefore outlook =>
    cases before with
    | nil =>
      cases step
      exact .observing outlook
    | cons sent rest =>
      rw [passes rfl (isBefore sent List.mem_cons_self)]
      exact .accepted (fun later member =>
        isBefore later (List.mem_cons_of_mem _ member)) outlook
  | @observing phase completedFrames line outlook =>
    cases line with
    | nil => cases step
    | cons sent rest =>
      simp only [faultResetStep, ResetPoint.read, Option.map_some,
        Option.some.injEq] at step
      subst step
      rcases outlook.read with ⟨more, isRead, outlook⟩ |
        ⟨result, idleSent, isRead, rfl, status⟩ |
        ⟨result, fault, isRead, rfl, status⟩
      · rw [isRead]
        exact .observing outlook
      · rw [isRead]
        exact .succeeded status
      · rw [isRead]
        exact .faulted status
  | @rejected status line result isStatus => cases line <;> cases step
  | @succeeded idleSent line result isStatus => cases line <;> cases step
  | @faulted fault line result isStatus => cases line <;> cases step

/-- An accepted reset goes on. -/
theorem Consistent.send
    {run : FaultReset}
    (consistent : Consistent run)
    (sends : PhaseSends run.controller next frame)
    (asked : ∀ status, run.controller ≠ .unasked status) :
    Consistent (run.send next frame) := by
  cases consistent with
  | @unasked status line before => exact absurd rfl (asked status)
  | @refused status before after isBefore =>
    cases sends
    show Consistent ⟨.awaitingAck, .refused status,
      (before ++ ⟨.busy, false⟩ :: after) ++ [_]⟩
    rw [List.append_assoc, List.cons_append]
    exact .refused isBefore
  | @accepted phase before after isBefore outlook =>
    have later := outlook.send sends
    show Consistent ⟨.awaitingAck, next,
      (before ++ ⟨.ack, false⟩ :: after) ++ [_]⟩
    rw [List.append_assoc, List.cons_append]
    refine .accepted isBefore ?_
    rw [frames, List.map_append]
    exact later
  | @observing phase completedFrames line outlook =>
    refine .observing ?_
    rw [frames, List.map_append]
    exact outlook.send sends
  | @rejected status line result isStatus =>
    cases sends
    exact .rejected isStatus
  | @succeeded idleSent line result isStatus =>
    cases sends
    exact .succeeded isStatus
  | @faulted fault line result isStatus =>
    cases sends
    exact .faulted isStatus

theorem Outlook.asked
    {frames : List LowerFrame}
    (outlook : Outlook phase completedFrames frames)
    (status : ControllerStatus) : phase ≠ .unasked status := by
  intro isUnasked
  cases outlook <;> cases isUnasked

theorem Consistent.of_unasked
    {run : FaultReset}
    {status : ControllerStatus}
    (consistent : Consistent run)
    (isUnasked : run.controller = .unasked status) :
    run.host = .awaitingAck ∧ BeforeAnswer run.line := by
  cases consistent with
  | unasked before => exact ⟨rfl, before⟩
  | accepted isBefore outlook => exact absurd isUnasked (outlook.asked status)
  | observing outlook => exact absurd isUnasked (outlook.asked status)
  | _ => cases isUnasked

theorem Consistent.step
    {run next : FaultReset}
    {event : ResetEvent}
    (consistent : Consistent run)
    (heartbeats : HeartbeatsBeforeAnswer run event)
    (step : faultReset.step run event = some next) : Consistent next := by
  cases event with
  | hostReads => exact consistent.hostReads heartbeats step
  | controllerReceives =>
    obtain ⟨host, controller, line⟩ := run
    cases controller with
    | unasked status =>
      obtain ⟨rfl, before⟩ := consistent.of_unasked rfl
      cases status with
      | faulted fault =>
        cases step
        exact .accepted before
          (.resetting fun _ member => absurd member List.not_mem_nil)
      | _ =>
        cases step
        exact .refused before
    | _ => cases step
  | controllerBeats =>
    obtain ⟨host, controller, line⟩ := run
    cases controller with
    | unasked status =>
      obtain ⟨rfl, before⟩ := consistent.of_unasked rfl
      cases step
      exact .unasked (forall_append_singleton before rfl)
    | _ =>
      cases step
      exact consistent.send (.beats _) (by simp)
  | controllerAnnounces =>
    cases isController : run.controller with
    | resetting =>
      simp only [faultReset, faultResetStep, isController,
        Option.some.injEq] at step
      subst step
      exact consistent.send (isController ▸ .begins) (by simp [isController])
    | announcing sent =>
      simp only [faultReset, faultResetStep, isController] at step
      split at step
      · next more =>
          cases step
          exact consistent.send (isController ▸ .announces more)
            (by simp [isController])
      · next last =>
          cases step
          exact consistent.send (isController ▸ .completes last)
            (by simp [isController])
    | _ =>
      simp only [faultReset, faultResetStep, isController] at step
      cases step
  | controllerFails fault =>
    cases isController : run.controller with
    | resetting =>
      simp only [faultReset, faultResetStep, isController,
        Option.some.injEq] at step
      subst step
      exact consistent.send (isController ▸ .fails fault)
        (by simp [isController])
    | _ =>
      simp only [faultReset, faultResetStep, isController] at step
      cases step

theorem Consistent.start
    (unread : List LowerFrame)
    (status : ControllerStatus) : Consistent (.start unread status) := by
  refine .unasked fun sent member => ?_
  obtain ⟨frame, _, rfl⟩ := List.mem_map.mp member
  rfl

theorem Consistent.verdictAgrees
    {run : FaultReset}
    (consistent : Consistent run) : VerdictAgrees run := by
  cases consistent with
  | @unasked status line before | @refused status before after isBefore
  | @accepted phase before after isBefore outlook => constructor <;> simp
  | @observing phase completedFrames line outlook =>
    refine ⟨by simp, by simp, by simp, by simp, fun empty ended => ?_⟩
    simp only at empty
    subst empty
    generalize isNil : frames [] = read at outlook
    cases outlook with
    | resetting => simp at ended
    | announcing => simp at ended
    | completed _ _ _ isSent =>
      rcases ended with sent | ⟨fault, isFailed⟩ | ⟨status, isRefused⟩
      · cases sent
        exact absurd (List.append_eq_nil_iff.mp isNil.symm).2 (isSent rfl)
      · cases isFailed
      · cases isRefused
    | failed _ _ nonempty =>
      exact absurd (List.append_eq_nil_iff.mp isNil.symm).2 nonempty
  | @rejected status line result isStatus =>
    constructor <;> simp [isStatus]
  | @succeeded idleSent line result isStatus =>
    constructor <;> simp [isStatus]
  | @faulted fault line result isStatus =>
    cases fault <;> constructor <;> simp [isStatus, faultStatus]

/--
As long as the host reads nothing but heartbeats before the answer, its
verdict agrees with the controller in every state of every run.
-/
theorem faultReset_verdict_agrees
    {unread : List LowerFrame}
    {status : ControllerStatus}
    {events : List ResetEvent}
    {last : FaultReset}
    (heartbeats : faultReset.RunMeets HeartbeatsBeforeAnswer
      (.start unread status) events)
    (run : faultReset.run (.start unread status) events = some last) :
    VerdictAgrees last :=
  (Machine.run_keeps_of_meets
    (fun consistent heartbeats step => Consistent.step consistent heartbeats step)
    (Consistent.start unread status) heartbeats run).verdictAgrees

/-- An accepted reset, with a heartbeat from before the request unread. -/
theorem faultReset_verdict_agrees_accepted :
    VerdictAgrees
      { host := .returned (resetResult .succeeded
          "lower controller fault reset completed" none)
        controller := .completed true
        line := [] } :=
  @faultReset_verdict_agrees [.idleHeartbeat] (.faulted .sharedMechanical)
    [.hostReads, .controllerReceives, .controllerBeats, .hostReads,
      .controllerAnnounces, .hostReads, .controllerAnnounces, .hostReads,
      .controllerAnnounces, .controllerBeats, .hostReads, .hostReads,
      .hostReads] _
    (by decide +kernel) (by decide +kernel)

/-- A fault heartbeat is unread when the reset is asked for, and completes. -/
theorem fault_heartbeat_is_taken_for_the_verdict :
    ¬ ∀ (unread : List LowerFrame) (status : ControllerStatus)
        (events : List ResetEvent) (last : FaultReset),
      faultReset.run (.start unread status) events = some last →
      VerdictAgrees last := by
  intro agree
  have agrees := agree [.mechanicalError] (.faulted .sharedMechanical)
    [.controllerReceives, .controllerAnnounces, .controllerAnnounces,
      .controllerAnnounces, .controllerBeats, .hostReads] _ rfl
  have succeeds := (agrees.succeeds _ rfl).mpr ⟨true, rfl⟩
  cases succeeds

end VendingSystem.Daemon
