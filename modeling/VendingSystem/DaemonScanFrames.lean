import Mathlib.Data.List.Basic

namespace VendingSystem.Daemon

/-!
# Frames of the payment-code scanner, and the arm that admits them

The scanner is read byte by byte.  A frame ends with the configured suffix; a
byte that no payment code has spoils the frame.  The arm belongs to one order,
and each change of it starts a new epoch.
-/

inductive ScannerFrameSuffix where
  | crlf
  | lf
  | cr
  | none
  deriving Repr, DecidableEq

def scannerMinFrameBytes : Nat := 6

def scannerMaxFrameBytes : Nat := 128

def scannerFrameIdleTimeoutMs : Nat := 1000

/-- How long the same code is taken for a repetition. -/
def scannerRepeatMs : Nat := 1500

def carriageReturn : UInt8 := 13

def lineFeed : UInt8 := 10

def space : UInt8 := 32

/-- Printable ASCII and the space. -/
def isAllowedPayloadByte (byte : UInt8) : Bool :=
  space ≤ byte && byte ≤ 126

structure RawPaymentCode where
  authCode : List UInt8
  maskedCode : String
  scannedAtMs : Nat
  deriving Repr, DecidableEq

def codeText (code : List UInt8) : String :=
  String.ofList (code.map fun byte => Char.ofNat byte.toNat)

def maskCode (code : List UInt8) : String :=
  if code = [] then "****"
  else if code.length ≤ 8 then codeText (code.take 2) ++ "****"
  else codeText (code.take 4) ++ "****" ++
    codeText (code.drop (code.length - 4))

structure ScannerFramer where
  suffix : ScannerFrameSuffix
  frame : List UInt8
  invalidFrame : Bool
  pendingCr : Bool
  lastInputAtMs : Option Nat
  lastCode : List UInt8
  lastAtMs : Nat
  deriving Repr, DecidableEq

namespace ScannerFramer

def new (suffix : ScannerFrameSuffix) : ScannerFramer where
  suffix := suffix
  frame := []
  invalidFrame := false
  pendingCr := false
  lastInputAtMs := none
  lastCode := []
  lastAtMs := 0

def resetFrameState (framer : ScannerFramer) : ScannerFramer :=
  { framer with
    frame := []
    invalidFrame := false
    pendingCr := false }

def reset (framer : ScannerFramer) : ScannerFramer :=
  { framer.resetFrameState with
    lastInputAtMs := none
    lastCode := []
    lastAtMs := 0 }

/-- A code is long enough, and no space stands at its ends. -/
def accepts (code : List UInt8) : Bool :=
  scannerMinFrameBytes ≤ code.length && code.head? != some space &&
    code.getLast? != some space

/-- The same code was read a moment ago. -/
def repeats
    (framer : ScannerFramer)
    (code : List UInt8)
    (nowMs : Nat) : Bool :=
  code == framer.lastCode && nowMs - framer.lastAtMs < scannerRepeatMs

/-- The end of a frame. -/
def flush (framer : ScannerFramer) (nowMs : Nat) :
    ScannerFramer × List RawPaymentCode :=
  if framer.invalidFrame then (framer.resetFrameState, [])
  else
    let code := framer.frame
    let taken := { framer with frame := [] }
    if accepts code && !framer.repeats code nowMs then
      ({ taken with
         lastCode := code
         lastAtMs := nowMs },
        [{ authCode := code
           maskedCode := maskCode code
           scannedAtMs := nowMs }])
    else (taken, [])

/-- A byte of the payload, or one that spoils the frame. -/
def pushPayload (framer : ScannerFramer) (byte : UInt8) : ScannerFramer :=
  if isAllowedPayloadByte byte && !framer.invalidFrame &&
      framer.frame.length < scannerMaxFrameBytes then
    { framer with frame := framer.frame ++ [byte] }
  else { framer with invalidFrame := true }

def pushCrlfByte (framer : ScannerFramer) (byte : UInt8) (nowMs : Nat) :
    ScannerFramer × List RawPaymentCode :=
  if framer.pendingCr then
    if byte = lineFeed then { framer with pendingCr := false }.flush nowMs
    else
      ({ framer with
         pendingCr := false
         invalidFrame := true }, [])
  else if byte = carriageReturn then ({ framer with pendingCr := true }, [])
  else if byte = lineFeed then (framer.resetFrameState, [])
  else (framer.pushPayload byte, [])

def pushByte (framer : ScannerFramer) (byte : UInt8) (nowMs : Nat) :
    ScannerFramer × List RawPaymentCode :=
  match framer.suffix with
  | .crlf => framer.pushCrlfByte byte nowMs
  | .lf =>
    if byte = lineFeed then framer.flush nowMs
    else (framer.pushPayload byte, [])
  | .cr =>
    if byte = carriageReturn then framer.flush nowMs
    else (framer.pushPayload byte, [])
  | .none => (framer.pushPayload byte, [])

/-- The framer after the pause before new input. -/
def afterPause (framer : ScannerFramer) (nowMs : Nat) : ScannerFramer :=
  if (framer.frame != [] || framer.invalidFrame || framer.pendingCr) &&
      framer.lastInputAtMs.any (fun last =>
        scannerFrameIdleTimeoutMs ≤ nowMs - last) then
    framer.resetFrameState
  else framer

/-- The framer that has input, with the time of the input. -/
def noteInput
    (framer : ScannerFramer)
    (bytes : List UInt8)
    (nowMs : Nat) : ScannerFramer :=
  if bytes = [] then framer
  else { framer with lastInputAtMs := some nowMs }

/-- One byte after the other, with the codes found so far. -/
def pushAll (framer : ScannerFramer) (nowMs : Nat) :
    List UInt8 → ScannerFramer × List RawPaymentCode
  | [] => (framer, [])
  | byte :: rest =>
    let pushed := framer.pushByte byte nowMs
    let later := pushed.1.pushAll nowMs rest
    (later.1, pushed.2 ++ later.2)

def pushBytes (framer : ScannerFramer) (bytes : List UInt8) (nowMs : Nat) :
    ScannerFramer × List RawPaymentCode :=
  let pushed :=
    ((framer.afterPause nowMs).noteInput bytes nowMs).pushAll nowMs bytes
  if pushed.1.suffix = .none then
    let flushed := pushed.1.flush nowMs
    (flushed.1, pushed.2 ++ flushed.2)
  else pushed

end ScannerFramer

/-- An arm belongs to one order that waits for a payment code. -/
structure PaymentCodeScanArm where
  orderNo : Nat
  attemptId : Nat
  armedAtMs : Nat
  epoch : Nat
  deriving Repr, DecidableEq

inductive PaymentCodeScanArmState where
  | armed (arm : PaymentCodeScanArm)
  | consumed (arm : PaymentCodeScanArm)
  deriving Repr, DecidableEq

def PaymentCodeScanArmState.arm :
    PaymentCodeScanArmState → PaymentCodeScanArm
  | .armed arm => arm
  | .consumed arm => arm

structure PaymentCodeScanArmer where
  epoch : Nat
  arm : Option PaymentCodeScanArmState
  deriving Repr, DecidableEq

namespace PaymentCodeScanArmer

def initial : PaymentCodeScanArmer where
  epoch := 0
  arm := none

/-- Arm for an order, unless the arm is its own already. -/
def armAt
    (armer : PaymentCodeScanArmer)
    (orderNo : Nat)
    (attemptId armedAtMs : Nat) : PaymentCodeScanArmer :=
  if armer.arm.any fun state => state.arm.orderNo = orderNo then armer
  else
    { epoch := armer.epoch + 1
      arm := some (.armed
        { orderNo
          attemptId
          armedAtMs
          epoch := armer.epoch + 1 }) }

def clear (armer : PaymentCodeScanArmer) : PaymentCodeScanArmer where
  epoch := armer.epoch + 1
  arm := none

def clearMatching
    (armer : PaymentCodeScanArmer)
    (expected : PaymentCodeScanArm) : PaymentCodeScanArmer :=
  if armer.arm.any fun state => state.arm = expected then armer.clear
  else armer

/-- The arm that the scanner's bytes belong to. -/
def accepting? (armer : PaymentCodeScanArmer) : Option PaymentCodeScanArm :=
  match armer.arm with
  | some (.armed arm) => some arm
  | _ => none

/-- Take the arm for a frame of its epoch. -/
def consumeAtEpoch
    (armer : PaymentCodeScanArmer)
    (expectedEpoch scannedAtMs : Nat) :
    Option (PaymentCodeScanArm × PaymentCodeScanArmer) :=
  if armer.epoch ≠ expectedEpoch then none
  else
    match armer.accepting? with
    | none => none
    | some arm =>
      if scannedAtMs < arm.armedAtMs then none
      else
        some (arm,
          { epoch := armer.epoch + 1
            arm := some (.consumed arm) })

def isConsumed
    (armer : PaymentCodeScanArmer)
    (expected : PaymentCodeScanArm) : Bool :=
  armer.arm = some (.consumed expected)

end PaymentCodeScanArmer

namespace ScannerFramer

/-- The frame so far is part of the bytes that were fed. -/
def FedBy (framer : ScannerFramer) (fed : List UInt8) : Prop :=
  framer.frame.Sublist fed

variable {fed : List UInt8} {framer : ScannerFramer}

section

variable (isFed : framer.FedBy fed)

include isFed

theorem FedBy.flush
    (nowMs : Nat) :
    (framer.flush nowMs).1.FedBy fed ∧
      ∀ raw ∈ (framer.flush nowMs).2, raw.authCode.Sublist fed := by
  unfold ScannerFramer.flush
  split
  · exact ⟨List.nil_sublist _, by simp⟩
  · simp only
    split
    · refine ⟨List.nil_sublist _, fun raw isRaw => ?_⟩
      rw [List.mem_singleton.mp isRaw]
      exact isFed
    · exact ⟨List.nil_sublist _, by simp⟩

theorem FedBy.more
    (bytes : List UInt8) : framer.FedBy (fed ++ bytes) :=
  isFed.trans (List.sublist_append_left _ _)

theorem FedBy.pushPayload
    (byte : UInt8) : (framer.pushPayload byte).FedBy (fed ++ [byte]) := by
  unfold ScannerFramer.pushPayload
  split
  · exact isFed.append (List.Sublist.refl _)
  · exact isFed.more _

theorem FedBy.pushByte
    (byte : UInt8)
    (nowMs : Nat) :
    (framer.pushByte byte nowMs).1.FedBy (fed ++ [byte]) ∧
      ∀ raw ∈ (framer.pushByte byte nowMs).2,
        raw.authCode.Sublist (fed ++ [byte]) := by
  have payload : (framer.pushPayload byte, ([] : List RawPaymentCode)).1.FedBy
      (fed ++ [byte]) := isFed.pushPayload byte
  have flushed := (isFed.more [byte]).flush nowMs
  unfold ScannerFramer.pushByte
  split
  · unfold ScannerFramer.pushCrlfByte
    split
    · split
      · have cleared : ({ framer with pendingCr := false } :
            ScannerFramer).FedBy (fed ++ [byte]) := isFed.more [byte]
        exact cleared.flush nowMs
      · exact ⟨isFed.more _, by simp⟩
    · split
      · exact ⟨isFed.more _, by simp⟩
      · split
        · exact ⟨List.nil_sublist _, by simp⟩
        · exact ⟨payload, by simp⟩
  · split
    · exact flushed
    · exact ⟨payload, by simp⟩
  · split
    · exact flushed
    · exact ⟨payload, by simp⟩
  · exact ⟨payload, by simp⟩

theorem FedBy.pushAll
    (bytes : List UInt8)
    (nowMs : Nat) :
    (framer.pushAll nowMs bytes).1.FedBy (fed ++ bytes) ∧
      ∀ raw ∈ (framer.pushAll nowMs bytes).2,
        raw.authCode.Sublist (fed ++ bytes) := by
  induction bytes generalizing framer fed with
  | nil => exact ⟨isFed.more [], by simp [ScannerFramer.pushAll]⟩
  | cons byte rest inductionHypothesis =>
    obtain ⟨pushed, codes⟩ := isFed.pushByte byte nowMs
    obtain ⟨later, laterCodes⟩ := inductionHypothesis pushed
    rw [List.append_assoc, List.singleton_append] at later laterCodes
    refine ⟨later, fun raw isRaw => ?_⟩
    rcases List.mem_append.mp isRaw with isFirst | isLater
    · apply (codes raw isFirst).trans
      simp
    · exact laterCodes raw isLater

theorem FedBy.pushBytes
    (bytes : List UInt8)
    (nowMs : Nat) :
    (framer.pushBytes bytes nowMs).1.FedBy (fed ++ bytes) ∧
      ∀ raw ∈ (framer.pushBytes bytes nowMs).2,
        raw.authCode.Sublist (fed ++ bytes) := by
  have paused : ((framer.afterPause nowMs).noteInput bytes nowMs).FedBy
      fed := by
    unfold FedBy noteInput afterPause
    split
    · split
      · exact List.nil_sublist _
      · exact isFed
    · split
      · exact List.nil_sublist _
      · exact isFed
  obtain ⟨pushed, codes⟩ := paused.pushAll bytes nowMs
  unfold ScannerFramer.pushBytes
  simp only
  split
  · obtain ⟨flushed, last⟩ := pushed.flush nowMs
    refine ⟨flushed, fun raw isRaw => ?_⟩
    rcases List.mem_append.mp isRaw with isFirst | isLast
    · exact codes raw isFirst
    · exact last raw isLast
  · exact ⟨pushed, codes⟩

end

end ScannerFramer

end VendingSystem.Daemon
