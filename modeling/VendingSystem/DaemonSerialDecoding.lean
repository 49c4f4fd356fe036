import Mathlib.Tactic.Common
import VendingSystem.DaemonSerialFrames

namespace VendingSystem.Daemon

/-!
# Frames as bytes of the serial line

`protocol_bytes` writes a frame and `read_lower_frame` reads the next one from
the bytes that arrive.  The bytes between frames are skipped up to the next
frame head; a payload out of the protocol's range is an error.  A read that
the bytes run out on ends with its timeout.
-/

/-- A byte as a signed number, `as i8`. -/
def asI8 (byte : UInt8) : Int :=
  if byte.toNat < 128 then byte.toNat else byte.toNat - 256

/-- A signed number as a byte, `as u8`. -/
def asU8 (value : Int) : UInt8 :=
  UInt8.ofNat (value % 256).toNat

def AirConditionerMode.protocolByte : AirConditionerMode → UInt8
  | .cooling => 0x00
  | .heating => 0x01

def AirConditionerMode.fromProtocolByte
    (byte : UInt8) : Except String AirConditionerMode :=
  if byte = 0x00 then .ok .cooling
  else if byte = 0x01 then .ok .heating
  else
    let other := hexByte byte
    .error s!"air conditioner mode 0x{other} out of protocol range 0x00/0x01"

def AirConditionerSwitchState.protocolByte :
    AirConditionerSwitchState → UInt8
  | .on => 0x00
  | .softOff => 0xAA
  | .hardOff => 0xFF

def AirConditionerSwitchState.fromProtocolByte
    (byte : UInt8) : Except String AirConditionerSwitchState :=
  if byte = 0x00 then .ok .on
  else if byte = 0xAA then .ok .softOff
  else if byte = 0xFF then .ok .hardOff
  else
    let other := hexByte byte
    .error s!"air conditioner switch state 0x{other} out of protocol range 0x00/0xAA/0xFF"

def VentSpeed.protocolByte : VentSpeed → UInt8
  | .closed => 0x00
  | .low => 0x01
  | .medium => 0x02
  | .high => 0x03
  | .full => 0x04

def VentSpeed.fromProtocolByte (byte : UInt8) : Except String VentSpeed :=
  if byte = 0x00 then .ok .closed
  else if byte = 0x01 then .ok .low
  else if byte = 0x02 then .ok .medium
  else if byte = 0x03 then .ok .high
  else if byte = 0x04 then .ok .full
  else
    let other := hexByte byte
    .error s!"vent speed 0x{other} out of protocol range 0x00..0x04"

namespace LowerFrame

def fromCode (code : UInt8) : LowerFrame :=
  if code = 0x00 then ack
  else if code = 0xE1 then boundaryError
  else if code = 0xE2 then crcError
  else if code = 0xE3 then mechanicalError
  else if code = 0xE4 then busy
  else if code = 0xE5 then pickupTimeout
  else if code = 0xE6 then pickupPlatformBlocked
  else if code = 0xF0 then arrivalAtOutlet
  else if code = 0xF1 then pickupCompleted
  else if code = 0xF2 then resetCompletedFrame
  else if code = 0xAA then idleHeartbeat
  else if code = 0xAB then dispensingHeartbeat
  else if code = 0xAC then pickupHeartbeat
  else if code = 0xAF then resetHeartbeat
  else unknown code

/-- The bytes of a frame after its head. -/
def body : LowerFrame → List UInt8
  | ack => [0x00]
  | boundaryError => [0xE1]
  | crcError => [0xE2]
  | mechanicalError => [0xE3]
  | busy => [0xE4]
  | pickupTimeout => [0xE5]
  | pickupPlatformBlocked => [0xE6]
  | arrivalAtOutlet => [0xF0]
  | pickupCompleted => [0xF1]
  | resetCompletedFrame => [0xF2]
  | idleHeartbeat => [0xAA]
  | dispensingHeartbeat => [0xAB]
  | pickupHeartbeat => [0xAC]
  | resetHeartbeat => [0xAF]
  | environmentSample sample =>
    [0xB0, asU8 sample.temperatureCelsius,
      UInt8.ofNat sample.relativeHumidityPercent]
  | airConditionerTargetEcho mode temperatureCelsius =>
    [0xB1, mode.protocolByte, asU8 temperatureCelsius]
  | airConditionerSwitchEcho state => [0xB2, state.protocolByte]
  | ventSpeedEcho speed => [0xB3, speed.protocolByte]
  | unknown code => [code]

def protocolBytes (frame : LowerFrame) : List UInt8 :=
  frameHead :: frame.body

end LowerFrame

/-- A result and the bytes that were not read. -/
abbrev Reading (Value : Type) := Except String Value × List UInt8

def readTimeout : String := "serial read timeout"

/-- The next byte, and what is done with it. -/
def readByte
    {Value : Type}
    (stream : List UInt8)
    (next : UInt8 → List UInt8 → Reading Value) : Reading Value :=
  match stream with
  | [] => (.error readTimeout, [])
  | byte :: rest => next byte rest

def readEnvironmentSample (stream : List UInt8) : Reading LowerFrame :=
  readByte stream fun temperatureByte rest =>
    readByte rest fun humidity rest =>
      let temperatureCelsius := asI8 temperatureByte
      if ¬ (-10 ≤ temperatureCelsius ∧ temperatureCelsius ≤ 100) then
        (.error s!"environment sample temperature {temperatureCelsius} out of protocol range -10..100 C",
          rest)
      else if 100 < humidity.toNat then
        (.error s!"environment sample humidity {humidity} out of protocol range 0..100 %RH",
          rest)
      else
        (.ok (.environmentSample
          { temperatureCelsius
            relativeHumidityPercent := humidity.toNat }), rest)

def readAirConditionerTarget (stream : List UInt8) : Reading LowerFrame :=
  readByte stream fun modeByte rest =>
    match AirConditionerMode.fromProtocolByte modeByte with
    | .error error => (.error error, rest)
    | .ok mode =>
      readByte rest fun temperatureByte rest =>
        let temperatureCelsius := asI8 temperatureByte
        if ¬ (18 ≤ temperatureCelsius ∧ temperatureCelsius ≤ 30) then
          (.error s!"target temperature echo {temperatureCelsius} out of protocol range 18..30 C",
            rest)
        else (.ok (.airConditionerTargetEcho mode temperatureCelsius), rest)

def readAirConditionerSwitch (stream : List UInt8) : Reading LowerFrame :=
  readByte stream fun state rest =>
    ((AirConditionerSwitchState.fromProtocolByte state).map
      .airConditionerSwitchEcho, rest)

def readVentSpeed (stream : List UInt8) : Reading LowerFrame :=
  readByte stream fun speed rest =>
    ((VentSpeed.fromProtocolByte speed).map .ventSpeedEcho, rest)

/-- What follows a frame head. -/
def readBody (stream : List UInt8) : Reading LowerFrame :=
  readByte stream fun code rest =>
    if code = 0xB0 then readEnvironmentSample rest
    else if code = 0xB1 then readAirConditionerTarget rest
    else if code = 0xB2 then readAirConditionerSwitch rest
    else if code = 0xB3 then readVentSpeed rest
    else (.ok (.fromCode code), rest)

/-- `read_lower_frame`. -/
def readLowerFrame : List UInt8 → Reading LowerFrame
  | [] => (.error readTimeout, [])
  | head :: rest =>
    if head = frameHead then readBody rest else readLowerFrame rest

/-- What stands for a frame's fields that are in the protocol's range. -/
def LowerFrame.InRange : LowerFrame → Prop
  | .environmentSample sample =>
    (-10 ≤ sample.temperatureCelsius ∧ sample.temperatureCelsius ≤ 100) ∧
      sample.relativeHumidityPercent ≤ 100
  | .airConditionerTargetEcho _ temperatureCelsius =>
    18 ≤ temperatureCelsius ∧ temperatureCelsius ≤ 30
  | .unknown code => code ∉ [0xB0, 0xB1, 0xB2, 0xB3]
  | _ => True

/-- A complete frame with a payload out of the protocol's range. -/
inductive InvalidFrame where
  | environmentSample
      (temperature humidity : UInt8)
      (outOfRange : ¬ ((-10 ≤ asI8 temperature ∧ asI8 temperature ≤ 100) ∧
        humidity.toNat ≤ 100))
  | airConditionerTarget
      (mode temperature : UInt8)
      (outOfRange : ¬ (mode ∈ [0x00, 0x01] ∧
        18 ≤ asI8 temperature ∧ asI8 temperature ≤ 30))
  | airConditionerSwitch
      (state : UInt8)
      (outOfRange : state ∉ [0x00, 0xAA, 0xFF])
  | ventSpeed
      (speed : UInt8)
      (outOfRange : speed ∉ [0x00, 0x01, 0x02, 0x03, 0x04])

def InvalidFrame.protocolBytes : InvalidFrame → List UInt8
  | .environmentSample temperature humidity _ =>
    [frameHead, 0xB0, temperature, humidity]
  | .airConditionerTarget mode temperature _ =>
    [frameHead, 0xB1, mode, temperature]
  | .airConditionerSwitch state _ => [frameHead, 0xB2, state]
  | .ventSpeed speed _ => [frameHead, 0xB3, speed]

/-- A piece of what arrives on the line. -/
inductive StreamPiece where
  | noise (byte : UInt8) (notHead : byte ≠ frameHead)
  | valid (frame : LowerFrame) (inRange : frame.InRange)
  | invalid (frame : InvalidFrame)

def StreamPiece.bytes : StreamPiece → List UInt8
  | .noise byte _ => [byte]
  | .valid frame _ => frame.protocolBytes
  | .invalid frame => frame.protocolBytes

def streamBytes (pieces : List StreamPiece) : List UInt8 :=
  pieces.flatMap StreamPiece.bytes

/-- The results of so many reads, each with the bytes it leaves. -/
def readings : Nat → List UInt8 → List (Option LowerFrame × List UInt8)
  | 0, _ => []
  | count + 1, stream =>
    let reading := readLowerFrame stream
    (reading.1.toOption, reading.2) :: readings count reading.2

/-- One result for each frame, each with the bytes after that frame. -/
def expectedReadings :
    List StreamPiece → List (Option LowerFrame × List UInt8)
  | [] => [(none, [])]
  | .noise _ _ :: rest => expectedReadings rest
  | .valid frame _ :: rest =>
    (some frame, streamBytes rest) :: expectedReadings rest
  | .invalid _ :: rest => (none, streamBytes rest) :: expectedReadings rest

/--
Reading the stream again and again gives its frames, an error for each invalid
one, and a timeout at the end, and every read ends where its frame does.
-/
def ReadInStep (pieces : List StreamPiece) : Prop :=
  readings (expectedReadings pieces).length (streamBytes pieces) =
    expectedReadings pieces

theorem asI8_asU8
    {value : Int}
    (low : -128 ≤ value)
    (high : value < 128) : asI8 (asU8 value) = value := by
  have byte : (asU8 value).toNat = (value % 256).toNat := by
    unfold asU8
    rw [UInt8.toNat_ofNat']
    omega
  unfold asI8
  rw [byte]
  split <;> omega

@[simp] theorem AirConditionerMode.fromProtocolByte_protocolByte
    (mode : AirConditionerMode) :
    fromProtocolByte mode.protocolByte = .ok mode := by
  cases mode <;> rfl

@[simp] theorem AirConditionerSwitchState.fromProtocolByte_protocolByte
    (state : AirConditionerSwitchState) :
    fromProtocolByte state.protocolByte = .ok state := by
  cases state <;> rfl

@[simp] theorem VentSpeed.fromProtocolByte_protocolByte
    (speed : VentSpeed) :
    fromProtocolByte speed.protocolByte = .ok speed := by
  cases speed <;> rfl

@[simp] theorem readLowerFrame_head (rest : List UInt8) :
    readLowerFrame (frameHead :: rest) = readBody rest :=
  if_pos rfl

variable {byte : UInt8} {frame : LowerFrame}

theorem readLowerFrame_noise
    (notHead : byte ≠ frameHead)
    (rest : List UInt8) :
    readLowerFrame (byte :: rest) = readLowerFrame rest :=
  if_neg notHead

theorem readLowerFrame_valid
    (inRange : frame.InRange)
    (rest : List UInt8) :
    readLowerFrame (frame.protocolBytes ++ rest) =
      (match frame with
      | .unknown code => (.ok (.fromCode code), rest)
      | frame => (.ok frame, rest)) := by
  rw [LowerFrame.protocolBytes, List.cons_append, readLowerFrame_head]
  cases frame with
  | environmentSample sample =>
    obtain ⟨⟨low, high⟩, humidity⟩ := inRange
    obtain ⟨temperatureCelsius, relativeHumidityPercent⟩ := sample
    simp only at low high humidity
    have temperature : asI8 (asU8 temperatureCelsius) = temperatureCelsius :=
      asI8_asU8 (by omega) (by omega)
    have percent : (UInt8.ofNat relativeHumidityPercent).toNat =
        relativeHumidityPercent := by
      rw [UInt8.toNat_ofNat']
      omega
    have within : ¬ 100 < relativeHumidityPercent := by omega
    simp [LowerFrame.body, readBody, readByte, readEnvironmentSample,
      temperature, percent, low, high, within]
  | airConditionerTargetEcho mode temperatureCelsius =>
    obtain ⟨low, high⟩ := inRange
    have temperature : asI8 (asU8 temperatureCelsius) = temperatureCelsius :=
      asI8_asU8 (by omega) (by omega)
    simp [LowerFrame.body, readBody, readByte, readAirConditionerTarget,
      temperature, low, high]
  | airConditionerSwitchEcho state =>
    simp [LowerFrame.body, readBody, readByte, readAirConditionerSwitch,
      Except.map]
  | ventSpeedEcho speed =>
    simp [LowerFrame.body, readBody, readByte, readVentSpeed, Except.map]
  | unknown code =>
    simp only [LowerFrame.InRange, List.mem_cons, List.not_mem_nil, or_false,
      not_or] at inRange
    obtain ⟨notSample, notTarget, notSwitch, notSpeed⟩ := inRange
    simp [LowerFrame.body, readBody, readByte, notSample, notTarget,
      notSwitch, notSpeed]
  | _ => rfl

/-- An invalid mode ends the read before the temperature. -/
def InvalidFrame.rest : InvalidFrame → List UInt8
  | .airConditionerTarget mode temperature _ =>
    if mode ∈ [0x00, 0x01] then [] else [temperature]
  | _ => []

theorem AirConditionerMode.fromProtocolByte_cases (byte : UInt8) :
    (byte ∈ [0x00, 0x01] ∧ ∃ mode, fromProtocolByte byte = .ok mode) ∨
      (byte ∉ [0x00, 0x01] ∧ ∃ error, fromProtocolByte byte = .error error) := by
  simp only [List.mem_cons, List.not_mem_nil, or_false, fromProtocolByte]
  split_ifs with isCooling isHeating
  · exact .inl ⟨.inl isCooling, _, rfl⟩
  · exact .inl ⟨.inr isHeating, _, rfl⟩
  · exact .inr ⟨not_or.mpr ⟨isCooling, isHeating⟩, _, rfl⟩

theorem readLowerFrame_invalid
    (frame : InvalidFrame)
    (rest : List UInt8) :
    ∃ error, readLowerFrame (frame.protocolBytes ++ rest) =
      (.error error, frame.rest ++ rest) := by
  cases frame with
  | environmentSample temperature humidity outOfRange =>
    have within (low : -10 ≤ asI8 temperature)
        (high : asI8 temperature ≤ 100) : 100 < humidity.toNat := by
      by_contra inRange
      exact outOfRange ⟨⟨low, high⟩, by omega⟩
    simp only [InvalidFrame.protocolBytes, List.cons_append,
      List.nil_append, readLowerFrame_head, readBody, readByte, if_true,
      readEnvironmentSample]
    split
    · exact ⟨_, rfl⟩
    · next inRange =>
        rw [not_not] at inRange
        rw [if_pos (within inRange.1 inRange.2)]
        exact ⟨_, rfl⟩
  | airConditionerTarget mode temperature outOfRange =>
    simp only [InvalidFrame.protocolBytes, List.cons_append,
      List.nil_append, readLowerFrame_head, readBody, readByte,
      readAirConditionerTarget]
    rcases AirConditionerMode.fromProtocolByte_cases mode with
      ⟨isMode, found, reads⟩ | ⟨notMode, error, reads⟩
    · have outside : ¬ (18 ≤ asI8 temperature ∧ asI8 temperature ≤ 30) :=
        fun inRange => outOfRange ⟨isMode, inRange⟩
      simp only [reads, InvalidFrame.rest, isMode, if_true]
      rw [if_pos outside]
      exact ⟨_, rfl⟩
    · simp only [reads, InvalidFrame.rest, notMode, if_false]
      exact ⟨_, rfl⟩
  | airConditionerSwitch state outOfRange =>
    simp only [List.mem_cons, List.not_mem_nil, or_false,
      not_or] at outOfRange
    obtain ⟨notOn, notSoftOff, notHardOff⟩ := outOfRange
    simp only [InvalidFrame.protocolBytes, List.cons_append,
      List.nil_append, readLowerFrame_head, readBody, readByte,
      readAirConditionerSwitch, AirConditionerSwitchState.fromProtocolByte,
      notOn, notSoftOff, notHardOff, if_false]
    exact ⟨_, rfl⟩
  | ventSpeed speed outOfRange =>
    simp only [List.mem_cons, List.not_mem_nil, or_false,
      not_or] at outOfRange
    obtain ⟨notClosed, notLow, notMedium, notHigh, notFull⟩ := outOfRange
    simp only [InvalidFrame.protocolBytes, List.cons_append,
      List.nil_append, readLowerFrame_head, readBody, readByte,
      readVentSpeed, VentSpeed.fromProtocolByte, notClosed, notLow,
      notMedium, notHigh, notFull, if_false]
    exact ⟨_, rfl⟩

/-- A piece that a read takes whole and for what it is. -/
def StreamPiece.Decodable : StreamPiece → Prop
  | .valid (.unknown code) _ => LowerFrame.fromCode code = .unknown code
  | .invalid (.airConditionerTarget mode _ _) => mode ∈ [0x00, 0x01]
  | _ => True

theorem expectedReadings_ne_nil (pieces : List StreamPiece) :
    expectedReadings pieces ≠ [] := by
  induction pieces with
  | nil => exact List.cons_ne_nil _ _
  | cons piece rest inductionHypothesis =>
    cases piece with
    | noise byte notHead => exact inductionHypothesis
    | valid frame inRange => exact List.cons_ne_nil _ _
    | invalid frame => exact List.cons_ne_nil _ _

theorem readInStep_noise
    (notHead : byte ≠ frameHead)
    (rest : List StreamPiece) :
    ReadInStep (.noise byte notHead :: rest) ↔ ReadInStep rest := by
  obtain ⟨first, others, isCons⟩ :=
    List.exists_cons_of_ne_nil (expectedReadings_ne_nil rest)
  have skipped : readLowerFrame (streamBytes (.noise byte notHead :: rest)) =
      readLowerFrame (streamBytes rest) :=
    readLowerFrame_noise notHead (streamBytes rest)
  unfold ReadInStep
  rw [expectedReadings, isCons, List.length_cons, readings, readings, skipped]

theorem readInStep_valid
    (inRange : frame.InRange)
    (rest : List StreamPiece) :
    ReadInStep (.valid frame inRange :: rest) ↔
      (StreamPiece.valid frame inRange).Decodable ∧ ReadInStep rest := by
  have read := readLowerFrame_valid inRange (streamBytes rest)
  have stream : streamBytes (.valid frame inRange :: rest) =
      frame.protocolBytes ++ streamBytes rest := rfl
  unfold ReadInStep
  rw [expectedReadings, List.length_cons, readings, stream, read]
  cases frame <;>
    simp [StreamPiece.Decodable, Except.toOption]

theorem readInStep_invalid
    (frame : InvalidFrame)
    (rest : List StreamPiece) :
    ReadInStep (.invalid frame :: rest) ↔
      (StreamPiece.invalid frame).Decodable ∧ ReadInStep rest := by
  obtain ⟨error, read⟩ := readLowerFrame_invalid frame (streamBytes rest)
  have stream : streamBytes (.invalid frame :: rest) =
      frame.protocolBytes ++ streamBytes rest := rfl
  unfold ReadInStep
  rw [expectedReadings, List.length_cons, readings, stream, read]
  cases frame with
  | airConditionerTarget mode temperature outOfRange =>
    by_cases isMode : mode ∈ [0x00, 0x01]
    · simp only [InvalidFrame.rest, isMode, StreamPiece.Decodable, if_true,
        List.nil_append, true_and, List.cons.injEq]
      exact and_iff_right rfl
    · simp only [InvalidFrame.rest, isMode, StreamPiece.Decodable, if_false,
        false_and, iff_false, List.cons.injEq, Prod.mk.injEq, not_and]
      rintro ⟨_, longer⟩
      exact absurd (congrArg List.length longer) (by simp)
  | _ =>
    simp [InvalidFrame.rest, StreamPiece.Decodable, Except.toOption]

/--
A stream is read in step exactly when no frame carries the code of another
one as unknown and no invalid target echo has an invalid mode.
-/
theorem readInStep_iff (pieces : List StreamPiece) :
    ReadInStep pieces ↔ ∀ piece ∈ pieces, piece.Decodable := by
  induction pieces with
  | nil => exact iff_of_true rfl fun _ member => absurd member List.not_mem_nil
  | cons piece rest inductionHypothesis =>
    rw [List.forall_mem_cons, ← inductionHypothesis]
    cases piece with
    | noise byte notHead =>
      exact (readInStep_noise notHead rest).trans (and_iff_right trivial).symm
    | valid frame inRange => exact readInStep_valid inRange rest
    | invalid frame => exact readInStep_invalid frame rest

/-- A heating echo with the mode garbled, and an acknowledgement behind it. -/
theorem garbled_mode_not_readInStep :
    ¬ ∀ pieces : List StreamPiece, ReadInStep pieces := by
  intro inStep
  have read := inStep
    [.invalid (.airConditionerTarget 0x09 0x55 (by decide)),
      .valid .ack trivial]
  unfold ReadInStep at read
  revert read
  decide

end VendingSystem.Daemon
