import Mathlib.Data.List.Chain
import VendingSystem.DaemonScanFrames
import VendingSystem.TerminatedSegments

namespace VendingSystem.Daemon

/-!
# The grammar of the payment-code scanner

The framer works byte by byte.  Here is what it accepts, said of the whole
stream: the codes of the terminated frames, less those that were just read.
How the stream was cut into reads does not matter.
-/

/-- A byte, and when the read that has brought it was made. -/
structure StampedByte where
  value : UInt8
  atMs : Nat
  deriving Repr, DecidableEq

/-- What one read has brought. -/
structure ScannerRead where
  bytes : List UInt8
  atMs : Nat
  deriving Repr, DecidableEq

def ScannerRead.stamped (read : ScannerRead) : List StampedByte :=
  read.bytes.map fun value => { value, atMs := read.atMs }

def stampedBytes (reads : List ScannerRead) : List StampedByte :=
  reads.flatMap ScannerRead.stamped

namespace ScannerFrameSuffix

/-- The byte that ends a frame. -/
def terminator : ScannerFrameSuffix → UInt8
  | .cr => carriageReturn
  | _ => lineFeed

/-- What a frame carries; with CRLF its only CR stands before its end. -/
def payload (suffix : ScannerFrameSuffix) (frame : List UInt8) :
    Option (List UInt8) :=
  if suffix = .crlf then
    if frame.getLast? = some carriageReturn ∧
        carriageReturn ∉ frame.dropLast then
      some frame.dropLast
    else Option.none
  else some frame

end ScannerFrameSuffix

/-- Printable ASCII and spaces, of a length, with no space at the ends. -/
def isPaymentCode (code : List UInt8) : Bool :=
  code.all isAllowedPayloadByte &&
    scannerMinFrameBytes ≤ code.length &&
    code.length ≤ scannerMaxFrameBytes &&
    code.head? != some space && code.getLast? != some space

def codeOfFrame (suffix : ScannerFrameSuffix) (frame : List UInt8) :
    Option (List UInt8) :=
  (suffix.payload frame).filter isPaymentCode

/-- What is emitted for the frame, unless it is a repetition. -/
def rawCode
    (suffix : ScannerFrameSuffix)
    (frame : List UInt8)
    (nowMs : Nat) : Option RawPaymentCode :=
  (codeOfFrame suffix frame).map fun authCode =>
    { authCode, maskedCode := maskCode authCode, scannedAtMs := nowMs }

def framedCodes
    (suffix : ScannerFrameSuffix)
    (stream : List StampedByte) : List RawPaymentCode :=
  (terminated (fun byte => byte.value = suffix.terminator) stream).filterMap
    fun (frame, last) => rawCode suffix (frame.map (·.value)) last.atMs

/-- The codes less those that repeat the one that was last emitted. -/
def withoutRepetitions (previous : Option RawPaymentCode) :
    List RawPaymentCode → List RawPaymentCode
  | [] => []
  | code :: rest =>
    if previous.any fun former =>
        former.authCode = code.authCode &&
          code.scannedAtMs - former.scannedAtMs < scannerRepeatMs then
      withoutRepetitions previous rest
    else code :: withoutRepetitions (some code) rest

namespace ScannerFramer

/-- One read after the other, with all the codes that were emitted. -/
def pushReads (framer : ScannerFramer) :
    List ScannerRead → ScannerFramer × List RawPaymentCode
  | [] => (framer, [])
  | read :: rest =>
    let pushed := framer.pushBytes read.bytes read.atMs
    let later := pushed.1.pushReads rest
    (later.1, pushed.2 ++ later.2)

end ScannerFramer

/-- The reads follow each other before the framer loses patience. -/
structure Steady (reads : List ScannerRead) : Prop where
  ordered : reads.Pairwise fun earlier later => earlier.atMs ≤ later.atMs
  close : (stampedBytes reads).IsChain fun earlier later =>
    later.atMs - earlier.atMs < scannerFrameIdleTimeoutMs

theorem Steady.tail
    {read : ScannerRead}
    {rest : List ScannerRead}
    (steady : Steady (read :: rest)) :
    Steady rest where
  ordered := (List.pairwise_cons.mp steady.ordered).2
  close := (List.isChain_append.mp steady.close).2.1

theorem Steady.le_of_mem
    {read : ScannerRead}
    {rest : List ScannerRead}
    (steady : Steady (read :: rest))
    (byte : StampedByte)
    (member : byte ∈ stampedBytes (read :: rest)) :
    read.atMs ≤ byte.atMs := by
  obtain ⟨other, isRead, isByte⟩ := List.mem_flatMap.mp member
  obtain ⟨value, -, rfl⟩ := List.mem_map.mp isByte
  rcases List.mem_cons.mp isRead with rfl | later
  · exact Nat.le_refl _
  · exact (List.pairwise_cons.mp steady.ordered).1 other later

namespace ScannerFramer

variable {framer : ScannerFramer} {previous : Option RawPaymentCode}
  {bytes code : List UInt8} {byte : UInt8} {suffix : ScannerFrameSuffix}
  {opened : List StampedByte} {reads : List ScannerRead}

/-- The framer remembers the code that was last emitted. -/
structure Remembers
    (framer : ScannerFramer)
    (previous : Option RawPaymentCode) : Prop where
  code : framer.lastCode = (previous.map (·.authCode)).getD []
  time : framer.lastAtMs = (previous.map (·.scannedAtMs)).getD 0

/-- The bytes may stand in a code, as far as they go. -/
structure Fits (bytes : List UInt8) : Prop where
  allowed : bytes.all isAllowedPayloadByte = true
  short : bytes.length ≤ scannerMaxFrameBytes

/-- No frame that begins with the bytes has a code. -/
def Spoiled (suffix : ScannerFrameSuffix) (bytes : List UInt8) : Prop :=
  ∀ rest, codeOfFrame suffix (bytes ++ rest) = none

/-- What the framer knows of the bytes behind the last terminator. -/
structure Tracks
    (framer : ScannerFramer)
    (bytes : List UInt8)
    (previous : Option RawPaymentCode) : Prop where
  delimited : framer.suffix ≠ .none
  isOpen : framer.suffix.terminator ∉ bytes
  remembers : framer.Remembers previous
  spoiled : framer.invalidFrame = true → Spoiled framer.suffix bytes
  whole : framer.invalidFrame = false → framer.pendingCr = false →
    framer.frame = bytes ∧ Fits bytes
  returns : framer.pendingCr = true → framer.suffix = .crlf
  pending : framer.invalidFrame = false → framer.pendingCr = true →
    bytes = framer.frame ++ [carriageReturn] ∧ Fits framer.frame

theorem Remembers.of_eq
    {other : ScannerFramer}
    (remembers : framer.Remembers previous)
    (code : other.lastCode = framer.lastCode)
    (time : other.lastAtMs = framer.lastAtMs) :
    other.Remembers previous where
  code := code.trans remembers.code
  time := time.trans remembers.time

theorem fits_nil : Fits [] where
  allowed := rfl
  short := by decide

theorem Fits.not_mem
    (fits : Fits bytes)
    (notAllowed : isAllowedPayloadByte byte = false) :
    byte ∉ bytes := by
  intro member
  have allowed := List.all_eq_true.mp fits.allowed byte member
  rw [notAllowed] at allowed
  cases allowed

theorem isPaymentCode_of_fits
    (fits : Fits bytes) :
    isPaymentCode bytes = accepts bytes := by
  simp [isPaymentCode, accepts, fits.allowed, fits.short]

theorem not_isPaymentCode_of_mem
    (member : byte ∈ code)
    (notAllowed : isAllowedPayloadByte byte = false) :
    isPaymentCode code = false := by
  have notAll : code.all isAllowedPayloadByte = false :=
    List.all_eq_false.mpr ⟨byte, member, by simp [notAllowed]⟩
  simp [isPaymentCode, notAll]

theorem not_isPaymentCode_of_long
    (long : scannerMaxFrameBytes < code.length) :
    isPaymentCode code = false := by
  have notShort : ¬code.length ≤ scannerMaxFrameBytes := Nat.not_le.mpr long
  simp [isPaymentCode, notShort]

theorem payload_cases
    {frame : List UInt8}
    (carried : suffix.payload frame = some code) :
    (suffix ≠ .crlf ∧ code = frame) ∨
      (suffix = .crlf ∧ frame = code ++ [carriageReturn] ∧
        carriageReturn ∉ code) := by
  unfold ScannerFrameSuffix.payload at carried
  split at carried
  · rename_i isCrlf
    split at carried
    · rename_i ends
      cases carried
      refine .inr ⟨isCrlf, ?_, ends.2⟩
      exact (List.dropLast_append_getLast? _ ends.1).symm
    · cases carried
  · rename_i notCrlf
    exact .inl ⟨notCrlf, (Option.some.inj carried).symm⟩

theorem spoiled_of
    (spoils : ∀ rest code, suffix.payload (bytes ++ rest) = some code →
      isPaymentCode code = false) :
    Spoiled suffix bytes := by
  intro rest
  cases carried : suffix.payload (bytes ++ rest) with
  | none => simp [codeOfFrame, carried]
  | some code => simp [codeOfFrame, carried, spoils rest code carried]

theorem Spoiled.append
    (spoiled : Spoiled suffix bytes)
    (byte : UInt8) :
    Spoiled suffix (bytes ++ [byte]) := by
  intro rest
  rw [List.append_assoc]
  exact spoiled _

theorem spoiled_of_byte
    (bytes : List UInt8)
    (notAllowed : isAllowedPayloadByte byte = false)
    (notReturn : suffix = .crlf → byte ≠ carriageReturn) :
    Spoiled suffix (bytes ++ [byte]) := by
  refine spoiled_of fun rest code carried => ?_
  have member : byte ∈ bytes ++ [byte] ++ rest := by simp
  rcases payload_cases carried with ⟨-, rfl⟩ | ⟨isCrlf, isFrame, -⟩
  · exact not_isPaymentCode_of_mem member notAllowed
  · rw [isFrame] at member
    rcases List.mem_append.mp member with inCode | isReturn
    · exact not_isPaymentCode_of_mem inCode notAllowed
    · exact absurd (List.mem_singleton.mp isReturn) (notReturn isCrlf)

theorem spoiled_of_return
    (bytes : List UInt8)
    (byte : UInt8) :
    Spoiled .crlf (bytes ++ [carriageReturn] ++ [byte]) := by
  refine spoiled_of fun rest code carried => ?_
  rcases payload_cases carried with ⟨notCrlf, -⟩ | ⟨-, isFrame, alone⟩
  · exact absurd rfl notCrlf
  · have within : bytes ++ [carriageReturn] <+: code ++ [carriageReturn] := by
      rw [← isFrame, List.append_assoc]
      exact List.prefix_append _ _
    have lengths := congrArg List.length isFrame
    simp only [List.length_append, List.length_singleton] at lengths
    have short : (bytes ++ [carriageReturn]).length ≤ code.length := by
      simp only [List.length_append, List.length_singleton]
      omega
    have inCode := List.prefix_of_prefix_length_le within
      (List.prefix_append _ _) short
    exact absurd (inCode.subset (by simp)) alone

theorem spoiled_of_long
    (full : scannerMaxFrameBytes ≤ bytes.length)
    (allowed : isAllowedPayloadByte byte = true) :
    Spoiled suffix (bytes ++ [byte]) := by
  refine spoiled_of fun rest code carried => not_isPaymentCode_of_long ?_
  rcases payload_cases carried with ⟨-, rfl⟩ | ⟨-, isFrame, -⟩
  · simp only [List.length_append, List.length_singleton]
    omega
  · have lengths := congrArg List.length isFrame
    cases rest with
    | nil =>
      rw [List.append_nil] at isFrame
      have isReturn := (List.append_inj' isFrame rfl).2
      cases isReturn
      cases allowed
    | cons next later =>
      simp only [List.length_append, List.length_cons] at lengths
      omega

section

variable (tracks : framer.Tracks bytes previous)

include tracks

theorem Tracks.pushPayload
    (notEnd : byte ≠ framer.suffix.terminator)
    (notReturn : framer.suffix = .crlf → byte ≠ carriageReturn)
    (notPending : framer.pendingCr = false) :
    (framer.pushPayload byte).Tracks (bytes ++ [byte]) previous := by
  have isOpen : framer.suffix.terminator ∉ bytes ++ [byte] := by
    simp [tracks.isOpen, notEnd.symm]
  unfold ScannerFramer.pushPayload
  split
  · rename_i takes
    simp only [Bool.and_eq_true, Bool.not_eq_true', decide_eq_true_eq] at takes
    obtain ⟨⟨allowed, valid⟩, short⟩ := takes
    obtain ⟨isFrame, fits⟩ := tracks.whole valid notPending
    refine ⟨tracks.delimited, isOpen, tracks.remembers.of_eq rfl rfl, ?_, ?_,
      tracks.returns, ?_⟩
    · intro invalid
      exact absurd (valid.symm.trans invalid) nofun
    · intro _ _
      refine ⟨by rw [isFrame], ?_, ?_⟩
      · simp [fits.allowed, allowed]
      · rw [isFrame] at short
        rw [List.length_append, List.length_singleton]
        exact short
    · intro _ pending
      exact absurd (notPending.symm.trans pending) nofun
  · rename_i refuses
    refine ⟨tracks.delimited, isOpen, tracks.remembers.of_eq rfl rfl, ?_,
      nofun, tracks.returns, nofun⟩
    intro _
    by_cases allowed : isAllowedPayloadByte byte = true
    · cases valid : framer.invalidFrame with
      | true => exact (tracks.spoiled valid).append byte
      | false =>
        obtain ⟨isFrame, -⟩ := tracks.whole valid notPending
        refine spoiled_of_long ?_ allowed
        rw [← isFrame]
        simpa [allowed, valid] using refuses
    · exact spoiled_of_byte bytes (by simpa using allowed) notReturn

theorem Tracks.not_pending
    (notCrlf : framer.suffix ≠ .crlf) :
    framer.pendingCr = false := by
  cases pending : framer.pendingCr with
  | false => rfl
  | true => exact absurd (tracks.returns pending) notCrlf

theorem Tracks.pushCrlfByte
    (isCrlf : framer.suffix = .crlf)
    (notEnd : byte ≠ lineFeed)
    (nowMs : Nat) :
    (framer.pushCrlfByte byte nowMs).1.Tracks (bytes ++ [byte]) previous ∧
      (framer.pushCrlfByte byte nowMs).2 = [] := by
  have notTerminator : byte ≠ framer.suffix.terminator := by
    rw [isCrlf]
    exact notEnd
  have isOpen : framer.suffix.terminator ∉ bytes ++ [byte] := by
    simp [tracks.isOpen, notTerminator.symm]
  unfold ScannerFramer.pushCrlfByte
  cases pending : framer.pendingCr with
  | true =>
    simp only [if_true, if_neg notEnd]
    refine ⟨⟨tracks.delimited, isOpen, tracks.remembers.of_eq rfl rfl, ?_,
      nofun, nofun, nofun⟩, trivial⟩
    intro _
    cases valid : framer.invalidFrame with
    | true => exact (tracks.spoiled valid).append byte
    | false =>
      rw [(tracks.pending valid pending).1, isCrlf]
      exact spoiled_of_return framer.frame byte
  | false =>
    by_cases isReturn : byte = carriageReturn
    · simp only [Bool.false_eq_true, if_false, if_pos isReturn]
      refine ⟨⟨tracks.delimited, isOpen, tracks.remembers.of_eq rfl rfl, ?_,
        nofun, fun _ => isCrlf, ?_⟩, trivial⟩
      · exact fun invalid => (tracks.spoiled invalid).append byte
      · intro valid _
        obtain ⟨isFrame, fits⟩ := tracks.whole valid pending
        refine ⟨?_, isFrame ▸ fits⟩
        rw [isReturn, ← isFrame]
    · simp only [Bool.false_eq_true, if_false, if_neg isReturn,
        if_neg notEnd]
      exact ⟨tracks.pushPayload notTerminator (fun _ => isReturn) pending,
        trivial⟩

theorem Tracks.pushByte
    (notEnd : byte ≠ framer.suffix.terminator)
    (nowMs : Nat) :
    (framer.pushByte byte nowMs).1.Tracks (bytes ++ [byte]) previous ∧
      (framer.pushByte byte nowMs).2 = [] := by
  unfold ScannerFramer.pushByte
  cases isSuffix : framer.suffix with
  | none => exact absurd isSuffix tracks.delimited
  | crlf =>
    rw [isSuffix] at notEnd
    exact tracks.pushCrlfByte isSuffix notEnd nowMs
  | lf =>
    have notCrlf : framer.suffix ≠ .crlf := by simp [isSuffix]
    have payload := tracks.pushPayload notEnd (absurd · notCrlf)
      (tracks.not_pending notCrlf)
    rw [isSuffix] at notEnd
    simp only [if_neg (show byte ≠ lineFeed from notEnd)]
    exact ⟨payload, trivial⟩
  | cr =>
    have notCrlf : framer.suffix ≠ .crlf := by simp [isSuffix]
    have payload := tracks.pushPayload notEnd (absurd · notCrlf)
      (tracks.not_pending notCrlf)
    rw [isSuffix] at notEnd
    simp only [if_neg (show byte ≠ carriageReturn from notEnd)]
    exact ⟨payload, trivial⟩

end

/-- The codes go on, once the framer has taken the end of a frame. -/
def Emits
    (previous latest : Option RawPaymentCode)
    (found : Option RawPaymentCode)
    (codes : List RawPaymentCode) : Prop :=
  ∀ rest, withoutRepetitions previous (found.toList ++ rest) =
    codes ++ withoutRepetitions latest rest

theorem Remembers.repeats_iff
    (remembers : framer.Remembers previous)
    (code : RawPaymentCode)
    (accepted : accepts code.authCode = true) :
    framer.repeats code.authCode code.scannedAtMs =
      previous.any fun former =>
        former.authCode = code.authCode &&
          code.scannedAtMs - former.scannedAtMs < scannerRepeatMs := by
  rw [repeats, remembers.code, remembers.time]
  cases previous with
  | none =>
    have notEmpty : code.authCode ≠ [] := by
      intro isEmpty
      rw [isEmpty] at accepted
      cases accepted
    simp [notEmpty]
  | some former =>
    simp [Bool.beq_eq_decide_eq, eq_comm]

theorem Remembers.flush
    (remembers : framer.Remembers previous)
    (valid : framer.invalidFrame = false)
    (nowMs : Nat)
    (found : codeOfFrame suffix bytes =
      if accepts framer.frame then some framer.frame else none) :
    ∃ latest, (framer.flush nowMs).1.Remembers latest ∧
      Emits previous latest (rawCode suffix bytes nowMs)
        (framer.flush nowMs).2 := by
  simp only [ScannerFramer.flush, valid, Bool.false_eq_true, if_false]
  by_cases accepted : accepts framer.frame = true
  · let code : RawPaymentCode :=
      { authCode := framer.frame
        maskedCode := maskCode framer.frame
        scannedAtMs := nowMs }
    have isFound : rawCode suffix bytes nowMs = some code := by
      simp [rawCode, found, accepted, code]
    have same := remembers.repeats_iff code accepted
    cases repeated : framer.repeats framer.frame nowMs with
    | true =>
      refine ⟨previous, ?_, fun rest => ?_⟩
      · simp only [accepted, Bool.not_true, Bool.and_false,
          Bool.false_eq_true, if_false]
        exact remembers.of_eq rfl rfl
      · rw [isFound]
        simp [withoutRepetitions, ← same, code, repeated]
    | false =>
      refine ⟨some code, ?_, fun rest => ?_⟩
      · simp only [accepted, Bool.not_false, Bool.and_true, if_true]
        exact ⟨rfl, rfl⟩
      · rw [isFound]
        simp [withoutRepetitions, ← same, code, repeated, accepted]
  · have isFound : rawCode suffix bytes nowMs = none := by
      simp [rawCode, found, accepted]
    refine ⟨previous, ?_, fun rest => ?_⟩
    · simp only [accepted, Bool.false_and, Bool.false_eq_true, if_false]
      exact remembers.of_eq rfl rfl
    · rw [isFound]
      simp [accepted]

/-- The framer has nothing of the next frame yet. -/
structure Settles (framer next : ScannerFramer) : Prop where
  suffix : next.suffix = framer.suffix
  valid : next.invalidFrame = false
  settled : next.pendingCr = false
  empty : next.frame = []

theorem Settles.tracks
    {next : ScannerFramer}
    (settles : framer.Settles next)
    (delimited : framer.suffix ≠ .none)
    (remembers : next.Remembers previous) :
    next.Tracks [] previous where
  delimited := settles.suffix ▸ delimited
  isOpen := List.not_mem_nil
  remembers := remembers
  spoiled := fun invalid => absurd (settles.valid.symm.trans invalid) nofun
  whole := fun _ _ => ⟨settles.empty, fits_nil⟩
  returns := fun pending => absurd (settles.settled.symm.trans pending) nofun
  pending := fun _ pending =>
    absurd (settles.settled.symm.trans pending) nofun

theorem flush_settles
    (framer : ScannerFramer)
    (nowMs : Nat)
    (settled : framer.pendingCr = false) :
    framer.Settles (framer.flush nowMs).1 := by
  unfold ScannerFramer.flush
  split
  · exact ⟨rfl, rfl, rfl, rfl⟩
  · rename_i valid
    dsimp only
    split
    · exact ⟨rfl, by simpa using valid, settled, rfl⟩
    · exact ⟨rfl, by simpa using valid, settled, rfl⟩

theorem Tracks.flush
    {ended : ScannerFramer}
    (tracks : framer.Tracks bytes previous)
    (same : ended = { framer with pendingCr := false })
    (found : framer.invalidFrame = false →
      codeOfFrame framer.suffix bytes =
        if accepts framer.frame then some framer.frame else none)
    (nowMs : Nat) :
    ∃ latest, (ended.flush nowMs).1.Tracks [] latest ∧
      Emits previous latest (rawCode framer.suffix bytes nowMs)
        (ended.flush nowMs).2 := by
  subst same
  have settled := flush_settles { framer with pendingCr := false } nowMs rfl
  by_cases valid : framer.invalidFrame = true
  · have noCode : codeOfFrame framer.suffix bytes = none := by
      simpa using tracks.spoiled valid []
    refine ⟨previous, settled.tracks tracks.delimited ?_, fun rest => ?_⟩
    · simp only [ScannerFramer.flush, if_pos valid]
      exact tracks.remembers.of_eq rfl rfl
    · simp only [ScannerFramer.flush, if_pos valid, rawCode, noCode]
      rfl
  · have isValid : framer.invalidFrame = false := by simpa using valid
    have remembers : Remembers { framer with pendingCr := false } previous :=
      tracks.remembers.of_eq rfl rfl
    obtain ⟨latest, remembered, emits⟩ :=
      remembers.flush isValid nowMs (found isValid)
    exact ⟨latest, settled.tracks tracks.delimited remembered, emits⟩

theorem Tracks.terminate
    (tracks : framer.Tracks bytes previous)
    (nowMs : Nat) :
    ∃ latest,
      (framer.pushByte framer.suffix.terminator nowMs).1.Tracks [] latest ∧
        Emits previous latest (rawCode framer.suffix bytes nowMs)
          (framer.pushByte framer.suffix.terminator nowMs).2 := by
  have plain (notCrlf : framer.suffix ≠ .crlf) :
      ∃ latest, (framer.flush nowMs).1.Tracks [] latest ∧
        Emits previous latest (rawCode framer.suffix bytes nowMs)
          (framer.flush nowMs).2 := by
    have settled := tracks.not_pending notCrlf
    refine tracks.flush ?_ ?_ nowMs
    · rw [← settled]
    · intro valid
      obtain ⟨isFrame, fits⟩ := tracks.whole valid settled
      rw [isFrame]
      simp [codeOfFrame, ScannerFrameSuffix.payload, notCrlf,
        Option.filter, isPaymentCode_of_fits fits]
  cases isSuffix : framer.suffix with
  | none => exact absurd isSuffix tracks.delimited
  | lf =>
    rw [isSuffix] at plain
    simpa [ScannerFramer.pushByte, isSuffix, ScannerFrameSuffix.terminator]
      using plain nofun
  | cr =>
    rw [isSuffix] at plain
    simpa [ScannerFramer.pushByte, isSuffix, ScannerFrameSuffix.terminator]
      using plain nofun
  | crlf =>
    cases pending : framer.pendingCr with
    | true =>
      have flushed := tracks.flush rfl ?_ nowMs
      · simpa [ScannerFramer.pushByte, isSuffix, pending,
          ScannerFrameSuffix.terminator, ScannerFramer.pushCrlfByte]
          using flushed
      · intro valid
        obtain ⟨isFrame, fits⟩ := tracks.pending valid pending
        have alone : carriageReturn ∉ framer.frame := fits.not_mem rfl
        simp [codeOfFrame, ScannerFrameSuffix.payload, isSuffix, isFrame,
          alone, Option.filter, isPaymentCode_of_fits fits]
    | false =>
      have noCode : codeOfFrame framer.suffix bytes = none := by
        cases valid : framer.invalidFrame with
        | true => simpa using tracks.spoiled valid []
        | false =>
          obtain ⟨-, fits⟩ := tracks.whole valid pending
          have absent : bytes.getLast? ≠ some carriageReturn :=
            fun last => fits.not_mem rfl (List.mem_of_getLast? last)
          simp [codeOfFrame, ScannerFrameSuffix.payload, isSuffix,
            absent]
      rw [isSuffix] at noCode
      have settled : framer.Settles framer.resetFrameState :=
        ⟨rfl, rfl, rfl, rfl⟩
      refine ⟨previous, ?_, fun rest => ?_⟩
      · simpa [ScannerFramer.pushByte, isSuffix, pending,
          ScannerFrameSuffix.terminator, ScannerFramer.pushCrlfByte,
          lineFeed, carriageReturn]
          using settled.tracks tracks.delimited (tracks.remembers.of_eq rfl rfl)
      · simp [ScannerFramer.pushByte, isSuffix, pending,
          ScannerFrameSuffix.terminator, ScannerFramer.pushCrlfByte,
          lineFeed, carriageReturn, rawCode, noCode]

/-- A byte changes neither the suffix nor the time of the last input. -/
theorem pushByte_keeps
    (framer : ScannerFramer)
    (byte : UInt8)
    (nowMs : Nat) :
    (framer.pushByte byte nowMs).1.suffix = framer.suffix ∧
      (framer.pushByte byte nowMs).1.lastInputAtMs =
        framer.lastInputAtMs := by
  have flushKeeps (framer : ScannerFramer) :
      (framer.flush nowMs).1.suffix = framer.suffix ∧
        (framer.flush nowMs).1.lastInputAtMs = framer.lastInputAtMs := by
    unfold ScannerFramer.flush
    split
    · exact ⟨rfl, rfl⟩
    · dsimp only
      split
      · exact ⟨rfl, rfl⟩
      · exact ⟨rfl, rfl⟩
  have payloadKeeps :
      (framer.pushPayload byte).suffix = framer.suffix ∧
        (framer.pushPayload byte).lastInputAtMs = framer.lastInputAtMs := by
    unfold ScannerFramer.pushPayload
    split
    · exact ⟨rfl, rfl⟩
    · exact ⟨rfl, rfl⟩
  unfold ScannerFramer.pushByte
  split
  · unfold ScannerFramer.pushCrlfByte
    split
    · split
      · exact flushKeeps _
      · exact ⟨rfl, rfl⟩
    · split
      · exact ⟨rfl, rfl⟩
      · split
        · exact ⟨rfl, rfl⟩
        · exact payloadKeeps
  · split
    · exact flushKeeps framer
    · exact payloadKeeps
  · split
    · exact flushKeeps framer
    · exact payloadKeeps
  · exact payloadKeeps

theorem framedCodes_append
    {byte : StampedByte}
    (isOpen : suffix.terminator ∉ opened.map (·.value))
    (isEnd : byte.value = suffix.terminator)
    (rest : List StampedByte) :
    framedCodes suffix (opened ++ byte :: rest) =
      (rawCode suffix (opened.map (·.value)) byte.atMs).toList ++
        framedCodes suffix rest := by
  have notEnds : ∀ other ∈ opened,
      decide (other.value = suffix.terminator) = false := by
    intro other member
    refine decide_eq_false fun same => isOpen ?_
    exact List.mem_map.mpr ⟨other, member, same⟩
  rw [framedCodes, terminated_append notEnds (decide_eq_true isEnd),
    List.filterMap_cons]
  cases found : rawCode suffix (opened.map (·.value)) byte.atMs with
  | none =>
    simp only [found]
    rfl
  | some code =>
    simp only [found]
    rfl

theorem framedCodes_open
    (isOpen : suffix.terminator ∉ opened.map (·.value)) :
    framedCodes suffix opened = [] := by
  have notEnds : ∀ other ∈ opened,
      decide (other.value = suffix.terminator) = false := by
    intro other member
    refine decide_eq_false fun same => isOpen ?_
    exact List.mem_map.mpr ⟨other, member, same⟩
  rw [framedCodes, terminated_open notEnds]
  rfl

/-- The framer emits the codes of the bytes, and keeps what is still open. -/
theorem Tracks.pushAll
    (tracks : framer.Tracks (opened.map (·.value)) previous)
    (bytes : List UInt8)
    (nowMs : Nat) :
    (framer.pushAll nowMs bytes).1.suffix = framer.suffix ∧
      (framer.pushAll nowMs bytes).1.lastInputAtMs = framer.lastInputAtMs ∧
      ∃ stillOpen latest,
        (framer.pushAll nowMs bytes).1.Tracks
            (stillOpen.map (·.value)) latest ∧
          ∀ rest,
            withoutRepetitions previous (framedCodes framer.suffix
                (opened ++ (ScannerRead.mk bytes nowMs).stamped ++ rest)) =
              (framer.pushAll nowMs bytes).2 ++
                withoutRepetitions latest
                  (framedCodes framer.suffix (stillOpen ++ rest)) := by
  induction bytes generalizing framer opened previous with
  | nil =>
    refine ⟨rfl, rfl, opened, previous, tracks, fun rest => ?_⟩
    simp [ScannerFramer.pushAll, ScannerRead.stamped]
  | cons byte bytes inductionHypothesis =>
    obtain ⟨suffix, input⟩ := pushByte_keeps framer byte nowMs
    by_cases isEnd : byte = framer.suffix.terminator
    · subst isEnd
      obtain ⟨middle, starts, emits⟩ := tracks.terminate nowMs
      obtain ⟨laterSuffix, laterInput, stillOpen, latest, later, goesOn⟩ :=
        inductionHypothesis
          (show Tracks _ (([] : List StampedByte).map (·.value)) middle
            from starts)
      refine ⟨laterSuffix.trans suffix, laterInput.trans input, stillOpen,
        latest, later, fun rest => ?_⟩
      rw [suffix] at goesOn
      calc
        withoutRepetitions previous (framedCodes framer.suffix
            (opened ++ (ScannerRead.mk (framer.suffix.terminator :: bytes)
              nowMs).stamped ++ rest)) =
            withoutRepetitions previous
              ((rawCode framer.suffix (opened.map (·.value)) nowMs).toList ++
                framedCodes framer.suffix
                  ((ScannerRead.mk bytes nowMs).stamped ++ rest)) := by
          rw [List.append_assoc]
          exact congrArg _ (framedCodes_append tracks.isOpen rfl _)
        _ = (framer.pushByte framer.suffix.terminator nowMs).2 ++
              withoutRepetitions middle (framedCodes framer.suffix
                ((ScannerRead.mk bytes nowMs).stamped ++ rest)) :=
          emits _
        _ = _ := by
          rw [ScannerFramer.pushAll, List.append_assoc]
          exact congrArg _ (goesOn rest)
    · obtain ⟨continues, silent⟩ := tracks.pushByte isEnd nowMs
      have isOpened : opened.map (·.value) ++ [byte] =
          (opened ++ [StampedByte.mk byte nowMs]).map (·.value) := by
        simp
      rw [isOpened] at continues
      obtain ⟨laterSuffix, laterInput, stillOpen, latest, later, goesOn⟩ :=
        inductionHypothesis continues
      refine ⟨laterSuffix.trans suffix, laterInput.trans input, stillOpen,
        latest, later, fun rest => ?_⟩
      have follows := goesOn rest
      rw [suffix, List.append_assoc opened] at follows
      rw [ScannerFramer.pushAll, silent, List.nil_append]
      exact follows

theorem Tracks.noteInput
    (tracks : framer.Tracks bytes previous)
    (read : List UInt8)
    (nowMs : Nat) :
    (framer.noteInput read nowMs).Tracks bytes previous := by
  unfold ScannerFramer.noteInput
  split
  · exact tracks
  · exact ⟨tracks.delimited, tracks.isOpen, tracks.remembers.of_eq rfl rfl,
      tracks.spoiled, tracks.whole, tracks.returns, tracks.pending⟩

theorem suffix_noteInput
    (framer : ScannerFramer)
    (read : List UInt8)
    (nowMs : Nat) :
    (framer.noteInput read nowMs).suffix = framer.suffix := by
  unfold ScannerFramer.noteInput
  split
  · rfl
  · rfl

theorem afterPause_eq
    {nowMs : Nat}
    (recent : ∀ last, framer.lastInputAtMs = some last →
      nowMs - last < scannerFrameIdleTimeoutMs) :
    framer.afterPause nowMs = framer := by
  unfold ScannerFramer.afterPause
  split
  · rename_i pauses
    obtain ⟨-, late⟩ := Bool.and_eq_true_iff.mp pauses
    obtain ⟨last, isLast, isLate⟩ := (Option.any_eq_true _ _).mp late
    exact absurd (of_decide_eq_true isLate) (Nat.not_le.mpr (recent last isLast))
  · rfl

theorem pushBytes_eq
    {read : ScannerRead}
    (delimited : framer.suffix ≠ .none)
    (recent : ∀ last, framer.lastInputAtMs = some last →
      read.atMs - last < scannerFrameIdleTimeoutMs)
    (keeps : ((framer.noteInput read.bytes read.atMs).pushAll read.atMs
      read.bytes).1.suffix = framer.suffix) :
    framer.pushBytes read.bytes read.atMs =
      (framer.noteInput read.bytes read.atMs).pushAll read.atMs
        read.bytes := by
  unfold ScannerFramer.pushBytes
  rw [afterPause_eq recent]
  dsimp only
  rw [if_neg (keeps ▸ delimited)]

theorem pushReads_silent
    (delimited : framer.suffix ≠ .none)
    (silent : stampedBytes reads = []) :
    (framer.pushReads reads).2 = [] := by
  induction reads generalizing framer with
  | nil => rfl
  | cons read rest inductionHypothesis =>
    obtain ⟨noBytes, later⟩ := List.append_eq_nil_iff.mp silent
    have isEmpty : read.bytes = [] := List.map_eq_nil_iff.mp noBytes
    have suffix : (framer.afterPause read.atMs).suffix = framer.suffix := by
      unfold ScannerFramer.afterPause
      split
      · rfl
      · rfl
    have pushed : framer.pushBytes [] read.atMs =
        (framer.afterPause read.atMs, []) := by
      simp [ScannerFramer.pushBytes, ScannerFramer.pushAll,
        ScannerFramer.noteInput, suffix, delimited]
    rw [ScannerFramer.pushReads, isEmpty, pushed]
    exact inductionHypothesis (suffix ▸ delimited) later

/-- Steady reads emit the codes of the stream, however it was cut. -/
theorem Tracks.pushReads
    (tracks : framer.Tracks (opened.map (·.value)) previous)
    (steady : Steady reads)
    (recent : ∀ last, framer.lastInputAtMs = some last →
      ∀ byte ∈ (stampedBytes reads).head?,
        byte.atMs - last < scannerFrameIdleTimeoutMs) :
    (framer.pushReads reads).2 =
      withoutRepetitions previous
        (framedCodes framer.suffix (opened ++ stampedBytes reads)) := by
  induction reads generalizing framer opened previous with
  | nil =>
    rw [stampedBytes, List.flatMap_nil, List.append_nil,
      framedCodes_open tracks.isOpen]
    rfl
  | cons read rest inductionHypothesis =>
    by_cases silent : stampedBytes (read :: rest) = []
    · rw [pushReads_silent tracks.delimited silent, silent,
        List.append_nil, framedCodes_open tracks.isOpen]
      rfl
    · have recently : ∀ last, framer.lastInputAtMs = some last →
          read.atMs - last < scannerFrameIdleTimeoutMs := by
        intro last isLast
        obtain ⟨first, others, isStream⟩ := List.exists_cons_of_ne_nil silent
        have soon := recent last isLast first (by simp [isStream])
        have notBefore := steady.le_of_mem first (by simp [isStream])
        omega
      obtain ⟨suffix, input, stillOpen, latest, later, emits⟩ :=
        (tracks.noteInput read.bytes read.atMs).pushAll read.bytes read.atMs
      rw [suffix_noteInput] at suffix emits
      have pushed := pushBytes_eq tracks.delimited recently suffix
      have goesOn := inductionHypothesis later steady.tail ?_
      · rw [suffix] at goesOn
        rw [ScannerFramer.pushReads, pushed, goesOn]
        simpa [stampedBytes] using (emits (stampedBytes rest)).symm
      · intro last isLast byte isNext
        rw [input] at isLast
        by_cases noBytes : read.bytes = []
        · have same : framer.lastInputAtMs = some last := by
            simpa [ScannerFramer.noteInput, noBytes] using isLast
          refine recent last same byte ?_
          simpa [stampedBytes, ScannerRead.stamped, noBytes] using isNext
        · have same : read.atMs = last := by
            simpa [ScannerFramer.noteInput, noBytes] using isLast
          have linked := (List.isChain_append.mp steady.close).2.2
          obtain ⟨final, isFinal⟩ :=
            Option.ne_none_iff_exists'.mp
              (mt List.getLast?_eq_none_iff.mp noBytes)
          refine same ▸ linked { value := final, atMs := read.atMs } ?_ byte
            isNext
          simp [ScannerRead.stamped, isFinal]

end ScannerFramer

/-- The codes of a stream of bytes. -/
def grammarCodes
    (suffix : ScannerFrameSuffix)
    (stream : List StampedByte) : List RawPaymentCode :=
  withoutRepetitions none (framedCodes suffix stream)

variable {leading : List StampedByte}

theorem framedCodes_behind
    {suffix : ScannerFrameSuffix}
    (behind : ∀ byte ∈ leading.getLast?, byte.value = suffix.terminator)
    (trailing : List StampedByte) :
    framedCodes suffix (leading ++ trailing) =
      framedCodes suffix leading ++ framedCodes suffix trailing := by
  rcases List.eq_nil_or_concat leading with rfl | ⟨others, last, rfl⟩
  · rfl
  · have isEnd : last.value = suffix.terminator := behind last (by simp)
    rw [List.concat_eq_append, List.append_assoc, List.singleton_append,
      framedCodes,
      terminated_behind
        (fun byte : StampedByte => byte.value = suffix.terminator)
        (decide_eq_true isEnd),
      List.filterMap_append]
    rfl

theorem framedCodes_malformed
    {suffix : ScannerFrameSuffix}
    {frame : List StampedByte}
    {last : StampedByte}
    (behind : ∀ byte ∈ leading.getLast?, byte.value = suffix.terminator)
    (isOpen : suffix.terminator ∉ frame.map (·.value))
    (isLast : last.value = suffix.terminator)
    (malformed : codeOfFrame suffix (frame.map (·.value)) = none)
    (trailing : List StampedByte) :
    framedCodes suffix (leading ++ (frame ++ last :: trailing)) =
      framedCodes suffix (leading ++ trailing) := by
  have skips := ScannerFramer.framedCodes_append isOpen isLast trailing
  rw [rawCode, malformed] at skips
  rw [framedCodes_behind behind, framedCodes_behind behind, skips]
  rfl

/-- The framer emits the codes of the stream, however it was cut into reads. -/
theorem framer_emits_grammar
    {suffix : ScannerFrameSuffix}
    {reads : List ScannerRead}
    (delimited : suffix ≠ .none)
    (steady : Steady reads) :
    ((ScannerFramer.new suffix).pushReads reads).2 =
        grammarCodes suffix (stampedBytes reads) ∧
      (∀ other, Steady other → stampedBytes other = stampedBytes reads →
        ((ScannerFramer.new suffix).pushReads other).2 =
          ((ScannerFramer.new suffix).pushReads reads).2) ∧
      ∀ leading frame last trailing,
        (∀ byte ∈ leading.getLast?, byte.value = suffix.terminator) →
        suffix.terminator ∉ frame.map (·.value) →
        last.value = suffix.terminator →
        codeOfFrame suffix (frame.map (·.value)) = none →
        grammarCodes suffix (leading ++ (frame ++ last :: trailing)) =
          grammarCodes suffix (leading ++ trailing) := by
  have starts : (ScannerFramer.new suffix).Tracks
      (([] : List StampedByte).map (·.value)) none :=
    have settled : (ScannerFramer.new suffix).Settles (.new suffix) :=
      ⟨rfl, rfl, rfl, rfl⟩
    settled.tracks delimited ⟨rfl, rfl⟩
  have emits (reads : List ScannerRead) (steady : Steady reads) :
      ((ScannerFramer.new suffix).pushReads reads).2 =
        grammarCodes suffix (stampedBytes reads) :=
    starts.pushReads steady nofun
  refine ⟨emits reads steady, fun other otherSteady same => ?_, ?_⟩
  · rw [emits other otherSteady, emits reads steady, same]
  · intro leading frame last trailing behind isOpen isLast malformed
    rw [grammarCodes, grammarCodes,
      framedCodes_malformed behind isOpen isLast malformed]

/-- A code whose CR and LF come with two reads, and which is then repeated. -/
def splitReads : List ScannerRead :=
  [{ bytes := [49, 50, 51, 52, 53, 54, 13], atMs := 1000 },
    { bytes := [10, 49, 50, 51, 52, 53, 54, 13, 10], atMs := 1500 }]

theorem framer_emits_grammar_split :
    ((ScannerFramer.new .crlf).pushReads splitReads).2 =
      grammarCodes .crlf (stampedBytes splitReads) := by
  have steady : Steady splitReads :=
    ⟨by decide +kernel, by decide +kernel⟩
  exact (framer_emits_grammar (by decide) steady).1

end VendingSystem.Daemon
