import VendingSystem.EcmaBitwise
import VendingSystem.EcmaJson

namespace VendingSystem.Platform

open Ecma

/-!
# The structure check of an uploaded PNG

`readPngHeader` walks over the chunks of an upload: it compares each checksum,
lets the header chunk come first only, and stops at the end chunk.  A read
past the end of the buffer would throw.
-/

abbrev Buffer := List (BitVec 8)

/-- A read that begins too close to the end of a buffer. -/
structure RangeError where
  offset : Nat
  deriving Repr, DecidableEq

/-- The number of four bytes, the highest first. -/
def uint32 (first second third fourth : BitVec 8) : Nat :=
  first.toNat * 0x1000000 + second.toNat * 0x10000 + third.toNat * 0x100 +
    fourth.toNat

def readUInt32BE
    (buffer : Buffer)
    (offset : Nat) : Except RangeError Nat :=
  match buffer.drop offset with
  | first :: second :: third :: fourth :: _ =>
    .ok (uint32 first second third fourth)
  | _ => .error { offset }

def subarray (buffer : Buffer) (start stop : Nat) : Buffer :=
  (buffer.take stop).drop start

/-- `toString("ascii")`, which clears the top bit of each byte. -/
def asciiText (buffer : Buffer) : JsString :=
  buffer.map fun byte => byte.toNat % 0x80

/-- One turn of the inner loop of `crc32`. -/
def crcTurn (crc : Int) : Int :=
  bitXor (unsignedShift crc 1) (if bitAnd crc 1 ≠ 0 then 0xEDB88320 else 0)

def crcByte (crc : Int) (byte : BitVec 8) : Int :=
  (List.range 8).foldl (fun crc _ => crcTurn crc) (bitXor crc byte.toNat)

def crc32 (value : Buffer) : Int :=
  unsignedShift (bitXor (value.foldl crcByte 0xFFFFFFFF) 0xFFFFFFFF) 0

structure PngHeader where
  width : Nat
  height : Nat
  deriving Repr, DecidableEq

def pngSignature : Buffer :=
  [0x89#8, 0x50#8, 0x4E#8, 0x47#8, 0x0D#8, 0x0A#8, 0x1A#8, 0x0A#8]

def isPng (buffer : Buffer) : Bool :=
  pngSignature.zipIdx.all fun (byte, index) => buffer[index]? == some byte

def isCriticalPngChunk (type : JsString) : Bool :=
  type.length == 4 &&
    type.head?.any fun unit => 65 ≤ unit && unit ≤ 90

/-- `values.includes(byte)`, where a byte past the end is `undefined`. -/
def includesByte (values : List Nat) (byte : Option (BitVec 8)) : Bool :=
  byte.any fun byte => values.contains byte.toNat

/-- What the loop keeps between two chunks. -/
structure PngScan where
  offset : Nat
  width : Option Nat
  height : Option Nat
  sawEnd : Bool
  deriving Repr, DecidableEq

/-- The loop at the start of the file, behind the signature. -/
def PngScan.start : PngScan where
  offset := 8
  width := none
  height := none
  sawEnd := false

/-- The header chunk; `none` where `undefined` is returned. -/
def scanHeader
    (scan : PngScan)
    (length : Nat)
    (data : Buffer)
    (dataEnd : Nat) : Except RangeError (Option PngScan) :=
  if scan.width ≠ none ∨ length ≠ 13 ∨ scan.offset ≠ 8 then .ok none
  else
    (readUInt32BE data 0).bind fun width =>
      (readUInt32BE data 4).bind fun height =>
        if width = 0 ∨ height = 0 ∨
            includesByte [1, 2, 4, 8, 16] data[8]? = false ∨
            includesByte [0, 2, 3, 4, 6] data[9]? = false ∨
            data[10]? ≠ some 0#8 ∨ data[11]? ≠ some 0#8 ∨
            includesByte [0, 1] data[12]? = false then .ok none
        else
          .ok (some
            { offset := dataEnd + 4
              width := some width
              height := some height
              sawEnd := false })

/-- A chunk whose checksum is right. -/
def scanChunk
    (byteLength : Nat)
    (scan : PngScan)
    (length : Nat)
    (type : JsString)
    (data : Buffer)
    (dataEnd : Nat) : Except RangeError (Option PngScan) :=
  if type = units "IHDR" then scanHeader scan length data dataEnd
  else if type = units "PLTE" ∨ type = units "IDAT" then
    if scan.width = none then .ok none
    else .ok (some { scan with offset := dataEnd + 4 })
  else if type = units "IEND" then
    if length ≠ 0 ∨ scan.width = none ∨ scan.height = none ∨
        dataEnd + 4 ≠ byteLength then .ok none
    else .ok (some { scan with offset := dataEnd + 4, sawEnd := true })
  else if isCriticalPngChunk type then .ok none
  else .ok (some { scan with offset := dataEnd + 4 })

/-- One turn of the loop. -/
def scanTurn
    (buffer : Buffer)
    (scan : PngScan) : Except RangeError (Option PngScan) :=
  (readUInt32BE buffer scan.offset).bind fun length =>
    let type :=
      asciiText (subarray buffer (scan.offset + 4) (scan.offset + 8))
    let dataStart := scan.offset + 8
    let dataEnd := dataStart + length
    if dataEnd + 4 > buffer.length then .ok none
    else
      (readUInt32BE buffer dataEnd).bind fun stored =>
        if crc32 (subarray buffer (scan.offset + 4) dataEnd) ≠ stored then
          .ok none
        else
          scanChunk buffer.length scan length type
            (subarray buffer dataStart dataEnd) dataEnd

variable {next scan : PngScan} {data : Buffer} {dataEnd length : Nat}

theorem scanHeader_offset
    (scanned : scanHeader scan length data dataEnd = .ok (some next)) :
    next.offset = dataEnd + 4 := by
  unfold scanHeader at scanned
  split at scanned
  · cases scanned
  · cases width : readUInt32BE data 0 with
    | error outside =>
      rw [width] at scanned
      cases scanned
    | ok width =>
      cases height : readUInt32BE data 4 with
      | error outside =>
        simp only [width, height, Except.bind] at scanned
        cases scanned
      | ok height =>
        simp only [width, height, Except.bind] at scanned
        split at scanned
        · cases scanned
        · cases scanned
          rfl

theorem scanChunk_offset
    {byteLength : Nat}
    {type : JsString}
    (scanned :
      scanChunk byteLength scan length type data dataEnd =
        .ok (some next)) :
    next.offset = dataEnd + 4 := by
  unfold scanChunk at scanned
  split at scanned
  · exact scanHeader_offset scanned
  · repeat' split at scanned
    all_goals
      cases scanned
    all_goals rfl

/-- A chunk that was accepted ends further on, within the buffer. -/
theorem scanTurn_offset
    {buffer : Buffer}
    (turned : scanTurn buffer scan = .ok (some next)) :
    scan.offset + 12 ≤ next.offset ∧ next.offset ≤ buffer.length := by
  unfold scanTurn at turned
  cases declared : readUInt32BE buffer scan.offset with
  | error outside =>
    rw [declared] at turned
    cases turned
  | ok length =>
    simp only [declared, Except.bind] at turned
    split at turned
    · cases turned
    · rename_i inside
      cases stored : readUInt32BE buffer (scan.offset + 8 + length) with
      | error outside =>
        rw [stored] at turned
        cases turned
      | ok stored =>
        simp only [stored] at turned
        split at turned
        · cases turned
        · have ends := scanChunk_offset turned
          omega

/-- The loop, up to its end or the end chunk. -/
def scanPng
    (buffer : Buffer)
    (scan : PngScan) : Except RangeError (Option PngScan) :=
  if scan.sawEnd = true ∨ ¬scan.offset + 12 ≤ buffer.length then
    .ok (some scan)
  else
    match _turned : scanTurn buffer scan with
    | .error outside => .error outside
    | .ok none => .ok none
    | .ok (some next) => scanPng buffer next
  termination_by buffer.length - scan.offset
  decreasing_by
    have further := scanTurn_offset _turned
    omega

/-- What is returned after the loop. -/
def PngScan.header
    (buffer : Buffer)
    (scan : PngScan) : Option PngHeader :=
  match scan.width, scan.height with
  | some width, some height =>
    if scan.sawEnd = false ∨ scan.offset ≠ buffer.length then none
    else some { width, height }
  | _, _ => none

def readPngHeader (buffer : Buffer) : Except RangeError (Option PngHeader) :=
  if isPng buffer = false ∨ buffer.length < 57 then .ok none
  else
    (scanPng buffer .start).map fun scanned =>
      scanned.bind (PngScan.header buffer)

end VendingSystem.Platform
