import VendingSystem.PlatformPngHeader

namespace VendingSystem.Platform

open Ecma

/-!
# The chunks of a PNG

A chunk stores the length of its data, a type, the data and a checksum.  One
turn of the loop reads one chunk and decides by its kind: a header, an inner
chunk or the end.
-/

theorem toBits_crcTurn (crc : Int) :
    toBits (crcTurn crc) =
      Crc.shiftRegister 0xEDB88320#32 (toBits crc) := by
  have polynomial : toBits 0xEDB88320 = 0xEDB88320#32 := rfl
  have zero : toBits 0 = 0#32 := rfl
  unfold crcTurn Crc.shiftRegister Crc.shiftBit
  rw [toBits_bitXor, toBits_unsignedShift, Bool.xor_false]
  by_cases lowest : (toBits crc).getLsbD 0 = true
  · rw [if_pos ((bitAnd_one crc).mpr lowest), if_pos lowest, polynomial]
  · rw [if_neg (mt (bitAnd_one crc).mp lowest), if_neg lowest, zero,
      BitVec.xor_zero]

theorem toBits_crcByte
    (crc : Int)
    (byte : BitVec 8) :
    toBits (crcByte crc byte) =
      Crc.addByte 0xEDB88320#32 (toBits crc) byte := by
  have turns : ∀ (count : Nat) (start : Int),
      toBits ((List.range count).foldl (fun crc _ => crcTurn crc) start) =
        (Crc.shiftRegister 0xEDB88320#32)^[count] (toBits start) := by
    intro count start
    induction count with
    | zero => rfl
    | succ count inductionHypothesis =>
      rw [List.range_succ, List.foldl_append, List.foldl_cons,
        List.foldl_nil, toBits_crcTurn, inductionHypothesis,
        Function.iterate_succ_apply']
  have added : toBits (byte.toNat : Int) = byte.setWidth 32 := by
    rw [toBits, BitVec.ofInt_natCast, BitVec.ofNat_toNat]
  rw [crcByte, turns, toBits_bitXor, added, Crc.addByte]

theorem crc32_eq (value : Buffer) :
    crc32 value = (Crc.reflectedCrc 0xEDB88320#32 value).toNat := by
  have register : ∀ start : Int,
      toBits (value.foldl crcByte start) =
        value.foldl (Crc.addByte 0xEDB88320#32) (toBits start) := by
    induction value with
    | nil => exact fun _ => rfl
    | cons byte rest inductionHypothesis =>
      intro start
      rw [List.foldl_cons, List.foldl_cons, inductionHypothesis,
        toBits_crcByte]
  have allOnes : toBits 0xFFFFFFFF = BitVec.allOnes 32 := rfl
  rw [Crc.reflectedCrc_bytes _ value (by decide), crc32, unsignedShift,
    toBits_bitXor, register, allOnes, BitVec.ushiftRight_zero,
    BitVec.xor_allOnes]

/-- The check value of CRC-32. -/
example :
    crc32 ((units "123456789").map (BitVec.ofNat 8)) = 0xCBF43926 := by
  decide +kernel

open Crc (lowBits) in
/-- A change within 32 consecutive bits is always seen. -/
theorem crc32_detects_bursts
    (message other : Buffer)
    (leading trailing : List Bool)
    (burst otherBurst : BitVec 32)
    (ofMessage :
      (message.flatMap fun byte => lowBits byte 8) =
        leading ++ lowBits burst 32 ++ trailing)
    (ofOther :
      (other.flatMap fun byte => lowBits byte 8) =
        leading ++ lowBits otherBurst 32 ++ trailing)
    (changed : burst ≠ otherBurst) :
    crc32 message ≠ crc32 other := by
  intro same
  have sameCheck : Crc.reflectedCrc 0xEDB88320#32 message =
      Crc.reflectedCrc 0xEDB88320#32 other := by
    rw [crc32_eq, crc32_eq] at same
    exact BitVec.eq_of_toNat_eq (Int.ofNat_inj.mp same)
  rw [Crc.reflectedCrc, Crc.reflectedCrc, ofMessage, ofOther,
    BitVec.not_inj] at sameCheck
  simp only [List.foldl_append] at sameCheck
  exact changed (Crc.foldl_lowBits_injective rfl
    (Crc.foldl_shiftBit_injective rfl sameCheck))

/-- Bits that change across bytes, from the fifth on. -/
theorem crc32_detects_bursts_across_bytes :
    crc32 [0x10#8, 0x02#8, 0x30#8, 0x04#8, 0x05#8] ≠
      crc32 [0xE0#8, 0x02#8, 0x30#8, 0x04#8, 0x0A#8] :=
  crc32_detects_bursts _ _ [false, false, false, false]
    [false, false, false, false] 0x50430021#32 0xA043002E#32 (by decide)
    (by decide) (by decide)

/-- A number below 2^32 as four bytes, the highest first. -/
def bigEndian (value : Nat) : Buffer :=
  [BitVec.ofNat 8 (value / 0x1000000), BitVec.ofNat 8 (value / 0x10000),
    BitVec.ofNat 8 (value / 0x100), BitVec.ofNat 8 value]

structure PngChunk where
  type : Buffer
  data : Buffer
  checksum : BitVec 32
  typeLength : type.length = 4
  dataLength : data.length < 0x100000000

namespace PngChunk

def name (chunk : PngChunk) : JsString :=
  asciiText chunk.type

/-- The chunk as it is stored: its length, type, data and checksum. -/
def bytes (chunk : PngChunk) : Buffer :=
  bigEndian chunk.data.length ++
    (chunk.type ++ (chunk.data ++ bigEndian chunk.checksum.toNat))

/-- The stored checksum is the CRC-32 of type and data. -/
def IsChecked (chunk : PngChunk) : Prop :=
  chunk.checksum =
    Crc.reflectedCrc 0xEDB88320#32 (chunk.type ++ chunk.data)

/-- A header with admissible fields. -/
structure IsHeader (chunk : PngChunk) (header : PngHeader) : Prop where
  named : chunk.name = units "IHDR"
  width : 0 < header.width ∧ header.width < 0x100000000
  height : 0 < header.height ∧ header.height < 0x100000000
  fields : ∃ depth colour interlace : BitVec 8,
    chunk.data = bigEndian header.width ++ (bigEndian header.height ++
      [depth, colour, 0#8, 0#8, interlace]) ∧
    depth.toNat ∈ [1, 2, 4, 8, 16] ∧
    colour.toNat ∈ [0, 2, 3, 4, 6] ∧
    interlace.toNat ∈ [0, 1]

/-- Neither header nor end: a chunk that is known or need not be. -/
structure IsInner (chunk : PngChunk) : Prop where
  noHeader : chunk.name ≠ units "IHDR"
  noEnd : chunk.name ≠ units "IEND"
  known : chunk.name = units "PLTE" ∨ chunk.name = units "IDAT" ∨
    ∀ unit ∈ chunk.name.head?,
      ¬('A'.toNat ≤ unit ∧ unit ≤ 'Z'.toNat)

structure IsEnd (chunk : PngChunk) : Prop where
  named : chunk.name = units "IEND"
  empty : chunk.data = []

end PngChunk

variable {value : Nat}

theorem uint32_bigEndian
    (small : value < 0x100000000) :
    uint32 (BitVec.ofNat 8 (value / 0x1000000))
        (BitVec.ofNat 8 (value / 0x10000)) (BitVec.ofNat 8 (value / 0x100))
        (BitVec.ofNat 8 value) =
      value := by
  simp only [uint32, BitVec.toNat_ofNat]
  omega

theorem uint32_lt (first second third fourth : BitVec 8) :
    uint32 first second third fourth < 0x100000000 := by
  have small := first.isLt
  have alsoSmall := second.isLt
  have thirdSmall := third.isLt
  have fourthSmall := fourth.isLt
  unfold uint32
  omega

theorem bigEndian_uint32 (first second third fourth : BitVec 8) :
    bigEndian (uint32 first second third fourth) =
      [first, second, third, fourth] := by
  have small := first.isLt
  have alsoSmall := second.isLt
  have thirdSmall := third.isLt
  have fourthSmall := fourth.isLt
  simp only [bigEndian, uint32, List.cons.injEq, and_true]
  refine ⟨?_, ?_, ?_, ?_⟩
  all_goals
    refine BitVec.eq_of_toNat_eq ?_
    rw [BitVec.toNat_ofNat]
    omega

theorem readUInt32BE_bigEndian
    (before rest : Buffer)
    (small : value < 0x100000000) :
    readUInt32BE (before ++ (bigEndian value ++ rest)) before.length =
      .ok value := by
  rw [readUInt32BE, List.drop_left]
  exact congrArg Except.ok (uint32_bigEndian small)

theorem readUInt32BE_ok
    {buffer : Buffer}
    {offset : Nat}
    (inside : offset + 4 ≤ buffer.length) :
    ∃ value rest, value < 0x100000000 ∧
      buffer = buffer.take offset ++ (bigEndian value ++ rest) ∧
      readUInt32BE buffer offset = .ok value := by
  have left : 4 ≤ (buffer.drop offset).length := by
    rw [List.length_drop]
    omega
  match shape : buffer.drop offset, left with
  | first :: second :: third :: fourth :: rest, _ =>
    refine ⟨uint32 first second third fourth, rest, uint32_lt .., ?_, ?_⟩
    · rw [bigEndian_uint32]
      calc buffer
          = buffer.take offset ++ buffer.drop offset :=
            (List.take_append_drop offset buffer).symm
        _ = _ := by rw [shape]; rfl
    · rw [readUInt32BE, shape]

theorem subarray_middle
    (before middle rest : Buffer)
    {start stop : Nat}
    (starts : start = before.length)
    (stops : stop = before.length + middle.length) :
    subarray (before ++ (middle ++ rest)) start stop = middle := by
  have taken : (before ++ (middle ++ rest)).take stop = before ++ middle := by
    rw [← List.append_assoc, stops, ← List.length_append, List.take_left]
  rw [subarray, taken, starts, List.drop_left]

@[simp] theorem length_bigEndian (value : Nat) :
    (bigEndian value).length = 4 :=
  rfl

theorem PngChunk.length_bytes (chunk : PngChunk) :
    chunk.bytes.length = chunk.data.length + 12 := by
  simp only [bytes, List.length_append, length_bigEndian, chunk.typeLength]
  omega

/-- A turn at the start of a chunk looks at its checksum and its kind. -/
theorem scanTurn_chunk
    {before : Buffer}
    {scan : PngScan}
    (chunk : PngChunk)
    (rest : Buffer)
    (placed : scan.offset = before.length) :
    scanTurn (before ++ (chunk.bytes ++ rest)) scan =
      if chunk.checksum =
          Crc.reflectedCrc 0xEDB88320#32 (chunk.type ++ chunk.data) then
        scanChunk (before ++ (chunk.bytes ++ rest)).length scan
          chunk.data.length chunk.name chunk.data
          (scan.offset + 8 + chunk.data.length)
      else .ok none := by
  have byteLength : (before ++ (chunk.bytes ++ rest)).length =
      scan.offset + (chunk.data.length + 12 + rest.length) := by
    rw [List.length_append, List.length_append, chunk.length_bytes, placed]
  have length : readUInt32BE (before ++ (chunk.bytes ++ rest)) scan.offset =
      .ok chunk.data.length := by
    rw [placed, PngChunk.bytes, List.append_assoc]
    exact readUInt32BE_bigEndian before _ chunk.dataLength
  have type : subarray (before ++ (chunk.bytes ++ rest))
      (scan.offset + 4) (scan.offset + 8) = chunk.type := by
    have shape : before ++ (chunk.bytes ++ rest) =
        (before ++ bigEndian chunk.data.length) ++ (chunk.type ++
          (chunk.data ++ bigEndian chunk.checksum.toNat ++ rest)) := by
      simp only [PngChunk.bytes, List.append_assoc]
    rw [shape]
    refine subarray_middle _ _ _ ?_ ?_
    · rw [List.length_append, length_bigEndian, placed]
    · rw [List.length_append, length_bigEndian, chunk.typeLength, placed]
  have data : subarray (before ++ (chunk.bytes ++ rest))
      (scan.offset + 8) (scan.offset + 8 + chunk.data.length) = chunk.data := by
    have shape : before ++ (chunk.bytes ++ rest) =
        (before ++ bigEndian chunk.data.length ++ chunk.type) ++
          (chunk.data ++ (bigEndian chunk.checksum.toNat ++ rest)) := by
      simp only [PngChunk.bytes, List.append_assoc]
    rw [shape]
    refine subarray_middle _ _ _ ?_ ?_
    · simp only [List.length_append, length_bigEndian, chunk.typeLength,
        placed]
    · simp only [List.length_append, length_bigEndian, chunk.typeLength,
        placed]
  have covered : subarray (before ++ (chunk.bytes ++ rest))
      (scan.offset + 4) (scan.offset + 8 + chunk.data.length) =
        chunk.type ++ chunk.data := by
    have shape : before ++ (chunk.bytes ++ rest) =
        (before ++ bigEndian chunk.data.length) ++
          ((chunk.type ++ chunk.data) ++
            (bigEndian chunk.checksum.toNat ++ rest)) := by
      simp only [PngChunk.bytes, List.append_assoc]
    rw [shape]
    refine subarray_middle _ _ _ ?_ ?_
    · rw [List.length_append, length_bigEndian, placed]
    · simp only [List.length_append, length_bigEndian, chunk.typeLength,
        placed]
      omega
  have stored : readUInt32BE (before ++ (chunk.bytes ++ rest))
      (scan.offset + 8 + chunk.data.length) = .ok chunk.checksum.toNat := by
    have shape : before ++ (chunk.bytes ++ rest) =
        (before ++ bigEndian chunk.data.length ++ chunk.type ++
          chunk.data) ++ (bigEndian chunk.checksum.toNat ++ rest) := by
      simp only [PngChunk.bytes, List.append_assoc]
    have position : scan.offset + 8 + chunk.data.length =
        (before ++ bigEndian chunk.data.length ++ chunk.type ++
          chunk.data).length := by
      simp only [List.length_append, length_bigEndian, chunk.typeLength,
        placed]
    rw [shape, position]
    exact readUInt32BE_bigEndian _ rest chunk.checksum.isLt
  have inside : ¬scan.offset + 8 + chunk.data.length + 4 >
      (before ++ (chunk.bytes ++ rest)).length := by
    omega
  have sameCheck :
      (Crc.reflectedCrc 0xEDB88320#32
          (chunk.type ++ chunk.data)).toNat ≠ (chunk.checksum.toNat : Int) ↔
        ¬chunk.checksum =
          Crc.reflectedCrc 0xEDB88320#32 (chunk.type ++ chunk.data) := by
    rw [ne_eq, Int.natCast_inj, BitVec.toNat_inj, eq_comm]
  simp only [scanTurn, length, Except.bind, type, data, covered, stored,
    if_neg inside, crc32_eq, sameCheck, ite_not]
  rfl

/-- Where twelve bytes are left there is a chunk, or its length is too large. -/
theorem chunk_or_scanTurn_none
    {buffer : Buffer}
    {scan : PngScan}
    (left : scan.offset + 12 ≤ buffer.length) :
    (∃ chunk rest,
      buffer = buffer.take scan.offset ++ (PngChunk.bytes chunk ++ rest)) ∨
    scanTurn buffer scan = .ok none := by
  obtain ⟨length, behindLength, small, shape, read⟩ :=
    @readUInt32BE_ok buffer scan.offset (by omega)
  by_cases inside : scan.offset + 8 + length + 4 ≤ buffer.length
  · have total := congrArg List.length shape
    simp only [List.length_append, List.length_take,
      length_bigEndian] at total
    obtain ⟨stored, rest, storedSmall, tailShape, _⟩ :=
      @readUInt32BE_ok behindLength (4 + length) (by omega)
    have taken : (behindLength.take (4 + length)).length = 4 + length := by
      rw [List.length_take]
      omega
    let chunk : PngChunk :=
      { type := (behindLength.take (4 + length)).take 4
        data := (behindLength.take (4 + length)).drop 4
        checksum := BitVec.ofNat 32 stored
        typeLength := by
          rw [List.length_take, taken]
          omega
        dataLength := by
          rw [List.length_drop, taken]
          omega }
    have dataLength : chunk.data.length = length := by
      simp only [chunk, List.length_drop, taken]
      omega
    have checksum : chunk.checksum.toNat = stored := by
      simp only [chunk, BitVec.toNat_ofNat]
      omega
    have typeAndData : chunk.type ++ chunk.data =
        behindLength.take (4 + length) :=
      List.take_append_drop 4 _
    refine Or.inl ⟨chunk, rest, ?_⟩
    calc buffer
        = buffer.take scan.offset ++ (bigEndian length ++ behindLength) := shape
      _ = buffer.take scan.offset ++
            (bigEndian length ++ (behindLength.take (4 + length) ++
              (bigEndian stored ++ rest))) := by rw [← tailShape]
      _ = buffer.take scan.offset ++ (chunk.bytes ++ rest) := by
          rw [PngChunk.bytes, dataLength, checksum, ← typeAndData]
          simp only [List.append_assoc]
  · refine Or.inr ?_
    simp only [scanTurn, read, Except.bind]
    rw [if_pos (by omega)]

section Kinds

variable
  {byteLength dataEnd : Nat}
  {scan : PngScan}
  {chunk : PngChunk}

theorem isCriticalPngChunk_name (chunk : PngChunk) :
    isCriticalPngChunk chunk.name = false ↔
      ∀ unit ∈ chunk.name.head?,
        ¬('A'.toNat ≤ unit ∧ unit ≤ 'Z'.toNat) := by
  have length : chunk.name.length = 4 := by
    rw [PngChunk.name, asciiText, List.length_map, chunk.typeLength]
  have letters : 'A'.toNat = 65 ∧ 'Z'.toNat = 90 := by decide
  rw [isCriticalPngChunk, length, letters.1, letters.2]
  cases chunk.name.head? with
  | none => simp
  | some unit => simp

theorem scanChunk_inner
    (isInner : chunk.IsInner)
    (hasHeader : scan.width ≠ none) :
    scanChunk byteLength scan chunk.data.length chunk.name chunk.data
        dataEnd =
      .ok (some { scan with offset := dataEnd + 4 }) := by
  unfold scanChunk
  rw [if_neg isInner.noHeader, if_neg isInner.noEnd]
  rcases isInner.known with palette | pixels | ancillary
  · rw [if_pos (Or.inl palette), if_neg hasHeader]
  · rw [if_pos (Or.inr pixels), if_neg hasHeader]
  · have harmless := (isCriticalPngChunk_name chunk).mpr ancillary
    rw [if_neg hasHeader, harmless]
    split
    · rfl
    · rfl

theorem scanChunk_end
    (isEnd : chunk.IsEnd)
    (hasWidth : scan.width ≠ none)
    (hasHeight : scan.height ≠ none)
    (atEnd : dataEnd + 4 = byteLength) :
    scanChunk byteLength scan chunk.data.length chunk.name chunk.data
        dataEnd =
      .ok (some { scan with offset := dataEnd + 4, sawEnd := true }) := by
  have noHeader : chunk.name ≠ units "IHDR" := by
    rw [isEnd.named]
    decide
  have notKnown :
      ¬(chunk.name = units "PLTE" ∨ chunk.name = units "IDAT") := by
    rw [isEnd.named]
    decide
  have empty : chunk.data.length = 0 := by
    rw [isEnd.empty]
    rfl
  unfold scanChunk
  rw [if_neg noHeader, if_neg notKnown, if_pos isEnd.named]
  refine if_neg ?_
  rintro (notEmpty | noWidth | noHeight | elsewhere)
  · exact notEmpty empty
  · exact hasWidth noWidth
  · exact hasHeight noHeight
  · exact elsewhere atEnd

/-- Behind the header, inner chunks go on and the end chunk ends the file. -/
theorem scanChunk_inBody
    (hasHeader : scan.width ≠ none) :
    scanChunk byteLength scan chunk.data.length chunk.name chunk.data
        dataEnd = .ok none ∨
    (chunk.IsInner ∧
      scanChunk byteLength scan chunk.data.length chunk.name chunk.data
        dataEnd = .ok (some { scan with offset := dataEnd + 4 })) ∨
    (chunk.IsEnd ∧ dataEnd + 4 = byteLength ∧
      scanChunk byteLength scan chunk.data.length chunk.name chunk.data
        dataEnd =
          .ok (some { scan with offset := dataEnd + 4, sawEnd := true })) := by
  by_cases isHeader : chunk.name = units "IHDR"
  · refine Or.inl ?_
    unfold scanChunk scanHeader
    rw [if_pos isHeader, if_pos (Or.inl hasHeader)]
  · by_cases isEnd : chunk.name = units "IEND"
    · have notKnown :
          ¬(chunk.name = units "PLTE" ∨ chunk.name = units "IDAT") := by
        rw [isEnd]
        decide
      by_cases wrong : chunk.data.length ≠ 0 ∨ scan.width = none ∨
          scan.height = none ∨ dataEnd + 4 ≠ byteLength
      · refine Or.inl ?_
        unfold scanChunk
        rw [if_neg isHeader, if_neg notKnown, if_pos isEnd, if_pos wrong]
      · simp only [not_or, not_not] at wrong
        have ended : chunk.IsEnd :=
          { named := isEnd
            empty := List.length_eq_zero_iff.mp wrong.1 }
        exact Or.inr (Or.inr ⟨ended, wrong.2.2.2,
          scanChunk_end ended wrong.2.1 wrong.2.2.1 wrong.2.2.2⟩)
    · by_cases known : chunk.name = units "PLTE" ∨
          chunk.name = units "IDAT" ∨ isCriticalPngChunk chunk.name = false
      · rw [isCriticalPngChunk_name] at known
        have isInner : chunk.IsInner :=
          { noHeader := isHeader
            noEnd := isEnd
            known := known }
        exact Or.inr (Or.inl ⟨isInner, scanChunk_inner isInner hasHeader⟩)
      · simp only [not_or, Bool.not_eq_false] at known
        refine Or.inl ?_
        unfold scanChunk
        rw [if_neg isHeader, if_neg (by tauto), if_neg isEnd,
          if_pos known.2.2]

theorem scanChunk_before
    (noHeader : scan.width = none)
    (notHeader : scan.offset ≠ 8 ∨ chunk.name ≠ units "IHDR") :
    scanChunk byteLength scan chunk.data.length chunk.name chunk.data
        dataEnd = .ok none ∨
    scanChunk byteLength scan chunk.data.length chunk.name chunk.data
        dataEnd = .ok (some { scan with offset := dataEnd + 4 }) := by
  unfold scanChunk
  by_cases isHeader : chunk.name = units "IHDR"
  · have elsewhere : scan.offset ≠ 8 :=
      notHeader.resolve_right (not_not_intro isHeader)
    refine Or.inl ?_
    rw [if_pos isHeader, scanHeader, if_pos (Or.inr (Or.inr elsewhere))]
  · rw [if_neg isHeader, if_pos noHeader,
      if_pos (Or.inr (Or.inl noHeader))]
    repeat' split
    · exact Or.inl rfl
    · exact Or.inl rfl
    · exact Or.inl rfl
    · exact Or.inr rfl

theorem includesByte_some
    (values : List Nat)
    (byte : BitVec 8) :
    includesByte values (some byte) = true ↔ byte.toNat ∈ values := by
  rw [includesByte, Option.any_some, List.contains_iff_mem]

/-- At the start of the file a header is taken. -/
theorem scanChunk_header
    {header : PngHeader}
    (isHeader : chunk.IsHeader header)
    (atStart : scan.offset = 8)
    (noHeader : scan.width = none) :
    scanChunk byteLength scan chunk.data.length chunk.name chunk.data
        dataEnd =
      .ok (some
        { offset := dataEnd + 4
          width := some header.width
          height := some header.height
          sawEnd := false }) := by
  obtain ⟨depth, colour, interlace, data, depthFine, colourFine,
    interlaceFine⟩ := isHeader.fields
  have length : chunk.data.length = 13 := by
    rw [data]
    rfl
  have width : readUInt32BE chunk.data 0 = .ok header.width := by
    rw [data]
    exact readUInt32BE_bigEndian [] _ isHeader.width.2
  have height : readUInt32BE chunk.data 4 = .ok header.height := by
    rw [data]
    exact readUInt32BE_bigEndian (bigEndian header.width) _ isHeader.height.2
  have byte : chunk.data[8]? = some depth ∧ chunk.data[9]? = some colour ∧
      chunk.data[10]? = some 0#8 ∧ chunk.data[11]? = some 0#8 ∧
      chunk.data[12]? = some interlace := by
    rw [data]
    exact ⟨rfl, rfl, rfl, rfl, rfl⟩
  have first : ¬(scan.width ≠ none ∨ chunk.data.length ≠ 13 ∨
      scan.offset ≠ 8) := by
    simp [noHeader, length, atStart]
  unfold scanChunk scanHeader
  rw [if_pos isHeader.named, if_neg first, width, height]
  refine if_neg ?_
  rw [byte.1, byte.2.1, byte.2.2.1, byte.2.2.2.1, byte.2.2.2.2,
    (includesByte_some _ depth).mpr depthFine,
    (includesByte_some _ colour).mpr colourFine,
    (includesByte_some _ interlace).mpr interlaceFine]
  have positive := isHeader.width.1
  have alsoPositive := isHeader.height.1
  simp
  omega

theorem bytes_of_length
    {data : Buffer}
    (length : data.length = 13) :
    ∃ b0 b1 b2 b3 b4 b5 b6 b7 b8 b9 b10 b11 b12,
      data = [b0, b1, b2, b3, b4, b5, b6, b7, b8, b9, b10, b11, b12] := by
  match data, length with
  | [b0, b1, b2, b3, b4, b5, b6, b7, b8, b9, b10, b11, b12], _ =>
    exact ⟨b0, b1, b2, b3, b4, b5, b6, b7, b8, b9, b10, b11, b12, rfl⟩

theorem isHeader_of_scanChunk
    (named : chunk.name = units "IHDR")
    (atStart : scan.offset = 8)
    (noHeader : scan.width = none) :
    scanChunk byteLength scan chunk.data.length chunk.name chunk.data
        dataEnd = .ok none ∨
    ∃ header, chunk.IsHeader header := by
  by_cases length : chunk.data.length = 13
  · obtain ⟨w0, w1, w2, w3, h0, h1, h2, h3, depth, colour, compression,
      filter, interlace, data⟩ := bytes_of_length length
    obtain ⟨width, widthSmall, widthBytes, widthRead⟩ :
        ∃ width, width < 0x100000000 ∧ bigEndian width = [w0, w1, w2, w3] ∧
          readUInt32BE chunk.data 0 = .ok width :=
      ⟨_, uint32_lt w0 w1 w2 w3, bigEndian_uint32 .., by rw [data]; rfl⟩
    obtain ⟨height, heightSmall, heightBytes, heightRead⟩ :
        ∃ height, height < 0x100000000 ∧
          bigEndian height = [h0, h1, h2, h3] ∧
          readUInt32BE chunk.data 4 = .ok height :=
      ⟨_, uint32_lt h0 h1 h2 h3, bigEndian_uint32 .., by rw [data]; rfl⟩
    by_cases wrong : width = 0 ∨ height = 0 ∨
        includesByte [1, 2, 4, 8, 16] chunk.data[8]? = false ∨
        includesByte [0, 2, 3, 4, 6] chunk.data[9]? = false ∨
        chunk.data[10]? ≠ some 0#8 ∨ chunk.data[11]? ≠ some 0#8 ∨
        includesByte [0, 1] chunk.data[12]? = false
    · have first : ¬(scan.width ≠ none ∨ chunk.data.length ≠ 13 ∨
          scan.offset ≠ 8) := by
        simp [noHeader, data, atStart]
      refine Or.inl ?_
      unfold scanChunk scanHeader
      rw [if_pos named, if_neg first, widthRead, heightRead]
      exact if_pos wrong
    · rw [data] at wrong
      simp only [not_or, not_not, Bool.not_eq_false] at wrong
      obtain ⟨positive, alsoPositive, depthFine, colourFine,
        noCompression, noFilter, interlaceFine⟩ := wrong
      have compressionZero : compression = 0#8 :=
        Option.some.inj noCompression
      have filterZero : filter = 0#8 := Option.some.inj noFilter
      have fields : chunk.data =
          bigEndian width ++ (bigEndian height ++
            [depth, colour, 0#8, 0#8, interlace]) := by
        rw [widthBytes, heightBytes, data, compressionZero, filterZero]
        rfl
      refine Or.inr ⟨{ width, height }, ?_⟩
      exact
        { named := named
          width := ⟨Nat.pos_of_ne_zero positive, widthSmall⟩
          height := ⟨Nat.pos_of_ne_zero alsoPositive, heightSmall⟩
          fields := ⟨depth, colour, interlace, fields,
            (includesByte_some _ depth).mp depthFine,
            (includesByte_some _ colour).mp colourFine,
            (includesByte_some _ interlace).mp interlaceFine⟩ }
  · refine Or.inl ?_
    unfold scanChunk scanHeader
    rw [if_pos named, if_pos (Or.inr (Or.inl length))]

end Kinds

end VendingSystem.Platform
