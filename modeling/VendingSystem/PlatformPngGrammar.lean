import VendingSystem.PlatformPngChunks

namespace VendingSystem.Platform

open Ecma

/-!
# The grammar of the structure check

A file is the signature and a sequence of chunks, of which the first is the
header and the last the end chunk.  The loop accepts a file exactly when it is
of this form, and what it returns are the header's dimensions.
-/

/-- The grammar: what the check is to accept, and the header it returns. -/
structure IsPngFile (buffer : Buffer) (header : PngHeader) : Prop where
  long : 57 ≤ buffer.length
  chunks : ∃ first inner last,
    buffer = pngSignature ++
      (first :: (inner ++ [last])).flatMap PngChunk.bytes ∧
    (∀ chunk ∈ first :: (inner ++ [last]), chunk.IsChecked) ∧
    first.IsHeader header ∧ (∀ chunk ∈ inner, chunk.IsInner) ∧
    last.IsEnd

/-- Behind the header: inner chunks up to an end chunk that fills the rest. -/
inductive PngTail : Buffer → Prop
  | last
      {chunk : PngChunk}
      (checked : chunk.IsChecked)
      (isEnd : chunk.IsEnd) :
      PngTail chunk.bytes
  | inner
      {chunk : PngChunk}
      {rest : Buffer}
      (checked : chunk.IsChecked)
      (isInner : chunk.IsInner)
      (tail : PngTail rest) :
      PngTail (chunk.bytes ++ rest)

theorem pngTail_iff (buffer : Buffer) :
    PngTail buffer ↔ ∃ inner last,
      buffer = (inner ++ [last]).flatMap PngChunk.bytes ∧
      (∀ chunk ∈ inner ++ [last], chunk.IsChecked) ∧
      (∀ chunk ∈ inner, chunk.IsInner) ∧ last.IsEnd := by
  constructor
  · intro tail
    induction tail with
    | @last chunk checked isEnd =>
      refine ⟨[], chunk, ?_, by simpa using checked, by simp, isEnd⟩
      simp
    | @inner chunk rest checked isInner _ inductionHypothesis =>
      obtain ⟨inner, last, shape, allChecked, allInner, isEnd⟩ :=
        inductionHypothesis
      refine ⟨chunk :: inner, last, ?_, ?_, ?_, isEnd⟩
      · rw [List.cons_append, List.flatMap_cons, shape]
      · exact List.forall_mem_cons.mpr ⟨checked, allChecked⟩
      · exact List.forall_mem_cons.mpr ⟨isInner, allInner⟩
  · rintro ⟨inner, last, shape, allChecked, allInner, isEnd⟩
    subst shape
    induction inner with
    | nil =>
      rw [List.nil_append, List.forall_mem_singleton] at allChecked
      rw [List.nil_append, List.flatMap_singleton]
      exact .last allChecked isEnd
    | cons chunk inner inductionHypothesis =>
      rw [List.cons_append, List.forall_mem_cons] at allChecked
      rw [List.forall_mem_cons] at allInner
      rw [List.cons_append, List.flatMap_cons]
      exact .inner allChecked.1 allInner.1
        (inductionHypothesis allChecked.2 allInner.2)

section Loop

variable {buffer before tail rest : Buffer} {scan next : PngScan}
  {chunk : PngChunk}

theorem scanPng_stop
    (stops : scan.sawEnd = true ∨ ¬scan.offset + 12 ≤ buffer.length) :
    scanPng buffer scan = .ok (some scan) := by
  rw [scanPng, if_pos stops]

theorem scanPng_none
    (goesOn : ¬(scan.sawEnd = true ∨ ¬scan.offset + 12 ≤ buffer.length))
    (turned : scanTurn buffer scan = .ok none) :
    scanPng buffer scan = .ok none := by
  rw [scanPng, if_neg goesOn]
  split
  · simp_all
  · rfl
  · simp_all

theorem scanPng_next
    (goesOn : ¬(scan.sawEnd = true ∨ ¬scan.offset + 12 ≤ buffer.length))
    (turned : scanTurn buffer scan = .ok (some next)) :
    scanPng buffer scan = scanPng buffer next := by
  rw [scanPng, if_neg goesOn]
  split
  · simp_all
  · simp_all
  · simp_all

theorem scanTurn_checked
    (rest : Buffer)
    (placed : scan.offset = before.length)
    (checked : chunk.IsChecked) :
    scanTurn (before ++ (chunk.bytes ++ rest)) scan =
      scanChunk (before ++ (chunk.bytes ++ rest)).length scan
        chunk.data.length chunk.name chunk.data
        (scan.offset + 8 + chunk.data.length) := by
  rw [scanTurn_chunk chunk rest placed]
  exact if_pos checked

theorem scanTurn_cases
    (left : scan.offset + 12 ≤ buffer.length) :
    scanTurn buffer scan = .ok none ∨
    ∃ chunk : PngChunk, ∃ rest,
      buffer.drop scan.offset = chunk.bytes ++ rest ∧ chunk.IsChecked ∧
      scanTurn buffer scan =
        scanChunk buffer.length scan chunk.data.length chunk.name
          chunk.data (scan.offset + 8 + chunk.data.length) := by
  rcases chunk_or_scanTurn_none left with ⟨chunk, rest, shape⟩ | stops
  · have placed : scan.offset = (buffer.take scan.offset).length := by
      rw [List.length_take]
      omega
    have dropped : buffer.drop scan.offset = chunk.bytes ++ rest := by
      refine (List.append_right_inj (buffer.take scan.offset)).mp ?_
      rw [List.take_append_drop, ← shape]
    by_cases checked : chunk.IsChecked
    · have turned := scanTurn_checked rest placed checked
      rw [← shape] at turned
      exact Or.inr ⟨chunk, rest, dropped, checked, turned⟩
    · have turned := scanTurn_chunk chunk rest placed
      rw [← shape] at turned
      exact Or.inl (turned.trans (if_neg checked))
  · exact Or.inl stops

theorem left_of_goesOn
    (goesOn : ¬(scan.sawEnd = true ∨ ¬scan.offset + 12 ≤ buffer.length)) :
    scan.offset + 12 ≤ buffer.length :=
  not_not.mp (not_or.mp goesOn).2

/-- A tail is accepted with the header that was read before it. -/
theorem scanPng_tail
    (isTail : PngTail tail)
    (placed : scan.offset = before.length)
    (hasWidth : scan.width ≠ none)
    (hasHeight : scan.height ≠ none)
    (goesOn : scan.sawEnd = false) :
    scanPng (before ++ tail) scan =
      .ok (some { scan with
        offset := (before ++ tail).length, sawEnd := true }) := by
  induction isTail generalizing before scan with
  | @last chunk checked isEnd =>
    have byteLength : (before ++ (chunk.bytes ++ [])).length =
        scan.offset + 8 + chunk.data.length + 4 := by
      simp only [List.append_nil, List.length_append, chunk.length_bytes]
      omega
    have turned := scanTurn_checked [] placed checked
    rw [scanChunk_end isEnd hasWidth hasHeight byteLength.symm,
      ← byteLength, List.append_nil] at turned
    rw [List.append_nil] at byteLength
    rw [scanPng_next ?_ turned, scanPng_stop (Or.inl rfl)]
    simp only [goesOn, Bool.false_eq_true, false_or, not_not]
    omega
  | @inner chunk rest checked isInner tail inductionHypothesis =>
    have turned := scanTurn_checked rest placed checked
    rw [scanChunk_inner isInner hasWidth] at turned
    have further : scan.offset + 8 + chunk.data.length + 4 =
        (before ++ chunk.bytes).length := by
      rw [List.length_append, chunk.length_bytes]
      omega
    rw [scanPng_next ?_ turned, ← List.append_assoc]
    · exact inductionHypothesis further hasWidth hasHeight goesOn
    · simp only [goesOn, Bool.false_eq_true, false_or, not_not,
        List.length_append, chunk.length_bytes]
      omega

theorem scanTurn_without_header
    (left : scan.offset + 12 ≤ buffer.length)
    (noHeader : scan.width = none)
    (past : 8 < scan.offset) :
    scanTurn buffer scan = .ok none ∨
    ∃ further, 8 < further ∧
      scanTurn buffer scan = .ok (some { scan with offset := further }) := by
  rcases scanTurn_cases left with stops | ⟨chunk, rest, _, _, turned⟩
  · exact Or.inl stops
  · rw [turned]
    rcases scanChunk_before noHeader (Or.inl (by omega)) with stops | taken
    · exact Or.inl stops
    · exact Or.inr ⟨_, by omega, taken⟩

theorem scanPng_without_header
    (noHeader : scan.width = none)
    (past : 8 < scan.offset) :
    ∃ scanned, scanPng buffer scan = .ok scanned ∧
      scanned.bind (PngScan.header buffer) = none := by
  induction scan using scanPng.induct buffer with
  | case1 scan stops =>
    refine ⟨some scan, scanPng_stop stops, ?_⟩
    simp [PngScan.header, noHeader]
  | case2 scan goesOn outside turned =>
    rcases scanTurn_without_header (left_of_goesOn goesOn) noHeader past with
      stops | ⟨further, _, taken⟩
    · cases turned.symm.trans stops
    · cases turned.symm.trans taken
  | case3 scan goesOn turned =>
    exact ⟨none, scanPng_none goesOn turned, rfl⟩
  | case4 scan goesOn next turned inductionHypothesis =>
    rw [scanPng_next goesOn turned]
    rcases scanTurn_without_header (left_of_goesOn goesOn) noHeader past with
      stops | ⟨further, alsoPast, taken⟩
    · cases turned.symm.trans stops
    · cases turned.symm.trans taken
      exact inductionHypothesis noHeader alsoPast

theorem drop_chunk
    {offset : Nat}
    (shape : buffer.drop offset = chunk.bytes ++ rest) :
    buffer.drop (offset + 8 + chunk.data.length + 4) = rest := by
  have position : offset + 8 + chunk.data.length + 4 =
      offset + chunk.bytes.length := by
    rw [chunk.length_bytes]
    omega
  rw [position, ← List.drop_drop, shape, List.drop_left]

theorem scanTurn_inBody
    (left : scan.offset + 12 ≤ buffer.length)
    (hasHeader : scan.width ≠ none) :
    scanTurn buffer scan = .ok none ∨
    (∃ chunk : PngChunk, ∃ further,
      chunk.IsChecked ∧ chunk.IsInner ∧
      buffer.drop scan.offset = chunk.bytes ++ buffer.drop further ∧
      scanTurn buffer scan = .ok (some { scan with offset := further })) ∨
    (∃ chunk : PngChunk, chunk.IsChecked ∧ chunk.IsEnd ∧
      buffer.drop scan.offset = chunk.bytes ∧
      scanTurn buffer scan = .ok (some { scan with
        offset := buffer.length, sawEnd := true })) := by
  rcases scanTurn_cases left with stops | ⟨chunk, rest, shape, checked, turned⟩
  · exact Or.inl stops
  · have behind := drop_chunk shape
    rw [turned]
    rcases scanChunk_inBody hasHeader with
      stops | ⟨isInner, taken⟩ | ⟨isEnd, atEnd, taken⟩
    · exact Or.inl stops
    · refine Or.inr (Or.inl ⟨chunk, _, checked, isInner, ?_, taken⟩)
      rw [behind, shape]
    · rw [atEnd] at taken behind
      rw [List.drop_length] at behind
      refine Or.inr (Or.inr ⟨chunk, checked, isEnd, ?_, taken⟩)
      rw [shape, ← behind, List.append_nil]

/-- What is accepted behind a header is a tail. -/
theorem pngTail_of_scanPng
    {width height : Nat}
    (hasWidth : scan.width = some width)
    (hasHeight : scan.height = some height)
    (goesOn : scan.sawEnd = false) :
    ∃ scanned, scanPng buffer scan = .ok scanned ∧
      ∀ header, scanned.bind (PngScan.header buffer) = some header →
        header = { width, height } ∧ PngTail (buffer.drop scan.offset) := by
  have hasHeader : scan.width ≠ none := by simp [hasWidth]
  induction scan using scanPng.induct buffer with
  | case1 scan stops =>
    refine ⟨some scan, scanPng_stop stops, fun header found => ?_⟩
    simp [PngScan.header, hasWidth, hasHeight, goesOn] at found
  | case2 scan continues outside turned =>
    rcases scanTurn_inBody (left_of_goesOn continues) hasHeader with
      stops | ⟨_, _, _, _, _, taken⟩ | ⟨_, _, _, _, taken⟩
    · cases turned.symm.trans stops
    · cases turned.symm.trans taken
    · cases turned.symm.trans taken
  | case3 scan continues turned =>
    exact ⟨none, scanPng_none continues turned,
      fun header found => by cases found⟩
  | case4 scan continues next turned inductionHypothesis =>
    rw [scanPng_next continues turned]
    rcases scanTurn_inBody (left_of_goesOn continues) hasHeader with
      stops | ⟨chunk, further, checked, isInner, shape, taken⟩ |
        ⟨chunk, checked, isEnd, shape, taken⟩
    · cases turned.symm.trans stops
    · cases turned.symm.trans taken
      obtain ⟨scanned, run, accepted⟩ :=
        inductionHypothesis hasWidth hasHeight goesOn hasHeader
      refine ⟨scanned, run, fun header found => ?_⟩
      obtain ⟨same, tail⟩ := accepted header found
      refine ⟨same, ?_⟩
      rw [shape]
      exact .inner checked isInner tail
    · cases turned.symm.trans taken
      refine ⟨_, scanPng_stop (Or.inl rfl), fun header found => ?_⟩
      rw [shape]
      refine ⟨?_, .last checked isEnd⟩
      simp [PngScan.header, hasWidth, hasHeight] at found
      exact found.symm

theorem all_zipIdx_iff
    (bytes : Buffer)
    (start : Nat) :
    ((bytes.zipIdx start).all fun (byte, index) =>
        buffer[index]? == some byte) = true ↔
      ∃ rest, buffer.drop start = bytes ++ rest := by
  induction bytes generalizing start with
  | nil => simp
  | cons byte bytes inductionHypothesis =>
    rw [List.zipIdx_cons, List.all_cons, Bool.and_eq_true,
      inductionHypothesis, beq_iff_eq]
    constructor
    · rintro ⟨here, rest, behind⟩
      obtain ⟨inside, same⟩ := List.getElem?_eq_some_iff.mp here
      refine ⟨rest, ?_⟩
      rw [List.drop_eq_getElem_cons inside, same, behind,
        List.cons_append]
    · rintro ⟨rest, shape⟩
      refine ⟨?_, rest, ?_⟩
      · rw [← Nat.add_zero start, ← List.getElem?_drop, shape]
        rfl
      · rw [← List.drop_drop, shape]
        rfl

theorem isPng_iff :
    isPng buffer = true ↔ ∃ rest, buffer = pngSignature ++ rest :=
  all_zipIdx_iff pngSignature 0

theorem start_goesOn
    (long : 57 ≤ buffer.length) :
    ¬(PngScan.start.sawEnd = true ∨
      ¬PngScan.start.offset + 12 ≤ buffer.length) := by
  simp only [PngScan.start, Bool.false_eq_true, false_or, not_not]
  omega

theorem scanPng_header
    {header : PngHeader}
    (checked : chunk.IsChecked)
    (isHeader : chunk.IsHeader header)
    (isTail : PngTail tail)
    (starts : buffer = pngSignature ++ (chunk.bytes ++ tail))
    (long : 57 ≤ buffer.length) :
    ∃ scanned, scanPng buffer .start = .ok (some scanned) ∧
      scanned.header buffer = some header := by
  have turned := scanTurn_checked tail
    (show PngScan.start.offset = pngSignature.length from rfl) checked
  rw [scanChunk_header isHeader rfl rfl, ← starts] at turned
  have further : PngScan.start.offset + 8 + chunk.data.length + 4 =
      (pngSignature ++ chunk.bytes).length := by
    rw [List.length_append, chunk.length_bytes]
    simp only [PngScan.start, pngSignature, List.length_cons,
      List.length_nil]
    omega
  have shape : buffer = (pngSignature ++ chunk.bytes) ++ tail := by
    rw [starts, List.append_assoc]
  rw [scanPng_next (start_goesOn long) turned]
  nth_rewrite 1 [shape]
  rw [scanPng_tail isTail further (Option.some_ne_none _)
    (Option.some_ne_none _) rfl, ← shape]
  exact ⟨_, rfl, by simp [PngScan.header]⟩

/-- What is accepted from the start of the file is a header and a tail. -/
theorem header_of_scanPng
    (starts : buffer = pngSignature ++ rest)
    (long : 57 ≤ buffer.length) :
    ∃ scanned, scanPng buffer .start = .ok scanned ∧
      ∀ header, scanned.bind (PngScan.header buffer) = some header →
        ∃ chunk : PngChunk, ∃ tail, rest = chunk.bytes ++ tail ∧
          chunk.IsChecked ∧ chunk.IsHeader header ∧ PngTail tail := by
  have goesOn := start_goesOn long
  have refusing (turned : scanTurn buffer .start = .ok none) :
      ∃ scanned, scanPng buffer .start = .ok scanned ∧
        ∀ header, scanned.bind (PngScan.header buffer) ≠ some header :=
    ⟨none, scanPng_none goesOn turned, fun _ found => by cases found⟩
  have passing
      {next : PngScan}
      (turned : scanTurn buffer .start = .ok (some next))
      (noHeader : next.width = none) :
      ∃ scanned, scanPng buffer .start = .ok scanned ∧
        ∀ header, scanned.bind (PngScan.header buffer) ≠ some header := by
    have past := (scanTurn_offset turned).1
    simp only [PngScan.start] at past
    obtain ⟨scanned, run, none⟩ :=
      @scanPng_without_header buffer next noHeader (by omega)
    refine ⟨scanned, ?_, fun header found => ?_⟩
    · rw [scanPng_next goesOn turned, run]
    · rw [none] at found
      cases found
  have weaken (refused : ∃ scanned, scanPng buffer .start = .ok scanned ∧
        ∀ header, scanned.bind (PngScan.header buffer) ≠ some header) :
      ∃ scanned, scanPng buffer .start = .ok scanned ∧
        ∀ header, scanned.bind (PngScan.header buffer) = some header →
          ∃ chunk : PngChunk, ∃ tail, rest = chunk.bytes ++ tail ∧
            chunk.IsChecked ∧ chunk.IsHeader header ∧ PngTail tail := by
    obtain ⟨scanned, run, never⟩ := refused
    exact ⟨scanned, run, fun header found => absurd found (never header)⟩
  have behindSignature : buffer.drop PngScan.start.offset = rest := by
    rw [starts]
    rfl
  rcases scanTurn_cases (left_of_goesOn goesOn) with
    stops | ⟨chunk, tail, shape, checked, turned⟩
  · exact weaken (refusing stops)
  · have behind := drop_chunk shape
    rw [behindSignature] at shape
    have noHeader : PngScan.start.width = none := rfl
    by_cases named : chunk.name = units "IHDR"
    · rcases isHeader_of_scanChunk named rfl noHeader with
        stops | ⟨header, isHeader⟩
      · exact weaken (refusing (turned.trans stops))
      · rw [scanChunk_header isHeader rfl rfl] at turned
        obtain ⟨scanned, run, accepted⟩ :=
          @pngTail_of_scanPng buffer
            { offset := PngScan.start.offset + 8 + chunk.data.length + 4
              width := some header.width
              height := some header.height
              sawEnd := false } _ _ rfl rfl rfl
        refine ⟨scanned, (scanPng_next goesOn turned).trans run, ?_⟩
        intro found isFound
        obtain ⟨same, isTail⟩ := accepted found isFound
        refine ⟨chunk, tail, shape, checked, ?_, ?_⟩
        · rw [same]
          exact isHeader
        · rw [← behind]
          exact isTail
    · rcases scanChunk_before noHeader (Or.inr named) with stops | taken
      · exact weaken (refusing (turned.trans stops))
      · exact weaken (passing (turned.trans taken) rfl)

end Loop

theorem isPngFile_iff
    {buffer : Buffer}
    {header : PngHeader} :
    IsPngFile buffer header ↔ 57 ≤ buffer.length ∧ ∃ rest,
      buffer = pngSignature ++ rest ∧
      ∃ chunk : PngChunk, ∃ tail, rest = chunk.bytes ++ tail ∧
        chunk.IsChecked ∧ chunk.IsHeader header ∧ PngTail tail := by
  constructor
  · rintro ⟨long, first, inner, last, shape, allChecked, isHeader,
      allInner, isEnd⟩
    rw [List.forall_mem_cons] at allChecked
    refine ⟨long, _, shape, first, _, List.flatMap_cons .., allChecked.1,
      isHeader, ?_⟩
    exact (pngTail_iff _).mpr ⟨inner, last, rfl, allChecked.2, allInner, isEnd⟩
  · rintro ⟨long, _, shape, first, tail, rfl, checked, isHeader, isTail⟩
    obtain ⟨inner, last, rfl, allChecked, allInner, isEnd⟩ :=
      (pngTail_iff tail).mp isTail
    refine ⟨long, first, inner, last, ?_, ?_, isHeader, allInner, isEnd⟩
    · rw [shape, List.flatMap_cons]
    · exact List.forall_mem_cons.mpr ⟨checked, allChecked⟩

/--
The structure check returns for every buffer, without a read outside of it,
and returns a header exactly for the files of the grammar.
-/
theorem readPngHeader_accepts_grammar (buffer : Buffer) :
    ∃ result, readPngHeader buffer = .ok result ∧
      ∀ header, result = some header ↔ IsPngFile buffer header := by
  by_cases refused : isPng buffer = false ∨ buffer.length < 57
  · refine ⟨none, if_pos refused, fun header => ?_⟩
    refine ⟨fun found => (by cases found), fun isFile => ?_⟩
    obtain ⟨long, rest, starts, _⟩ := isPngFile_iff.mp isFile
    have signed := isPng_iff.mpr ⟨rest, starts⟩
    rcases refused with unsigned | short
    · rw [signed] at unsigned
      cases unsigned
    · omega
  · simp only [not_or, Bool.not_eq_false, Nat.not_lt] at refused
    obtain ⟨rest, starts⟩ := isPng_iff.mp refused.1
    obtain ⟨scanned, run, accepted⟩ := header_of_scanPng starts refused.2
    refine ⟨scanned.bind (PngScan.header buffer), ?_, fun header => ?_⟩
    · have signed : ¬(isPng buffer = false ∨ buffer.length < 57) := by
        simp [refused.1, refused.2]
      rw [readPngHeader, if_neg signed, run]
      rfl
    · constructor
      · intro found
        obtain ⟨chunk, tail, shape, good⟩ := accepted header found
        exact isPngFile_iff.mpr
          ⟨refused.2, rest, starts, chunk, tail, shape, good⟩
      · intro isFile
        obtain ⟨long, _, shape, chunk, tail, rfl, checked, isHeader,
          isTail⟩ := isPngFile_iff.mp isFile
        obtain ⟨last, otherRun, found⟩ :=
          scanPng_header checked isHeader isTail shape long
        cases run.symm.trans otherRun
        exact found

end VendingSystem.Platform
