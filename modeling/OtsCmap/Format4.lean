import OtsCmap.Table

/-! `Parse3x4`: the format-4 subtables (3,0,4) and (3,1,4). The subtable is kept verbatim, so the
parser checks the header, the segment order, and simulates the lookup of the code points of the
segments before it records the slice. -/
namespace OtsCmap

def log2Loop (segcount : Nat) : Nat → Nat → Nat
  | log2segcount, 0 => log2segcount
  | log2segcount, fuel + 1 =>
    if 2 ^ (log2segcount + 1) ≤ segcount then log2Loop segcount (log2segcount + 1) fuel
    else log2segcount

def readSegCount (input : List UInt8) (subtable : Buffer) : Except Stop (Nat × Buffer) := do
  let subtable ← subtable.skip 4
  let (language, subtable) ← subtable.readU16 input
  -- Platform ID 3 (windows) subtables should have language 0.
  failIf (language ≠ 0)
  let (segcountx2, subtable) ← subtable.readU16 input
  let (searchRange, subtable) ← subtable.readU16 input
  let (entrySelector, subtable) ← subtable.readU16 input
  let (rangeShift, subtable) ← subtable.readU16 input
  failIf (segcountx2 % 2 = 1 ∨ searchRange % 2 = 1)
  let segcount := segcountx2 / 2
  failIf (segcount < 1)
  let log2segcount := log2Loop segcount 0 16
  -- `expected_search_range` is the `uint16_t` value of `2 * 1u << log2segcount`.
  failIf ((2 * 2 ^ log2segcount) % 65536 ≠ searchRange)
  failIf (entrySelector ≠ log2segcount)
  let expectedRangeShift ← subNoWrap segcountx2 searchRange
  failIf (rangeShift ≠ expectedRangeShift)
  pure (segcount, subtable)

def coerceIdRangeOffset (last : Bool) (value : Nat) : Except Stop Nat :=
  if value % 2 = 1 then (if last then .ok 0 else .error .failure) else .ok value

def readIdRangeOffsets (input : List UInt8) : Buffer → Nat → Except Stop (List (Nat × Nat) × Buffer)
  | subtable, 0 => pure ([], subtable)
  | subtable, remaining + 1 => do
    let (value, next) ← subtable.readU16 input
    let value ← coerceIdRangeOffset (remaining == 0) value
    let (rest, next) ← readIdRangeOffsets input next remaining
    pure ((value, subtable.offset) :: rest, next)

def assembleRanges : List Nat → List Nat → List Int → List (Nat × Nat) → List Subtable314Range
  | endRange :: ends, startRange :: starts, idDelta :: deltas, (idRangeOffset, at_) :: offsets =>
    ⟨startRange, endRange, idDelta, idRangeOffset, at_⟩ :: assembleRanges ends starts deltas offsets
  | _, _, _, _ => []

def readRanges (input : List UInt8) (subtable : Buffer) (segcount : Nat) :
    Except Stop (List Subtable314Range) := do
  let (endRanges, subtable) ← readArray (·.readU16 input) subtable segcount
  let (padding, subtable) ← subtable.readU16 input
  failIf (padding ≠ 0)
  let (startRanges, subtable) ← readArray (·.readU16 input) subtable segcount
  let (idDeltas, subtable) ← readArray (·.readS16 input) subtable segcount
  let (idRangeOffsets, _) ← readIdRangeOffsets input subtable segcount
  pure (assembleRanges endRanges startRanges idDeltas idRangeOffsets)

def Subtable314Range.isTerminator (range : Subtable314Range) : Bool :=
  range.startRange == 0xFFFF && range.endRange == 0xFFFF

def fixCharIndex (os2 : OpenTypeOS2) (range : Subtable314Range) : OpenTypeOS2 where
  firstCharIndex :=
    if os2.firstCharIndex ≠ 0xFFFF ∧ range.startRange ≠ 0xFFFF ∧
        os2.firstCharIndex > range.startRange then range.startRange
    else os2.firstCharIndex
  lastCharIndex :=
    if os2.lastCharIndex ≠ 0xFFFF ∧ range.endRange ≠ 0xFFFF ∧
        os2.lastCharIndex < range.endRange then range.endRange
    else os2.lastCharIndex

def orderStep (previous current : Subtable314Range) (os2 : OpenTypeOS2) : Except Stop OpenTypeOS2 :=
  if current.endRange ≤ previous.endRange then .error .failure
  else if current.startRange ≤ previous.endRange then .error .failure
  else .ok (fixCharIndex os2 current)

def checkOrder : List Subtable314Range → OpenTypeOS2 → Except Stop OpenTypeOS2
  | [previous, current], os2 =>
    if previous.isTerminator && current.isTerminator then .ok os2
    else orderStep previous current os2
  | previous :: current :: rest, os2 => do
    let os2 ← orderStep previous current os2
    checkOrder (current :: rest) os2
  | _, os2 => .ok os2

def simulateCodePoint (input : List UInt8) (data : Slice) (numGlyphs : Nat)
    (range : Subtable314Range) (codePoint : Nat) : Except Stop Unit :=
  if range.idRangeOffset = 0 then
    -- This is explicitly allowed to overflow in the spec.
    if ((codePoint + range.idDelta) % 65536).toNat ≥ numGlyphs then .error .failure else .ok ()
  else do
    let rangeDelta := codePoint - range.startRange
    -- The offset is relative to the location of the offset value itself.
    let glyphIdOffset ← addNoWrap 32 range.idRangeOffsetOffset range.idRangeOffset
    let glyphIdOffset ← addNoWrap 32 glyphIdOffset (rangeDelta * 2)
    failIf (glyphIdOffset + 1 ≥ data.length)
    let glyph ← data.peek input glyphIdOffset 2
    failIf (glyph ≥ numGlyphs)

def Subtable314Range.codePoints (range : Subtable314Range) : List Nat :=
  List.range' range.startRange (range.endRange + 1 - range.startRange)

def simulate (input : List UInt8) (data : Slice) (numGlyphs : Nat)
    (ranges : List Subtable314Range) : Except Stop Unit :=
  (ranges.drop 1).forM fun range => range.codePoints.forM (simulateCodePoint input data numGlyphs range)

def parse3x4 (file : OpenTypeFile) (encoding : Nat) (input : List UInt8) (data : Slice)
    (numGlyphs : Nat) : Except Stop OpenTypeFile := do
  let some os2 := file.os2 | throw .failure
  let (segcount, subtable) ← readSegCount input (Buffer.ofSlice data)
  let ranges ← readRanges input subtable segcount
  let os2 ← checkOrder ranges os2
  -- The last range must end at 0xffff.
  failIf (ranges.getLast?.map (·.endRange) ≠ some 0xFFFF)
  simulate input data numGlyphs ranges
  if encoding = 0 then pure { file with cmap.subtable304 := some data, os2 := some os2 }
  else if encoding = 1 then pure { file with cmap.subtable314 := some data, os2 := some os2 }
  else throw .failure

def Subtable314Range.Read (length : Nat) (range : Subtable314Range) : Prop :=
  range.startRange < 65536 ∧ range.endRange < 65536 ∧ range.idRangeOffset < 65536 ∧
    range.idRangeOffsetOffset + 2 ≤ length

theorem log2Loop_pow_le {segcount : Nat} :
    ∀ fuel log2segcount, 2 ^ log2segcount ≤ segcount →
      2 ^ log2Loop segcount log2segcount fuel ≤ segcount
  | 0, _, le => le
  | fuel + 1, log2segcount, le => by
    unfold log2Loop
    split
    · exact log2Loop_pow_le fuel _ ‹_›
    · exact le

theorem mem_assembleRanges {range : Subtable314Range} :
    ∀ {ends starts : List Nat} {deltas : List Int} {offsets : List (Nat × Nat)},
      range ∈ assembleRanges ends starts deltas offsets →
        range.startRange ∈ starts ∧ range.endRange ∈ ends ∧
          (range.idRangeOffset, range.idRangeOffsetOffset) ∈ offsets
  | _ :: _, _ :: _, _ :: _, (_, _) :: _, mem => by
    rcases List.mem_cons.mp mem with rfl | mem
    · simp
    · obtain ⟨s, e, o⟩ := mem_assembleRanges mem
      exact ⟨List.mem_cons_of_mem _ s, List.mem_cons_of_mem _ e, List.mem_cons_of_mem _ o⟩
  | [], _, _, _, mem | _ :: _, [], _, _, mem | _ :: _, _ :: _, [], _, mem
  | _ :: _, _ :: _, _ :: _, [], mem => by simp [assembleRanges] at mem

theorem length_assembleRanges :
    ∀ {ends starts : List Nat} {deltas : List Int} {offsets : List (Nat × Nat)},
      starts.length = ends.length → deltas.length = ends.length → offsets.length = ends.length →
        (assembleRanges ends starts deltas offsets).length = ends.length
  | _ :: _, _ :: _, _ :: _, (_, _) :: _, h₁, h₂, h₃ => by
    simp only [List.length_cons, Nat.add_right_cancel_iff] at h₁ h₂ h₃
    simp [assembleRanges, length_assembleRanges h₁ h₂ h₃]
  | [], _, _, _, _, _, _ => by simp [assembleRanges]
  | _ :: _, [], _, _, h, _, _ | _ :: _, _ :: _, [], _, _, h, _
  | _ :: _, _ :: _, _ :: _, [], _, _, h => by simp at h

section Safety

variable {input : List UInt8} {data : Slice}

theorem readSegCount_safe {subtable : Buffer} (inside : data.Inside input) (reads : subtable.On data) :
    Safe (readSegCount input subtable) fun (segcount, next) => next.On data ∧ 1 ≤ segcount := by
  simp only [readSegCount, Buffer.readU16, Safe.bind_iff, Safe.failIf_iff]
  refine (Buffer.skip_safe reads 4).mono fun s ⟨reads, _⟩ => ?_
  refine (Buffer.read_safe inside reads 2).mono fun ⟨language, s⟩ ⟨reads, _⟩ _ => ?_
  refine (Buffer.read_safe inside reads 2).mono fun ⟨segcountx2, s⟩ ⟨reads, _, _, small⟩ => ?_
  refine (Buffer.read_safe inside reads 2).mono fun ⟨searchRange, s⟩ ⟨reads, _⟩ => ?_
  refine (Buffer.read_safe inside reads 2).mono fun ⟨entrySelector, s⟩ ⟨reads, _⟩ => ?_
  refine (Buffer.read_safe inside reads 2).mono
    fun ⟨rangeShift, s⟩ ⟨reads, _⟩ _ positive searched _ => ?_
  dsimp only at positive searched small ⊢
  -- The search range is twice a power of two no larger than the segment count.
  have power := log2Loop_pow_le 16 0 (by simp only [not_lt] at positive; simpa using positive)
  have exact : 2 * 2 ^ log2Loop (segcountx2 / 2) 0 16 % 65536 =
      2 * 2 ^ log2Loop (segcountx2 / 2) 0 16 := Nat.mod_eq_of_lt (by omega)
  simp only [subNoWrap_safe_iff, Safe.pure_iff]
  exact ⟨by omega, fun _ => ⟨reads, by omega⟩⟩

theorem readIdRangeOffsets_safe (inside : data.Inside input) :
    ∀ count (subtable : Buffer), subtable.On data →
      Safe (readIdRangeOffsets input subtable count) fun (offsets, next) =>
        offsets.length = count ∧ (∀ entry ∈ offsets, entry.1 < 65536 ∧ entry.2 + 2 ≤ data.length) ∧
          next.On data
  | 0, subtable, reads => by simpa [readIdRangeOffsets] using reads
  | count + 1, subtable, reads => by
    simp only [readIdRangeOffsets, Buffer.readU16, Safe.bind_iff]
    refine (Buffer.read_safe inside reads 2).mono fun ⟨value, next⟩ ⟨reads, moved, fits, small⟩ => ?_
    have coerced : Safe (coerceIdRangeOffset (count == 0) value) fun value => value < 65536 := by
      unfold coerceIdRangeOffset; split_ifs <;> simp_all
    refine coerced.mono fun value small => ?_
    refine (readIdRangeOffsets_safe inside count next reads).mono
      fun ⟨rest, last⟩ ⟨length, entries, reads⟩ => ?_
    refine ⟨by simp [length], ?_, reads⟩
    simp only [List.mem_cons, forall_eq_or_imp]
    exact ⟨⟨small, by omega⟩, entries⟩

theorem readS16_safe {buffer : Buffer} (inside : data.Inside input) (reads : buffer.On data) :
    Safe (buffer.readS16 input) fun (_, next) => next.On data := by
  simp only [Buffer.readS16, Buffer.readU16, Safe.bind_iff]
  exact (Buffer.read_safe inside reads 2).mono fun _ ⟨reads, _⟩ => reads

theorem readRanges_safe {subtable : Buffer} (inside : data.Inside input) (reads : subtable.On data)
    (segcount : Nat) :
    Safe (readRanges input subtable segcount) fun ranges =>
      ranges.length = segcount ∧ ∀ range ∈ ranges, range.Read data.length := by
  have u16 := readArray_safe (·.readU16 input) (fun buffer : Buffer => buffer.On data) (· < 65536)
    fun _ reads => (Buffer.read_safe inside reads 2).mono fun _ ⟨reads, _, _, small⟩ => ⟨small, reads⟩
  have s16 := readArray_safe (·.readS16 input) (fun buffer : Buffer => buffer.On data)
    (fun _ => True) fun _ reads => (readS16_safe inside reads).mono fun _ reads => ⟨trivial, reads⟩
  simp only [readRanges, Safe.bind_iff, Safe.failIf_iff]
  refine (u16 segcount subtable reads).mono fun ⟨ends, s⟩ ⟨endsLength, endsSmall, reads⟩ => ?_
  refine (Buffer.read_safe inside reads 2).mono fun ⟨padding, s⟩ ⟨reads, _⟩ _ => ?_
  refine (u16 segcount s reads).mono fun ⟨starts, s⟩ ⟨startsLength, startsSmall, reads⟩ => ?_
  refine (s16 segcount s reads).mono fun ⟨deltas, s⟩ ⟨deltasLength, _, reads⟩ => ?_
  refine (readIdRangeOffsets_safe inside segcount s reads).mono
    fun ⟨offsets, s⟩ ⟨offsetsLength, entries, _⟩ => ?_
  have lengths : starts.length = ends.length ∧ deltas.length = ends.length ∧
      offsets.length = ends.length := ⟨by omega, by omega, by omega⟩
  refine ⟨(length_assembleRanges lengths.1 lengths.2.1 lengths.2.2).trans endsLength,
    fun range mem => ?_⟩
  obtain ⟨start, finish, offset⟩ := mem_assembleRanges mem
  exact ⟨startsSmall _ start, endsSmall _ finish, (entries _ offset).1, (entries _ offset).2⟩

theorem orderStep_safe (previous current : Subtable314Range) (os2 : OpenTypeOS2) :
    Safe (orderStep previous current os2) fun _ => True := by
  unfold orderStep; split_ifs <;> trivial

theorem checkOrder_safe : ∀ (ranges : List Subtable314Range) (os2 : OpenTypeOS2),
    Safe (checkOrder ranges os2) fun _ => True
  | [previous, current], os2 => by
    unfold checkOrder; split
    · trivial
    · exact orderStep_safe _ _ _
  | previous :: current :: next :: rest, os2 => by
    simp only [checkOrder, Safe.bind_iff]
    exact (orderStep_safe _ _ _).mono fun os2 _ => checkOrder_safe _ os2
  | [], _ | [_], _ => trivial

theorem simulateCodePoint_safe (inside : data.Inside input) (short : data.length < 65536)
    {range : Subtable314Range} (read : range.Read data.length) {codePoint : Nat}
    (within : codePoint ≤ range.endRange) (numGlyphs : Nat) :
    Safe (simulateCodePoint input data numGlyphs range codePoint) fun _ => True := by
  obtain ⟨_, _, small, offset⟩ := read
  unfold simulateCodePoint
  split
  · split <;> trivial
  · simp only [Safe.bind_iff, addNoWrap_safe_iff, Safe.failIf_iff]
    refine ⟨by omega, by omega, fun fits => ?_⟩
    exact (Slice.peek_safe inside (by omega)).mono fun _ _ => by simp

theorem simulate_safe (inside : data.Inside input) (short : data.length < 65536)
    {ranges : List Subtable314Range} (read : ∀ range ∈ ranges, range.Read data.length)
    (numGlyphs : Nat) : Safe (simulate input data numGlyphs ranges) fun _ => True :=
  Safe.forM fun range mem => Safe.forM fun codePoint within =>
    simulateCodePoint_safe inside short (read range (List.mem_of_mem_drop mem))
      (by simp only [Subtable314Range.codePoints, List.mem_range'_1] at within; omega) numGlyphs

theorem parse3x4_safe (file : OpenTypeFile) (encoding : Nat) (inside : data.Inside input)
    (short : data.length < 65536) (numGlyphs : Nat) :
    Safe (parse3x4 file encoding input data numGlyphs) fun file' => ∃ os2,
      file' = { file with cmap.subtable304 := some data, os2 := some os2 } ∨
        file' = { file with cmap.subtable314 := some data, os2 := some os2 } := by
  unfold parse3x4
  cases file.os2 with
  | none => rfl
  | some os2 =>
    simp only [Safe.bind_iff, Safe.failIf_iff]
    refine (readSegCount_safe inside (Buffer.ofSlice_on data)).mono fun ⟨segcount, s⟩ ⟨reads, _⟩ => ?_
    refine (readRanges_safe inside reads segcount).mono fun ranges ⟨_, read⟩ => ?_
    refine (checkOrder_safe ranges os2).mono fun os2 _ _ => ?_
    refine (simulate_safe inside short read numGlyphs).mono fun _ _ => ?_
    split_ifs
    exacts [⟨os2, .inl rfl⟩, ⟨os2, .inr rfl⟩, rfl]

end Safety

theorem parse3x4_eq_ok {file file' : OpenTypeFile} {encoding : Nat} {input : List UInt8}
    {data : Slice} {numGlyphs : Nat} :
    parse3x4 file encoding input data numGlyphs = .ok file' ↔
      ∃ os2 segcount subtable ranges os2', file.os2 = some os2 ∧
        readSegCount input (Buffer.ofSlice data) = .ok (segcount, subtable) ∧
        readRanges input subtable segcount = .ok ranges ∧ checkOrder ranges os2 = .ok os2' ∧
        ranges.getLast?.map (·.endRange) = some 0xFFFF ∧
        simulate input data numGlyphs ranges = .ok () ∧
        (encoding = 0 ∧ file' = { file with cmap.subtable304 := some data, os2 := some os2' } ∨
          encoding = 1 ∧ file' = { file with cmap.subtable314 := some data, os2 := some os2' }) := by
  unfold parse3x4
  cases file.os2 with
  | none => simp
  | some os2 =>
    simp only [bind_eq_ok, failIf_bind, ite_failure_eq_ok, Prod.exists, Option.some.injEq,
      exists_and_left, exists_eq_left', not_not]
    constructor
    · rintro ⟨segcount, subtable, header, ranges, read, os2', order, last, ⟨⟩, simulated, accept⟩
      refine ⟨segcount, subtable, header, ranges, read, os2', order, last, simulated, ?_⟩
      split_ifs at accept with zero one <;> simp_all [pure, Except.pure, eq_comm]
    · rintro ⟨segcount, subtable, header, ranges, read, os2', order, last, simulated, accept⟩
      refine ⟨segcount, subtable, header, ranges, read, os2', order, last, (), simulated, ?_⟩
      rcases accept with ⟨rfl, rfl⟩ | ⟨rfl, rfl⟩ <;> rfl

def unmappedFirstSegment : List UInt8 :=
  [0, 4, 0, 32, 0, 0, 0, 4, 0, 4, 0, 1, 0, 0,
    0, 0x41, 0xFF, 0xFF, 0, 0, 0, 0x41, 0xFF, 0xFF, 0, 100, 0, 1, 0, 0, 0, 0]

/-- The simulation never looks at the first segment: with 3 glyphs the parser's own check fails on
`0x41`, the one code point of the first segment, yet the subtable is accepted. -/
theorem parse3x4_skips_first_segment :
    parse3x4 { os2 := some ⟨0x20, 0x7E⟩, maxp := some ⟨3⟩ } 1 unmappedFirstSegment ⟨0, 32⟩ 3 =
        .ok { os2 := some ⟨0x20, 0x7E⟩, maxp := some ⟨3⟩, cmap := { subtable314 := some ⟨0, 32⟩ } } ∧
      readRanges unmappedFirstSegment ⟨0, 32, 14⟩ 2 =
        .ok [⟨0x41, 0x41, 100, 0, 28⟩, ⟨0xFFFF, 0xFFFF, 1, 0, 30⟩] ∧
      simulateCodePoint unmappedFirstSegment ⟨0, 32⟩ 3 ⟨0x41, 0x41, 100, 0, 28⟩ 0x41 = .error .failure :=
  ⟨rfl, rfl, rfl⟩

def firstSegmentAtLeast (input : List UInt8) (data : Slice) (c i : Nat) :
    Nat → Except Stop (Option Nat)
  | 0 => pure none
  | remaining + 1 => do
    let endCode ← data.peek input (14 + 2 * i) 2
    if c ≤ endCode then pure (some i) else firstSegmentAtLeast input data c (i + 1) remaining

def openTypeFormat4Lookup (input : List UInt8) (data : Slice) (c : Nat) : Except Stop Nat := do
  let segcountx2 ← data.peek input 6 2
  match ← firstSegmentAtLeast input data c 0 (segcountx2 / 2) with
  | none => pure 0
  | some i =>
    let startCode ← data.peek input (16 + segcountx2 + 2 * i) 2
    if c < startCode then pure 0
    else
      let idDelta ← data.peek input (16 + 2 * segcountx2 + 2 * i) 2
      let idRangeOffsetOffset := 16 + 3 * segcountx2 + 2 * i
      let idRangeOffset ← data.peek input idRangeOffsetOffset 2
      if idRangeOffset = 0 then pure ((c + idDelta) % 65536)
      else
        let g ← data.peek input (idRangeOffsetOffset + idRangeOffset + 2 * (c - startCode)) 2
        pure (if g = 0 then 0 else (g + idDelta) % 65536)

/-- An accepted subtable on which the lookup of `0x41` gives glyph 165 of 3. -/
theorem parse3x4_accepts_lookup_past_numGlyphs :
    parse3x4 { os2 := some ⟨0x20, 0x7E⟩, maxp := some ⟨3⟩ } 1 unmappedFirstSegment ⟨0, 32⟩ 3 =
        .ok { os2 := some ⟨0x20, 0x7E⟩, maxp := some ⟨3⟩, cmap := { subtable314 := some ⟨0, 32⟩ } } ∧
      openTypeFormat4Lookup unmappedFirstSegment ⟨0, 32⟩ 0x41 = .ok 165 :=
  ⟨rfl, rfl⟩

end OtsCmap
