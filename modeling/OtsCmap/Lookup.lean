import OtsCmap.Format4

/-! The format-4 lookup against the simulation in `Parse3x4`. The parser keeps a format-4 subtable
verbatim for the rasterizer, after simulating its lookup on each code point of each segment from the
second on. It reads the segment arrays in order, so each field sits where the lookup reads it: the
`j`-th end code at `14 + 2j`, the start codes past the reserved padding, then the deltas and the
`id_range_offset`s. The lookup of a code point past the first segment's end code therefore stops at
a segment the simulation ran over, and finds there what the simulation checked. -/
namespace OtsCmap

structure Subtable314Range.At (input : List UInt8) (data : Slice) (segcountx2 j : Nat)
    (range : Subtable314Range) : Prop where
  endRange : data.peek input (14 + 2 * j) 2 = .ok range.endRange
  startRange : data.peek input (16 + segcountx2 + 2 * j) 2 = .ok range.startRange
  idDelta : ∃ raw, data.peek input (16 + 2 * segcountx2 + 2 * j) 2 = .ok raw ∧
    range.idDelta = if raw < 32768 then (raw : Int) else raw - 65536
  idRangeOffsetOffset : range.idRangeOffsetOffset = 16 + 3 * segcountx2 + 2 * j
  idRangeOffset : ∃ raw, data.peek input range.idRangeOffsetOffset 2 = .ok raw ∧
    range.idRangeOffset = if raw % 2 = 1 then 0 else raw

section Positions

variable {input : List UInt8} {data : Slice}

theorem Slice.peek_lt {position value : Nat} (ok : data.peek input position 2 = .ok value) :
    value < 65536 := by
  unfold Slice.peek at ok
  split at ok
  · obtain ⟨-, rfl⟩ := fetch_eq_ok.mp ok
    exact field_lt input _ 2
  · cases ok

theorem Buffer.read_peek {offset value : Nat} {next : Buffer}
    (ok : (⟨data.base, data.length, offset⟩ : Buffer).read input 2 = .ok (value, next)) :
    data.peek input offset 2 = .ok value ∧ next = ⟨data.base, data.length, offset + 2⟩ := by
  obtain ⟨fits, inside, rfl, rfl⟩ := Buffer.read_eq_ok.mp ok
  exact ⟨by simp_all [Slice.peek], rfl⟩

theorem readArray_peek {α : Type} {read : Buffer → Except Stop (α × Buffer)} (decode : Nat → α)
    (each : ∀ {offset value next}, read ⟨data.base, data.length, offset⟩ = .ok (value, next) →
      ∃ raw, data.peek input offset 2 = .ok raw ∧ value = decode raw ∧
        next = ⟨data.base, data.length, offset + 2⟩) :
    ∀ {count offset : Nat} {next : Buffer} {values : List α},
      readArray read ⟨data.base, data.length, offset⟩ count = .ok (values, next) →
        next = ⟨data.base, data.length, offset + 2 * count⟩ ∧ values.length = count ∧
        ∀ k value, values[k]? = some value →
          ∃ raw, data.peek input (offset + 2 * k) 2 = .ok raw ∧ value = decode raw
  | 0, _, _, _, ok => by
    obtain ⟨rfl, rfl⟩ := readArray_eq_ok.mp ok
    exact ⟨rfl, rfl, fun _ _ found => by simp at found⟩
  | count + 1, offset, _, _, ok => by
    obtain ⟨value, rest, middle, rfl, first, later⟩ := readArray_eq_ok.mp ok
    obtain ⟨raw, peeked, rfl, rfl⟩ := each first
    obtain ⟨rfl, length, rest⟩ := readArray_peek decode each later
    refine ⟨by congr 1; omega, by simp [length], fun k value found => ?_⟩
    cases k with
    | zero =>
      obtain rfl := Option.some.inj (List.getElem?_cons_zero.symm.trans found)
      exact ⟨raw, peeked, rfl⟩
    | succ k =>
      obtain ⟨raw, peeked, rfl⟩ := rest k value (List.getElem?_cons_succ.symm.trans found)
      exact ⟨raw, by rw [← peeked]; congr 1; omega, rfl⟩

theorem readU16_peek {offset value : Nat} {next : Buffer}
    (ok : (⟨data.base, data.length, offset⟩ : Buffer).readU16 input = .ok (value, next)) :
    ∃ raw, data.peek input offset 2 = .ok raw ∧ value = id raw ∧
      next = ⟨data.base, data.length, offset + 2⟩ :=
  ⟨value, (Buffer.read_peek ok).1, rfl, (Buffer.read_peek ok).2⟩

theorem readS16_peek {offset : Nat} {value : Int} {next : Buffer}
    (ok : (⟨data.base, data.length, offset⟩ : Buffer).readS16 input = .ok (value, next)) :
    ∃ raw, data.peek input offset 2 = .ok raw ∧
      value = (if raw < 32768 then (raw : Int) else raw - 65536) ∧
      next = ⟨data.base, data.length, offset + 2⟩ := by
  obtain ⟨raw, read, rfl⟩ := Buffer.readS16_eq_ok.mp ok
  exact ⟨raw, (Buffer.read_peek read).1, rfl, (Buffer.read_peek read).2⟩

theorem coerceIdRangeOffset_eq_ok {last : Bool} {value coerced : Nat}
    (ok : coerceIdRangeOffset last value = .ok coerced) : coerced = if value % 2 = 1 then 0 else value := by
  unfold coerceIdRangeOffset at ok
  split_ifs at ok with odd <;> cases ok <;> simp [odd]

theorem readIdRangeOffsets_peek :
    ∀ {count offset : Nat} {next : Buffer} {pairs : List (Nat × Nat)},
      readIdRangeOffsets input ⟨data.base, data.length, offset⟩ count = .ok (pairs, next) →
        pairs.length = count ∧
        ∀ k pair, pairs[k]? = some pair → ∃ raw, data.peek input (offset + 2 * k) 2 = .ok raw ∧
          pair = (if raw % 2 = 1 then 0 else raw, offset + 2 * k)
  | 0, _, _, _, ok => by
    cases ok
    exact ⟨rfl, fun _ _ found => by simp at found⟩
  | count + 1, offset, _, _, ok => by
    unfold readIdRangeOffsets at ok
    obtain ⟨⟨raw, middle⟩, first, ok⟩ := bind_eq_ok.mp ok
    obtain ⟨peeked, rfl⟩ := Buffer.read_peek first
    obtain ⟨coerced, coercedOk, ok⟩ := bind_eq_ok.mp ok
    obtain ⟨⟨rest, _⟩, later, ok⟩ := bind_eq_ok.mp ok
    cases ok
    obtain ⟨length, rest⟩ := readIdRangeOffsets_peek later
    refine ⟨by simp [length], fun k pair found => ?_⟩
    cases k with
    | zero =>
      obtain rfl := Option.some.inj (List.getElem?_cons_zero.symm.trans found)
      exact ⟨raw, peeked, by rw [coerceIdRangeOffset_eq_ok coercedOk]; rfl⟩
    | succ k =>
      obtain ⟨raw, peeked, rfl⟩ := rest k pair (List.getElem?_cons_succ.symm.trans found)
      exact ⟨raw, by rw [← peeked]; congr 1; omega, by congr 1; omega⟩

theorem getElem?_assembleRanges :
    ∀ {ends starts : List Nat} {deltas : List Int} {offsets : List (Nat × Nat)} (k : Nat)
      {range : Subtable314Range}, (assembleRanges ends starts deltas offsets)[k]? = some range →
        ∃ endRange startRange idDelta offset, ends[k]? = some endRange ∧ starts[k]? = some startRange ∧
          deltas[k]? = some idDelta ∧ offsets[k]? = some offset ∧
          range = ⟨startRange, endRange, idDelta, offset.1, offset.2⟩
  | _ :: _, _ :: _, _ :: _, (_, _) :: _, 0, _, found => by
    obtain rfl := Option.some.inj (List.getElem?_cons_zero.symm.trans found)
    exact ⟨_, _, _, _, List.getElem?_cons_zero, List.getElem?_cons_zero, List.getElem?_cons_zero,
      List.getElem?_cons_zero, rfl⟩
  | _ :: _, _ :: _, _ :: _, (_, _) :: _, k + 1, _, found => by
    rw [assembleRanges, List.getElem?_cons_succ] at found
    simpa only [List.getElem?_cons_succ] using getElem?_assembleRanges k found
  | [], _, _, _, _, _, found | _ :: _, [], _, _, _, _, found | _ :: _, _ :: _, [], _, _, _, found
  | _ :: _, _ :: _, _ :: _, [], _, _, found => by simp [assembleRanges] at found

theorem readSegCount_peek {segcount : Nat} {subtable : Buffer}
    (ok : readSegCount input (Buffer.ofSlice data) = .ok (segcount, subtable)) :
    subtable = ⟨data.base, data.length, 14⟩ ∧ data.peek input 6 2 = .ok (2 * segcount) := by
  unfold readSegCount at ok
  obtain ⟨skipped, skip, ok⟩ := bind_eq_ok.mp ok
  obtain ⟨-, rfl⟩ := Buffer.skip_eq_ok.mp skip
  obtain ⟨⟨_, s⟩, first, ok⟩ := bind_eq_ok.mp ok
  obtain ⟨-, rfl⟩ := Buffer.read_peek first
  simp only [failIf_bind, ite_failure_eq_ok] at ok
  obtain ⟨⟨segcountx2, s⟩, count, ok⟩ := bind_eq_ok.mp ok.2
  obtain ⟨counted, rfl⟩ := Buffer.read_peek count
  obtain ⟨⟨_, s⟩, read, ok⟩ := bind_eq_ok.mp ok
  obtain ⟨-, rfl⟩ := Buffer.read_peek read
  obtain ⟨⟨_, s⟩, read, ok⟩ := bind_eq_ok.mp ok
  obtain ⟨-, rfl⟩ := Buffer.read_peek read
  obtain ⟨⟨_, s⟩, read, ok⟩ := bind_eq_ok.mp ok
  obtain ⟨-, rfl⟩ := Buffer.read_peek read
  simp only [failIf_bind, ite_failure_eq_ok, bind_eq_ok, subNoWrap_eq_ok, pure, Except.pure,
    Except.ok.injEq, Prod.mk.injEq] at ok
  obtain ⟨even, -, -, -, _, -, -, rfl, rfl⟩ := ok
  exact ⟨rfl, by rw [show 2 * (segcountx2 / 2) = segcountx2 by omega]; exact counted⟩

theorem readRanges_at {segcount : Nat} {ranges : List Subtable314Range}
    (ok : readRanges input ⟨data.base, data.length, 14⟩ segcount = .ok ranges) :
    ranges.length = segcount ∧
      ∀ (j : Nat) (range : Subtable314Range), ranges[j]? = some range → range.At input data (2 * segcount) j := by
  unfold readRanges at ok
  obtain ⟨⟨ends, _⟩, read, ok⟩ := bind_eq_ok.mp ok
  obtain ⟨rfl, endsLength, endsAt⟩ := readArray_peek id readU16_peek read
  obtain ⟨⟨_, _⟩, read, ok⟩ := bind_eq_ok.mp ok
  obtain ⟨-, rfl⟩ := Buffer.read_peek read
  simp only [failIf_bind, ite_failure_eq_ok] at ok
  obtain ⟨⟨starts, _⟩, read, ok⟩ := bind_eq_ok.mp ok.2
  obtain ⟨rfl, startsLength, startsAt⟩ := readArray_peek id readU16_peek read
  obtain ⟨⟨deltas, _⟩, read, ok⟩ := bind_eq_ok.mp ok
  obtain ⟨rfl, deltasLength, deltasAt⟩ :=
    readArray_peek (fun raw => if raw < 32768 then (raw : Int) else raw - 65536) readS16_peek read
  obtain ⟨⟨offsets, _⟩, read, ok⟩ := bind_eq_ok.mp ok
  obtain ⟨offsetsLength, offsetsAt⟩ := readIdRangeOffsets_peek read
  cases ok
  dsimp only at *
  refine ⟨(length_assembleRanges (by omega) (by omega) (by omega)).trans endsLength, fun j range found => ?_⟩
  obtain ⟨_, _, _, _, e, s, d, o, rfl⟩ := getElem?_assembleRanges j found
  obtain ⟨_, e, rfl⟩ := endsAt j _ e
  obtain ⟨_, s, rfl⟩ := startsAt j _ s
  obtain ⟨_, d, rfl⟩ := deltasAt j _ d
  obtain ⟨_, peeked, rfl⟩ := offsetsAt j _ o
  refine ⟨e, ?_, ⟨_, ?_, rfl⟩, by dsimp only; omega, ⟨_, peeked, rfl⟩⟩
  · rwa [show 16 + 2 * segcount + 2 * j = 14 + 2 * segcount + 2 + 2 * j by omega]
  · rwa [show 16 + 2 * (2 * segcount) + 2 * j = 14 + 2 * segcount + 2 + 2 * segcount + 2 * j by omega]

end Positions

section Lookup

variable {input : List UInt8} {data : Slice}

theorem firstSegmentAtLeast_eq_ok {ranges : List Subtable314Range} {segcountx2 c k : Nat}
    {target : Subtable314Range}
    (ends : ∀ (j : Nat) (range : Subtable314Range), ranges[j]? = some range → range.At input data segcountx2 j)
    (found : ranges[k]? = some target) (above : c ≤ target.endRange) :
    ∀ (remaining i : Nat), i ≤ k → k < i + remaining →
      ∃ j range, firstSegmentAtLeast input data c i remaining = .ok (some j) ∧ ranges[j]? = some range ∧
        c ≤ range.endRange
  | 0, _, _, beyond => absurd beyond (by omega)
  | remaining + 1, i, before, beyond => by
    have bound : i < ranges.length := by
      have := (List.getElem?_eq_some_iff.mp found).1; omega
    have present : ranges[i]? = some ranges[i] := List.getElem?_eq_getElem bound
    simp only [firstSegmentAtLeast, (ends i _ present).endRange, ok_bind]
    split_ifs with reached
    · exact ⟨i, _, rfl, present, reached⟩
    · have passed : i ≠ k := by
        rintro rfl
        cases found.symm.trans present
        exact reached above
      exact firstSegmentAtLeast_eq_ok ends found above remaining (i + 1) (by omega) (by omega)

theorem firstSegmentAtLeast_past_first {ranges : List Subtable314Range} {segcountx2 c : Nat}
    {first : Subtable314Range}
    (fields : ∀ (j : Nat) (range : Subtable314Range), ranges[j]? = some range → range.At input data segcountx2 j)
    (last : ranges.getLast?.map (·.endRange) = some 0xFFFF) (head : first ∈ ranges.head?)
    (past : first.endRange < c) (code : c < 65536) :
    ∃ j range, firstSegmentAtLeast input data c 0 ranges.length = .ok (some j) ∧ ranges[j]? = some range ∧
      range ∈ ranges.drop 1 ∧ c ≤ range.endRange := by
  obtain ⟨final, lastFound, finalEnd⟩ : ∃ final, ranges.getLast? = some final ∧ final.endRange = 0xFFFF := by
    cases found : ranges.getLast? <;> simp_all
  rw [List.getLast?_eq_getElem?] at lastFound
  have bound := (List.getElem?_eq_some_iff.mp lastFound).1
  obtain ⟨j, range, stops, found, above⟩ :=
    firstSegmentAtLeast_eq_ok fields lastFound (show c ≤ final.endRange by omega) ranges.length 0 (by omega)
      (by omega)
  have second : j ≠ 0 := by
    rintro rfl
    rw [List.head?_eq_getElem?] at head
    cases head.symm.trans found
    omega
  refine ⟨j, range, stops, found, List.mem_iff_getElem?.mpr ⟨j - 1, ?_⟩, above⟩
  rwa [List.getElem?_drop, show 1 + (j - 1) = j by omega]

theorem simulate_eq_ok {numGlyphs : Nat} {ranges : List Subtable314Range}
    (ok : simulate input data numGlyphs ranges = .ok ()) {range : Subtable314Range}
    (mem : range ∈ ranges.drop 1) {c : Nat} (low : range.startRange ≤ c) (high : c ≤ range.endRange) :
    simulateCodePoint input data numGlyphs range c = .ok () :=
  forM_eq_ok.mp (forM_eq_ok.mp ok range mem) c (List.mem_range'_1.mpr ⟨low, by omega⟩)

theorem simulateCodePoint_delta {numGlyphs c : Nat} {range : Subtable314Range}
    (zero : range.idRangeOffset = 0) (ok : simulateCodePoint input data numGlyphs range c = .ok ()) :
    ((c + range.idDelta) % 65536).toNat < numGlyphs := by
  simp only [simulateCodePoint, zero, if_true] at ok
  split_ifs at ok with big
  omega

theorem simulateCodePoint_array {numGlyphs c : Nat} {range : Subtable314Range}
    (nonzero : range.idRangeOffset ≠ 0) (ok : simulateCodePoint input data numGlyphs range c = .ok ()) :
    ∃ glyph, data.peek input (range.idRangeOffsetOffset + range.idRangeOffset + (c - range.startRange) * 2) 2 =
      .ok glyph ∧ glyph < numGlyphs := by
  simp only [simulateCodePoint, nonzero, if_false, bind_eq_ok, addNoWrap_eq_ok, failIf_bind,
    ite_failure_eq_ok, failIf_eq_ok] at ok
  obtain ⟨_, ⟨-, rfl⟩, _, ⟨-, rfl⟩, -, glyph, peeked, small⟩ := ok
  exact ⟨glyph, peeked, by omega⟩

theorem openTypeFormat4Lookup_eq {segcount c j delta raw : Nat} {range : Subtable314Range}
    (count : data.peek input 6 2 = .ok (2 * segcount))
    (stops : firstSegmentAtLeast input data c 0 segcount = .ok (some j))
    (place : range.At input data (2 * segcount) j)
    (deltaRead : data.peek input (16 + 2 * (2 * segcount) + 2 * j) 2 = .ok delta)
    (offsetRead : data.peek input range.idRangeOffsetOffset 2 = .ok raw) :
    openTypeFormat4Lookup input data c =
      if c < range.startRange then .ok 0
      else if raw = 0 then .ok ((c + delta) % 65536)
      else data.peek input (range.idRangeOffsetOffset + raw + 2 * (c - range.startRange)) 2 >>= fun glyph =>
        pure (if glyph = 0 then 0 else (glyph + delta) % 65536) := by
  rw [place.idRangeOffsetOffset] at offsetRead ⊢
  simp only [openTypeFormat4Lookup, count, ok_bind, show 2 * segcount / 2 = segcount by omega, stops,
    place.startRange, deltaRead, offsetRead]
  rfl

end Lookup

/-- What the simulation secures of the format-4 lookup on a subtable `Parse3x4` accepted. The lookup
of a code point past the first segment's end code stops at a segment from the second on, reading
inside the subtable: below its start code it gives glyph 0; where the segment maps by `id_delta` it
gives a glyph below `numGlyphs`; where it maps through the glyph array, an array entry below
`numGlyphs`, with `id_delta` added to it. A last segment whose odd `id_range_offset` the parser took
as 0 is in neither case: the simulation checked it as mapped by `id_delta`, while the lookup reads
the glyph array at the odd offset. -/
theorem parse3x4_lookup {file file' : OpenTypeFile} {encoding : Nat} {input : List UInt8} {data : Slice}
    {numGlyphs : Nat} (accepted : parse3x4 file encoding input data numGlyphs = .ok file') :
    ∃ segcount subtable ranges, readSegCount input (Buffer.ofSlice data) = .ok (segcount, subtable) ∧
      readRanges input subtable segcount = .ok ranges ∧
      ∀ first ∈ ranges.head?, ∀ c < 65536, first.endRange < c →
        ∃ range ∈ ranges.drop 1, c ≤ range.endRange ∧
          (c < range.startRange → openTypeFormat4Lookup input data c = .ok 0) ∧
          (range.startRange ≤ c → data.peek input range.idRangeOffsetOffset 2 = .ok 0 →
            ∃ glyph < numGlyphs, openTypeFormat4Lookup input data c = .ok glyph) ∧
          (range.startRange ≤ c → range.idRangeOffset ≠ 0 →
            ∃ glyph < numGlyphs, openTypeFormat4Lookup input data c =
              .ok (if glyph = 0 then 0 else ((glyph + range.idDelta) % 65536).toNat)) := by
  obtain ⟨-, segcount, subtable, ranges, -, -, counted, read, -, last, simulated, -⟩ :=
    parse3x4_eq_ok.mp accepted
  refine ⟨segcount, subtable, ranges, counted, read, ?_⟩
  obtain ⟨rfl, count⟩ := readSegCount_peek counted
  obtain ⟨length, fields⟩ := readRanges_at read
  intro first head c code past
  obtain ⟨j, range, stops, found, mem, above⟩ := firstSegmentAtLeast_past_first fields last head past code
  rw [length] at stops
  have place := fields j range found
  obtain ⟨delta, deltaRead, deltaEq⟩ := place.idDelta
  obtain ⟨raw, offsetRead, offsetEq⟩ := place.idRangeOffset
  have small := Slice.peek_lt deltaRead
  have lookup := openTypeFormat4Lookup_eq count stops place deltaRead offsetRead
  refine ⟨range, mem, above, fun below => by rw [lookup, if_pos below], fun low zero => ?_,
    fun low nonzero => ?_⟩
  · -- A segment mapped by `id_delta`.
    cases offsetRead.symm.trans zero
    have bound := simulateCodePoint_delta (by simp [offsetEq]) (simulate_eq_ok simulated mem low above)
    refine ⟨(c + delta) % 65536, ?_, by rw [lookup, if_neg (by omega), if_pos rfl]⟩
    rw [deltaEq] at bound
    split_ifs at bound <;> omega
  · -- A segment mapped through the glyph array.
    have even : raw % 2 ≠ 1 := fun odd => nonzero (by simp [offsetEq, odd])
    have same : range.idRangeOffset = raw := by simp [offsetEq, even]
    obtain ⟨glyph, peeked, bound⟩ :=
      simulateCodePoint_array nonzero (simulate_eq_ok simulated mem low above)
    rw [same, Nat.mul_comm] at peeked
    refine ⟨glyph, bound, ?_⟩
    rw [lookup, if_neg (by omega), if_neg (by omega), peeked, ok_bind, deltaEq]
    congr 1
    split_ifs <;> omega

def glyphArraySubtable : List UInt8 :=
  [0, 4, 0, 44, 0, 0, 0, 6, 0, 4, 0, 1, 0, 2,
    0, 0x30, 0, 0x42, 0xFF, 0xFF, 0, 0,
    0, 0x30, 0, 0x41, 0xFF, 0xFF,
    0xFF, 0xD1, 0, 0, 0, 1,
    0, 0, 0, 4, 0, 0,
    0, 1, 0, 2]

theorem glyphArraySubtable_lookup :
    ∃ segcount subtable ranges,
      readSegCount glyphArraySubtable (Buffer.ofSlice ⟨0, 44⟩) = .ok (segcount, subtable) ∧
      readRanges glyphArraySubtable subtable segcount = .ok ranges ∧
      ∀ first ∈ ranges.head?, ∀ c < 65536, first.endRange < c →
        ∃ range ∈ ranges.drop 1, c ≤ range.endRange ∧
          (c < range.startRange → openTypeFormat4Lookup glyphArraySubtable ⟨0, 44⟩ c = .ok 0) ∧
          (range.startRange ≤ c → Slice.peek glyphArraySubtable ⟨0, 44⟩ range.idRangeOffsetOffset 2 = .ok 0 →
            ∃ glyph < 3, openTypeFormat4Lookup glyphArraySubtable ⟨0, 44⟩ c = .ok glyph) ∧
          (range.startRange ≤ c → range.idRangeOffset ≠ 0 →
            ∃ glyph : Nat, glyph < 3 ∧ openTypeFormat4Lookup glyphArraySubtable ⟨0, 44⟩ c =
              .ok (if glyph = 0 then 0 else ((glyph + range.idDelta) % 65536).toNat)) :=
  @parse3x4_lookup { os2 := some ⟨0x20, 0x7E⟩, maxp := some ⟨3⟩ }
    { os2 := some ⟨0x20, 0x7E⟩, maxp := some ⟨3⟩, cmap := { subtable314 := some ⟨0, 44⟩ } } 1
    glyphArraySubtable ⟨0, 44⟩ 3 rfl

example : openTypeFormat4Lookup glyphArraySubtable ⟨0, 44⟩ 0x42 = .ok 2 := rfl

def oddTerminatorSubtable : List UInt8 :=
  [0, 4, 0, 32, 0, 0, 0, 4, 0, 4, 0, 1, 0, 0,
    0, 0x41, 0xFF, 0xFF, 0, 0, 0, 0x41, 0xFF, 0xFF, 0xFF, 0xC0, 0, 1, 0, 0, 0xFF, 0xFF]

/- The parser takes the terminator's `id_range_offset` as 0 and accepts; the lookup of `0xFFFF`
reads the glyph array `0xFFFF` bytes past it, outside the subtable. -/
example :
    parse3x4 { os2 := some ⟨0x20, 0x7E⟩, maxp := some ⟨3⟩ } 1 oddTerminatorSubtable ⟨0, 32⟩ 3 =
        .ok { os2 := some ⟨0x20, 0x7E⟩, maxp := some ⟨3⟩, cmap := { subtable314 := some ⟨0, 32⟩ } } ∧
      openTypeFormat4Lookup oddTerminatorSubtable ⟨0, 32⟩ 0xFFFF = .error .fault :=
  ⟨rfl, rfl⟩

end OtsCmap
