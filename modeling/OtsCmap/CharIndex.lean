import OtsCmap.Format4

/-! The correction `Parse3x4` makes to the `OS/2` first and last char index. Each round of the
ordering loop lowers the first char index to the segment's start code and raises the last char
index to its end code, leaving `0xFFFF` alone on either side. The loop runs from the second segment
on, so the first segment, which carries the smallest start code, is never folded in. -/
namespace OtsCmap

def correctedCharIndex (better : Nat → Nat → Nat) (index : Nat) (codes : List Nat) : Nat :=
  if index = 0xFFFF then index else (codes.filter (· ≠ 0xFFFF)).foldl better index

theorem correctedCharIndex_cons {better : Nat → Nat → Nat}
    (chosen : ∀ index code, better index code = index ∨ better index code = code)
    (index code : Nat) (codes : List Nat) :
    correctedCharIndex better index (code :: codes) =
      correctedCharIndex better
        (if index ≠ 0xFFFF ∧ code ≠ 0xFFFF then better index code else index) codes := by
  by_cases unset : index = 0xFFFF
  · simp [correctedCharIndex, unset]
  by_cases terminal : code = 0xFFFF
  · simp [correctedCharIndex, unset, terminal]
  have moved : better index code ≠ 0xFFFF := by
    rcases chosen index code with same | same <;> rw [same] <;> assumption
  simp [correctedCharIndex, unset, terminal, moved, List.filter_cons]

theorem fixCharIndex_firstCharIndex (os2 : OpenTypeOS2) (range : Subtable314Range) :
    (fixCharIndex os2 range).firstCharIndex =
      if os2.firstCharIndex ≠ 0xFFFF ∧ range.startRange ≠ 0xFFFF then
        min os2.firstCharIndex range.startRange
      else os2.firstCharIndex := by
  simp only [fixCharIndex]; split_ifs <;> omega

theorem fixCharIndex_lastCharIndex (os2 : OpenTypeOS2) (range : Subtable314Range) :
    (fixCharIndex os2 range).lastCharIndex =
      if os2.lastCharIndex ≠ 0xFFFF ∧ range.endRange ≠ 0xFFFF then
        max os2.lastCharIndex range.endRange
      else os2.lastCharIndex := by
  simp only [fixCharIndex]; split_ifs <;> omega

theorem foldl_fixCharIndex : ∀ (ranges : List Subtable314Range) (os2 : OpenTypeOS2),
    ranges.foldl fixCharIndex os2 =
      ⟨correctedCharIndex min os2.firstCharIndex (ranges.map (·.startRange)),
        correctedCharIndex max os2.lastCharIndex (ranges.map (·.endRange))⟩
  | [], os2 => by simp [correctedCharIndex]
  | range :: ranges, os2 => by
    rw [List.foldl_cons, foldl_fixCharIndex ranges, List.map_cons, List.map_cons,
      correctedCharIndex_cons min_choice, correctedCharIndex_cons max_choice,
      fixCharIndex_firstCharIndex, fixCharIndex_lastCharIndex]

theorem fixCharIndex_terminator {range : Subtable314Range} (terminal : range.isTerminator)
    (os2 : OpenTypeOS2) : fixCharIndex os2 range = os2 := by
  simp only [Subtable314Range.isTerminator, Bool.and_eq_true, beq_iff_eq] at terminal
  simp [fixCharIndex, terminal]

theorem orderStep_os2 {previous current : Subtable314Range} {os2 os2' : OpenTypeOS2}
    (ordered : orderStep previous current os2 = .ok os2') : os2' = fixCharIndex os2 current := by
  unfold orderStep at ordered
  split_ifs at ordered
  exact (Except.ok.inj ordered).symm

theorem checkOrder_os2 : ∀ {ranges : List Subtable314Range} {os2 os2' : OpenTypeOS2},
    checkOrder ranges os2 = .ok os2' → os2' = (ranges.drop 1).foldl fixCharIndex os2
  | [_, current], os2, _, ordered => by
    unfold checkOrder at ordered
    split at ordered
    · rename_i terminal
      cases ordered
      exact (fixCharIndex_terminator ((Bool.and_eq_true _ _).mp terminal).2 os2).symm
    · exact orderStep_os2 ordered
  | _ :: current :: _ :: _, _, _, ordered => by
    obtain ⟨os2, step, rest⟩ := bind_eq_ok.mp ordered
    rw [orderStep_os2 step] at rest
    rw [checkOrder_os2 rest]
    rfl
  | [], _, _, ordered | [_], _, _, ordered => by cases ordered; rfl

/-- An accepted `Parse3x4` leaves each `OS/2` index corrected by the segments it read, from the
second segment on: the first segment's codes are not folded in. -/
theorem parse3x4_os2 {file file' : OpenTypeFile} {encoding : Nat} {input : List UInt8}
    {data : Slice} {numGlyphs : Nat} (accepted : parse3x4 file encoding input data numGlyphs = .ok file') :
    ∃ os2 segcount subtable ranges, file.os2 = some os2 ∧
      readSegCount input (Buffer.ofSlice data) = .ok (segcount, subtable) ∧
      readRanges input subtable segcount = .ok ranges ∧
      file'.os2 = some
        ⟨correctedCharIndex min os2.firstCharIndex ((ranges.drop 1).map (·.startRange)),
          correctedCharIndex max os2.lastCharIndex ((ranges.drop 1).map (·.endRange))⟩ := by
  obtain ⟨os2, segcount, subtable, ranges, os2', found, counted, read, ordered, -, -, slot⟩ :=
    parse3x4_eq_ok.mp accepted
  refine ⟨os2, segcount, subtable, ranges, found, counted, read, ?_⟩
  rw [← foldl_fixCharIndex, ← checkOrder_os2 ordered]
  rcases slot with ⟨-, rfl⟩ | ⟨-, rfl⟩ <;> rfl

def twoMappedSegments : List UInt8 :=
  [0, 4, 0, 40, 0, 0, 0, 6, 0, 4, 0, 1, 0, 2,
    0, 0x30, 0, 0x43, 0xFF, 0xFF, 0, 0,
    0, 0x30, 0, 0x41, 0xFF, 0xFF,
    0xFF, 0xD1, 0xFF, 0xC0, 0, 1,
    0, 0, 0, 0, 0, 0]

theorem parse3x4_twoMappedSegments_os2 :
    ∃ os2 segcount subtable ranges, some (⟨0x50, 0x30⟩ : OpenTypeOS2) = some os2 ∧
      readSegCount twoMappedSegments (Buffer.ofSlice ⟨0, 40⟩) = .ok (segcount, subtable) ∧
      readRanges twoMappedSegments subtable segcount = .ok ranges ∧
      some (⟨0x41, 0x43⟩ : OpenTypeOS2) = some
        ⟨correctedCharIndex min os2.firstCharIndex ((ranges.drop 1).map (·.startRange)),
          correctedCharIndex max os2.lastCharIndex ((ranges.drop 1).map (·.endRange))⟩ :=
  @parse3x4_os2 { os2 := some ⟨0x50, 0x30⟩, maxp := some ⟨4⟩ }
    { os2 := some ⟨0x41, 0x43⟩, maxp := some ⟨4⟩, cmap := { subtable314 := some ⟨0, 40⟩ } } 1
    twoMappedSegments ⟨0, 40⟩ 4 rfl

def mappedFirstSegment : List UInt8 :=
  [0, 4, 0, 32, 0, 0, 0, 4, 0, 4, 0, 1, 0, 0,
    0, 0x41, 0xFF, 0xFF, 0, 0, 0, 0x41, 0xFF, 0xFF, 0xFF, 0xC0, 0, 1, 0, 0, 0, 0]

/-- The correction never looks at the first segment: with the first char index at `0x50` and the
last at `0x30`, the segment of `0x41` should lower the one and raise the other to `0x41`, yet the
subtable is accepted with `OS/2` as it was. -/
theorem parse3x4_os2_skips_first_segment :
    parse3x4 { os2 := some ⟨0x50, 0x30⟩, maxp := some ⟨3⟩ } 1 mappedFirstSegment ⟨0, 32⟩ 3 =
        .ok { os2 := some ⟨0x50, 0x30⟩, maxp := some ⟨3⟩, cmap := { subtable314 := some ⟨0, 32⟩ } } ∧
      readRanges mappedFirstSegment ⟨0, 32, 14⟩ 2 =
        .ok [⟨0x41, 0x41, -0x40, 0, 28⟩, ⟨0xFFFF, 0xFFFF, 1, 0, 30⟩] ∧
      correctedCharIndex min 0x50 [0x41, 0xFFFF] = 0x41 ∧
      correctedCharIndex max 0x30 [0x41, 0xFFFF] = 0x41 :=
  ⟨rfl, rfl, rfl, rfl⟩

end OtsCmap
