import OtsCmap.Table
import Mathlib.Data.List.Chain

/-! `Parse31012`, `Parse31013` and `Parse100`: the subtables the sanitizer decodes and later writes
anew. Formats 12 and 13 share their loops; they differ in the width of the language field read,
in the checks made on each group, and in the slot they fill. -/
namespace OtsCmap

def checkGroup31012 (numGlyphs : Nat) (group : OpenTypeCMAPSubtableRange) : Except Stop Unit := do
  failIf (group.startRange > kUnicodeUpperLimit ∨ group.endRange > kUnicodeUpperLimit ∨
    group.startGlyphId > 0xFFFF)
  -- [0xD800, 0xDFFF] are surrogate code points.
  failIf (group.startRange ≥ 0xD800 ∧ group.startRange ≤ 0xDFFF)
  failIf (group.endRange ≥ 0xD800 ∧ group.endRange ≤ 0xDFFF)
  failIf (group.startRange < 0xD800 ∧ group.endRange > 0xDFFF)
  -- Because of the range limits above, the sum below does not overflow.
  failIf (group.endRange < group.startRange)
  failIf (group.endRange - group.startRange + group.startGlyphId > numGlyphs)

def checkGroup31013 (numGlyphs : Nat) (group : OpenTypeCMAPSubtableRange) : Except Stop Unit := do
  failIf (group.startRange > kUnicodeUpperLimit ∨ group.endRange > kUnicodeUpperLimit ∨
    group.startGlyphId > 0xFFFF)
  failIf (group.startGlyphId ≥ numGlyphs)

def readGroup (input : List UInt8) (check : OpenTypeCMAPSubtableRange → Except Stop Unit)
    (subtable : Buffer) : Except Stop (OpenTypeCMAPSubtableRange × Buffer) := do
  let (startRange, subtable) ← subtable.readU32 input
  let (endRange, subtable) ← subtable.readU32 input
  let (startGlyphId, subtable) ← subtable.readU32 input
  let group : OpenTypeCMAPSubtableRange := ⟨startRange, endRange, startGlyphId⟩
  check group
  pure (group, subtable)

def readGroups (input : List UInt8) (check : OpenTypeCMAPSubtableRange → Except Stop Unit) :
    Buffer → Nat → Except Stop (List OpenTypeCMAPSubtableRange × Buffer) :=
  readArray (readGroup input check)

def checkGroupOrder : List OpenTypeCMAPSubtableRange → Except Stop Unit
  | previous :: current :: rest => do
    failIf (current.startRange ≤ previous.startRange)
    failIf (current.startRange ≤ previous.endRange)
    checkGroupOrder (current :: rest)
  | _ => pure ()

def parseGroups (input : List UInt8) (data : Slice) (languageWidth : Nat)
    (check : OpenTypeCMAPSubtableRange → Except Stop Unit) :
    Except Stop (List OpenTypeCMAPSubtableRange) := do
  let subtable ← (Buffer.ofSlice data).skip 8
  let (language, subtable) ← subtable.read input languageWidth
  failIf (language ≠ 0)
  let (numGroups, subtable) ← subtable.readU32 input
  failIf (numGroups = 0 ∨ numGroups > kMaxCMAPGroups)
  let (groups, _) ← readGroups input check subtable numGroups
  checkGroupOrder groups
  pure groups

def parse31012 (file : OpenTypeFile) (input : List UInt8) (data : Slice) (numGlyphs : Nat) :
    Except Stop OpenTypeFile := do
  let groups ← parseGroups input data 4 (checkGroup31012 numGlyphs)
  pure { file with cmap.subtable31012 := groups }

def parse31013 (file : OpenTypeFile) (input : List UInt8) (data : Slice) (numGlyphs : Nat) :
    Except Stop OpenTypeFile := do
  let groups ← parseGroups input data 2 (checkGroup31013 numGlyphs)
  pure { file with cmap.subtable31013 := groups }

def parse100 (file : OpenTypeFile) (input : List UInt8) (data : Slice) :
    Except Stop OpenTypeFile := do
  let subtable ← (Buffer.ofSlice data).skip 4
  -- A non-zero language is only warned about: simsun.ttf has one.
  let (_, subtable) ← subtable.readU16 input
  let (glyphIds, _) ← readArray (·.readU8 input) subtable kFormat0ArraySize
  pure { file with cmap.subtable100 := file.cmap.subtable100 ++ glyphIds }

def OpenTypeCMAPSubtableRange.Before (previous current : OpenTypeCMAPSubtableRange) : Prop :=
  previous.startRange < current.startRange ∧ previous.endRange < current.startRange

structure GroupsChecked (Good : OpenTypeCMAPSubtableRange → Prop) (groups : List OpenTypeCMAPSubtableRange) :
    Prop where
  checked : ∀ group ∈ groups, Good group
  ordered : groups.Chain' OpenTypeCMAPSubtableRange.Before
  bounded : groups.length ≤ kMaxCMAPGroups

theorem OpenTypeCMAPSubtableRange.Before.trans {first second third : OpenTypeCMAPSubtableRange}
    (before : first.Before second) (after : second.Before third) : first.Before third :=
  ⟨before.1.trans after.1, before.2.trans after.1⟩

instance : IsTrans OpenTypeCMAPSubtableRange OpenTypeCMAPSubtableRange.Before :=
  ⟨fun _ _ _ => OpenTypeCMAPSubtableRange.Before.trans⟩

structure OpenTypeCMAPSubtableRange.Checked12 (numGlyphs : Nat) (group : OpenTypeCMAPSubtableRange) :
    Prop where
  ordered : group.startRange ≤ group.endRange
  bounded : group.endRange ≤ kUnicodeUpperLimit
  glyphBounded : group.startGlyphId ≤ 0xFFFF
  noSurrogates : group.endRange < 0xD800 ∨ 0xDFFF < group.startRange
  glyphs : group.endRange - group.startRange + group.startGlyphId ≤ numGlyphs

structure OpenTypeCMAPSubtableRange.Checked13 (numGlyphs : Nat) (group : OpenTypeCMAPSubtableRange) :
    Prop where
  startBounded : group.startRange ≤ kUnicodeUpperLimit
  bounded : group.endRange ≤ kUnicodeUpperLimit
  glyphBounded : group.startGlyphId ≤ 0xFFFF
  glyph : group.startGlyphId < numGlyphs

theorem checkGroupOrder_safe :
    ∀ groups : List OpenTypeCMAPSubtableRange,
      Safe (checkGroupOrder groups) fun _ => groups.Chain' OpenTypeCMAPSubtableRange.Before
  | previous :: current :: rest => by
    simp only [checkGroupOrder, Safe.bind_iff, Safe.failIf_iff, not_le, List.chain'_cons]
    exact fun starts ends => (checkGroupOrder_safe (current :: rest)).mono fun _ chain =>
      ⟨⟨starts, ends⟩, chain⟩
  | [] => (List.chain'_nil : [].Chain' OpenTypeCMAPSubtableRange.Before)
  | [group] => (List.chain'_singleton group : [group].Chain' OpenTypeCMAPSubtableRange.Before)

theorem checkGroup31012_safe (numGlyphs : Nat) (group : OpenTypeCMAPSubtableRange) :
    Safe (checkGroup31012 numGlyphs group) fun _ => group.Checked12 numGlyphs := by
  simp only [checkGroup31012, Safe.bind_iff, Safe.failIf_iff, not_or, not_and, not_le, not_lt]
  exact fun ⟨_, bounded, glyph⟩ starts ends straddles ordered glyphs =>
    ⟨ordered, bounded, glyph, by omega, glyphs⟩

theorem checkGroup31013_safe (numGlyphs : Nat) (group : OpenTypeCMAPSubtableRange) :
    Safe (checkGroup31013 numGlyphs group) fun _ => group.Checked13 numGlyphs := by
  simp only [checkGroup31013, Safe.bind_iff, Safe.failIf_iff, not_or, not_le, not_lt]
  exact fun ⟨starts, ends, glyph⟩ below => ⟨starts, ends, glyph, below⟩

theorem checkGroup31012_eq_ok {numGlyphs : Nat} {group : OpenTypeCMAPSubtableRange} :
    checkGroup31012 numGlyphs group = .ok () ↔ group.Checked12 numGlyphs := by
  refine ⟨(checkGroup31012_safe numGlyphs group).of_ok, fun ⟨ordered, bounded, _, noSurrogates, _⟩ => ?_⟩
  unfold kUnicodeUpperLimit at bounded
  simp only [checkGroup31012, failIf_bind, ite_failure_eq_ok, failIf_eq_ok, kUnicodeUpperLimit]
  omega

theorem checkGroupOrder_eq_ok :
    ∀ groups : List OpenTypeCMAPSubtableRange,
      checkGroupOrder groups = .ok () ↔ groups.Chain' OpenTypeCMAPSubtableRange.Before
  | previous :: current :: rest => by
    simp only [checkGroupOrder, failIf_bind, ite_failure_eq_ok, not_le, List.chain'_cons,
      checkGroupOrder_eq_ok (current :: rest), OpenTypeCMAPSubtableRange.Before, and_assoc]
  | [] => by simp [checkGroupOrder, pure, Except.pure]
  | [_] => by simp [checkGroupOrder, pure, Except.pure]

section Safety

variable {input : List UInt8} {data : Slice}

theorem parseGroups_safe (inside : data.Inside input) (languageWidth : Nat)
    {check : OpenTypeCMAPSubtableRange → Except Stop Unit} {Good : OpenTypeCMAPSubtableRange → Prop}
    (checked : ∀ group, Safe (check group) fun _ => Good group) :
    Safe (parseGroups input data languageWidth check) (GroupsChecked Good) := by
  have groups := readArray_safe (readGroup input check) (fun buffer : Buffer => buffer.On data)
    Good fun _ reads => by
      simp only [readGroup, Buffer.readU32, Safe.bind_iff]
      refine (Buffer.read_safe inside reads 4).mono fun _ ⟨reads, _⟩ => ?_
      refine (Buffer.read_safe inside reads 4).mono fun _ ⟨reads, _⟩ => ?_
      refine (Buffer.read_safe inside reads 4).mono fun _ ⟨reads, _⟩ => ?_
      exact (checked _).mono fun _ good => ⟨good, reads⟩
  simp only [parseGroups, Buffer.readU32, Safe.bind_iff, Safe.failIf_iff]
  refine (Buffer.skip_safe (Buffer.ofSlice_on data) 8).mono fun _ ⟨reads, _⟩ => ?_
  refine (Buffer.read_safe inside reads languageWidth).mono fun _ ⟨reads, _⟩ _ => ?_
  refine (Buffer.read_safe inside reads 4).mono fun ⟨numGroups, _⟩ ⟨reads, _⟩ counted => ?_
  refine (groups numGroups _ reads).mono fun ⟨groups, _⟩ ⟨length, goods, _⟩ => ?_
  simp only [not_or, not_lt] at counted
  exact (checkGroupOrder_safe groups).mono fun _ chain => ⟨goods, chain, length ▸ counted.2⟩

theorem parse31012_safe (file : OpenTypeFile) (inside : data.Inside input) (numGlyphs : Nat) :
    Safe (parse31012 file input data numGlyphs) fun file' => ∃ groups,
      GroupsChecked (·.Checked12 numGlyphs) groups ∧ file' = { file with cmap.subtable31012 := groups } := by
  simp only [parse31012, Safe.bind_iff]
  exact (parseGroups_safe inside 4 (checkGroup31012_safe numGlyphs)).mono fun groups accepted =>
    ⟨groups, accepted, rfl⟩

theorem parse31013_safe (file : OpenTypeFile) (inside : data.Inside input) (numGlyphs : Nat) :
    Safe (parse31013 file input data numGlyphs) fun file' => ∃ groups,
      GroupsChecked (·.Checked13 numGlyphs) groups ∧ file' = { file with cmap.subtable31013 := groups } := by
  simp only [parse31013, Safe.bind_iff]
  exact (parseGroups_safe inside 2 (checkGroup31013_safe numGlyphs)).mono fun groups accepted =>
    ⟨groups, accepted, rfl⟩

theorem parse100_safe (file : OpenTypeFile) (inside : data.Inside input) :
    Safe (parse100 file input data) fun file' => ∃ glyphIds : List Nat,
      glyphIds.length = kFormat0ArraySize ∧ (∀ glyph ∈ glyphIds, glyph < 256) ∧
        file' = { file with cmap.subtable100 := file.cmap.subtable100 ++ glyphIds } := by
  have bytes := readArray_safe (·.readU8 input) (fun buffer : Buffer => buffer.On data)
    (· < 256) fun _ reads => (Buffer.read_safe inside reads 1).mono
      fun _ ⟨reads, _, _, small⟩ => ⟨by simpa using small, reads⟩
  simp only [parse100, Buffer.readU16, Safe.bind_iff]
  refine (Buffer.skip_safe (Buffer.ofSlice_on data) 4).mono fun _ ⟨reads, _⟩ => ?_
  refine (Buffer.read_safe inside reads 2).mono fun _ ⟨reads, _⟩ => ?_
  exact (bytes _ _ reads).mono fun ⟨glyphIds, _⟩ ⟨length, small, _⟩ => ⟨glyphIds, length, small, rfl⟩

end Safety

/-- A format-13 subtable laid out as the format defines it (a `uint32` language at byte 8, the group
count at byte 12) is rejected for every count below `2^16`: the parser reads a `uint16` language
and takes the count from bytes 10 to 13, the low half of the language and the high half of the
count, which is 0. -/
theorem parse31013_rejects_format13 {file : OpenTypeFile} {input : List UInt8} {data : Slice}
    {numGlyphs numGroups : Nat} (inside : data.Inside input)
    (length : data.length = 16 + 12 * numGroups) (language : field input (data.base + 8) 4 = 0)
    (count : field input (data.base + 12) 4 = numGroups) (bounded : numGroups ≤ 0xFFFF) :
    parse31013 file input data numGlyphs = .error .failure := by
  unfold Slice.Inside at inside
  have languageHalves : field input (data.base + 8) (2 + 2) = _ := field_add 2 2 (by omega)
  have countHalves : field input (data.base + 12) (2 + 2) = _ := field_add 2 2 (by omega)
  have misread : field input (data.base + 10) (2 + 2) = _ := field_add 2 2 (by omega)
  have low := field_lt input (data.base + 14) 2
  simp only [Nat.reduceAdd, Nat.reducePow, Nat.add_assoc] at languageHalves countHalves misread low
  have languageZero : field input (data.base + 8) 2 = 0 := by omega
  have countZero : field input (data.base + 10) 4 = 0 := by omega
  simp (disch := omega) [parse31013, parseGroups, Buffer.ofSlice, Buffer.skip, Buffer.readU32,
    Buffer.read, fetch, bind, Except.bind, pure, Except.pure, failIf, countZero, languageZero,
    if_pos, if_neg, Nat.add_assoc]

def format13OneGroup : List UInt8 :=
  [0, 13, 0, 0, 0, 0, 0, 28, 0, 0, 0, 0, 0, 0, 0, 1,
    0, 0, 0, 0x41, 0, 0, 0, 0x41, 0, 0, 0, 0]

theorem parse31013_rejects_format13OneGroup :
    parse31013 { os2 := none, maxp := none } format13OneGroup ⟨0, 28⟩ 1 = .error .failure :=
  parse31013_rejects_format13 (by unfold Slice.Inside; decide)
    (show (⟨0, 28⟩ : Slice).length = 16 + 12 * 1 from rfl) (by decide) (by decide) (by decide)

end OtsCmap
