import OtsCmap.Directory
import OtsCmap.Layout

/-! What the serialiser writes, read again by the parser. The reader is followed field by field
over the bytes the writer put down. Every group `Parse31012` accepted is written so that it accepts
it again, with the same value; the directory is read back record by record, and when both group
slots are written it holds two records with the key (3,10), which `ots_cmap_parse` rejects. -/
namespace OtsCmap

structure Buffer.Reads (input : List UInt8) (buffer : Buffer) (bytes rest : List UInt8) : Prop where
  inside : buffer.base + buffer.offset ≤ input.length
  fits : buffer.offset + bytes.length ≤ buffer.length
  atCursor : input.drop (buffer.base + buffer.offset) = bytes ++ rest

namespace Buffer.Reads

variable {input first more rest : List UInt8} {buffer : Buffer}

theorem advance (reads : buffer.Reads input (first ++ more) rest) :
    Buffer.Reads input { buffer with offset := buffer.offset + first.length } more rest where
  inside := by
    have := reads.inside; have := congrArg List.length reads.atCursor
    simp only [List.length_drop, List.length_append] at this ⊢; omega
  fits := by have := reads.fits; simp only [List.length_append] at this ⊢; omega
  atCursor := by
    rw [← Nat.add_assoc, ← List.drop_drop, reads.atCursor, List.append_assoc, List.drop_left]

theorem skip {count : Nat} (reads : buffer.Reads input (first ++ more) rest)
    (length : first.length = count) :
    buffer.skip count = .ok { buffer with offset := buffer.offset + count } ∧
      Buffer.Reads input { buffer with offset := buffer.offset + count } more rest := by
  subst length
  exact ⟨Buffer.skip_eq_ok.mpr ⟨by have := reads.fits; simp at this; omega, rfl⟩, reads.advance⟩

theorem read {width value : Nat} (reads : buffer.Reads input (toBigEndian width value ++ more) rest) :
    buffer.read input width = .ok (value % 256 ^ width, { buffer with offset := buffer.offset + width }) ∧
      Buffer.Reads input { buffer with offset := buffer.offset + width } more rest := by
  have fits := reads.fits
  have inside := reads.inside
  have length := congrArg List.length reads.atCursor
  simp only [List.length_append, List.length_drop, length_toBigEndian] at fits length
  refine ⟨Buffer.read_eq_ok.mpr ⟨by omega, by omega, ?_, rfl⟩, length_toBigEndian width value ▸ reads.advance⟩
  rw [field, reads.atCursor, List.append_assoc, List.take_left' (length_toBigEndian _ _),
    bigEndian_toBigEndian]

theorem firstPart (reads : buffer.Reads input (first ++ more) rest) : buffer.Reads input first (more ++ rest) where
  inside := reads.inside
  fits := by have := reads.fits; simp only [List.length_append] at this; omega
  atCursor := by rw [reads.atCursor, List.append_assoc]

end Buffer.Reads

theorem readArray_flatMap {α β : Type} {input rest : List UInt8} {read : Buffer → Except Stop (β × Buffer)}
    {encode : α → List UInt8} {decode : α → β} {width : Nat} (length : ∀ value, (encode value).length = width) :
    ∀ (values : List α) (buffer : Buffer),
      (∀ value ∈ values, ∀ (buffer : Buffer) (more : List UInt8),
        buffer.Reads input (encode value ++ more) rest →
          read buffer = .ok (decode value, { buffer with offset := buffer.offset + width })) →
      buffer.Reads input (values.flatMap encode) rest →
        readArray read buffer values.length =
          .ok (values.map decode, { buffer with offset := buffer.offset + width * values.length })
  | [], buffer, _, _ => by simp [readArray, pure, Except.pure]
  | value :: values, buffer, readBack, reads => by
    rw [List.flatMap_cons] at reads
    have later := readArray_flatMap length values { buffer with offset := buffer.offset + width }
      (fun other mem => readBack other (List.mem_cons_of_mem _ mem)) (length value ▸ reads.advance)
    simp only [readArray, readBack value (List.mem_cons_self _ _) buffer _ reads, later, ok_bind,
      pure, Except.pure, List.length_cons, List.map_cons]
    congr 3
    rw [Nat.mul_succ]
    omega

def OpenTypeCMAPSubtableRange.Fits (group : OpenTypeCMAPSubtableRange) : Prop :=
  group.startRange < 2 ^ 32 ∧ group.endRange < 2 ^ 32 ∧ group.startGlyphId < 2 ^ 32

theorem OpenTypeCMAPSubtableRange.Checked12.fits {numGlyphs : Nat} {group : OpenTypeCMAPSubtableRange}
    (checked : group.Checked12 numGlyphs) : group.Fits := by
  have := checked.ordered; have := checked.bounded; have := checked.glyphBounded
  unfold kUnicodeUpperLimit at *
  exact ⟨by omega, by omega, by omega⟩

theorem readGroup_groupRecord {input more rest : List UInt8} {buffer : Buffer}
    {check : OpenTypeCMAPSubtableRange → Except Stop Unit} {group : OpenTypeCMAPSubtableRange}
    (fits : group.Fits) (checked : check group = .ok ())
    (reads : buffer.Reads input ((toBigEndian 4 group.startRange ++ toBigEndian 4 group.endRange ++
      toBigEndian 4 group.startGlyphId) ++ more) rest) :
    readGroup input check buffer = .ok (group, { buffer with offset := buffer.offset + 12 }) := by
  obtain ⟨startFits, endFits, glyphFits⟩ := fits
  simp only [List.append_assoc] at reads
  obtain ⟨startRead, reads⟩ := reads.read
  obtain ⟨endRead, reads⟩ := reads.read
  obtain ⟨glyphRead, -⟩ := reads.read
  dsimp only at endRead glyphRead
  simp (disch := omega) only [readGroup, Buffer.readU32, startRead, endRead, glyphRead, checked,
    Nat.mod_eq_of_lt, ok_bind, pure, Except.pure]

theorem readGroups_groupRecordBytes {input rest : List UInt8}
    {check : OpenTypeCMAPSubtableRange → Except Stop Unit} (groups : List OpenTypeCMAPSubtableRange)
    (buffer : Buffer) (good : ∀ group ∈ groups, group.Fits ∧ check group = .ok ())
    (reads : buffer.Reads input (groupRecordBytes groups) rest) :
    readGroups input check buffer groups.length =
      .ok (groups, { buffer with offset := buffer.offset + 12 * groups.length }) := by
  have loop := @readArray_flatMap _ _ input rest (readGroup input check) _ id 12 (fun _ => by simp)
    groups buffer (fun group mem _ _ => readGroup_groupRecord (good group mem).1 (good group mem).2)
    reads
  rwa [List.map_id] at loop

theorem parseGroups_groupsBody {input rest : List UInt8} {data : Slice} {format lengthBase : Nat}
    {check : OpenTypeCMAPSubtableRange → Except Stop Unit} {groups : List OpenTypeCMAPSubtableRange}
    (good : ∀ group ∈ groups, group.Fits ∧ check group = .ok ())
    (ordered : groups.Chain' OpenTypeCMAPSubtableRange.Before) (nonempty : groups ≠ [])
    (bounded : groups.length ≤ kMaxCMAPGroups) (length : data.length = 16 + 12 * groups.length)
    (written : input.drop data.base = groupsBody format lengthBase groups ++ rest) :
    parseGroups input data 4 check = .ok groups := by
  have layout : groupsBody format lengthBase groups =
      (toBigEndian 2 format ++ toBigEndian 2 0 ++ toBigEndian 4 (groups.length * 12 + lengthBase)) ++
        (toBigEndian 4 0 ++ (toBigEndian 4 groups.length ++ groupRecordBytes groups)) := by
    simp [groupsBody]
  have inside := congrArg List.length written
  rw [layout] at written inside
  simp only [List.length_drop, List.length_append, length_toBigEndian, length_groupRecordBytes]
    at inside
  have reads : (Buffer.ofSlice data).Reads input _ rest :=
    ⟨by simp [Buffer.ofSlice]; omega, by simp [Buffer.ofSlice, length]; omega, written⟩
  have header : (toBigEndian 2 format ++ toBigEndian 2 0 ++
      toBigEndian 4 (groups.length * 12 + lengthBase)).length = 8 := by simp
  obtain ⟨skipped, reads⟩ := reads.skip header
  obtain ⟨languageRead, reads⟩ := reads.read
  obtain ⟨countRead, reads⟩ := reads.read
  have count : groups.length % 256 ^ 4 = groups.length := by
    unfold kMaxCMAPGroups at bounded; omega
  have counted : ¬(groups.length = 0 ∨ groups.length > kMaxCMAPGroups) := by
    simp [nonempty, bounded]
  simp only [parseGroups, Buffer.readU32, skipped, languageRead, countRead, count, Nat.zero_mod,
    failIf_bind, ne_eq, not_true_eq_false, if_false, counted, bind, Except.bind,
    readGroups_groupRecordBytes groups _ good reads, (checkGroupOrder_eq_ok groups).mpr ordered]
  rfl

/-- A (3,10,12) body the serialiser writes for groups `Parse31012` accepts is accepted again, and
gives back the same groups. -/
theorem parse31012_writeGroups {out out' : OTSStream} {file : OpenTypeFile} {numGlyphs : Nat}
    {groups : List OpenTypeCMAPSubtableRange}
    (checked : ∀ group ∈ groups, group.Checked12 numGlyphs)
    (ordered : groups.Chain' OpenTypeCMAPSubtableRange.Before) (nonempty : groups ≠ [])
    (bounded : groups.length ≤ kMaxCMAPGroups) (written : writeGroups out true 12 16 groups = .ok out') :
    parse31012 file out'.bytes ⟨out.position, 16 + 12 * groups.length⟩ numGlyphs =
      .ok { file with cmap.subtable31012 := groups } := by
  obtain ⟨fits, rfl⟩ := OTSStream.write_eq_ok.mp ((writeGroups_eq out 12 16 groups) ▸ written)
  have good : ∀ group ∈ groups, group.Fits ∧ checkGroup31012 numGlyphs group = .ok () :=
    fun group mem => ⟨(checked group mem).fits, checkGroup31012_eq_ok.mpr (checked group mem)⟩
  have body : parseGroups (out.put (groupsBody 12 16 groups)).bytes
      ⟨out.position, 16 + 12 * groups.length⟩ 4 (checkGroup31012 numGlyphs) = .ok groups :=
    parseGroups_groupsBody good ordered nonempty bounded rfl (OTSStream.drop_put fits)
  simp only [parse31012, body, bind, Except.bind, pure, Except.pure]

def twoGroupsBody : List UInt8 :=
  [0, 12, 0, 0, 0, 0, 0, 40, 0, 0, 0, 0, 0, 0, 0, 2,
    0, 0, 0, 0x41, 0, 0, 0, 0x42, 0, 0, 0, 1, 0, 0, 0, 0x50, 0, 0, 0, 0x50, 0, 0, 0, 3]

theorem parse31012_writeGroups_twoGroups :
    parse31012 { os2 := none, maxp := none } twoGroupsBody ⟨0, 40⟩ 4 =
      .ok { os2 := none, maxp := none, cmap := { subtable31012 := [⟨0x41, 0x42, 1⟩, ⟨0x50, 0x50, 3⟩] } } :=
  @parse31012_writeGroups ⟨List.replicate 40 0, 0, []⟩ ⟨twoGroupsBody, 40, twoGroupsBody⟩ _ 4
    [⟨0x41, 0x42, 1⟩, ⟨0x50, 0x50, 3⟩]
    (fun _ mem => checkGroup31012_eq_ok.mp (by simp at mem; rcases mem with rfl | rfl <;> rfl))
    ((checkGroupOrder_eq_ok _).mp rfl) (by simp) (by decide) rfl

/-- The (3,10,12) groups of an accepted table survive the cycle: in the table the serialiser
writes, the body at the offset its (3,10) record holds is accepted by `Parse31012`, against the
same glyph count, and gives back the same groups. -/
theorem otsCmapParse_groups31012_roundTrip {file file' target : OpenTypeFile} {input : List UInt8}
    {out out' : OTSStream} (accepted : otsCmapParse file input = .ok file')
    (nonempty : file'.cmap.subtable31012 ≠ [])
    (written : otsCmapSerialise out input file'.cmap = .ok out') :
    ∃ maxp, file.maxp = some maxp ∧
      parse31012 target ((out'.bytes.drop out.position).take (out'.position - out.position))
          ⟨file'.cmap.offset31012 input, 16 + 12 * file'.cmap.subtable31012.length⟩ maxp.numGlyphs =
        .ok { target with cmap.subtable31012 := file'.cmap.subtable31012 } := by
  obtain ⟨maxp, found, groups⟩ := (otsCmapParse_accepted file input).of_ok accepted
  refine ⟨maxp, found, ?_⟩
  rw [otsCmapSerialise_written ((otsCmapParse_safe file input).of_ok accepted) written]
  have body : (file'.cmap.tableBytes input).drop (file'.cmap.offset31012 input) =
      groupsBody 12 16 file'.cmap.subtable31012 ++ (file'.cmap.body31013 ++ file'.cmap.body0514 input) := by
    have present : file'.cmap.have31012 := by simpa [OpenTypeCMAP.have31012] using nonempty
    rw [OpenTypeCMAP.tableBytes_drop_offset31012, OpenTypeCMAP.body31012, present, slotBytes_true,
      List.append_assoc]
  have good : ∀ group ∈ file'.cmap.subtable31012,
      group.Fits ∧ checkGroup31012 maxp.numGlyphs group = .ok () := fun group mem =>
    ⟨(groups.groups12.checked group mem).fits, checkGroup31012_eq_ok.mpr (groups.groups12.checked group mem)⟩
  have parsed : parseGroups (file'.cmap.tableBytes input)
      ⟨file'.cmap.offset31012 input, 16 + 12 * file'.cmap.subtable31012.length⟩ 4
      (checkGroup31012 maxp.numGlyphs) = .ok file'.cmap.subtable31012 :=
    parseGroups_groupsBody good groups.groups12.ordered nonempty groups.groups12.bounded rfl body
  simp only [parse31012, parsed, ok_bind, pure, Except.pure]

def unicode12Table : List UInt8 :=
  [0, 0, 0, 2, 0, 3, 0, 1, 0, 0, 0, 20, 0, 3, 0, 10, 0, 0, 0, 44,
    0, 4, 0, 24, 0, 0, 0, 2, 0, 2, 0, 0, 0, 0, 0xFF, 0xFF, 0, 0, 0xFF, 0xFF, 0, 1, 0, 0,
    0, 12, 0, 0, 0, 0, 0, 28, 0, 0, 0, 0, 0, 0, 0, 1, 0, 0, 0, 0x41, 0, 0, 0, 0x41, 0, 0, 0, 0]

def unicode12Cmap : OpenTypeCMAP := { subtable314 := some ⟨20, 24⟩, subtable31012 := [⟨0x41, 0x41, 0⟩] }

theorem otsCmapParse_unicode12Table_roundTrip :
    ∃ maxp : OpenTypeMAXP, some ⟨3⟩ = some maxp ∧
      parse31012 { os2 := none, maxp := none }
          (((unicode12Cmap.tableBytes unicode12Table).drop 0).take (72 - 0))
          ⟨unicode12Cmap.offset31012 unicode12Table, 16 + 12 * 1⟩ maxp.numGlyphs =
        .ok { os2 := none, maxp := none, cmap := { subtable31012 := [⟨0x41, 0x41, 0⟩] } } :=
  @otsCmapParse_groups31012_roundTrip { os2 := some ⟨0x20, 0x7E⟩, maxp := some ⟨3⟩ }
    { cmap := unicode12Cmap, os2 := some ⟨0x20, 0x7E⟩, maxp := some ⟨3⟩ } { os2 := none, maxp := none }
    unicode12Table ⟨List.replicate 72 0, 0, []⟩
    ⟨unicode12Cmap.tableBytes unicode12Table, 72, [] ++ unicode12Cmap.checksummed unicode12Table⟩
    (by rfl) (by simp [unicode12Cmap]) (by rfl)

theorem readArray_readU8_bytes {input rest : List UInt8} {glyphIds : List Nat} {buffer : Buffer}
    (small : ∀ glyph ∈ glyphIds, glyph < 256)
    (reads : buffer.Reads input (glyphIds.map UInt8.ofNat) rest) :
    readArray (·.readU8 input) buffer glyphIds.length =
      .ok (glyphIds, { buffer with offset := buffer.offset + glyphIds.length }) := by
  have bytes : glyphIds.map UInt8.ofNat = glyphIds.flatMap (toBigEndian 1) := List.map_eq_flatMap _ _
  have loop := @readArray_flatMap _ _ input rest (·.readU8 input) _ id 1 (length_toBigEndian 1)
    glyphIds buffer (fun glyph mem _ _ reads => by
      simpa [Nat.mod_eq_of_lt (small glyph mem)] using reads.read.1) (bytes ▸ reads)
  rwa [List.map_id, Nat.one_mul] at loop

theorem parse100_macRomanBody {input rest : List UInt8} {data : Slice} {file : OpenTypeFile}
    {glyphIds : List Nat} (full : glyphIds.length = kFormat0ArraySize)
    (small : ∀ glyph ∈ glyphIds, glyph < 256) (length : data.length = 6 + kFormat0ArraySize)
    (written : input.drop data.base = macRomanBody glyphIds ++ rest) :
    parse100 file input data = .ok { file with cmap.subtable100 := file.cmap.subtable100 ++ glyphIds } := by
  have layout : macRomanBody glyphIds = (toBigEndian 2 0 ++ toBigEndian 2 (6 + kFormat0ArraySize)) ++
      (toBigEndian 2 0 ++ glyphIds.map UInt8.ofNat) := by
    simp [macRomanBody, ← full]
  have inside := congrArg List.length written
  rw [layout] at written inside
  simp only [List.length_drop, List.length_append, length_toBigEndian, List.length_map] at inside
  have reads : (Buffer.ofSlice data).Reads input _ rest :=
    ⟨by simp [Buffer.ofSlice]; omega, by simp [Buffer.ofSlice, length, full]; omega, written⟩
  obtain ⟨skipped, reads⟩ :=
    reads.skip (show (toBigEndian 2 0 ++ toBigEndian 2 (6 + kFormat0ArraySize)).length = 4 by simp)
  obtain ⟨languageRead, reads⟩ := reads.read
  simp only [parse100, Buffer.readU16, skipped, languageRead, ← full, readArray_readU8_bytes small reads,
    ok_bind, pure, Except.pure]

/-- The Mac Roman glyph ids of an accepted table survive the cycle: in the table the serialiser
writes, the body at the offset its (1,0) record holds is accepted by `Parse100` and gives back the
same 256 glyph ids. The serialiser narrows each to a byte, which loses nothing, since each was
read as one. -/
theorem otsCmapParse_macRoman_roundTrip {file file' target : OpenTypeFile} {input : List UInt8}
    {out out' : OTSStream} (accepted : otsCmapParse file input = .ok file')
    (present : file'.cmap.subtable100 ≠ [])
    (written : otsCmapSerialise out input file'.cmap = .ok out') :
    parse100 target ((out'.bytes.drop out.position).take (out'.position - out.position))
        ⟨file'.cmap.offset100, 6 + kFormat0ArraySize⟩ =
      .ok { target with cmap.subtable100 := target.cmap.subtable100 ++ file'.cmap.subtable100 } := by
  have inside := (otsCmapParse_safe file input).of_ok accepted
  obtain ⟨_, -, slots⟩ := (otsCmapParse_accepted file input).of_ok accepted
  rw [otsCmapSerialise_written inside written]
  have body : (file'.cmap.tableBytes input).drop file'.cmap.offset100 =
      macRomanBody file'.cmap.subtable100 ++ (file'.cmap.body304 input ++ file'.cmap.body314 input ++
        file'.cmap.body31012 ++ file'.cmap.body31013 ++ file'.cmap.body0514 input) := by
    have written100 : file'.cmap.have100 := by simpa [OpenTypeCMAP.have100] using present
    rw [OpenTypeCMAP.offset100, OpenTypeCMAP.tableBytes_drop_head, OpenTypeCMAP.bodies,
      OpenTypeCMAP.body100, written100, slotBytes_true]
    simp only [List.append_assoc]
  exact parse100_macRomanBody (inside.subtable100.resolve_left present) slots.glyphs100 rfl body

def macRomanTable : List UInt8 :=
  [0, 0, 0, 2, 0, 1, 0, 0, 0, 0, 0, 20, 0, 3, 0, 1, 0, 0, 1, 26, 0, 0, 1, 6, 0, 0] ++
    (List.range 256).map UInt8.ofNat ++
    [0, 4, 0, 24, 0, 0, 0, 2, 0, 2, 0, 0, 0, 0, 0xFF, 0xFF, 0, 0, 0xFF, 0xFF, 0, 1, 0, 0]

def macRomanCmap : OpenTypeCMAP := { subtable314 := some ⟨282, 24⟩, subtable100 := List.range 256 }

set_option maxRecDepth 2000 in
theorem otsCmapParse_macRomanTable_roundTrip :
    parse100 { os2 := none, maxp := none }
        (((macRomanCmap.tableBytes macRomanTable).drop 0).take (306 - 0))
        ⟨macRomanCmap.offset100, 6 + kFormat0ArraySize⟩ =
      .ok { os2 := none, maxp := none, cmap := { subtable100 := [] ++ List.range 256 } } :=
  @otsCmapParse_macRoman_roundTrip { os2 := some ⟨0x20, 0x7E⟩, maxp := some ⟨3⟩ }
    { cmap := macRomanCmap, os2 := some ⟨0x20, 0x7E⟩, maxp := some ⟨3⟩ } { os2 := none, maxp := none }
    macRomanTable ⟨List.replicate 306 0, 0, []⟩
    ⟨macRomanCmap.tableBytes macRomanTable, 306, [] ++ macRomanCmap.checksummed macRomanTable⟩
    (by rfl) (by simp [macRomanCmap]) (by rfl)

def CMAPSubtableHeader.wrapped (header : CMAPSubtableHeader) : CMAPSubtableHeader :=
  { platform := header.platform % 256 ^ 2, encoding := header.encoding % 256 ^ 2,
    offset := header.offset % 256 ^ 4 }

theorem readSubtableHeaders_record {input rest : List UInt8} (headers : List CMAPSubtableHeader)
    (buffer : Buffer) (reads : buffer.Reads input (headers.flatMap CMAPSubtableHeader.record) rest) :
    readSubtableHeaders input buffer headers.length =
      .ok (headers.map CMAPSubtableHeader.wrapped,
        { buffer with offset := buffer.offset + 8 * headers.length }) :=
  readArray_flatMap (fun _ => by simp [CMAPSubtableHeader.record, recordBytes]) headers buffer
    (fun header _ buffer _ reads => by
      simp only [CMAPSubtableHeader.record, recordBytes, List.append_assoc] at reads
      obtain ⟨platformRead, reads⟩ := reads.read
      obtain ⟨encodingRead, reads⟩ := reads.read
      obtain ⟨offsetRead, -⟩ := reads.read
      dsimp only at encodingRead offsetRead
      simp only [Buffer.readU16, Buffer.readU32, platformRead, encodingRead, offsetRead, ok_bind,
        pure, Except.pure, CMAPSubtableHeader.wrapped]) reads

theorem checkOffsets_eq_failure {length dataOffset i lastId : Nat} {headers : List CMAPSubtableHeader}
    (unsorted : ¬headers.Pairwise (fun a b => a.id < b.id)) :
    checkOffsets length dataOffset headers i lastId = .error .failure := by
  have safe := @checkOffsets_safe length dataOffset headers i lastId
  cases h : checkOffsets length dataOffset headers i lastId with
  | ok _ => rw [h] at safe; exact absurd safe.2.1 unsorted
  | error stop => rw [h] at safe; rw [show stop = .failure from safe]

theorem OpenTypeCMAP.headers_unsorted {cmap : OpenTypeCMAP} {input : List UInt8}
    (twelve : cmap.have31012) (thirteen : cmap.have31013) :
    ¬((cmap.headers input).map CMAPSubtableHeader.wrapped).Pairwise (fun a b => a.id < b.id) := by
  intro sorted
  simp only [OpenTypeCMAP.headers, twelve, thirteen, slotList, if_true, List.map_append] at sorted
  have := (List.pairwise_append.mp sorted).2.2 _
    (List.mem_append_right _ (List.mem_map_of_mem _ (List.mem_singleton_self _))) _
    (List.mem_map_of_mem _ (List.mem_singleton_self _))
  simp only [CMAPSubtableHeader.wrapped, CMAPSubtableHeader.id, lt_self_iff_false] at this

theorem otsCmapParse_tableBytes_both_groups {file : OpenTypeFile} {input : List UInt8}
    {cmap : OpenTypeCMAP} (twelve : cmap.have31012) (thirteen : cmap.have31013) :
    otsCmapParse file (cmap.tableBytes input) = .error .failure := by
  have reads : (Buffer.ofSlice ⟨0, (cmap.tableBytes input).length⟩).Reads (cmap.tableBytes input)
      (toBigEndian 2 0 ++ (toBigEndian 2 cmap.numSubtables ++ (cmap.records input ++ cmap.bodies input))) [] :=
    ⟨by simp [Buffer.ofSlice], by simp [Buffer.ofSlice, OpenTypeCMAP.tableBytes],
      by simp [Buffer.ofSlice, OpenTypeCMAP.tableBytes]⟩
  obtain ⟨versionRead, reads⟩ := reads.read
  obtain ⟨countRead, reads⟩ := reads.read
  rw [cmap.records_eq] at reads
  have headersRead := readSubtableHeaders_record _ _ reads.firstPart
  rw [cmap.length_headers] at headersRead
  have few : cmap.numSubtables ≤ 6 := List.count_le_length _ _
  have some : cmap.numSubtables ≠ 0 := by
    have := List.count_pos_iff.mpr (show true ∈ [cmap.have0514, cmap.have100, cmap.have304,
      cmap.have314, cmap.have31012, cmap.have31013] by simp [twelve])
    exact Nat.pos_iff_ne_zero.mp this
  have count : cmap.numSubtables % 256 ^ 2 = cmap.numSubtables := Nat.mod_eq_of_lt (by omega)
  simp only [otsCmapParse, Buffer.readU16, versionRead, countRead, count, ok_bind, failIf_bind,
    Nat.zero_mod, ne_eq, not_true_eq_false, if_false, some, headersRead,
    checkOffsets_eq_failure (OpenTypeCMAP.headers_unsorted twelve thirteen)]
  rfl

/-- A table whose two group slots are both filled is written so that `ots_cmap_parse` rejects it:
the serialiser gives each of them a record with the key (3,10). -/
theorem otsCmapSerialise_rejected_both_groups {file : OpenTypeFile} {out out' : OTSStream}
    {input : List UInt8} {cmap : OpenTypeCMAP} (inside : cmap.Inside input)
    (twelve : cmap.subtable31012 ≠ []) (thirteen : cmap.subtable31013 ≠ [])
    (written : otsCmapSerialise out input cmap = .ok out') :
    otsCmapParse file ((out'.bytes.drop out.position).take (out'.position - out.position)) =
      .error .failure := by
  rw [otsCmapSerialise_written inside written]
  exact otsCmapParse_tableBytes_both_groups (by simpa [OpenTypeCMAP.have31012] using twelve)
    (by simpa [OpenTypeCMAP.have31013] using thirteen)

def bothGroupSlots : OpenTypeCMAP :=
  { subtable314 := some ⟨0, 4⟩, subtable31012 := [⟨0x41, 0x41, 1⟩], subtable31013 := [⟨0x41, 0x41, 1⟩] }

theorem otsCmapSerialise_bothGroupSlots_rejected :
    otsCmapParse { os2 := none, maxp := some ⟨2⟩ }
        (((bothGroupSlots.tableBytes [0, 0, 0, 0]).drop 0).take (88 - 0)) = .error .failure :=
  @otsCmapSerialise_rejected_both_groups _ ⟨List.replicate 88 0, 0, []⟩
    ⟨bothGroupSlots.tableBytes [0, 0, 0, 0], 88, [] ++ bothGroupSlots.checksummed [0, 0, 0, 0]⟩
    [0, 0, 0, 0] bothGroupSlots ⟨by simp [bothGroupSlots], by simp [bothGroupSlots, Slice.Inside],
      by simp [bothGroupSlots], .inl rfl⟩ (by simp [bothGroupSlots]) (by simp [bothGroupSlots]) (by rfl)

end OtsCmap
