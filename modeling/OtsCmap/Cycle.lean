import OtsCmap.Resanitise
import OtsCmap.Provenance

/-! The sanitizer's cycle over one table: `ots_cmap_parse`, `ots_cmap_serialise` of what it accepted,
and `ots_cmap_parse` of what was written. The opaque slots hold windows of the input, so the
serialiser reads the input again. A (3,10,13) slot breaks the cycle: the serialiser writes a 32-bit
language and then the group count, `Parse31013` reads a 16-bit language and takes the count from the
four bytes after it, and below `2^16` groups that count is 0. -/
namespace OtsCmap

/-- No access of the parser leaves the table and no arithmetic it trusts wraps. An accepted table
leaves its slots in bounds, each opaque slot the window, with its recorded length, of the last record
the dispatch loop output to it; so the serialiser, on any stream, does not fault either. -/
theorem otsCmapParse_inBounds (file : OpenTypeFile) (input : List UInt8) :
    Safe (otsCmapParse file input) fun file' => file'.cmap.Inside input ∧
      (∃ headers records directory,
        readSubtableHeaders input ⟨0, input.length, 4⟩ (field input 2 2) = .ok (records, directory) ∧
        headers.map (·.listed) = records.map (·.listed) ∧ (∀ header ∈ headers, header.Framed input) ∧
        file'.cmap.subtable304 = (lastOutputAs .subtable304 headers).map (·.subtable) ∧
        file'.cmap.subtable314 = (lastOutputAs .subtable314 headers).map (·.subtable) ∧
        file'.cmap.subtable0514 = (lastOutputAs .subtable0514 headers).map (·.subtable)) ∧
      ∀ out : OTSStream, Safe (otsCmapSerialise out input file'.cmap) fun _ => True := by
  refine ((otsCmapParse_safe file input).and_of_ok fun file' accepted => ?_).mono
    fun _ ⟨inside, windows⟩ => ⟨inside, windows, fun _ => otsCmapSerialise_safe inside⟩
  obtain ⟨maxp, headers, _, good, run, sorted, records, directory, read, listed⟩ :=
    otsCmapParse_eq_ok accepted
  have filled := parseSubtables_filledFrom (fun header mem => (good header mem).1) sorted
    (OpenTypeCMAP.filledFrom_empty input maxp.numGlyphs) (by simp) run
  simp only [Option.or_none] at filled
  exact ⟨headers, records, directory, read, listed, fun header mem => (good header mem).2,
    filled.subtable304, filled.subtable314, filled.subtable0514⟩

theorem field_misread {input : List UInt8} {position : Nat} (room : position + 8 ≤ input.length)
    (zero : field input position 4 = 0) (small : field input (position + 4) 4 < 65536) :
    field input position 2 = 0 ∧ field input (position + 2) 4 = 0 := by
  have first : field input position (2 + 2) = _ := field_add 2 2 (by omega)
  have second : field input (position + 4) (2 + 2) = _ := field_add 2 2 (by omega)
  have misread : field input (position + 2) (2 + 2) = _ := field_add 2 2 (by omega)
  have low := field_lt input (position + 4 + 2) 2
  simp only [Nat.reduceAdd, Nat.reducePow, Nat.add_assoc] at first second misread low small ⊢
  omega

section Format13Body

variable {table rest : List UInt8} {offset : Nat} {groups : List OpenTypeCMAPSubtableRange}

theorem parse31013_groupsBody (standing : table.drop offset = groupsBody 13 14 groups ++ rest)
    (few : groups.length < 65536) (file : OpenTypeFile) (numGlyphs : Nat) {length : Nat} (long : 14 ≤ length) :
    parse31013 file table ⟨offset, length⟩ numGlyphs = .error .failure := by
  have room := room_of_drop standing (by simp [groupsBody])
  simp only [groupsBody, List.length_append, length_toBigEndian, length_groupRecordBytes] at room
  have language : field table (offset + 8) 4 = 0 := by
    rw [field_of_drop standing (by simp [groupsBody]; omega),
      show groupsBody 13 14 groups = (toBigEndian 2 13 ++ toBigEndian 2 0 ++
          toBigEndian 4 (groups.length * 12 + 14)) ++ toBigEndian 4 0 ++
          (toBigEndian 4 groups.length ++ groupRecordBytes groups) by simp [groupsBody],
      field_toBigEndian (by simp), Nat.zero_mod]
  have count : field table (offset + 8 + 4) 4 = groups.length := by
    rw [Nat.add_assoc, field_of_drop standing (by simp [groupsBody]; omega),
      show groupsBody 13 14 groups = (toBigEndian 2 13 ++ toBigEndian 2 0 ++
          toBigEndian 4 (groups.length * 12 + 14) ++ toBigEndian 4 0) ++ toBigEndian 4 groups.length ++
          groupRecordBytes groups by simp [groupsBody],
      field_toBigEndian (by simp), Nat.mod_eq_of_lt (by omega)]
  obtain ⟨languageZero, countZero⟩ := field_misread (by omega) language (by omega)
  simp (disch := omega) [parse31013, parseGroups, Buffer.ofSlice, Buffer.skip, Buffer.readU32,
    Buffer.read, fetch, bind, Except.bind, pure, Except.pure, failIf, countZero, languageZero,
    if_pos, if_neg, Nat.add_assoc]

end Format13Body

theorem OpenTypeCMAP.tableBytes_drop_offset31013 (cmap : OpenTypeCMAP) (input : List UInt8) :
    (cmap.tableBytes input).drop (cmap.offset31013 input) = cmap.body31013 ++ cmap.body0514 input :=
  cmap.tableBytes_drop input (show _ = cmap.body100 ++ cmap.body304 input ++ cmap.body314 input ++
      cmap.body31012 ++ _ by simp [OpenTypeCMAP.bodies]) (by simp [OpenTypeCMAP.offset31013, Nat.add_assoc])

theorem OpenTypeCMAP.offset31013_lt {cmap : OpenTypeCMAP} {input : List UInt8} {numGlyphs : Nat}
    (windows : cmap.Windows input numGlyphs) (few : cmap.subtable31012.length ≤ kMaxCMAPGroups) :
    cmap.offset31013 input < 2 ^ 32 := by
  have short : ∀ slot : Option Slice, (∀ data ∈ slot, Format4At input numGlyphs data) →
      (opaqueBytes input slot).length < 65536 := by
    rintro (_ | data) format4
    · simp [opaqueBytes]
    · have length := (format4 data rfl).length
      have := field_lt input (data.base + 2) 2
      simp only [opaqueBytes, List.length_take]
      omega
  have slot : ∀ present (bytes : List UInt8), (slotBytes present bytes).length ≤ bytes.length := by
    rintro (_ | _) _ <;> simp
  have mac : (macRomanBody cmap.subtable100).length ≤ 262 := by
    simp [macRomanBody, kFormat0ArraySize]; omega
  have groups := length_groupsBody 12 16 cmap.subtable31012
  have count : cmap.numSubtables ≤ 6 := List.count_le_length _ _
  have := slot cmap.have100 (macRomanBody cmap.subtable100)
  have := slot cmap.have304 (opaqueBytes input cmap.subtable304)
  have := slot cmap.have314 (opaqueBytes input cmap.subtable314)
  have := slot cmap.have31012 (groupsBody 12 16 cmap.subtable31012)
  have := short _ windows.subtable304
  have := short _ windows.subtable314
  unfold kMaxCMAPGroups at few
  simp only [OpenTypeCMAP.offset31013, OpenTypeCMAP.head, OpenTypeCMAP.body100, OpenTypeCMAP.body304,
    OpenTypeCMAP.body314, OpenTypeCMAP.body31012, List.length_append, length_toBigEndian,
    List.length_replicate]
  omega

theorem readSubtableHeaders_tableBytes (cmap : OpenTypeCMAP) (input : List UInt8) :
    field (cmap.tableBytes input) 2 2 = cmap.numSubtables ∧
      ∃ directory, readSubtableHeaders (cmap.tableBytes input) ⟨0, (cmap.tableBytes input).length, 4⟩
        cmap.numSubtables = .ok ((cmap.headers input).map CMAPSubtableHeader.wrapped, directory) := by
  have reads : (Buffer.ofSlice ⟨0, (cmap.tableBytes input).length⟩).Reads (cmap.tableBytes input)
      (toBigEndian 2 0 ++ (toBigEndian 2 cmap.numSubtables ++ (cmap.records input ++ cmap.bodies input))) [] :=
    ⟨by simp [Buffer.ofSlice], by simp [Buffer.ofSlice, OpenTypeCMAP.tableBytes],
      by simp [Buffer.ofSlice, OpenTypeCMAP.tableBytes]⟩
  obtain ⟨-, reads⟩ := reads.read
  obtain ⟨countRead, reads⟩ := reads.read
  rw [cmap.records_eq] at reads
  have headersRead := readSubtableHeaders_record _ _ reads.firstPart
  rw [cmap.length_headers] at headersRead
  have few : cmap.numSubtables ≤ 6 := List.count_le_length _ _
  obtain ⟨-, -, count, -⟩ := Buffer.read_eq_ok.mp countRead
  exact ⟨by simpa [Buffer.ofSlice, Nat.mod_eq_of_lt (show cmap.numSubtables < 65536 by omega)] using count.symm,
    _, headersRead⟩

theorem parseSubtable_31013 {input : List UInt8} {numGlyphs offset length : Nat} {file : OpenTypeFile}
    (inside : offset + length ≤ input.length) :
    parseSubtable input ⟨0, input.length⟩ numGlyphs file ⟨3, 10, offset, 13, length⟩ =
      parse31013 { file with cmap.subtable31013 := [] } input ⟨offset, length⟩ numGlyphs := by
  simp [parseSubtable, CMAPSubtableHeader.window, Slice.sub, inside]

theorem parseSubtables_dispatched {input : List UInt8} {data : Slice} {numGlyphs : Nat} :
    ∀ {file file' : OpenTypeFile} {headers : List CMAPSubtableHeader},
      parseSubtables input data numGlyphs file headers = .ok file' →
        ∀ header ∈ headers, ∃ before after, parseSubtable input data numGlyphs before header = .ok after
  | _, _, [], _ => by simp
  | _, _, header :: rest, ok => by
    obtain ⟨middle, first, later⟩ := bind_eq_ok.mp ok
    intro other mem
    rcases List.mem_cons.mp mem with rfl | mem
    · exact ⟨_, _, first⟩
    · exact parseSubtables_dispatched later other mem

theorem otsCmapParse_tableBytes_format13_ne_ok {cmap : OpenTypeCMAP} {input : List UInt8}
    {file file' : OpenTypeFile} (present : cmap.have31013 = true) (few : cmap.subtable31013.length < 65536)
    (below : cmap.offset31013 input < 2 ^ 32) :
    otsCmapParse file (cmap.tableBytes input) ≠ .ok file' := by
  intro reaccepted
  obtain ⟨_, headers, _, good, run, -, records, _, readBack, fields⟩ := otsCmapParse_eq_ok reaccepted
  obtain ⟨count, _, writtenBack⟩ := readSubtableHeaders_tableBytes cmap input
  rw [count, writtenBack] at readBack
  cases readBack
  -- The body of the (3,10,13) slot, and its record.
  have standing := cmap.tableBytes_drop_offset31013 input
  rw [OpenTypeCMAP.body31013, present, slotBytes_true] at standing
  have room := room_of_drop standing (by simp [groupsBody])
  simp only [groupsBody, List.length_append, length_toBigEndian, length_groupRecordBytes] at room
  have mem : (⟨3, 10, cmap.offset31013 input, 0, 0⟩ : CMAPSubtableHeader).wrapped ∈
      (cmap.headers input).map CMAPSubtableHeader.wrapped :=
    List.mem_map_of_mem _ (by simp [OpenTypeCMAP.headers, mem_slotList, present])
  have listed := List.mem_map_of_mem (·.listed) mem
  rw [← fields] at listed
  obtain ⟨header, inHeaders, same⟩ := List.mem_map.mp listed
  obtain ⟨checked, framed⟩ := good header inHeaders
  obtain ⟨_, _, dispatched⟩ := parseSubtables_dispatched run header inHeaders
  simp only [CMAPSubtableHeader.listed, CMAPSubtableHeader.wrapped, Prod.mk.injEq, Nat.reducePow,
    Nat.reduceMod, Nat.mod_eq_of_lt (show cmap.offset31013 input < 4294967296 from below)] at same
  obtain ⟨platform, encoding, offset⟩ := same
  -- As the format and length loop frames it: format 13, and the length field the writer gave it.
  have isFormat13 : header.format = 13 := by
    rw [framed.1, offset]
    simpa using field_of_drop standing (show 0 + 2 ≤ (groupsBody 13 14 _).length by simp [groupsBody])
  have isLength : header.length = cmap.subtable31013.length * 12 + 14 := by
    rw [framed.2.2.1 (.inr isFormat13), offset, field_of_drop standing (by simp [groupsBody]; omega),
      show groupsBody 13 14 cmap.subtable31013 = (toBigEndian 2 13 ++ toBigEndian 2 0) ++
          toBigEndian 4 (cmap.subtable31013.length * 12 + 14) ++ (toBigEndian 4 0 ++
          toBigEndian 4 cmap.subtable31013.length ++ groupRecordBytes cmap.subtable31013) by
        simp [groupsBody],
      field_toBigEndian (by simp), Nat.mod_eq_of_lt (by omega)]
  have window := checked.window_le
  obtain ⟨_, _, _, _, _⟩ := header
  simp only at platform encoding offset isFormat13 isLength window
  subst platform encoding offset isFormat13 isLength
  rw [parseSubtable_31013 window, parse31013_groupsBody standing few _ _ (by omega)] at dispatched
  cases dispatched

/-- Sanitising a table with a (3,10,13) slot writes a table that every second sanitising rejects,
whatever OS/2 and maxp tables it runs with. -/
theorem otsCmapParse_serialise_format13_rejected {file file' file₂ : OpenTypeFile} {input table : List UInt8}
    {out out' : OTSStream} (accepted : otsCmapParse file input = .ok file')
    (format13 : file'.cmap.subtable31013 ≠ [])
    (written : otsCmapSerialise out input file'.cmap = .ok out')
    (wrote : (out'.bytes.drop out.position).take (out'.position - out.position) = table) :
    otsCmapParse file₂ table = .error .failure := by
  have inside := (otsCmapParse_safe file input).of_ok accepted
  rw [otsCmapSerialise_written inside written] at wrote
  subst wrote
  have present : file'.cmap.have31013 = true := by simpa [OpenTypeCMAP.have31013] using format13
  have groups := ((otsCmapParse_accepted file input).of_ok accepted).choose_spec.2
  have few := groups.groups13.bounded
  unfold kMaxCMAPGroups at few
  have below := file'.cmap.offset31013_lt ((otsCmapParse_windows accepted).choose_spec.2)
    groups.groups12.bounded
  have safe := otsCmapParse_safe file₂ (file'.cmap.tableBytes input)
  cases reparse : otsCmapParse file₂ (file'.cmap.tableBytes input) with
  | ok file'' => exact absurd reparse (otsCmapParse_tableBytes_format13_ne_ok present (by omega) below)
  | error stop =>
    rw [reparse] at safe
    exact congrArg Except.error safe

def fallbackTable : List UInt8 :=
  [0, 0, 0, 2, 0, 3, 0, 1, 0, 0, 0, 20, 0, 3, 0, 10, 0, 0, 0, 44,
    0, 4, 0, 24, 0, 0, 0, 2, 0, 2, 0, 0, 0, 0, 0xFF, 0xFF, 0, 0, 0xFF, 0xFF, 0, 1, 0, 0,
    0, 13, 0, 0, 0, 0, 0, 26, 0, 0, 0, 0, 0, 1, 0, 0, 0, 0x41, 0, 0, 0, 0x41, 0, 0, 0, 0]

def sanitizedFallbackTable : List UInt8 :=
  [0, 0, 0, 2, 0, 3, 0, 1, 0, 0, 0, 20, 0, 3, 0, 10, 0, 0, 0, 44,
    0, 4, 0, 24, 0, 0, 0, 2, 0, 2, 0, 0, 0, 0, 0xFF, 0xFF, 0, 0, 0xFF, 0xFF, 0, 1, 0, 0,
    0, 13, 0, 0, 0, 0, 0, 26, 0, 0, 0, 0, 0, 0, 0, 1, 0, 0, 0, 0x41, 0, 0, 0, 0x41, 0, 0, 0, 0]

/-- The sanitized table is not accepted again. -/
theorem sanitizedFallbackTable_rejected :
    otsCmapParse { os2 := some ⟨0x20, 0x7E⟩, maxp := some ⟨3⟩ } fallbackTable =
        .ok { cmap := { subtable314 := some ⟨20, 24⟩, subtable31013 := [⟨0x41, 0x41, 0⟩] },
              os2 := some ⟨0x20, 0x7E⟩, maxp := some ⟨3⟩ } ∧
      (·.bytes) <$> otsCmapSerialise ⟨List.replicate 72 0, 0, []⟩ fallbackTable
          { subtable314 := some ⟨20, 24⟩, subtable31013 := [⟨0x41, 0x41, 0⟩] } =
        .ok sanitizedFallbackTable ∧
      otsCmapParse { os2 := some ⟨0x20, 0x7E⟩, maxp := some ⟨3⟩ } sanitizedFallbackTable =
        .error .failure :=
  ⟨rfl, rfl, rfl⟩

theorem sanitizedFallbackTable_never_accepted :
    otsCmapParse { os2 := some ⟨0x20, 0x7E⟩, maxp := some ⟨3⟩ } sanitizedFallbackTable = .error .failure :=
  @otsCmapParse_serialise_format13_rejected { os2 := some ⟨0x20, 0x7E⟩, maxp := some ⟨3⟩ }
    { cmap := { subtable314 := some ⟨20, 24⟩, subtable31013 := [⟨0x41, 0x41, 0⟩] },
      os2 := some ⟨0x20, 0x7E⟩, maxp := some ⟨3⟩ }
    { os2 := some ⟨0x20, 0x7E⟩, maxp := some ⟨3⟩ } fallbackTable sanitizedFallbackTable
    ⟨List.replicate 72 0, 0, []⟩
    ⟨({ subtable314 := some ⟨20, 24⟩, subtable31013 := [⟨0x41, 0x41, 0⟩] } : OpenTypeCMAP).tableBytes
        fallbackTable, 72,
      [] ++ ({ subtable314 := some ⟨20, 24⟩, subtable31013 := [⟨0x41, 0x41, 0⟩] } : OpenTypeCMAP).checksummed
        fallbackTable⟩
    rfl (List.cons_ne_nil _ _) (by rfl) (by rfl)

end OtsCmap
