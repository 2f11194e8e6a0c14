import OtsCmap.CharIndex
import OtsCmap.Resanitise

/-! The `OS/2` char indices over two sanitisings. The ordering loop of `Parse3x4` folds each segment
it reads, from the second on, into the first and last char index of `OS/2`. The serialiser copies the
format-4 subtables verbatim, so a second sanitising, started from the `OS/2` the first one left,
reads the same segments, finds each already covered, and leaves `OS/2` as it was. -/
namespace OtsCmap

def OpenTypeOS2.Covers (os2 : OpenTypeOS2) (range : Subtable314Range) : Prop :=
  (os2.firstCharIndex ≠ 0xFFFF → range.startRange ≠ 0xFFFF → os2.firstCharIndex ≤ range.startRange) ∧
    (os2.lastCharIndex ≠ 0xFFFF → range.endRange ≠ 0xFFFF → range.endRange ≤ os2.lastCharIndex)

section Covers

variable {os2 : OpenTypeOS2} {range : Subtable314Range}

theorem fixCharIndex_eq_self (covers : os2.Covers range) : fixCharIndex os2 range = os2 := by
  obtain ⟨first, last⟩ := covers
  cases os2
  simp only [fixCharIndex, OpenTypeOS2.mk.injEq] at first last ⊢
  constructor <;> split_ifs <;> omega

theorem covers_fixCharIndex (os2 : OpenTypeOS2) (range : Subtable314Range) :
    (fixCharIndex os2 range).Covers range := by
  unfold OpenTypeOS2.Covers fixCharIndex
  constructor <;> dsimp only <;> split_ifs <;> omega

theorem OpenTypeOS2.Covers.fixCharIndex (covers : os2.Covers range) (other : Subtable314Range) :
    (OtsCmap.fixCharIndex os2 other).Covers range := by
  obtain ⟨first, last⟩ := covers
  unfold OpenTypeOS2.Covers OtsCmap.fixCharIndex
  constructor <;> dsimp only <;> split_ifs <;> omega

theorem OpenTypeOS2.Covers.foldl : ∀ {os2 : OpenTypeOS2}, os2.Covers range →
    ∀ ranges : List Subtable314Range, (ranges.foldl OtsCmap.fixCharIndex os2).Covers range
  | _, covers, [] => covers
  | _, covers, other :: ranges => OpenTypeOS2.Covers.foldl (covers.fixCharIndex other) ranges

theorem covers_foldl_fixCharIndex : ∀ (ranges : List Subtable314Range) (os2 : OpenTypeOS2),
    ∀ range ∈ ranges, (ranges.foldl fixCharIndex os2).Covers range
  | [], _, _, mem => absurd mem (List.not_mem_nil _)
  | other :: ranges, os2, range, mem => by
    rcases List.mem_cons.mp mem with rfl | mem
    · exact (covers_fixCharIndex os2 range).foldl ranges
    · exact covers_foldl_fixCharIndex ranges _ range mem

theorem foldl_fixCharIndex_eq_self : ∀ {ranges : List Subtable314Range} {os2 : OpenTypeOS2},
    (∀ range ∈ ranges, os2.Covers range) → ranges.foldl fixCharIndex os2 = os2
  | [], _, _ => rfl
  | range :: ranges, os2, covers => by
    rw [List.foldl_cons, fixCharIndex_eq_self (covers range (List.mem_cons_self _ _))]
    exact foldl_fixCharIndex_eq_self fun other mem => covers other (List.mem_cons_of_mem _ mem)

end Covers

def OpenTypeOS2.CoversWindow (os2 : OpenTypeOS2) (input : List UInt8) (data : Slice) : Prop :=
  ∀ segcount subtable ranges, readSegCount input (Buffer.ofSlice data) = .ok (segcount, subtable) →
    readRanges input subtable segcount = .ok ranges → ∀ range ∈ ranges.drop 1, os2.Covers range

section CoversWindow

variable {os2 : OpenTypeOS2} {input input' : List UInt8} {data data' : Slice}

theorem OpenTypeOS2.CoversWindow.foldl (covered : os2.CoversWindow input data)
    (ranges : List Subtable314Range) : (ranges.foldl fixCharIndex os2).CoversWindow input data :=
  fun segcount subtable segments counted read range mem =>
    (covered segcount subtable segments counted read range mem).foldl ranges

theorem OpenTypeOS2.CoversWindow.moved (covered : os2.CoversWindow input data)
    (moved : Slice.Moved input data input' data') : os2.CoversWindow input' data' := by
  intro segcount subtable ranges counted read
  obtain ⟨⟨_, subtable₀⟩, counted₀, same, follows⟩ :=
    (readSegCount_moved moved.symm (Buffer.Moved.ofSlice data' data)).of_ok counted
  dsimp only at same; subst same
  obtain ⟨_, read₀, rfl⟩ := (readRanges_moved moved.symm follows segcount).of_ok read
  exact covered _ _ _ counted₀ read₀

end CoversWindow

structure OpenTypeFile.Folded (input : List UInt8) (file : OpenTypeFile) : Prop where
  subtable304 : ∀ data ∈ file.cmap.subtable304, ∃ os2 ∈ file.os2, os2.CoversWindow input data
  subtable314 : ∀ data ∈ file.cmap.subtable314, ∃ os2 ∈ file.os2, os2.CoversWindow input data

section Folded

variable {input : List UInt8} {numGlyphs : Nat} {file file' : OpenTypeFile}

theorem OpenTypeFile.Folded.parse3x4 (folded : file.Folded input) {encoding : Nat} {data : Slice}
    (accepted : parse3x4 file encoding input data numGlyphs = .ok file') : file'.Folded input := by
  obtain ⟨os2, segcount, subtable, ranges, os2', found, counted, read, ordered, -, -, slot⟩ :=
    parse3x4_eq_ok.mp accepted
  rw [checkOrder_os2 ordered] at slot
  have fresh : ((ranges.drop 1).foldl fixCharIndex os2).CoversWindow input data := by
    intro _ _ _ counted' read'
    obtain ⟨rfl, rfl⟩ := Prod.mk.inj (Except.ok.inj (counted.symm.trans counted'))
    cases read.symm.trans read'
    exact covers_foldl_fixCharIndex _ os2
  have kept : ∀ other, (∃ current ∈ file.os2, current.CoversWindow input other) →
      ((ranges.drop 1).foldl fixCharIndex os2).CoversWindow input other := by
    rintro _ ⟨current, mem, covered⟩
    cases found.symm.trans mem
    exact covered.foldl _
  rcases slot with ⟨-, rfl⟩ | ⟨-, rfl⟩
  · exact ⟨fun _ mem => by cases mem; exact ⟨_, rfl, fresh⟩,
      fun other mem => ⟨_, rfl, kept other (folded.subtable314 other mem)⟩⟩
  · exact ⟨fun other mem => ⟨_, rfl, kept other (folded.subtable304 other mem)⟩,
      fun _ mem => by cases mem; exact ⟨_, rfl, fresh⟩⟩

theorem OpenTypeFile.Folded.dispatch (folded : file.Folded input) {header : CMAPSubtableHeader}
    (checked : header.Checked input.length)
    (ok : parseSubtable input ⟨0, input.length⟩ numGlyphs file header = .ok file') : file'.Folded input := by
  rcases parseSubtable_eq_ok checked ok with ⟨-, _, accepted⟩ | ⟨-, accepted⟩ | ⟨same304, same314, -, same⟩
  · exact folded.parse3x4 accepted
  · have inside : Slice.Inside input ⟨header.offset, header.length⟩ := checked.window_le
    obtain rfl := (parse0514_safe file inside numGlyphs).of_ok accepted
    exact ⟨folded.subtable304, folded.subtable314⟩
  · refine ⟨fun data mem => ?_, fun data mem => ?_⟩
    · rw [same304] at mem; rw [same]; exact folded.subtable304 data mem
    · rw [same314] at mem; rw [same]; exact folded.subtable314 data mem

theorem OpenTypeFile.Folded.parseSubtables : ∀ {file : OpenTypeFile} {headers : List CMAPSubtableHeader},
    (∀ header ∈ headers, header.Checked input.length) → file.Folded input →
      parseSubtables input ⟨0, input.length⟩ numGlyphs file headers = .ok file' → file'.Folded input
  | _, [], _, folded, ok => by cases ok; exact folded
  | _, header :: rest, checked, folded, ok => by
    obtain ⟨middle, first, later⟩ := bind_eq_ok.mp ok
    exact OpenTypeFile.Folded.parseSubtables (fun other mem => checked other (List.mem_cons_of_mem _ mem))
      (folded.dispatch (checked header (List.mem_cons_self _ _)) first) later

theorem OpenTypeFile.Folded.os2 (folded : file.Folded input)
    (mapped : file.cmap.subtable304.isSome ∨ file.cmap.subtable314.isSome) :
    ∃ os2, file.os2 = some os2 ∧ (∀ data ∈ file.cmap.subtable304, os2.CoversWindow input data) ∧
      ∀ data ∈ file.cmap.subtable314, os2.CoversWindow input data := by
  obtain ⟨os2, present⟩ : ∃ os2, file.os2 = some os2 := by
    rcases mapped with filled | filled <;> obtain ⟨data, found⟩ := Option.isSome_iff_exists.mp filled
    exacts [(folded.subtable304 data found).imp fun _ => And.left,
      (folded.subtable314 data found).imp fun _ => And.left]
  have only : ∀ data, (∃ current ∈ file.os2, current.CoversWindow input data) → os2.CoversWindow input data := by
    rintro _ ⟨current, mem, covered⟩
    cases present.symm.trans mem
    exact covered
  exact ⟨os2, present, fun data mem => only data (folded.subtable304 data mem),
    fun data mem => only data (folded.subtable314 data mem)⟩

end Folded

theorem otsCmapParse_folded {file file' : OpenTypeFile} {input : List UInt8}
    (accepted : otsCmapParse file input = .ok file') : file'.Folded input := by
  obtain ⟨_, headers, -, good, run, -⟩ := otsCmapParse_eq_ok accepted
  exact OpenTypeFile.Folded.parseSubtables (fun header mem => (good header mem).1)
    ⟨fun _ mem => absurd mem (Option.not_mem_none _), fun _ mem => absurd mem (Option.not_mem_none _)⟩ run

section Kept

variable {input : List UInt8} {numGlyphs : Nat} {file file' : OpenTypeFile}

theorem parseSubtable_os2_eq {header : CMAPSubtableHeader} (checked : header.Checked input.length)
    (covered : header.format = 4 → ∀ os2 ∈ file.os2, os2.CoversWindow input ⟨header.offset, header.length⟩)
    (ok : parseSubtable input ⟨0, input.length⟩ numGlyphs file header = .ok file') :
    file'.os2 = file.os2 := by
  rcases parseSubtable_eq_ok checked ok with ⟨four, _, accepted⟩ | ⟨-, accepted⟩ | ⟨-, -, -, same⟩
  · obtain ⟨os2, segcount, subtable, ranges, os2', found, counted, read, ordered, -, -, slot⟩ :=
      parse3x4_eq_ok.mp accepted
    have fixed : os2' = os2 := (checkOrder_os2 ordered).trans
      (foldl_fixCharIndex_eq_self (covered four os2 found segcount subtable ranges counted read))
    rcases slot with ⟨-, rfl⟩ | ⟨-, rfl⟩ <;> exact fixed ▸ found.symm
  · have inside : Slice.Inside input ⟨header.offset, header.length⟩ := checked.window_le
    obtain rfl := (parse0514_safe file inside numGlyphs).of_ok accepted
    rfl
  · exact same

theorem parseSubtables_os2_eq : ∀ {file : OpenTypeFile} {headers : List CMAPSubtableHeader},
    (∀ header ∈ headers, header.Checked input.length ∧
      (header.format = 4 → ∀ os2 ∈ file.os2, os2.CoversWindow input ⟨header.offset, header.length⟩)) →
    parseSubtables input ⟨0, input.length⟩ numGlyphs file headers = .ok file' → file'.os2 = file.os2
  | _, [], _, ok => by cases ok; rfl
  | _, header :: rest, good, ok => by
    obtain ⟨middle, first, later⟩ := bind_eq_ok.mp ok
    have ⟨checked, covered⟩ := good header (List.mem_cons_self _ _)
    have same := parseSubtable_os2_eq checked covered first
    exact (parseSubtables_os2_eq (fun other mem => same ▸ good other (List.mem_cons_of_mem _ mem)) later).trans
      same

end Kept

theorem CMAPSubtableHeader.Written.checked {table : List UInt8} {dataOffset : Nat} {header : CMAPSubtableHeader}
    (written : header.Written table dataOffset) (small : table.length ≤ 1024 * 1024 * 1024) :
    header.Checked table.length := by
  have inside := written.inside
  refine ⟨by omega, by omega, inside, fun four => ?_⟩
  rw [written.framed.2.1 (.inr four)]
  exact field_lt table _ 2

theorem OpenTypeCMAP.Reparsable.directory_covered {cmap : OpenTypeCMAP} {input : List UInt8} {numGlyphs : Nat}
    (good : cmap.Reparsable input numGlyphs) {os2 : OpenTypeOS2}
    (folded304 : ∀ data ∈ cmap.subtable304, os2.CoversWindow input data)
    (folded314 : ∀ data ∈ cmap.subtable314, os2.CoversWindow input data) :
    ∀ header ∈ cmap.directory input, header.format = 4 →
      os2.CoversWindow (cmap.tableBytes input) ⟨header.offset, header.length⟩ := by
  intro header mem four
  simp only [OpenTypeCMAP.directory, List.mem_append, mem_slotList] at mem
  rcases mem with ((((⟨-, rfl⟩ | ⟨-, rfl⟩) | ⟨present, rfl⟩) | ⟨present, rfl⟩) | ⟨-, rfl⟩) | ⟨-, rfl⟩
  · simp at four
  · simp at four
  · obtain ⟨data, found, length, moved⟩ := good.slot304 present
    rw [length]
    exact (folded304 data found).moved moved
  · obtain ⟨data, found, length, moved⟩ := good.slot314 present
    rw [length]
    exact (folded314 data found).moved moved
  · simp at four
  · simp at four

/-- The `OS/2` char indices are a fixed point of sanitising. Started from the `OS/2` the first
sanitising left and from the same `maxp`, the second sanitising accepts the table the serialiser
wrote and leaves `OS/2` as it found it: each segment it folds in is one the first sanitising folded
in already. -/
theorem otsCmapParse_serialise_os2 {file file' file₂ : OpenTypeFile} {input table : List UInt8}
    {out out' : OTSStream} (accepted : otsCmapParse file input = .ok file')
    (noFormat13 : file'.cmap.subtable31013 = [])
    (written : otsCmapSerialise out input file'.cmap = .ok out')
    (wrote : (out'.bytes.drop out.position).take (out'.position - out.position) = table)
    (small : table.length ≤ 1024 * 1024 * 1024)
    (sameMaxp : file₂.maxp = file.maxp) (sameOS2 : file₂.os2 = file'.os2) :
    ∃ file'', otsCmapParse file₂ table = .ok file'' ∧ file''.os2 = file'.os2 := by
  obtain ⟨rfl, maxp, found, good⟩ := otsCmapSerialise_reparsable accepted noFormat13 written wrote small
  obtain ⟨os2, present, folded304, folded314⟩ := (otsCmapParse_folded accepted).os2 good.mapped
  obtain ⟨file'', run, -, -⟩ := good.reaches_directory
    (show ({ file₂ with cmap := {} } : OpenTypeFile).os2.isSome by simp [sameOS2, present]) rfl
  refine ⟨file'', (good.otsCmapParse_tableBytes_eq (sameMaxp.trans found)).trans run, ?_⟩
  refine (parseSubtables_os2_eq (fun header mem => ⟨(good.directory_written header mem).checked good.small,
    fun four other mem' => ?_⟩) run).trans sameOS2
  obtain rfl : other = os2 := Option.some.inj (mem'.symm.trans (sameOS2.trans present))
  exact good.directory_covered folded304 folded314 header mem four

def unicodeSegmentsTable : List UInt8 :=
  [0, 0, 0, 1, 0, 3, 0, 1, 0, 0, 0, 12,
    0, 4, 0, 40, 0, 0, 0, 6, 0, 4, 0, 1, 0, 2,
    0, 0x30, 0, 0x41, 0xFF, 0xFF, 0, 0,
    0, 0x30, 0, 0x41, 0xFF, 0xFF,
    0xFF, 0xD2, 0xFF, 0xC0, 0, 1,
    0, 0, 0, 0, 0, 0]

theorem unicodeSegmentsTable_os2 :
    ∃ file'', otsCmapParse { os2 := some ⟨0x41, 0x41⟩, maxp := some ⟨3⟩ } unicodeSegmentsTable = .ok file'' ∧
      file''.os2 = some ⟨0x41, 0x41⟩ :=
  @otsCmapParse_serialise_os2 { os2 := some ⟨0x50, 0x30⟩, maxp := some ⟨3⟩ }
    { cmap := { subtable314 := some ⟨12, 40⟩ }, os2 := some ⟨0x41, 0x41⟩, maxp := some ⟨3⟩ }
    { os2 := some ⟨0x41, 0x41⟩, maxp := some ⟨3⟩ } unicodeSegmentsTable unicodeSegmentsTable
    ⟨List.replicate 52 0, 0, []⟩
    ⟨({ subtable314 := some ⟨12, 40⟩ } : OpenTypeCMAP).tableBytes unicodeSegmentsTable, 52,
      [] ++ ({ subtable314 := some ⟨12, 40⟩ } : OpenTypeCMAP).checksummed unicodeSegmentsTable⟩
    (by rfl) rfl (by rfl) (by rfl) (by decide) rfl rfl

end OtsCmap
