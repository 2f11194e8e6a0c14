import OtsCmap.RoundTrip
import OtsCmap.Slots

/-! The sanitiser run on its own output. Without a (3,10,13) slot, whose body the parser does not
read back, the table `ots_cmap_serialise` writes for an accepted table is accepted again: its
directory is read back record by record and passes the offset, length and overlap checks, and each
record's body reaches the parser that accepted it the first time. The table read back holds the
same slots, its opaque ones at the windows the serialiser copied them to, so that serialising it
writes the same bytes again. -/
namespace OtsCmap

theorem field_of_drop {input bytes rest : List UInt8} {offset : Nat}
    (standing : input.drop offset = bytes ++ rest) {position width : Nat}
    (within : position + width ≤ bytes.length) :
    field input (offset + position) width = field bytes position width := by
  unfold field
  rw [← List.drop_drop, standing, List.drop_append_of_le_length (by omega),
    List.take_append_of_le_length (by simp; omega)]

theorem field_toBigEndian {before after : List UInt8} {position width value : Nat}
    (placed : before.length = position) :
    field (before ++ toBigEndian width value ++ after) position width = value % 256 ^ width := by
  rw [field, List.append_assoc, ← placed, List.drop_left, List.take_left' (length_toBigEndian _ _),
    bigEndian_toBigEndian]

theorem room_of_drop {input bytes rest : List UInt8} {offset : Nat}
    (standing : input.drop offset = bytes ++ rest) (nonempty : 0 < bytes.length) :
    offset + bytes.length ≤ input.length := by
  have room := congrArg List.length standing
  simp only [List.length_drop, List.length_append] at room
  omega

theorem Buffer.read_table {table : List UInt8} {buffer : Buffer} (reads : buffer.On ⟨0, table.length⟩)
    {offset width : Nat} (fits : offset + width ≤ table.length) :
    { buffer with offset := offset }.read table width =
      .ok (field table offset width, { buffer with offset := offset + width }) := by
  obtain ⟨base, length⟩ := reads
  dsimp only at base length
  exact Buffer.read_eq_ok.mpr ⟨by simp only [length]; omega, by simp only [base]; omega,
    by simp only [base, Nat.zero_add], rfl⟩

theorem Buffer.skip_table {table : List UInt8} {buffer : Buffer} (reads : buffer.On ⟨0, table.length⟩)
    {offset count : Nat} (fits : offset + count ≤ table.length) :
    { buffer with offset := offset }.skip count = .ok { buffer with offset := offset + count } :=
  Buffer.skip_eq_ok.mpr ⟨by simp only [reads.2]; exact fits, rfl⟩

structure CMAPSubtableHeader.Written (table : List UInt8) (dataOffset : Nat)
    (header : CMAPSubtableHeader) : Prop where
  past : dataOffset ≤ header.offset
  long : 8 ≤ header.length
  inside : header.offset + header.length ≤ table.length
  framed : header.Framed table
  known : header.format = 0 ∨ header.format = 4 ∨ header.format = 12 ∨ header.format = 14

section ReadBack

variable {table : List UInt8} {dataOffset : Nat} {directory : Buffer}

theorem recoverLength_written (reads : directory.On ⟨0, table.length⟩) {header : CMAPSubtableHeader}
    (written : header.Written table dataOffset) (format length : Nat) :
    recoverLength table directory { header with format := format, length := length } = .ok header := by
  obtain ⟨-, long, inside, ⟨formatField, short, wide, variation⟩, known⟩ := written
  obtain ⟨platform, encoding, offset, format, length⟩ := header
  dsimp only at long inside formatField short wide variation known ⊢
  simp only [recoverLength, Buffer.readU16, Buffer.readU32, Buffer.setOffset,
    Buffer.read_table reads (show offset + 2 ≤ table.length by omega), ← formatField, ok_bind]
  rcases known with rfl | rfl | rfl | rfl
  · simp only [Buffer.read_table reads (show offset + 2 + 2 ≤ table.length by omega),
      ← short (.inl rfl), ok_bind, pure, Except.pure]
  · simp only [Buffer.read_table reads (show offset + 2 + 2 ≤ table.length by omega),
      ← short (.inr rfl), ok_bind, pure, Except.pure]
  · simp only [Buffer.skip_table reads (show offset + 2 + 2 ≤ table.length by omega),
      Buffer.read_table reads (show offset + 2 + 2 + 4 ≤ table.length by omega),
      show offset + 2 + 2 = offset + 4 by omega, ← wide (.inl rfl), ok_bind, pure, Except.pure]
  · simp only [Buffer.read_table reads (show offset + 2 + 4 ≤ table.length by omega),
      ← variation rfl, ok_bind, pure, Except.pure]

theorem recoverLengths_written (reads : directory.On ⟨0, table.length⟩) :
    ∀ {headers : List CMAPSubtableHeader}, (∀ header ∈ headers, header.Written table dataOffset) →
      recoverLengths table directory
        (headers.map fun header => { header with format := 0, length := 0 }) = .ok headers
  | [], _ => rfl
  | header :: rest, written => by
    simp only [List.map_cons, recoverLengths,
      recoverLength_written reads (written header (List.mem_cons_self _ _)),
      recoverLengths_written reads fun other mem => written other (List.mem_cons_of_mem _ mem), ok_bind]
    rfl

theorem checkOffsets_eq_ok {length : Nat} :
    ∀ {headers : List CMAPSubtableHeader} {i lastId : Nat},
      (∀ header ∈ headers,
        header.offset ≤ 1024 * 1024 * 1024 ∧ dataOffset ≤ header.offset ∧ header.offset < length) →
      headers.Pairwise (fun a b => a.id < b.id) → (i ≠ 0 → ∀ header ∈ headers, lastId < header.id) →
        checkOffsets length dataOffset headers i lastId = .ok ()
  | [], _, _, _, _, _ => rfl
  | header :: rest, i, lastId, placed, sorted, above => by
    obtain ⟨small, past, inside⟩ := placed header (List.mem_cons_self _ _)
    obtain ⟨first, sorted⟩ := List.pairwise_cons.mp sorted
    have order : ¬(i ≠ 0 ∧ lastId ≥ header.id) := fun ⟨nonzero, reversed⟩ => by
      have := above nonzero header (List.mem_cons_self _ _); omega
    simp only [checkOffsets, failIf_bind]
    rw [if_neg (by omega), if_neg (by omega), if_neg order]
    exact checkOffsets_eq_ok (fun other mem => placed other (List.mem_cons_of_mem _ mem)) sorted
      fun _ => first

theorem checkLength_written {header : CMAPSubtableHeader} (written : header.Written table dataOffset)
    (small : table.length ≤ 1024 * 1024 * 1024) : checkLength table.length header = .ok () := by
  have inside := written.inside; have long := written.long
  simp only [checkLength, failIf_bind, addNoWrap]
  rw [if_neg (by omega), if_neg (by omega), if_pos (by omega), ok_bind]
  exact failIf_eq_ok.mpr (by omega)

end ReadBack

section Bodies

variable {input table rest : List UInt8} {numGlyphs offset dataOffset : Nat}

theorem Format4At.written {data : Slice} (at4 : Format4At input numGlyphs data)
    (moved : Slice.Moved input data table ⟨offset, data.length⟩) (past : dataOffset ≤ offset)
    (platform encoding : Nat) :
    CMAPSubtableHeader.Written table dataOffset ⟨platform, encoding, offset, 4, data.length⟩ := by
  have format := moved.field (show 0 + 2 ≤ data.length by have := at4.long; omega)
  have length := moved.field (show 2 + 2 ≤ data.length by have := at4.long; omega)
  simp only [Nat.add_zero, at4.format, at4.length] at format length
  exact ⟨past, at4.long, moved.inside', ⟨format.symm, fun _ => length.symm, by simp, by simp⟩, by simp⟩

theorem Format14At.written {data : Slice} (at14 : Format14At input numGlyphs data)
    (moved : Slice.Moved input data table ⟨offset, data.length⟩) (past : dataOffset ≤ offset)
    (platform encoding : Nat) :
    CMAPSubtableHeader.Written table dataOffset ⟨platform, encoding, offset, 14, data.length⟩ := by
  have format := moved.field (show 0 + 2 ≤ data.length by have := at14.long; omega)
  have length := moved.field (show 2 + 4 ≤ data.length by have := at14.long; omega)
  simp only [Nat.add_zero, at14.format, at14.length] at format length
  exact ⟨past, at14.long, moved.inside', ⟨format.symm, by simp, by simp, fun _ => length.symm⟩, by simp⟩

theorem macRomanBody_written {glyphIds : List Nat} (full : glyphIds.length = kFormat0ArraySize)
    (standing : table.drop offset = macRomanBody glyphIds ++ rest) (past : dataOffset ≤ offset) :
    CMAPSubtableHeader.Written table dataOffset ⟨1, 0, offset, 0, (macRomanBody glyphIds).length⟩ := by
  have length : (macRomanBody glyphIds).length = 6 + kFormat0ArraySize := by
    simp [macRomanBody, full]; omega
  have format := field_of_drop standing (show 0 + 2 ≤ _ by unfold kFormat0ArraySize at length; omega)
  have size := field_of_drop standing (show 2 + 2 ≤ _ by unfold kFormat0ArraySize at length; omega)
  rw [show macRomanBody glyphIds = [] ++ toBigEndian 2 0 ++ (toBigEndian 2 (6 + kFormat0ArraySize) ++
      toBigEndian 2 0 ++ (glyphIds.take kFormat0ArraySize).map UInt8.ofNat) by simp [macRomanBody],
    field_toBigEndian (show ([] : List UInt8).length = 0 from rfl)] at format
  rw [show macRomanBody glyphIds = toBigEndian 2 0 ++ toBigEndian 2 (6 + kFormat0ArraySize) ++
      (toBigEndian 2 0 ++ (glyphIds.take kFormat0ArraySize).map UInt8.ofNat) by simp [macRomanBody],
    field_toBigEndian (length_toBigEndian 2 0)] at size
  unfold kFormat0ArraySize at length size
  norm_num at size
  refine ⟨past, ?_, room_of_drop standing (by omega), ⟨format.symm, fun _ => ?_, by simp, by simp⟩, by simp⟩ <;>
    dsimp only <;> omega

theorem groupsBody_written {groups : List OpenTypeCMAPSubtableRange} (bounded : groups.length ≤ kMaxCMAPGroups)
    (standing : table.drop offset = groupsBody 12 16 groups ++ rest) (past : dataOffset ≤ offset) :
    CMAPSubtableHeader.Written table dataOffset ⟨3, 10, offset, 12, (groupsBody 12 16 groups).length⟩ := by
  have length := length_groupsBody 12 16 groups
  have format := field_of_drop standing (show 0 + 2 ≤ _ by omega)
  have size := field_of_drop standing (show 4 + 4 ≤ _ by omega)
  rw [show groupsBody 12 16 groups = [] ++ toBigEndian 2 12 ++ (toBigEndian 2 0 ++
      toBigEndian 4 (groups.length * 12 + 16) ++ toBigEndian 4 0 ++ toBigEndian 4 groups.length ++
      groupRecordBytes groups) by simp [groupsBody],
    field_toBigEndian (show ([] : List UInt8).length = 0 from rfl)] at format
  rw [show groupsBody 12 16 groups = (toBigEndian 2 12 ++ toBigEndian 2 0) ++
      toBigEndian 4 (groups.length * 12 + 16) ++ (toBigEndian 4 0 ++ toBigEndian 4 groups.length ++
      groupRecordBytes groups) by simp [groupsBody],
    field_toBigEndian (show (toBigEndian 2 12 ++ toBigEndian 2 0).length = 4 by simp)] at size
  unfold kMaxCMAPGroups at bounded
  refine ⟨past, ?_, room_of_drop standing (by omega), ⟨format.symm, by simp, fun _ => ?_, by simp⟩, by simp⟩ <;>
    dsimp only <;> omega

end Bodies

theorem checkOverlap_eq_ok_of_disjoint {headers : List CMAPSubtableHeader}
    (noWrap : ∀ header ∈ headers, header.offset + header.length < 2 ^ 32)
    (disjoint : ∀ a ∈ headers, ∀ b ∈ headers, a.extent ≠ b.extent →
      a.offset + a.length ≤ b.offset ∨ b.offset + b.length ≤ a.offset) :
    checkOverlap headers = .ok () := by
  have ordered : ∀ extent ∈ uniquePairs [] (headers.map (·.extent)), extent.1 ≤ extent.2 := by
    simp only [mem_uniquePairs, List.mem_map]
    rintro _ ⟨⟨header, _, rfl⟩, _⟩
    exact Nat.le_add_right _ _
  have sweeps : sweep (((uniquePairs [] (headers.map (·.extent))).flatMap extentEvents).insertionSort
      EventLE) 0 = true := by
    by_contra stops
    obtain ⟨_, first, _, second, distinct, over⟩ :=
      (sweep_insertionSort_eq_false nodup_uniquePairs ordered).mp (by simpa using stops)
    simp only [mem_uniquePairs, List.mem_map] at first second
    obtain ⟨⟨a, ma, rfl⟩, -⟩ := first
    obtain ⟨⟨b, mb, rfl⟩, -⟩ := second
    have := disjoint a ma b mb distinct
    simp only [CMAPSubtableHeader.extent] at over
    omega
  simp [checkOverlap, overlapEvents_eq noWrap, sweeps, failIf]

theorem parseSubtables_append {input : List UInt8} {data : Slice} {numGlyphs : Nat} :
    ∀ (file : OpenTypeFile) (first second : List CMAPSubtableHeader),
      parseSubtables input data numGlyphs file (first ++ second) =
        parseSubtables input data numGlyphs file first >>= fun file =>
          parseSubtables input data numGlyphs file second
  | _, [], _ => rfl
  | file, header :: first, second => by
    simp only [List.cons_append, parseSubtables]
    cases parseSubtable input data numGlyphs file header with
    | error _ => rfl
    | ok file => exact parseSubtables_append file first second

theorem mem_slotList {α : Type} {present : Bool} {item other : α} :
    other ∈ slotList present item ↔ present = true ∧ other = item := by
  cases present <;> simp [slotList]

theorem map_slotList {α β : Type} (f : α → β) (present : Bool) (item : α) :
    (slotList present item).map f = slotList present (f item) := by
  cases present <;> rfl

theorem slotList_sublist {α : Type} (present : Bool) (item : α) : (slotList present item).Sublist [item] := by
  cases present
  · exact List.nil_sublist _
  · exact List.Sublist.refl _

theorem Slice.Moved.of_drop {input input' rest : List UInt8} {data : Slice} {offset : Nat}
    (inside : data.Inside input) (nonempty : 0 < data.length)
    (standing : input'.drop offset = (input.drop data.base).take data.length ++ rest) :
    Slice.Moved input data input' ⟨offset, data.length⟩ := by
  have copied : ((input.drop data.base).take data.length).length = data.length := by
    unfold Slice.Inside at inside; simp; omega
  have room := congrArg List.length standing
  simp only [List.length_drop, List.length_append, copied] at room
  refine ⟨inside, by simp only [Slice.Inside]; omega, rfl, ?_⟩
  rw [standing, List.take_left' copied]

namespace OpenTypeCMAP

variable (cmap : OpenTypeCMAP) (input : List UInt8)

def directory : List CMAPSubtableHeader :=
  slotList cmap.have0514 ⟨0, 5, cmap.offset0514 input, 14, (cmap.body0514 input).length⟩ ++
    slotList cmap.have100 ⟨1, 0, cmap.offset100, 0, cmap.body100.length⟩ ++
    slotList cmap.have304 ⟨3, 0, cmap.offset304, 4, (cmap.body304 input).length⟩ ++
    slotList cmap.have314 ⟨3, 1, cmap.offset314 input, 4, (cmap.body314 input).length⟩ ++
    slotList cmap.have31012 ⟨3, 10, cmap.offset31012 input, 12, cmap.body31012.length⟩ ++
    slotList cmap.have31013 ⟨3, 10, cmap.offset31013 input, 13, cmap.body31013.length⟩

def relocated : OpenTypeCMAP where
  subtable304 := if cmap.have304 then some ⟨cmap.offset304, (cmap.body304 input).length⟩ else none
  subtable314 := if cmap.have314 then some ⟨cmap.offset314 input, (cmap.body314 input).length⟩ else none
  subtable31012 := cmap.subtable31012
  subtable100 := cmap.subtable100
  subtable0514 :=
    if cmap.have0514 then some ⟨cmap.offset0514 input, (cmap.body0514 input).length⟩ else none

theorem headers_eq_directory :
    cmap.headers input = (cmap.directory input).map fun header => { header with format := 0, length := 0 } := by
  simp only [headers, directory, List.map_append, map_slotList]

theorem tableBytes_drop {before rest : List UInt8} {position : Nat}
    (bodies : cmap.bodies input = before ++ rest) (placed : position = cmap.head.length + before.length) :
    (cmap.tableBytes input).drop position = rest := by
  rw [placed, ← List.drop_drop, cmap.tableBytes_drop_head, bodies, List.drop_left]

theorem tableBytes_drop_offset100 : (cmap.tableBytes input).drop cmap.offset100 =
    cmap.body100 ++ (cmap.body304 input ++ cmap.body314 input ++ cmap.body31012 ++ cmap.body31013 ++
      cmap.body0514 input) :=
  cmap.tableBytes_drop input (by simp [bodies]) (show _ = _ + ([] : List UInt8).length from rfl)

theorem tableBytes_drop_offset304 : (cmap.tableBytes input).drop cmap.offset304 =
    cmap.body304 input ++ (cmap.body314 input ++ cmap.body31012 ++ cmap.body31013 ++ cmap.body0514 input) :=
  cmap.tableBytes_drop input (show _ = cmap.body100 ++ _ by simp [bodies]) (by simp [offset304])

theorem tableBytes_drop_offset314 : (cmap.tableBytes input).drop (cmap.offset314 input) =
    cmap.body314 input ++ (cmap.body31012 ++ cmap.body31013 ++ cmap.body0514 input) :=
  cmap.tableBytes_drop input (show _ = cmap.body100 ++ cmap.body304 input ++ _ by simp [bodies])
    (by simp [offset314, Nat.add_assoc])

theorem tableBytes_drop_offset0514 : (cmap.tableBytes input).drop (cmap.offset0514 input) =
    cmap.body0514 input ++ [] :=
  cmap.tableBytes_drop input (show _ = cmap.body100 ++ cmap.body304 input ++ cmap.body314 input ++
      cmap.body31012 ++ cmap.body31013 ++ _ by simp [bodies]) (by simp [offset0514, Nat.add_assoc])

theorem directory_sublist : (cmap.directory input).Sublist
    [⟨0, 5, cmap.offset0514 input, 14, (cmap.body0514 input).length⟩,
      ⟨1, 0, cmap.offset100, 0, cmap.body100.length⟩,
      ⟨3, 0, cmap.offset304, 4, (cmap.body304 input).length⟩,
      ⟨3, 1, cmap.offset314 input, 4, (cmap.body314 input).length⟩,
      ⟨3, 10, cmap.offset31012 input, 12, cmap.body31012.length⟩,
      ⟨3, 10, cmap.offset31013 input, 13, cmap.body31013.length⟩] :=
  (((((slotList_sublist _ _).append (slotList_sublist _ _)).append (slotList_sublist _ _)).append
    (slotList_sublist _ _)).append (slotList_sublist _ _)).append (slotList_sublist _ _)

theorem tableBytes_congr {other : OpenTypeCMAP} {input' : List UInt8}
    (same0514 : other.have0514 = cmap.have0514) (same100 : other.have100 = cmap.have100)
    (same304 : other.have304 = cmap.have304) (same314 : other.have314 = cmap.have314)
    (same31012 : other.have31012 = cmap.have31012) (same31013 : other.have31013 = cmap.have31013)
    (body100 : other.body100 = cmap.body100) (body304 : other.body304 input' = cmap.body304 input)
    (body314 : other.body314 input' = cmap.body314 input) (body31012 : other.body31012 = cmap.body31012)
    (body31013 : other.body31013 = cmap.body31013) (body0514 : other.body0514 input' = cmap.body0514 input) :
    other.tableBytes input' = cmap.tableBytes input := by
  simp only [tableBytes, records, bodies, numSubtables, head, offset0514, offset100, offset304, offset314,
    offset31012, offset31013, same0514, same100, same304, same314, same31012, same31013, body100, body304,
    body314, body31012, body31013, body0514]

theorem length_tableBytes :
    (cmap.tableBytes input).length = cmap.head.length + (cmap.bodies input).length := by
  have records : (cmap.records input).length = (List.replicate (cmap.numSubtables * 8) (0 : UInt8)).length :=
    length_records _ _ _ _ _ _
  simp only [tableBytes, head, List.length_append, records]

theorem directory_keys : ∀ header ∈ cmap.directory input, header.platform ≤ 3 ∧ header.encoding ≤ 10 := by
  intro header mem
  simp only [directory, List.mem_append, mem_slotList] at mem
  rcases mem with ((((⟨-, rfl⟩ | ⟨-, rfl⟩) | ⟨-, rfl⟩) | ⟨-, rfl⟩) | ⟨-, rfl⟩) | ⟨-, rfl⟩ <;> simp

theorem directory_disjoint : (cmap.directory input).Pairwise fun a b =>
    a.offset + a.length ≤ b.offset ∨ b.offset + b.length ≤ a.offset := by
  refine List.Pairwise.sublist (cmap.directory_sublist input) ?_
  simp only [List.pairwise_cons, List.mem_cons, List.mem_singleton, forall_eq_or_imp, forall_eq,
    List.not_mem_nil, IsEmpty.forall_iff, implies_true, List.Pairwise.nil, and_true, offset0514,
    offset100, offset304, offset314, offset31012, offset31013, List.length_append]
  omega

theorem directory_sorted (noFormat13 : cmap.have31013 = false) :
    (cmap.directory input).Pairwise fun a b => a.id < b.id := by
  have sub : (cmap.directory input).Sublist
      ([⟨0, 5, cmap.offset0514 input, 14, (cmap.body0514 input).length⟩] ++
        [⟨1, 0, cmap.offset100, 0, cmap.body100.length⟩] ++
        [⟨3, 0, cmap.offset304, 4, (cmap.body304 input).length⟩] ++
        [⟨3, 1, cmap.offset314 input, 4, (cmap.body314 input).length⟩] ++
        [⟨3, 10, cmap.offset31012 input, 12, cmap.body31012.length⟩] ++ []) := by
    rw [directory, noFormat13]
    exact (((((slotList_sublist _ _).append (slotList_sublist _ _)).append (slotList_sublist _ _)).append
      (slotList_sublist _ _)).append (slotList_sublist _ _)).append List.Sublist.slnil
  refine List.Pairwise.sublist sub ?_
  simp only [List.singleton_append, List.cons_append, List.nil_append, List.append_nil, List.pairwise_cons,
    List.mem_cons, List.mem_singleton, forall_eq_or_imp, forall_eq, List.not_mem_nil, IsEmpty.forall_iff,
    implies_true, List.Pairwise.nil, and_true, CMAPSubtableHeader.id]
  norm_num

end OpenTypeCMAP

section Dispatch

variable {input : List UInt8} {numGlyphs offset length : Nat} {file : OpenTypeFile}

theorem parseSubtable_0514 (inside : offset + length ≤ input.length) :
    parseSubtable input ⟨0, input.length⟩ numGlyphs file ⟨0, 5, offset, 14, length⟩ =
      parse0514 file input ⟨offset, length⟩ numGlyphs := by
  simp [parseSubtable, CMAPSubtableHeader.window, Slice.sub, inside]

theorem parseSubtable_100 (inside : offset + length ≤ input.length) :
    parseSubtable input ⟨0, input.length⟩ numGlyphs file ⟨1, 0, offset, 0, length⟩ =
      parse100 file input ⟨offset, length⟩ := by
  simp [parseSubtable, CMAPSubtableHeader.window, Slice.sub, inside]

theorem parseSubtable_304 (inside : offset + length ≤ input.length) :
    parseSubtable input ⟨0, input.length⟩ numGlyphs file ⟨3, 0, offset, 4, length⟩ =
      parse3x4 file 0 input ⟨offset, length⟩ numGlyphs := by
  simp [parseSubtable, CMAPSubtableHeader.window, Slice.sub, inside]

theorem parseSubtable_314 (inside : offset + length ≤ input.length) :
    parseSubtable input ⟨0, input.length⟩ numGlyphs file ⟨3, 1, offset, 4, length⟩ =
      parse3x4 file 1 input ⟨offset, length⟩ numGlyphs := by
  simp [parseSubtable, CMAPSubtableHeader.window, Slice.sub, inside]

theorem parseSubtable_31012 (inside : offset + length ≤ input.length) :
    parseSubtable input ⟨0, input.length⟩ numGlyphs file ⟨3, 10, offset, 12, length⟩ =
      parse31012 { file with cmap.subtable31012 := [] } input ⟨offset, length⟩ numGlyphs := by
  simp [parseSubtable, CMAPSubtableHeader.window, Slice.sub, inside]

end Dispatch

def Reaches (input : List UInt8) (numGlyphs : Nat) (file : OpenTypeFile)
    (headers : List CMAPSubtableHeader) (cmap : OpenTypeCMAP) : Prop :=
  ∃ file', parseSubtables input ⟨0, input.length⟩ numGlyphs file headers = .ok file' ∧
    file'.cmap = cmap ∧ file'.os2.isSome

namespace Reaches

variable {input : List UInt8} {numGlyphs : Nat} {file : OpenTypeFile} {cmap middle : OpenTypeCMAP}

theorem append {first second : List CMAPSubtableHeader} (before : Reaches input numGlyphs file first middle)
    (after : ∀ file', file'.cmap = middle → file'.os2.isSome → Reaches input numGlyphs file' second cmap) :
    Reaches input numGlyphs file (first ++ second) cmap := by
  obtain ⟨file', run, rfl, found⟩ := before
  obtain ⟨file'', run', same, found'⟩ := after file' rfl found
  exact ⟨file'', by rw [parseSubtables_append, run, ok_bind, run'], same, found'⟩

theorem slot {present : Bool} {header : CMAPSubtableHeader} (found : file.os2.isSome)
    (absent : present = false → file.cmap = cmap)
    (dispatched : present = true → ∃ file', parseSubtable input ⟨0, input.length⟩ numGlyphs file header =
      .ok file' ∧ file'.cmap = cmap ∧ file'.os2.isSome) :
    Reaches input numGlyphs file (slotList present header) cmap := by
  cases present
  · exact ⟨file, rfl, absent rfl, found⟩
  · obtain ⟨file', run, same, found'⟩ := dispatched rfl
    exact ⟨file', by simp only [slotList, if_true, parseSubtables, run, ok_bind]; rfl, same, found'⟩

end Reaches

theorem isSome_ite {α : Type} (present : Bool) (item : α) :
    (if present then some item else none).isSome = present := by
  cases present <;> rfl

theorem slotBytes_opaqueBytes_written {table body rest : List UInt8} {present : Bool} {offset : Nat}
    (standing : table.drop offset = slotBytes present body ++ rest) :
    slotBytes present
        (opaqueBytes table (if present then some ⟨offset, (slotBytes present body).length⟩ else none)) =
      slotBytes present body := by
  cases present
  · rfl
  · simp only [slotBytes_true, if_true, opaqueBytes] at standing ⊢
    rw [standing, List.take_left]

namespace OpenTypeCMAP

variable (cmap : OpenTypeCMAP) (input : List UInt8)

theorem relocated_have0514 : (cmap.relocated input).have0514 = cmap.have0514 := isSome_ite _ _

theorem relocated_have304 : (cmap.relocated input).have304 = cmap.have304 := isSome_ite _ _

theorem relocated_have314 : (cmap.relocated input).have314 = cmap.have314 := by
  simp only [have314, cmap.relocated_have304]
  show (!cmap.have304 && (if cmap.have314 then some _ else none).isSome) = cmap.have314
  rw [isSome_ite, have314]
  cases cmap.have304 <;> rfl

theorem relocated_tableBytes (noFormat13 : cmap.subtable31013 = []) :
    (cmap.relocated input).tableBytes (cmap.tableBytes input) = cmap.tableBytes input := by
  have same31013 : (cmap.relocated input).have31013 = cmap.have31013 := by
    simp [have31013, relocated, noFormat13]
  refine tableBytes_congr _ _ (cmap.relocated_have0514 input) rfl (cmap.relocated_have304 input)
    (cmap.relocated_have314 input) rfl same31013 rfl ?_ ?_ rfl ?_ ?_
  · rw [body304, body304, cmap.relocated_have304 input]
    exact slotBytes_opaqueBytes_written (cmap.tableBytes_drop_offset304 input)
  · rw [body314, body314, cmap.relocated_have314 input]
    exact slotBytes_opaqueBytes_written (cmap.tableBytes_drop_offset314 input)
  · rw [body31013, body31013, same31013, noFormat13]
    rfl
  · rw [body0514, body0514, cmap.relocated_have0514 input]
    exact slotBytes_opaqueBytes_written (cmap.tableBytes_drop_offset0514 input)

theorem relocated_inside (inside : cmap.Inside input) :
    (cmap.relocated input).Inside (cmap.tableBytes input) := by
  have length := cmap.length_tableBytes input
  simp only [bodies, List.length_append] at length
  refine ⟨?_, ?_, ?_, inside.subtable100⟩ <;> intro data mem <;>
    simp only [relocated] at mem <;> split at mem <;> cases mem <;>
    simp only [Slice.Inside, offset304, offset314, offset0514, List.length_append] <;> omega

theorem relocated_mapped (mapped : cmap.subtable304.isSome ∨ cmap.subtable314.isSome) :
    (cmap.relocated input).subtable304.isSome ∨ (cmap.relocated input).subtable314.isSome := by
  rw [show (cmap.relocated input).subtable304.isSome = cmap.have304 from isSome_ite _ _,
    show (cmap.relocated input).subtable314.isSome = cmap.have314 from isSome_ite _ _]
  cases unicode : cmap.subtable304.isSome <;> simp_all [have304, have314]

end OpenTypeCMAP

structure OpenTypeCMAP.Reparsable (input : List UInt8) (numGlyphs : Nat) (cmap : OpenTypeCMAP) :
    Prop where
  inside : cmap.Inside input
  accepted : cmap.Accepted numGlyphs
  windows : cmap.Windows input numGlyphs
  mapped : cmap.subtable304.isSome ∨ cmap.subtable314.isSome
  noFormat13 : cmap.subtable31013 = []
  small : (cmap.tableBytes input).length ≤ 1024 * 1024 * 1024

namespace OpenTypeCMAP.Reparsable

variable {cmap : OpenTypeCMAP} {input : List UInt8} {numGlyphs : Nat}

theorem moved {data : Slice} {present : Bool} {slot : Option Slice} {offset : Nat} {rest : List UInt8}
    (inside : data.Inside input)
    (long : 8 ≤ data.length) (found : slot = some data) (written : present = true)
    (standing : (cmap.tableBytes input).drop offset = slotBytes present (opaqueBytes input slot) ++ rest) :
    (slotBytes present (opaqueBytes input slot)).length = data.length ∧
      Slice.Moved input data (cmap.tableBytes input) ⟨offset, data.length⟩ := by
  subst found written
  unfold Slice.Inside at inside
  exact ⟨by simp [opaqueBytes]; omega, Slice.Moved.of_drop inside (by omega) standing⟩

theorem slot0514 (good : cmap.Reparsable input numGlyphs) (present : cmap.have0514 = true) :
    ∃ data, cmap.subtable0514 = some data ∧ (cmap.body0514 input).length = data.length ∧
      Slice.Moved input data (cmap.tableBytes input) ⟨cmap.offset0514 input, data.length⟩ := by
  obtain ⟨data, found⟩ := Option.isSome_iff_exists.mp present
  exact ⟨data, found, moved (good.inside.subtable0514 data found) (good.windows.subtable0514 data found).long
    found present (cmap.tableBytes_drop_offset0514 input)⟩

theorem slot304 (good : cmap.Reparsable input numGlyphs) (present : cmap.have304 = true) :
    ∃ data, cmap.subtable304 = some data ∧ (cmap.body304 input).length = data.length ∧
      Slice.Moved input data (cmap.tableBytes input) ⟨cmap.offset304, data.length⟩ := by
  obtain ⟨data, found⟩ := Option.isSome_iff_exists.mp present
  exact ⟨data, found, moved (good.inside.subtable304 data found) (good.windows.subtable304 data found).long
    found present (cmap.tableBytes_drop_offset304 input)⟩

theorem slot314 (good : cmap.Reparsable input numGlyphs) (present : cmap.have314 = true) :
    ∃ data, cmap.subtable314 = some data ∧ (cmap.body314 input).length = data.length ∧
      Slice.Moved input data (cmap.tableBytes input) ⟨cmap.offset314 input, data.length⟩ := by
  obtain ⟨data, found⟩ := Option.isSome_iff_exists.mp ((Bool.and_eq_true _ _).mp present).2
  exact ⟨data, found, moved (good.inside.subtable314 data found) (good.windows.subtable314 data found).long
    found present (cmap.tableBytes_drop_offset314 input)⟩

theorem have31013_eq_false (good : cmap.Reparsable input numGlyphs) : cmap.have31013 = false := by
  simp [OpenTypeCMAP.have31013, good.noFormat13]

theorem directory_written (good : cmap.Reparsable input numGlyphs) :
    ∀ header ∈ cmap.directory input, header.Written (cmap.tableBytes input) cmap.head.length := by
  intro header mem
  simp only [OpenTypeCMAP.directory, List.mem_append, mem_slotList] at mem
  rcases mem with ((((⟨present, rfl⟩ | ⟨present, rfl⟩) | ⟨present, rfl⟩) | ⟨present, rfl⟩) |
    ⟨present, rfl⟩) | ⟨present, rfl⟩
  · obtain ⟨data, found, length, moved⟩ := good.slot0514 present
    rw [length]
    exact (good.windows.subtable0514 data found).written moved (by simp [OpenTypeCMAP.offset0514]) 0 5
  · have full : cmap.subtable100.length = kFormat0ArraySize :=
      good.inside.subtable100.resolve_left (by simpa [OpenTypeCMAP.have100] using present)
    have standing := cmap.tableBytes_drop_offset100 input
    rw [OpenTypeCMAP.body100, present, slotBytes_true] at standing ⊢
    exact macRomanBody_written full standing (le_refl _)
  · obtain ⟨data, found, length, moved⟩ := good.slot304 present
    rw [length]
    exact (good.windows.subtable304 data found).written moved (by simp [OpenTypeCMAP.offset304]) 3 0
  · obtain ⟨data, found, length, moved⟩ := good.slot314 present
    rw [length]
    exact (good.windows.subtable314 data found).written moved (by simp [OpenTypeCMAP.offset314]) 3 1
  · have standing := cmap.tableBytes_drop_offset31012 input
    rw [List.append_assoc, OpenTypeCMAP.body31012, present, slotBytes_true] at standing
    rw [OpenTypeCMAP.body31012, present, slotBytes_true]
    exact groupsBody_written good.accepted.groups12.bounded standing (by simp [OpenTypeCMAP.offset31012])
  · exact absurd present (by simp [good.have31013_eq_false])

variable {file : OpenTypeFile} {before : OpenTypeCMAP}

theorem reaches0514 (good : cmap.Reparsable input numGlyphs) (found : file.os2.isSome)
    (current : file.cmap = before) (empty : before.subtable0514 = none) :
    Reaches (cmap.tableBytes input) numGlyphs file
      (slotList cmap.have0514 ⟨0, 5, cmap.offset0514 input, 14, (cmap.body0514 input).length⟩)
      { before with subtable0514 := (cmap.relocated input).subtable0514 } := by
  subst current
  refine Reaches.slot found (fun absent => by simp [OpenTypeCMAP.relocated, absent, ← empty]) fun present => ?_
  obtain ⟨data, filled, length, moved⟩ := good.slot0514 present
  obtain ⟨_, _, accepted⟩ := (good.windows.subtable0514 data filled).accepted
  rw [length, parseSubtable_0514 moved.inside']
  refine ⟨_, parse0514_moved moved accepted, ?_, found⟩
  simp only [OpenTypeCMAP.relocated, length, present, if_true]

theorem reaches100 (good : cmap.Reparsable input numGlyphs) (found : file.os2.isSome)
    (current : file.cmap = before) (empty : before.subtable100 = []) :
    Reaches (cmap.tableBytes input) numGlyphs file
      (slotList cmap.have100 ⟨1, 0, cmap.offset100, 0, cmap.body100.length⟩)
      { before with subtable100 := (cmap.relocated input).subtable100 } := by
  subst current
  refine Reaches.slot found (fun absent => ?_) fun present => ?_
  · have : cmap.subtable100 = [] := by simpa [OpenTypeCMAP.have100] using absent
    simp [OpenTypeCMAP.relocated, this, ← empty]
  have full : cmap.subtable100.length = kFormat0ArraySize :=
    good.inside.subtable100.resolve_left (by simpa [OpenTypeCMAP.have100] using present)
  have standing := cmap.tableBytes_drop_offset100 input
  rw [OpenTypeCMAP.body100, present, slotBytes_true] at standing ⊢
  have inside := room_of_drop standing (by simp [macRomanBody])
  have length : (macRomanBody cmap.subtable100).length = 6 + kFormat0ArraySize := by
    simp [macRomanBody, full]; omega
  rw [parseSubtable_100 inside, length]
  exact ⟨_, parse100_macRomanBody full good.accepted.glyphs100 rfl standing,
    by simp [OpenTypeCMAP.relocated, empty], found⟩

theorem reaches304 (good : cmap.Reparsable input numGlyphs) (found : file.os2.isSome)
    (current : file.cmap = before) (empty : before.subtable304 = none) :
    Reaches (cmap.tableBytes input) numGlyphs file
      (slotList cmap.have304 ⟨3, 0, cmap.offset304, 4, (cmap.body304 input).length⟩)
      { before with subtable304 := (cmap.relocated input).subtable304 } := by
  subst current
  refine Reaches.slot found (fun absent => by simp [OpenTypeCMAP.relocated, absent, ← empty]) fun present => ?_
  obtain ⟨data, filled, length, moved⟩ := good.slot304 present
  obtain ⟨_, _, _, accepted⟩ := (good.windows.subtable304 data filled).accepted
  obtain ⟨os2, os2Found⟩ := Option.isSome_iff_exists.mp found
  obtain ⟨_, run, -⟩ := parse3x4_moved moved accepted os2Found
  rw [length, parseSubtable_304 moved.inside']
  refine ⟨_, run, ?_, rfl⟩
  simp only [OpenTypeCMAP.relocated, length, present, if_true]

theorem reaches314 (good : cmap.Reparsable input numGlyphs) (found : file.os2.isSome)
    (current : file.cmap = before) (empty : before.subtable314 = none) :
    Reaches (cmap.tableBytes input) numGlyphs file
      (slotList cmap.have314 ⟨3, 1, cmap.offset314 input, 4, (cmap.body314 input).length⟩)
      { before with subtable314 := (cmap.relocated input).subtable314 } := by
  subst current
  refine Reaches.slot found (fun absent => by simp [OpenTypeCMAP.relocated, absent, ← empty]) fun present => ?_
  obtain ⟨data, filled, length, moved⟩ := good.slot314 present
  obtain ⟨_, _, _, accepted⟩ := (good.windows.subtable314 data filled).accepted
  obtain ⟨os2, os2Found⟩ := Option.isSome_iff_exists.mp found
  obtain ⟨_, -, run⟩ := parse3x4_moved moved accepted os2Found
  rw [length, parseSubtable_314 moved.inside']
  refine ⟨_, run, ?_, rfl⟩
  simp only [OpenTypeCMAP.relocated, length, present, if_true]

theorem reaches31012 (good : cmap.Reparsable input numGlyphs) (found : file.os2.isSome)
    (current : file.cmap = before) (empty : before.subtable31012 = []) :
    Reaches (cmap.tableBytes input) numGlyphs file
      (slotList cmap.have31012 ⟨3, 10, cmap.offset31012 input, 12, cmap.body31012.length⟩)
      { before with subtable31012 := (cmap.relocated input).subtable31012 } := by
  subst current
  refine Reaches.slot found (fun absent => ?_) fun present => ?_
  · have : cmap.subtable31012 = [] := by simpa [OpenTypeCMAP.have31012] using absent
    simp [OpenTypeCMAP.relocated, this, ← empty]
  have nonempty : cmap.subtable31012 ≠ [] := by simpa [OpenTypeCMAP.have31012] using present
  have standing := cmap.tableBytes_drop_offset31012 input
  rw [List.append_assoc, OpenTypeCMAP.body31012, present, slotBytes_true] at standing
  rw [OpenTypeCMAP.body31012, present, slotBytes_true,
    parseSubtable_31012 (room_of_drop standing (by rw [length_groupsBody]; omega)), length_groupsBody]
  have good' : ∀ group ∈ cmap.subtable31012, group.Fits ∧ checkGroup31012 numGlyphs group = .ok () :=
    fun group mem => ⟨(good.accepted.groups12.checked group mem).fits,
      checkGroup31012_eq_ok.mpr (good.accepted.groups12.checked group mem)⟩
  have parsed : parseGroups (cmap.tableBytes input)
      ⟨cmap.offset31012 input, 16 + 12 * cmap.subtable31012.length⟩ 4 (checkGroup31012 numGlyphs) =
        .ok cmap.subtable31012 :=
    parseGroups_groupsBody good' good.accepted.groups12.ordered nonempty good.accepted.groups12.bounded rfl
      standing
  exact ⟨{ file with cmap.subtable31012 := cmap.subtable31012 }, by simp only [parse31012, parsed, ok_bind]; rfl,
    rfl, found⟩

theorem reaches_directory (good : cmap.Reparsable input numGlyphs) (found : file.os2.isSome)
    (fresh : file.cmap = {}) :
    Reaches (cmap.tableBytes input) numGlyphs file (cmap.directory input) (cmap.relocated input) :=
  (((((good.reaches0514 found fresh rfl).append fun _ current found => good.reaches100 found current rfl).append
    fun _ current found => good.reaches304 found current rfl).append
      fun _ current found => good.reaches314 found current rfl).append
        fun _ current found => good.reaches31012 found current rfl).append
          fun _ current found => Reaches.slot found (fun _ => current) fun present =>
            absurd present (by simp [good.have31013_eq_false])

theorem numSubtables_pos (good : cmap.Reparsable input numGlyphs) : 0 < cmap.numSubtables := by
  refine List.count_pos_iff.mpr ?_
  rcases good.mapped with filled | filled
  · simp [OpenTypeCMAP.have304, filled]
  · cases unicode : cmap.subtable304.isSome <;>
      simp [OpenTypeCMAP.have304, OpenTypeCMAP.have314, unicode, filled]

theorem headers_wrapped (good : cmap.Reparsable input numGlyphs) :
    (cmap.headers input).map CMAPSubtableHeader.wrapped = cmap.headers input := by
  calc (cmap.headers input).map CMAPSubtableHeader.wrapped = (cmap.headers input).map id :=
        List.map_congr_left fun header mem => ?_
    _ = cmap.headers input := List.map_id _
  rw [cmap.headers_eq_directory, List.mem_map] at mem
  obtain ⟨header, mem, rfl⟩ := mem
  have keys := cmap.directory_keys input header mem
  have written := good.directory_written header mem
  have := written.inside; have := written.long; have := good.small
  simp only [CMAPSubtableHeader.wrapped, id]
  congr 1 <;> omega

theorem headers_placed (good : cmap.Reparsable input numGlyphs) :
    ∀ header ∈ cmap.headers input, header.offset ≤ 1024 * 1024 * 1024 ∧
      cmap.head.length ≤ header.offset ∧ header.offset < (cmap.tableBytes input).length := by
  rw [cmap.headers_eq_directory]
  simp only [List.mem_map, forall_exists_index, and_imp, forall_apply_eq_imp_iff₂]
  intro header mem
  have written := good.directory_written header mem
  have := written.inside; have := written.long; have := written.past; have := good.small
  exact ⟨by omega, by omega, by omega⟩

theorem headers_sorted (good : cmap.Reparsable input numGlyphs) :
    (cmap.headers input).Pairwise fun a b => a.id < b.id := by
  rw [cmap.headers_eq_directory, List.pairwise_map]
  exact cmap.directory_sorted input good.have31013_eq_false

theorem directory_checkOverlap (good : cmap.Reparsable input numGlyphs) :
    checkOverlap (cmap.directory input) = .ok () := by
  refine checkOverlap_eq_ok_of_disjoint (fun header mem => ?_) fun a ma b mb distinct =>
    (cmap.directory_disjoint input).forall (fun _ _ => Or.symm) ma mb fun same => distinct (same ▸ rfl)
  have := (good.directory_written header mem).inside; have := good.small
  omega

theorem otsCmapParse_tableBytes_eq {maxp : OpenTypeMAXP} (good : cmap.Reparsable input maxp.numGlyphs)
    (found : file.maxp = some maxp) :
    otsCmapParse file (cmap.tableBytes input) =
      parseSubtables (cmap.tableBytes input) ⟨0, (cmap.tableBytes input).length⟩ maxp.numGlyphs
        { file with cmap := {} } (cmap.directory input) := by
  have reads : (Buffer.ofSlice ⟨0, (cmap.tableBytes input).length⟩).Reads (cmap.tableBytes input)
      (toBigEndian 2 0 ++ (toBigEndian 2 cmap.numSubtables ++ (cmap.records input ++ cmap.bodies input))) [] :=
    ⟨by simp [Buffer.ofSlice], by simp [Buffer.ofSlice, OpenTypeCMAP.tableBytes],
      by simp [Buffer.ofSlice, OpenTypeCMAP.tableBytes]⟩
  obtain ⟨versionRead, reads⟩ := reads.read
  obtain ⟨countRead, reads⟩ := reads.read
  rw [cmap.records_eq] at reads
  have headersRead := readSubtableHeaders_record _ _ reads.firstPart
  rw [cmap.length_headers, good.headers_wrapped] at headersRead
  have few : cmap.numSubtables ≤ 6 := List.count_le_length _ _
  have some := good.numSubtables_pos
  have count : cmap.numSubtables % 256 ^ 2 = cmap.numSubtables := Nat.mod_eq_of_lt (by omega)
  have dataOffset : (Buffer.ofSlice ⟨0, (cmap.tableBytes input).length⟩).offset + 2 + 2 +
      8 * cmap.numSubtables = cmap.head.length := by
    simp [Buffer.ofSlice, OpenTypeCMAP.head]; omega
  have written := good.directory_written
  have lengths : (cmap.directory input).forM (checkLength (cmap.tableBytes input).length) = .ok () :=
    forM_eq_ok.mpr fun header mem => checkLength_written (written header mem) good.small
  simp only [otsCmapParse, Buffer.readU16, versionRead, countRead, count, ok_bind, failIf_bind,
    Nat.zero_mod, ne_eq, not_true_eq_false, if_false, Nat.pos_iff_ne_zero.mp some, headersRead,
    dataOffset, checkOffsets_eq_ok good.headers_placed good.headers_sorted (fun absurd => absurd rfl |>.elim)]
  rw [cmap.headers_eq_directory, recoverLengths_written ⟨rfl, rfl⟩ written]
  simp only [ok_bind, lengths, good.directory_checkOverlap, found]

theorem otsCmapParse_tableBytes {maxp : OpenTypeMAXP} (good : cmap.Reparsable input maxp.numGlyphs)
    (found : file.maxp = some maxp) (hasOS2 : file.os2.isSome) :
    ∃ file', otsCmapParse file (cmap.tableBytes input) = .ok file' ∧ file'.cmap = cmap.relocated input := by
  obtain ⟨file', run, same, -⟩ :=
    good.reaches_directory (show ({ file with cmap := {} } : OpenTypeFile).os2.isSome from hasOS2) rfl
  exact ⟨file', (good.otsCmapParse_tableBytes_eq found).trans run, same⟩

end OpenTypeCMAP.Reparsable

theorem otsCmapParse_reparsable {file file' : OpenTypeFile} {input : List UInt8}
    (accepted : otsCmapParse file input = .ok file') (noFormat13 : file'.cmap.subtable31013 = [])
    (mapped : file'.cmap.subtable304.isSome ∨ file'.cmap.subtable314.isSome)
    (small : (file'.cmap.tableBytes input).length ≤ 1024 * 1024 * 1024) :
    ∃ maxp, file.maxp = some maxp ∧ file'.cmap.Reparsable input maxp.numGlyphs := by
  obtain ⟨maxp, found, groups⟩ := (otsCmapParse_accepted file input).of_ok accepted
  obtain ⟨maxp', found', windows⟩ := otsCmapParse_windows accepted
  cases found.symm.trans found'
  exact ⟨maxp, found, (otsCmapParse_safe file input).of_ok accepted, groups, windows, mapped, noFormat13, small⟩

theorem otsCmapSerialise_reparsable {file file' : OpenTypeFile} {input table : List UInt8}
    {out out' : OTSStream} (accepted : otsCmapParse file input = .ok file')
    (noFormat13 : file'.cmap.subtable31013 = [])
    (written : otsCmapSerialise out input file'.cmap = .ok out')
    (wrote : (out'.bytes.drop out.position).take (out'.position - out.position) = table)
    (small : table.length ≤ 1024 * 1024 * 1024) :
    table = file'.cmap.tableBytes input ∧
      ∃ maxp, file.maxp = some maxp ∧ file'.cmap.Reparsable input maxp.numGlyphs := by
  have inside := (otsCmapParse_safe file input).of_ok accepted
  rw [otsCmapSerialise_written inside written] at wrote
  subst wrote
  exact ⟨rfl, otsCmapParse_reparsable accepted noFormat13 (otsCmapSerialise_mapped written) small⟩

/-- Sanitising is idempotent on tables without a (3,10,13) slot. The table `ots_cmap_serialise`
writes for a table `ots_cmap_parse` accepted is accepted again, against the same `maxp` and any
`OS/2`; serialising what is read back writes the same bytes again, on any stream, and fails only
where the stream has no room for them. -/
theorem otsCmapParse_serialise_idempotent {file file' file₂ : OpenTypeFile} {input table : List UInt8}
    {out out' : OTSStream} (accepted : otsCmapParse file input = .ok file')
    (noFormat13 : file'.cmap.subtable31013 = [])
    (written : otsCmapSerialise out input file'.cmap = .ok out')
    (wrote : (out'.bytes.drop out.position).take (out'.position - out.position) = table)
    (small : table.length ≤ 1024 * 1024 * 1024)
    (sameMaxp : file₂.maxp = file.maxp) (hasOS2 : file₂.os2.isSome) :
    ∃ file'', otsCmapParse file₂ table = .ok file'' ∧
      ∀ out₂ : OTSStream, otsCmapSerialise out₂ table file''.cmap =
        (fun out₂' => { out₂' with checksum := out₂.checksum ++ file''.cmap.checksummed table }) <$>
          out₂.write table := by
  obtain ⟨rfl, maxp, found, good⟩ := otsCmapSerialise_reparsable accepted noFormat13 written wrote small
  obtain ⟨file'', parsed, relocated⟩ := good.otsCmapParse_tableBytes (sameMaxp.trans found) hasOS2
  refine ⟨file'', parsed, fun out₂ => ?_⟩
  rw [relocated, otsCmapSerialise_eq (file'.cmap.relocated_inside input good.inside)
    (file'.cmap.relocated_mapped input good.mapped), file'.cmap.relocated_tableBytes input noFormat13]

theorem unicode12Table_idempotent :
    ∃ file'', otsCmapParse { os2 := some ⟨0x41, 0x41⟩, maxp := some ⟨3⟩ } unicode12Table = .ok file'' ∧
      ∀ out₂ : OTSStream, otsCmapSerialise out₂ unicode12Table file''.cmap =
        (fun out₂' => { out₂' with checksum := out₂.checksum ++ file''.cmap.checksummed unicode12Table }) <$>
          out₂.write unicode12Table :=
  @otsCmapParse_serialise_idempotent { os2 := some ⟨0x20, 0x7E⟩, maxp := some ⟨3⟩ }
    { cmap := unicode12Cmap, os2 := some ⟨0x20, 0x7E⟩, maxp := some ⟨3⟩ }
    { os2 := some ⟨0x41, 0x41⟩, maxp := some ⟨3⟩ } unicode12Table unicode12Table
    ⟨List.replicate 72 0, 0, []⟩
    ⟨unicode12Cmap.tableBytes unicode12Table, 72, [] ++ unicode12Cmap.checksummed unicode12Table⟩
    (by rfl) rfl (by rfl) (by rfl) (by decide) rfl rfl

theorem bytes_relocated {input table : List UInt8} {present : Bool} {slot : Option Slice} {offset length : Nat}
    (copied : present = true → ∃ data, slot = some data ∧ length = data.length ∧
      Slice.Moved input data table ⟨offset, data.length⟩) :
    (if present then some ⟨offset, length⟩ else none).map (Slice.bytes table) =
      if present then slot.map (Slice.bytes input) else none := by
  cases present with
  | false => rfl
  | true =>
    obtain ⟨data, rfl, rfl, moved⟩ := copied rfl
    simp [moved.bytes_eq]

/-- What the second sanitising reads back of a table without a (3,10,13) slot is what the first one
accepted: the same (3,10,12) groups and Mac Roman glyph ids, and in each opaque slot the same bytes,
where the serialiser copied them. A (3,1,4) slot beside a (3,0,4) slot is dropped: MS Symbol and MS
Unicode tables should not co-exist. -/
theorem otsCmapParse_serialise_readBack {file file' file₂ : OpenTypeFile} {input table : List UInt8}
    {out out' : OTSStream} (accepted : otsCmapParse file input = .ok file')
    (noFormat13 : file'.cmap.subtable31013 = [])
    (written : otsCmapSerialise out input file'.cmap = .ok out')
    (wrote : (out'.bytes.drop out.position).take (out'.position - out.position) = table)
    (small : table.length ≤ 1024 * 1024 * 1024)
    (sameMaxp : file₂.maxp = file.maxp) (hasOS2 : file₂.os2.isSome) :
    ∃ file'', otsCmapParse file₂ table = .ok file'' ∧
      file''.cmap.subtable31012 = file'.cmap.subtable31012 ∧ file''.cmap.subtable100 = file'.cmap.subtable100 ∧
      file''.cmap.subtable304.map (Slice.bytes table) = file'.cmap.subtable304.map (Slice.bytes input) ∧
      file''.cmap.subtable0514.map (Slice.bytes table) = file'.cmap.subtable0514.map (Slice.bytes input) ∧
      file''.cmap.subtable314.map (Slice.bytes table) =
        if file'.cmap.subtable304.isSome then none else file'.cmap.subtable314.map (Slice.bytes input) := by
  obtain ⟨rfl, maxp, found, good⟩ := otsCmapSerialise_reparsable accepted noFormat13 written wrote small
  obtain ⟨file'', parsed, relocated⟩ := good.otsCmapParse_tableBytes (sameMaxp.trans found) hasOS2
  refine ⟨file'', parsed, by rw [relocated]; rfl, by rw [relocated]; rfl, ?_, ?_, ?_⟩ <;>
    simp only [relocated, OpenTypeCMAP.relocated]
  · rw [bytes_relocated good.slot304, OpenTypeCMAP.have304]
    cases file'.cmap.subtable304 <;> rfl
  · rw [bytes_relocated good.slot0514, OpenTypeCMAP.have0514]
    cases file'.cmap.subtable0514 <;> rfl
  · rw [bytes_relocated good.slot314, OpenTypeCMAP.have314, OpenTypeCMAP.have304]
    cases file'.cmap.subtable304 <;> cases file'.cmap.subtable314 <;> rfl

theorem unicode12Table_readBack :
    ∃ file'', otsCmapParse { os2 := some ⟨0x41, 0x41⟩, maxp := some ⟨3⟩ } unicode12Table = .ok file'' ∧
      file''.cmap.subtable31012 = unicode12Cmap.subtable31012 ∧ file''.cmap.subtable100 = unicode12Cmap.subtable100 ∧
      file''.cmap.subtable304.map (Slice.bytes unicode12Table) =
        unicode12Cmap.subtable304.map (Slice.bytes unicode12Table) ∧
      file''.cmap.subtable0514.map (Slice.bytes unicode12Table) =
        unicode12Cmap.subtable0514.map (Slice.bytes unicode12Table) ∧
      file''.cmap.subtable314.map (Slice.bytes unicode12Table) =
        if unicode12Cmap.subtable304.isSome then none
        else unicode12Cmap.subtable314.map (Slice.bytes unicode12Table) :=
  @otsCmapParse_serialise_readBack { os2 := some ⟨0x20, 0x7E⟩, maxp := some ⟨3⟩ }
    { cmap := unicode12Cmap, os2 := some ⟨0x20, 0x7E⟩, maxp := some ⟨3⟩ }
    { os2 := some ⟨0x41, 0x41⟩, maxp := some ⟨3⟩ } unicode12Table unicode12Table
    ⟨List.replicate 72 0, 0, []⟩
    ⟨unicode12Cmap.tableBytes unicode12Table, 72, [] ++ unicode12Cmap.checksummed unicode12Table⟩
    (by rfl) rfl (by rfl) (by rfl) (by decide) rfl rfl

end OtsCmap
