import OtsCmap.Serialise

/-! `ots_cmap_serialise` as the bytes it leaves in the stream: the header, one record for each slot
it writes, then the bodies in their fixed order. The code writes a pad where the records go, the
bodies after it, and the records last, after a seek back; the layout puts each where it ends up. -/
namespace OtsCmap

def slotBytes (present : Bool) (bytes : List UInt8) : List UInt8 := if present then bytes else []

@[simp] theorem slotBytes_true (bytes : List UInt8) : slotBytes true bytes = bytes := rfl

@[simp] theorem slotBytes_false (bytes : List UInt8) : slotBytes false bytes = [] := rfl

def macRomanBody (glyphIds : List Nat) : List UInt8 :=
  toBigEndian 2 0 ++ toBigEndian 2 (6 + kFormat0ArraySize) ++ toBigEndian 2 0 ++
    (glyphIds.take kFormat0ArraySize).map UInt8.ofNat

def opaqueBytes (input : List UInt8) : Option Slice → List UInt8
  | some data => (input.drop data.base).take data.length
  | none => []

def recordBytes (platform encoding offset : Nat) : List UInt8 :=
  toBigEndian 2 platform ++ toBigEndian 2 encoding ++ toBigEndian 4 offset

def slotList {α : Type} (present : Bool) (item : α) : List α := if present then [item] else []

def CMAPSubtableHeader.record (header : CMAPSubtableHeader) : List UInt8 :=
  recordBytes header.platform header.encoding header.offset

namespace OpenTypeCMAP

variable (cmap : OpenTypeCMAP) (input : List UInt8)

def have0514 : Bool := cmap.subtable0514.isSome
def have100 : Bool := !cmap.subtable100.isEmpty
def have304 : Bool := cmap.subtable304.isSome
def have314 : Bool := !cmap.have304 && cmap.subtable314.isSome
def have31012 : Bool := !cmap.subtable31012.isEmpty
def have31013 : Bool := !cmap.subtable31013.isEmpty

def numSubtables : Nat :=
  [cmap.have0514, cmap.have100, cmap.have304, cmap.have314, cmap.have31012, cmap.have31013].count true

def body100 : List UInt8 := slotBytes cmap.have100 (macRomanBody cmap.subtable100)
def body304 : List UInt8 := slotBytes cmap.have304 (opaqueBytes input cmap.subtable304)
def body314 : List UInt8 := slotBytes cmap.have314 (opaqueBytes input cmap.subtable314)
def body31012 : List UInt8 := slotBytes cmap.have31012 (groupsBody 12 16 cmap.subtable31012)
def body31013 : List UInt8 := slotBytes cmap.have31013 (groupsBody 13 14 cmap.subtable31013)
def body0514 : List UInt8 := slotBytes cmap.have0514 (opaqueBytes input cmap.subtable0514)

def head : List UInt8 :=
  toBigEndian 2 0 ++ toBigEndian 2 cmap.numSubtables ++ List.replicate (cmap.numSubtables * 8) 0

def offset100 : Nat := cmap.head.length
def offset304 : Nat := (cmap.head ++ cmap.body100).length
def offset314 : Nat := (cmap.head ++ cmap.body100 ++ cmap.body304 input).length
def offset31012 : Nat := (cmap.head ++ cmap.body100 ++ cmap.body304 input ++ cmap.body314 input).length
def offset31013 : Nat :=
  (cmap.head ++ cmap.body100 ++ cmap.body304 input ++ cmap.body314 input ++ cmap.body31012).length
def offset0514 : Nat :=
  (cmap.head ++ cmap.body100 ++ cmap.body304 input ++ cmap.body314 input ++ cmap.body31012 ++
    cmap.body31013).length

def records : List UInt8 :=
  slotBytes cmap.have0514 (recordBytes 0 5 (cmap.offset0514 input)) ++
    slotBytes cmap.have100 (recordBytes 1 0 cmap.offset100) ++
    slotBytes cmap.have304 (recordBytes 3 0 cmap.offset304) ++
    slotBytes cmap.have314 (recordBytes 3 1 (cmap.offset314 input)) ++
    slotBytes cmap.have31012 (recordBytes 3 10 (cmap.offset31012 input)) ++
    slotBytes cmap.have31013 (recordBytes 3 10 (cmap.offset31013 input))

def headers : List CMAPSubtableHeader :=
  slotList cmap.have0514 ⟨0, 5, cmap.offset0514 input, 0, 0⟩ ++
    slotList cmap.have100 ⟨1, 0, cmap.offset100, 0, 0⟩ ++
    slotList cmap.have304 ⟨3, 0, cmap.offset304, 0, 0⟩ ++
    slotList cmap.have314 ⟨3, 1, cmap.offset314 input, 0, 0⟩ ++
    slotList cmap.have31012 ⟨3, 10, cmap.offset31012 input, 0, 0⟩ ++
    slotList cmap.have31013 ⟨3, 10, cmap.offset31013 input, 0, 0⟩

def bodies : List UInt8 :=
  cmap.body100 ++ cmap.body304 input ++ cmap.body314 input ++ cmap.body31012 ++ cmap.body31013 ++
    cmap.body0514 input

def tableBytes : List UInt8 :=
  toBigEndian 2 0 ++ toBigEndian 2 cmap.numSubtables ++ cmap.records input ++ cmap.bodies input

theorem have0514_eq : cmap.subtable0514.isSome = cmap.have0514 := rfl
theorem have100_eq : (!cmap.subtable100.isEmpty) = cmap.have100 := rfl
theorem have304_eq : cmap.subtable304.isSome = cmap.have304 := rfl
theorem have314_eq : (!cmap.have304 && cmap.subtable314.isSome) = cmap.have314 := rfl
theorem have31012_eq : (!cmap.subtable31012.isEmpty) = cmap.have31012 := rfl
theorem have31013_eq : (!cmap.subtable31013.isEmpty) = cmap.have31013 := rfl
theorem numSubtables_eq :
    [cmap.have0514, cmap.have100, cmap.have304, cmap.have314, cmap.have31012, cmap.have31013].count true =
      cmap.numSubtables := rfl
theorem body100_eq : slotBytes cmap.have100 (macRomanBody cmap.subtable100) = cmap.body100 := rfl
theorem body304_eq : slotBytes cmap.have304 (opaqueBytes input cmap.subtable304) = cmap.body304 input := rfl
theorem body314_eq : slotBytes cmap.have314 (opaqueBytes input cmap.subtable314) = cmap.body314 input := rfl
theorem body31012_eq : slotBytes cmap.have31012 (groupsBody 12 16 cmap.subtable31012) = cmap.body31012 := rfl
theorem body31013_eq : slotBytes cmap.have31013 (groupsBody 13 14 cmap.subtable31013) = cmap.body31013 := rfl
theorem body0514_eq : slotBytes cmap.have0514 (opaqueBytes input cmap.subtable0514) = cmap.body0514 input := rfl

def checksummed : List UInt8 := cmap.head ++ cmap.bodies input

end OpenTypeCMAP

theorem flatMap_slotList (present : Bool) (header : CMAPSubtableHeader) :
    (slotList present header).flatMap CMAPSubtableHeader.record = slotBytes present header.record := by
  cases present <;> simp [slotList]

theorem OpenTypeCMAP.records_eq (cmap : OpenTypeCMAP) (input : List UInt8) :
    cmap.records input = (cmap.headers input).flatMap CMAPSubtableHeader.record := by
  simp only [OpenTypeCMAP.headers, List.flatMap_append, flatMap_slotList]
  rfl

theorem length_slotList {α : Type} (present : Bool) (item : α) :
    (slotList present item).length = present.toNat := by
  cases present <;> rfl

theorem count_true_cons (present : Bool) (rest : List Bool) :
    (present :: rest).count true = rest.count true + present.toNat := by
  cases present <;> simp [List.count_cons]

theorem OpenTypeCMAP.length_headers (cmap : OpenTypeCMAP) (input : List UInt8) :
    (cmap.headers input).length = cmap.numSubtables := by
  simp only [OpenTypeCMAP.headers, List.length_append, length_slotList, OpenTypeCMAP.numSubtables,
    count_true_cons, List.count_nil]
  omega

section Writers

variable {out : OTSStream} {input : List UInt8}

theorem writeMacRoman_eq {present : Bool} {glyphIds : List Nat}
    (full : present → kFormat0ArraySize ≤ glyphIds.length) :
    writeMacRoman out present glyphIds =
      if present then out.write (macRomanBody glyphIds) else pure out := by
  cases present
  · rfl
  · simp only [writeMacRoman, if_true, macRomanBytes, full rfl, ok_bind, OTSStream.writeU16,
      OTSStream.write_bind_write_bind, OTSStream.write_bind_write, macRomanBody, List.append_assoc]

theorem writeOpaque_eq {present : Bool} {slot : Option Slice}
    (inside : ∀ data ∈ slot, data.Inside input) (some : present → slot.isSome) :
    writeOpaque out input present slot =
      if present then out.write (opaqueBytes input slot) else pure out := by
  cases present <;> cases slot
  · rfl
  · rfl
  · simp at some
  · have inside := inside _ rfl
    unfold Slice.Inside at inside
    simp only [writeOpaque, Slice.bytes, inside, if_true, ok_bind, opaqueBytes]

theorem writeGroups_eq_ite {present : Bool} {format lengthBase : Nat}
    {groups : List OpenTypeCMAPSubtableRange} :
    writeGroups out present format lengthBase groups =
      if present then out.write (groupsBody format lengthBase groups) else pure out := by
  cases present
  · simp only [writeGroups, Bool.false_eq_true, if_false]
  · rw [writeGroups_eq, if_pos rfl]

theorem writeRecord_eq {present : Bool} {platform encoding offset : Nat} :
    writeRecord out present platform encoding offset =
      if present then out.write (recordBytes platform encoding offset) else pure out := by
  cases present
  · rfl
  · simp only [writeRecord, if_true, OTSStream.writeU16, OTSStream.writeU32,
      OTSStream.write_bind_write_bind, OTSStream.write_bind_write, recordBytes, List.append_assoc]

theorem write_bind_ite {α : Type} {present : Bool} {first second : List UInt8}
    {next : OTSStream → OTSStream → Except Stop α} :
    (out.write first >>= fun middle =>
        (if present then middle.write second else pure middle) >>= next middle) =
      out.write (first ++ slotBytes present second) >>= next (out.put first) := by
  cases present
  · simp only [Bool.false_eq_true, if_false, pure_bind, slotBytes_false, List.append_nil]
    unfold OTSStream.write; split <;> rfl
  · exact OTSStream.write_bind_write_bind_with

theorem length_slotBytes_record (present : Bool) (platform encoding offset : Nat) :
    (slotBytes present (recordBytes platform encoding offset)).length = 8 * present.toNat := by
  cases present <;> rfl

theorem length_records {cmap : OpenTypeCMAP} (o0514 o100 o304 o314 o31012 o31013 : Nat) :
    (slotBytes cmap.have0514 (recordBytes 0 5 o0514) ++ slotBytes cmap.have100 (recordBytes 1 0 o100) ++
        slotBytes cmap.have304 (recordBytes 3 0 o304) ++ slotBytes cmap.have314 (recordBytes 3 1 o314) ++
        slotBytes cmap.have31012 (recordBytes 3 10 o31012) ++
        slotBytes cmap.have31013 (recordBytes 3 10 o31013)).length =
      (List.replicate (cmap.numSubtables * 8) (0 : UInt8)).length := by
  simp only [List.length_append, length_slotBytes_record, List.length_replicate,
    OpenTypeCMAP.numSubtables, count_true_cons, List.count_nil]
  omega

theorem ite_write_eq {present : Bool} {bytes : List UInt8} (within : out.position ≤ out.bytes.length) :
    (if present then out.write bytes else pure out) = out.write (slotBytes present bytes) := by
  cases present
  · simp [OTSStream.write, within, pure, Except.pure]
  · rfl

theorem seek_bind_ite {α : Type} {position : Nat} {present : Bool} {bytes : List UInt8}
    {next : OTSStream → Except Stop α} :
    (out.seek position >>= fun back => (if present then back.write bytes else pure back) >>= next) =
      out.seek position >>= fun back => back.write (slotBytes present bytes) >>= next := by
  unfold OTSStream.seek
  split
  · simp only [ok_bind]
    rw [ite_write_eq]
    assumption
  · rfl

end Writers

theorem otsCmapSerialise_mapped {out out' : OTSStream} {input : List UInt8} {cmap : OpenTypeCMAP}
    (written : otsCmapSerialise out input cmap = .ok out') :
    cmap.subtable304.isSome ∨ cmap.subtable314.isSome := by
  by_contra neither
  simp only [not_or, Bool.not_eq_true] at neither
  simp [otsCmapSerialise, neither] at written

theorem otsCmapSerialise_eq {out : OTSStream} {input : List UInt8} {cmap : OpenTypeCMAP}
    (inside : cmap.Inside input) (mapped : cmap.subtable304.isSome ∨ cmap.subtable314.isSome) :
    otsCmapSerialise out input cmap =
      (fun out' => { out' with checksum := out.checksum ++ cmap.checksummed input }) <$>
        out.write (cmap.tableBytes input) := by
  have full : cmap.have100 → kFormat0ArraySize ≤ cmap.subtable100.length := by
    rcases inside.subtable100 with empty | full <;> simp_all [OpenTypeCMAP.have100]
  have some304 : cmap.have304 → cmap.subtable304.isSome := id
  have some314 : cmap.have314 → cmap.subtable314.isSome := by
    simp_all [OpenTypeCMAP.have314]
  have some0514 : cmap.have0514 → cmap.subtable0514.isSome := id
  have proceeds : ¬(!cmap.have304 && !cmap.have314) = true := by
    cases h : cmap.subtable304.isSome <;>
      simp_all [OpenTypeCMAP.have304, OpenTypeCMAP.have314]
  simp only [otsCmapSerialise, OTSStream.pad, OTSStream.writeU16, OTSStream.writeU32, OTSStream.tell,
    cmap.have0514_eq, cmap.have100_eq, cmap.have304_eq, cmap.have314_eq, cmap.have31012_eq,
    cmap.have31013_eq, cmap.numSubtables_eq,
    failIf_bind, proceeds, Bool.false_eq_true, if_false, writeMacRoman_eq full,
    writeOpaque_eq inside.subtable304 some304, writeOpaque_eq inside.subtable314 some314,
    writeOpaque_eq inside.subtable0514 some0514,
    writeGroups_eq_ite, writeRecord_eq, OTSStream.write_bind_write_bind_with, write_bind_ite,
    cmap.body100_eq, cmap.body304_eq input, cmap.body314_eq input,
    cmap.body31012_eq, cmap.body31013_eq, cmap.body0514_eq input, OTSStream.put_position,
    Nat.add_assoc, Nat.add_sub_cancel_left, seek_bind_ite]
  have layout : toBigEndian 2 0 ++ (toBigEndian 2 cmap.numSubtables ++
      (List.replicate (cmap.numSubtables * 8) 0 ++ cmap.body100 ++ cmap.body304 input ++
        cmap.body314 input ++ cmap.body31012 ++ cmap.body31013 ++ cmap.body0514 input)) =
      (toBigEndian 2 0 ++ toBigEndian 2 cmap.numSubtables) ++ List.replicate (cmap.numSubtables * 8) 0 ++
        cmap.bodies input := by
    simp [OpenTypeCMAP.bodies]
  rw [layout, OTSStream.write_seek_write (length_records _ _ _ _ _ _) ?_]
  · simp only [OpenTypeCMAP.tableBytes, OpenTypeCMAP.records, OpenTypeCMAP.checksummed,
      OpenTypeCMAP.head, OpenTypeCMAP.offset100, OpenTypeCMAP.offset304, OpenTypeCMAP.offset314,
      OpenTypeCMAP.offset31012, OpenTypeCMAP.offset31013, OpenTypeCMAP.offset0514, List.length_append,
      Nat.add_assoc]
  · simp

theorem otsCmapSerialise_written {out out' : OTSStream} {input : List UInt8} {cmap : OpenTypeCMAP}
    (inside : cmap.Inside input) (written : otsCmapSerialise out input cmap = .ok out') :
    (out'.bytes.drop out.position).take (out'.position - out.position) = cmap.tableBytes input := by
  rw [otsCmapSerialise_eq inside (otsCmapSerialise_mapped written)] at written
  cases wrote : out.write (cmap.tableBytes input) with
  | error _ => rw [wrote] at written; cases written
  | ok table =>
    obtain ⟨fits, rfl⟩ := OTSStream.write_eq_ok.mp wrote
    rw [wrote] at written
    cases written
    simp only [OTSStream.put_position, Nat.add_sub_cancel_left]
    rw [OTSStream.drop_put fits, List.take_left]

theorem OpenTypeCMAP.tableBytes_drop_head (cmap : OpenTypeCMAP) (input : List UInt8) :
    (cmap.tableBytes input).drop cmap.head.length = cmap.bodies input := by
  have records : (cmap.records input).length = (List.replicate (cmap.numSubtables * 8) (0 : UInt8)).length :=
    length_records _ _ _ _ _ _
  have header : (toBigEndian 2 0 ++ toBigEndian 2 cmap.numSubtables ++ cmap.records input).length =
      cmap.head.length := by
    simp only [OpenTypeCMAP.head, List.length_append, records]
  rw [OpenTypeCMAP.tableBytes, List.drop_left' header]

theorem OpenTypeCMAP.tableBytes_drop_offset31012 (cmap : OpenTypeCMAP) (input : List UInt8) :
    (cmap.tableBytes input).drop (cmap.offset31012 input) =
      cmap.body31012 ++ cmap.body31013 ++ cmap.body0514 input := by
  have before : cmap.offset31012 input =
      cmap.head.length + (cmap.body100 ++ cmap.body304 input ++ cmap.body314 input).length := by
    simp only [OpenTypeCMAP.offset31012, List.length_append, Nat.add_assoc]
  have split : cmap.bodies input = (cmap.body100 ++ cmap.body304 input ++ cmap.body314 input) ++
      (cmap.body31012 ++ cmap.body31013 ++ cmap.body0514 input) := by
    simp [OpenTypeCMAP.bodies]
  rw [before, ← List.drop_drop, cmap.tableBytes_drop_head, split, List.drop_left]

/-- `ots_cmap_serialise` on a table whose slots lie in the input: without a (3,0,4) or (3,1,4) slot it
fails before it writes; with one it is a single write of the layout at the stream's position, the
header, the records and the bodies, which returns exactly when the stream has room for them, and it
feeds the running checksum the table with the room for the records left zero. -/
theorem otsCmapSerialise_layout {out : OTSStream} {input : List UInt8} {cmap : OpenTypeCMAP}
    (inside : cmap.Inside input) :
    otsCmapSerialise out input cmap =
      if cmap.subtable304.isSome ∨ cmap.subtable314.isSome then
        (fun out' => { out' with checksum := out.checksum ++ cmap.checksummed input }) <$>
          out.write (cmap.tableBytes input)
      else .error .failure := by
  split
  · exact otsCmapSerialise_eq inside ‹_›
  · simp_all [otsCmapSerialise]

def fourSlotInput : List UInt8 := [0xA0, 0xA1, 0xA2, 0xA3, 0xB0, 0xB1, 0xB2, 0xB3, 0xC0, 0xC1, 0xC2, 0xC3]

def fourSlotCmap : OpenTypeCMAP :=
  { subtable304 := some ⟨0, 4⟩, subtable314 := some ⟨8, 4⟩, subtable0514 := some ⟨4, 4⟩,
    subtable31012 := [⟨0x41, 0x42, 1⟩], subtable31013 := [⟨0x50, 0x5F, 2⟩] }

theorem fourSlotCmap_layout :
    (·.bytes) <$> otsCmapSerialise ⟨List.replicate 100 0, 0, []⟩ fourSlotInput fourSlotCmap =
      .ok [0, 0, 0, 4,
        0, 0, 0, 5, 0, 0, 0, 96, 0, 3, 0, 0, 0, 0, 0, 36,
        0, 3, 0, 10, 0, 0, 0, 40, 0, 3, 0, 10, 0, 0, 0, 68,
        0xA0, 0xA1, 0xA2, 0xA3,
        0, 12, 0, 0, 0, 0, 0, 28, 0, 0, 0, 0, 0, 0, 0, 1, 0, 0, 0, 0x41, 0, 0, 0, 0x42, 0, 0, 0, 1,
        0, 13, 0, 0, 0, 0, 0, 26, 0, 0, 0, 0, 0, 0, 0, 1, 0, 0, 0, 0x50, 0, 0, 0, 0x5F, 0, 0, 0, 2,
        0xB0, 0xB1, 0xB2, 0xB3] := by
  rw [otsCmapSerialise_layout ⟨by simp [fourSlotCmap, fourSlotInput, Slice.Inside],
    by simp [fourSlotCmap, fourSlotInput, Slice.Inside], by simp [fourSlotCmap, fourSlotInput, Slice.Inside],
    .inl rfl⟩]
  rfl

end OtsCmap
