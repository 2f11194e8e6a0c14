import OtsCmap.Table
import OtsCmap.Stream

/-! `ots_cmap_serialise`: the header, a pad for the directory records, the bodies in a fixed order,
then the records written over the pad. Opaque subtables are copied from the input; the Mac Roman
array and the groups of formats 12 and 13 are written anew. -/
namespace OtsCmap

def macRomanBytes (glyphIds : List Nat) : Except Stop (List UInt8) :=
  if kFormat0ArraySize ≤ glyphIds.length then
    .ok ((glyphIds.take kFormat0ArraySize).map UInt8.ofNat)
  else .error .fault

def writeMacRoman (out : OTSStream) (present : Bool) (glyphIds : List Nat) : Except Stop OTSStream :=
  if present then do
    let out ← out.writeU16 0  -- format
    let out ← out.writeU16 (6 + kFormat0ArraySize)  -- length
    let out ← out.writeU16 0  -- language
    let bytes ← macRomanBytes glyphIds
    out.write bytes
  else pure out

def writeOpaque (out : OTSStream) (input : List UInt8) (present : Bool) (slot : Option Slice) :
    Except Stop OTSStream :=
  match present, slot with
  | true, some data => data.bytes input >>= out.write
  | _, _ => pure out

def writeGroupRecords : OTSStream → List OpenTypeCMAPSubtableRange → Except Stop OTSStream
  | out, [] => pure out
  | out, group :: rest => do
    let out ← out.writeU32 group.startRange
    let out ← out.writeU32 group.endRange
    let out ← out.writeU32 group.startGlyphId
    writeGroupRecords out rest

def writeGroups (out : OTSStream) (present : Bool) (format lengthBase : Nat)
    (groups : List OpenTypeCMAPSubtableRange) : Except Stop OTSStream :=
  if present then do
    let numGroups := groups.length
    let out ← out.writeU16 format
    let out ← out.writeU16 0
    let out ← out.writeU32 (numGroups * 12 + lengthBase)
    let out ← out.writeU32 0
    let out ← out.writeU32 numGroups
    writeGroupRecords out groups
  else pure out

def writeRecord (out : OTSStream) (present : Bool) (platform encoding offset : Nat) :
    Except Stop OTSStream :=
  if present then do
    let out ← out.writeU16 platform
    let out ← out.writeU16 encoding
    out.writeU32 offset
  else pure out

def otsCmapSerialise (out : OTSStream) (input : List UInt8) (cmap : OpenTypeCMAP) :
    Except Stop OTSStream := do
  let have0514 := cmap.subtable0514.isSome
  let have100 := !cmap.subtable100.isEmpty
  let have304 := cmap.subtable304.isSome
  -- MS Symbol and MS Unicode tables should not co-exist.
  let have314 := !have304 && cmap.subtable314.isSome
  let have31012 := !cmap.subtable31012.isEmpty
  let have31013 := !cmap.subtable31013.isEmpty
  let numSubtables := [have0514, have100, have304, have314, have31012, have31013].count true
  let tableStart := out.tell
  -- Some fonts don't have 3-0-4 MS Symbol nor 3-1-4 Unicode BMP tables (e.g., old fonts for Mac).
  -- We don't support them.
  failIf (!have304 && !have314)
  let out ← out.writeU16 0
  let out ← out.writeU16 numSubtables
  let recordOffset := out.tell
  let out ← out.pad (numSubtables * 8)
  let offset100 := out.tell
  let out ← writeMacRoman out have100 cmap.subtable100
  let offset304 := out.tell
  let out ← writeOpaque out input have304 cmap.subtable304
  let offset314 := out.tell
  let out ← writeOpaque out input have314 cmap.subtable314
  let offset31012 := out.tell
  let out ← writeGroups out have31012 12 16 cmap.subtable31012
  let offset31013 := out.tell
  let out ← writeGroups out have31013 13 14 cmap.subtable31013
  let offset0514 := out.tell
  let out ← writeOpaque out input have0514 cmap.subtable0514
  let tableEnd := out.tell
  -- We might have hanging bytes from the above's checksum which the OTSStream then merges into
  -- the table of offsets.
  let savedChecksum := out.saveChecksumState
  let out := out.resetChecksum
  -- Now seek back and write the table of offsets
  let out ← out.seek recordOffset
  let out ← writeRecord out have0514 0 5 (offset0514 - tableStart)
  let out ← writeRecord out have100 1 0 (offset100 - tableStart)
  let out ← writeRecord out have304 3 0 (offset304 - tableStart)
  let out ← writeRecord out have314 3 1 (offset314 - tableStart)
  let out ← writeRecord out have31012 3 10 (offset31012 - tableStart)
  let out ← writeRecord out have31013 3 10 (offset31013 - tableStart)
  let out ← out.seek tableEnd
  pure (out.restoreChecksum savedChecksum)

section Safety

variable {input : List UInt8} {out : OTSStream}

theorem write_safe (data : List UInt8) : Safe (out.write data) fun _ => True := by
  unfold OTSStream.write; split <;> trivial

theorem writeU16_safe (value : Nat) : Safe (out.writeU16 value) fun _ => True := write_safe _

theorem writeU32_safe (value : Nat) : Safe (out.writeU32 value) fun _ => True := write_safe _

theorem seek_safe (position : Nat) : Safe (out.seek position) fun _ => True := by
  unfold OTSStream.seek; split <;> trivial

theorem writeMacRoman_safe {present : Bool} {glyphIds : List Nat}
    (full : present → kFormat0ArraySize ≤ glyphIds.length) :
    Safe (writeMacRoman out present glyphIds) fun _ => True := by
  unfold writeMacRoman
  split
  · simp only [Safe.bind_iff]
    refine (writeU16_safe _).mono fun _ _ => (writeU16_safe _).mono fun _ _ =>
      (writeU16_safe _).mono fun _ _ => ?_
    simp only [macRomanBytes, full ‹_›, if_true, Safe.ok_iff]
    exact write_safe _
  · trivial

theorem writeOpaque_safe {present : Bool} {slot : Option Slice}
    (inside : ∀ data ∈ slot, data.Inside input) :
    Safe (writeOpaque out input present slot) fun _ => True := by
  unfold writeOpaque
  split
  · have inside := inside _ rfl
    unfold Slice.Inside at inside
    simp only [Slice.bytes, inside, if_true, Safe.bind_iff, Safe.ok_iff]
    exact write_safe _
  · trivial

theorem writeGroupRecords_safe :
    ∀ (out : OTSStream) (groups : List OpenTypeCMAPSubtableRange),
      Safe (writeGroupRecords out groups) fun _ => True
  | _, [] => trivial
  | out, group :: rest => by
    simp only [writeGroupRecords, Safe.bind_iff]
    exact (writeU32_safe _).mono fun _ _ => (writeU32_safe _).mono fun _ _ =>
      (writeU32_safe _).mono fun out _ => writeGroupRecords_safe out rest

theorem writeGroups_safe (present : Bool) (format lengthBase : Nat)
    (groups : List OpenTypeCMAPSubtableRange) :
    Safe (writeGroups out present format lengthBase groups) fun _ => True := by
  unfold writeGroups
  split
  · simp only [Safe.bind_iff]
    exact (writeU16_safe _).mono fun _ _ => (writeU16_safe _).mono fun _ _ =>
      (writeU32_safe _).mono fun _ _ => (writeU32_safe _).mono fun _ _ =>
        (writeU32_safe _).mono fun out _ => writeGroupRecords_safe out groups
  · trivial

theorem writeRecord_safe (present : Bool) (platform encoding offset : Nat) :
    Safe (writeRecord out present platform encoding offset) fun _ => True := by
  unfold writeRecord
  split
  · simp only [Safe.bind_iff]
    exact (writeU16_safe _).mono fun _ _ => (writeU16_safe _).mono fun _ _ => writeU32_safe _
  · trivial

theorem otsCmapSerialise_safe {cmap : OpenTypeCMAP} (inside : cmap.Inside input) :
    Safe (otsCmapSerialise out input cmap) fun _ => True := by
  have full : (!cmap.subtable100.isEmpty) → kFormat0ArraySize ≤ cmap.subtable100.length := by
    rcases inside.subtable100 with empty | full <;> simp_all
  simp only [otsCmapSerialise, OTSStream.pad, Safe.bind_iff, Safe.failIf_iff]
  intro _
  refine (writeU16_safe _).mono fun _ _ => (writeU16_safe _).mono fun _ _ => ?_
  refine (write_safe _).mono fun _ _ => (writeMacRoman_safe full).mono fun _ _ => ?_
  refine (writeOpaque_safe inside.subtable304).mono fun _ _ => ?_
  refine (writeOpaque_safe inside.subtable314).mono fun _ _ => ?_
  refine (writeGroups_safe _ _ _ _).mono fun _ _ => (writeGroups_safe _ _ _ _).mono fun _ _ => ?_
  refine (writeOpaque_safe inside.subtable0514).mono fun _ _ => ?_
  refine (seek_safe _).mono fun _ _ => (writeRecord_safe _ _ _ _).mono fun _ _ => ?_
  refine (writeRecord_safe _ _ _ _).mono fun _ _ => (writeRecord_safe _ _ _ _).mono fun _ _ => ?_
  refine (writeRecord_safe _ _ _ _).mono fun _ _ => (writeRecord_safe _ _ _ _).mono fun _ _ => ?_
  refine (writeRecord_safe _ _ _ _).mono fun _ _ => ?_
  exact (seek_safe _).mono fun _ _ => trivial

end Safety

def groupRecordBytes (groups : List OpenTypeCMAPSubtableRange) : List UInt8 :=
  groups.flatMap fun group =>
    toBigEndian 4 group.startRange ++ toBigEndian 4 group.endRange ++ toBigEndian 4 group.startGlyphId

def groupsBody (format lengthBase : Nat) (groups : List OpenTypeCMAPSubtableRange) : List UInt8 :=
  toBigEndian 2 format ++ toBigEndian 2 0 ++ toBigEndian 4 (groups.length * 12 + lengthBase) ++
    toBigEndian 4 0 ++ toBigEndian 4 groups.length ++ groupRecordBytes groups

@[simp] theorem length_groupRecordBytes (groups : List OpenTypeCMAPSubtableRange) :
    (groupRecordBytes groups).length = 12 * groups.length := by
  induction groups with
  | nil => rfl
  | cons group groups ih => simp [groupRecordBytes] at ih ⊢; omega

theorem length_groupsBody (format lengthBase : Nat) (groups : List OpenTypeCMAPSubtableRange) :
    (groupsBody format lengthBase groups).length = 16 + 12 * groups.length := by
  simp [groupsBody]; omega

theorem write_bind_writeGroupRecords {out : OTSStream} {data : List UInt8} :
    ∀ groups : List OpenTypeCMAPSubtableRange,
      (out.write data >>= fun out => writeGroupRecords out groups) =
        out.write (data ++ groupRecordBytes groups)
  | [] => by simp [writeGroupRecords, groupRecordBytes]
  | group :: groups => by
    simp only [writeGroupRecords, OTSStream.writeU32, OTSStream.write_bind_write_bind,
      write_bind_writeGroupRecords groups, OTSStream.write_bind_write]
    simp [groupRecordBytes]

theorem writeGroups_eq (out : OTSStream) (format lengthBase : Nat)
    (groups : List OpenTypeCMAPSubtableRange) :
    writeGroups out true format lengthBase groups = out.write (groupsBody format lengthBase groups) := by
  simp only [writeGroups, if_true, OTSStream.writeU16, OTSStream.writeU32,
    write_bind_writeGroupRecords, OTSStream.write_bind_write_bind, OTSStream.write_bind_write,
    groupsBody, List.append_assoc]

theorem writeGroups_eq_ok {out out' : OTSStream} {format lengthBase : Nat}
    {groups : List OpenTypeCMAPSubtableRange}
    (ok : writeGroups out true format lengthBase groups = .ok out') :
    out'.position = out.position + (16 + 12 * groups.length) ∧
      field out'.bytes (out.position + 4) 4 = (groups.length * 12 + lengthBase) % 2 ^ 32 := by
  obtain ⟨fits, rfl⟩ := OTSStream.write_eq_ok.mp ((writeGroups_eq out format lengthBase groups) ▸ ok)
  refine ⟨by simp [length_groupsBody], ?_⟩
  have layout : groupsBody format lengthBase groups = (toBigEndian 2 format ++ toBigEndian 2 0) ++
      (toBigEndian 4 (groups.length * 12 + lengthBase) ++
        (toBigEndian 4 0 ++ toBigEndian 4 groups.length ++ groupRecordBytes groups)) := by
    simp [groupsBody]
  rw [OTSStream.field_put fits (by rw [length_groupsBody]; omega), layout, List.drop_left' (by simp),
    List.take_left' (by simp), bigEndian_toBigEndian]
  norm_num

/-- The format-13 body's length field is two bytes short of the body written. -/
theorem writeGroups_format13_length_short {out out' : OTSStream}
    {groups : List OpenTypeCMAPSubtableRange} (bounded : groups.length ≤ kMaxCMAPGroups)
    (ok : writeGroups out true 13 14 groups = .ok out') :
    field out'.bytes (out.position + 4) 4 + 2 = out'.position - out.position := by
  obtain ⟨position, length⟩ := writeGroups_eq_ok ok
  unfold kMaxCMAPGroups at bounded
  rw [length, position, Nat.mod_eq_of_lt (by omega)]
  omega

theorem writeGroups_format13_one_group :
    field [0, 13, 0, 0, 0, 0, 0, 26, 0, 0, 0, 0, 0, 0, 0, 1, 0, 0, 0, 0x41, 0, 0, 0, 0x41, 0, 0, 0, 0]
      (0 + 4) 4 + 2 = 28 - 0 :=
  @writeGroups_format13_length_short ⟨List.replicate 28 0, 0, []⟩
    ⟨[0, 13, 0, 0, 0, 0, 0, 26, 0, 0, 0, 0, 0, 0, 0, 1, 0, 0, 0, 0x41, 0, 0, 0, 0x41, 0, 0, 0, 0], 28,
      [0, 13, 0, 0, 0, 0, 0, 26, 0, 0, 0, 0, 0, 0, 0, 1, 0, 0, 0, 0x41, 0, 0, 0, 0x41, 0, 0, 0, 0]⟩
    [⟨0x41, 0x41, 0⟩] (by decide) rfl

end OtsCmap
