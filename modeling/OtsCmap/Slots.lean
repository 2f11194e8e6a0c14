import OtsCmap.Directory
import OtsCmap.Relocate

/-! What an accepted table's opaque slots hold. Each (3,0,4), (3,1,4) and (0,5,14) slot is the
window of a record whose subtable starts with its format and its length, as the format and length
loop read them, and whose parser accepted it; a format-4 slot comes with an `OS/2` table. The
serialiser copies these windows verbatim, so this is what a second parse of its output finds. -/
namespace OtsCmap

def CMAPSubtableHeader.listed (header : CMAPSubtableHeader) : Nat × Nat × Nat :=
  (header.platform, header.encoding, header.offset)

def CMAPSubtableHeader.Framed (input : List UInt8) (header : CMAPSubtableHeader) : Prop :=
  header.format = field input header.offset 2 ∧
    (header.format = 0 ∨ header.format = 4 → header.length = field input (header.offset + 2) 2) ∧
    (header.format = 12 ∨ header.format = 13 → header.length = field input (header.offset + 4) 4) ∧
    (header.format = 14 → header.length = field input (header.offset + 2) 4)

section Recovery

variable {input : List UInt8} {table : Buffer}

theorem recoverLength_framed (reads : table.On ⟨0, input.length⟩) {header header' : CMAPSubtableHeader}
    (ok : recoverLength input table header = .ok header') :
    header'.Framed input ∧ header'.platform = header.platform ∧ header'.encoding = header.encoding ∧
      header'.offset = header.offset := by
  obtain ⟨base, _⟩ := reads
  simp only [recoverLength, Buffer.readU16, Buffer.readU32, bind_eq_ok] at ok
  obtain ⟨⟨format, next⟩, formatRead, rest⟩ := ok
  obtain ⟨_, _, rfl, rfl⟩ := Buffer.read_eq_ok.mp formatRead
  simp only [Buffer.setOffset, base, Nat.zero_add] at rest ⊢
  split at rest <;> simp only [bind_eq_ok, Buffer.read_eq_ok, Buffer.skip_eq_ok, pure, Except.pure,
    Except.ok.injEq, Prod.exists] at rest
  all_goals first
    | subst rest
    | obtain ⟨_, _, ⟨_, _, rfl, rfl⟩, rfl⟩ := rest
    | obtain ⟨_, ⟨_, rfl⟩, _, _, ⟨_, _, rfl, rfl⟩, rfl⟩ := rest
  all_goals simp_all [CMAPSubtableHeader.Framed, Nat.add_assoc]

theorem recoverLengths_framed (reads : table.On ⟨0, input.length⟩) :
    ∀ {headers headers' : List CMAPSubtableHeader}, recoverLengths input table headers = .ok headers' →
      ∀ header ∈ headers', header.Framed input
  | [], _, ok => by cases ok; simp
  | header :: rest, _, ok => by
    simp only [recoverLengths, bind_eq_ok, pure, Except.pure, Except.ok.injEq] at ok
    obtain ⟨header', first, rest', later, rfl⟩ := ok
    simp only [List.mem_cons, forall_eq_or_imp]
    exact ⟨(recoverLength_framed reads first).1, recoverLengths_framed reads later⟩

theorem recoverLengths_records (reads : table.On ⟨0, input.length⟩) :
    ∀ {headers headers' : List CMAPSubtableHeader}, recoverLengths input table headers = .ok headers' →
      headers'.map (·.listed) = headers.map (·.listed)
  | [], _, ok => by cases ok; rfl
  | header :: rest, _, ok => by
    simp only [recoverLengths, bind_eq_ok, pure, Except.pure, Except.ok.injEq] at ok
    obtain ⟨header', first, rest', later, rfl⟩ := ok
    obtain ⟨-, platform, encoding, offset⟩ := recoverLength_framed reads first
    rw [List.map_cons, List.map_cons, recoverLengths_records reads later]
    simp only [CMAPSubtableHeader.listed, platform, encoding, offset]

end Recovery

section Windows

variable {input : List UInt8} {numGlyphs : Nat}

theorem parse3x4_long {file file' : OpenTypeFile} {encoding : Nat} {data : Slice}
    (accepted : parse3x4 file encoding input data numGlyphs = .ok file') : 8 ≤ data.length := by
  obtain ⟨_, _, _, _, _, -, counted, -⟩ := parse3x4_eq_ok.mp accepted
  simp only [readSegCount, Buffer.readU16, bind_eq_ok, failIf_bind, ite_failure_eq_ok] at counted
  obtain ⟨_, skipped, ⟨_, _⟩, languageRead, -, ⟨_, _⟩, countRead, -⟩ := counted
  obtain ⟨-, rfl⟩ := Buffer.skip_eq_ok.mp skipped
  obtain ⟨-, -, -, rfl⟩ := Buffer.read_eq_ok.mp languageRead
  obtain ⟨fits, -⟩ := Buffer.read_eq_ok.mp countRead
  simpa [Buffer.ofSlice] using fits

theorem parse0514_long {file file' : OpenTypeFile} {data : Slice}
    (accepted : parse0514 file input data numGlyphs = .ok file') : 8 ≤ data.length := by
  simp only [parse0514, Buffer.readU32, bind_eq_ok] at accepted
  obtain ⟨_, skipped, ⟨_, _⟩, countRead, -⟩ := accepted
  obtain ⟨-, rfl⟩ := Buffer.skip_eq_ok.mp skipped
  obtain ⟨fits, -⟩ := Buffer.read_eq_ok.mp countRead
  simp [Buffer.ofSlice] at fits
  omega

structure Format4At (input : List UInt8) (numGlyphs : Nat) (data : Slice) : Prop where
  inside : data.Inside input
  long : 8 ≤ data.length
  format : field input data.base 2 = 4
  length : field input (data.base + 2) 2 = data.length
  accepted : ∃ file file' encoding, parse3x4 file encoding input data numGlyphs = .ok file'

structure Format14At (input : List UInt8) (numGlyphs : Nat) (data : Slice) : Prop where
  inside : data.Inside input
  long : 8 ≤ data.length
  format : field input data.base 2 = 14
  length : field input (data.base + 2) 4 = data.length
  accepted : ∃ file file', parse0514 file input data numGlyphs = .ok file'

structure OpenTypeCMAP.Windows (input : List UInt8) (numGlyphs : Nat) (cmap : OpenTypeCMAP) :
    Prop where
  subtable304 : ∀ data ∈ cmap.subtable304, Format4At input numGlyphs data
  subtable314 : ∀ data ∈ cmap.subtable314, Format4At input numGlyphs data
  subtable0514 : ∀ data ∈ cmap.subtable0514, Format14At input numGlyphs data

variable {header : CMAPSubtableHeader} {file file' : OpenTypeFile}

theorem OpenTypeCMAP.Windows.parse3x4 (windows : file.cmap.Windows input numGlyphs)
    (checked : header.Checked input.length) (framed : header.Framed input) (four : header.format = 4)
    {encoding : Nat} (accepted : parse3x4 file encoding input ⟨header.offset, header.length⟩ numGlyphs = .ok file') :
    file'.cmap.Windows input numGlyphs := by
  have at4 : Format4At input numGlyphs ⟨header.offset, header.length⟩ :=
    ⟨checked.window_le, parse3x4_long accepted, four ▸ framed.1.symm,
      (framed.2.1 (.inr four)).symm, _, _, _, accepted⟩
  obtain ⟨_, _, _, _, _, -, -, -, -, -, -, slot⟩ := parse3x4_eq_ok.mp accepted
  rcases slot with ⟨-, rfl⟩ | ⟨-, rfl⟩
  · exact ⟨by simpa using at4, windows.subtable314, windows.subtable0514⟩
  · exact ⟨windows.subtable304, by simpa using at4, windows.subtable0514⟩

theorem parseSubtable_eq_ok (checked : header.Checked input.length)
    (ok : parseSubtable input ⟨0, input.length⟩ numGlyphs file header = .ok file') :
    (header.format = 4 ∧ ∃ encoding,
        parse3x4 file encoding input ⟨header.offset, header.length⟩ numGlyphs = .ok file') ∨
      (header.format = 14 ∧ parse0514 file input ⟨header.offset, header.length⟩ numGlyphs = .ok file') ∨
      (file'.cmap.subtable304 = file.cmap.subtable304 ∧ file'.cmap.subtable314 = file.cmap.subtable314 ∧
        file'.cmap.subtable0514 = file.cmap.subtable0514 ∧ file'.os2 = file.os2) := by
  have inside : Slice.Inside input ⟨header.offset, header.length⟩ := checked.window_le
  have window : header.window ⟨0, input.length⟩ = .ok ⟨header.offset, header.length⟩ := by
    simp [CMAPSubtableHeader.window, Slice.sub, checked.window_le]
  unfold parseSubtable at ok
  simp only [window, ok_bind] at ok
  split_ifs at ok <;> (try split at ok)
  all_goals first
    | exact .inl ⟨by omega, _, ok⟩
    | exact .inr (.inl ⟨by omega, ok⟩)
    | cases ok; exact .inr (.inr ⟨rfl, rfl, rfl, rfl⟩)
    | obtain ⟨_, _, rfl⟩ := (parse31012_safe _ inside numGlyphs).of_ok ok
      exact .inr (.inr ⟨rfl, rfl, rfl, rfl⟩)
    | obtain ⟨_, _, rfl⟩ := (parse31013_safe _ inside numGlyphs).of_ok ok
      exact .inr (.inr ⟨rfl, rfl, rfl, rfl⟩)
    | obtain ⟨_, _, _, rfl⟩ := (parse100_safe file inside).of_ok ok
      exact .inr (.inr ⟨rfl, rfl, rfl, rfl⟩)

theorem OpenTypeCMAP.Windows.dispatch (windows : file.cmap.Windows input numGlyphs)
    (checked : header.Checked input.length) (framed : header.Framed input)
    (ok : parseSubtable input ⟨0, input.length⟩ numGlyphs file header = .ok file') :
    file'.cmap.Windows input numGlyphs := by
  rcases parseSubtable_eq_ok checked ok with ⟨four, _, accepted⟩ | ⟨fourteen, accepted⟩ |
    ⟨same304, same314, same0514, -⟩
  · exact windows.parse3x4 checked framed four accepted
  · have inside : Slice.Inside input ⟨header.offset, header.length⟩ := checked.window_le
    obtain rfl := (parse0514_safe file inside numGlyphs).of_ok accepted
    refine ⟨windows.subtable304, windows.subtable314, ?_⟩
    simp only [Option.mem_def, Option.some.injEq, forall_eq']
    exact ⟨inside, parse0514_long accepted, fourteen ▸ framed.1.symm,
      (framed.2.2.2 fourteen).symm, _, _, accepted⟩
  · exact ⟨same304 ▸ windows.subtable304, same314 ▸ windows.subtable314, same0514 ▸ windows.subtable0514⟩

theorem OpenTypeCMAP.Windows.parseSubtables :
    ∀ {file : OpenTypeFile} {headers : List CMAPSubtableHeader},
      (∀ header ∈ headers, header.Checked input.length ∧ header.Framed input) →
        file.cmap.Windows input numGlyphs →
          parseSubtables input ⟨0, input.length⟩ numGlyphs file headers = .ok file' →
            file'.cmap.Windows input numGlyphs
  | _, [], _, windows, ok => by cases ok; exact windows
  | _, header :: rest, good, windows, ok => by
    obtain ⟨middle, first, later⟩ := bind_eq_ok.mp ok
    have ⟨checked, framed⟩ := good header (List.mem_cons_self _ _)
    exact OpenTypeCMAP.Windows.parseSubtables (fun other mem => good other (List.mem_cons_of_mem _ mem))
      (windows.dispatch checked framed first) later

end Windows

theorem otsCmapParse_eq_ok {file file' : OpenTypeFile} {input : List UInt8}
    (accepted : otsCmapParse file input = .ok file') :
    ∃ maxp headers, file.maxp = some maxp ∧
      (∀ header ∈ headers, header.Checked input.length ∧ header.Framed input) ∧
      parseSubtables input ⟨0, input.length⟩ maxp.numGlyphs { file with cmap := {} } headers = .ok file' ∧
      headers.Pairwise (fun a b => a.id < b.id) ∧ ∃ records directory,
        readSubtableHeaders input ⟨0, input.length, 4⟩ (field input 2 2) = .ok (records, directory) ∧
        headers.map (·.listed) = records.map (·.listed) := by
  have inside : Slice.Inside input ⟨0, input.length⟩ := by simp [Slice.Inside]
  simp only [otsCmapParse, Buffer.readU16, bind_eq_ok, failIf_bind, ite_failure_eq_ok] at accepted
  obtain ⟨⟨_, table⟩, versionRead, ⟨_, table'⟩, countRead, -, -, ⟨headers, directory⟩, headersRead,
    ⟨⟩, offsetsOk, recovered, recoveredOk, ⟨⟩, lengthsOk, ⟨⟩, -, rest⟩ := accepted
  obtain ⟨reads, -⟩ := (Buffer.read_safe inside (Buffer.ofSlice_on _) 2).of_ok versionRead
  obtain ⟨reads, -⟩ := (Buffer.read_safe inside reads 2).of_ok countRead
  have directoryReads : directory.On ⟨0, input.length⟩ :=
    (readSubtableHeaders_safe inside _ reads).of_ok headersRead
  obtain ⟨placed, sorted, -⟩ := (checkOffsets_safe headers 0 0).of_ok offsetsOk
  obtain ⟨ids, short⟩ := (recoverLengths_safe directoryReads headers placed).of_ok recoveredOk
  have framed := recoverLengths_framed directoryReads recoveredOk
  have checked : ∀ header ∈ recovered, header.Checked input.length := fun header mem =>
    (checkLength_safe (short header mem).1 (short header mem).2).of_ok (forM_eq_ok.mp lengthsOk header mem)
  obtain ⟨-, -, rfl, rfl⟩ := Buffer.read_eq_ok.mp versionRead
  obtain ⟨-, -, rfl, rfl⟩ := Buffer.read_eq_ok.mp countRead
  split at rest
  · refine ⟨_, recovered, ‹_›, fun header mem => ⟨checked header mem, framed header mem⟩, rest, ?_, headers,
      directory, headersRead, recoverLengths_records directoryReads recoveredOk⟩
    rw [← List.pairwise_map (R := (· < ·)), ids, List.pairwise_map]
    exact sorted
  · cases rest

theorem otsCmapParse_windows {file file' : OpenTypeFile} {input : List UInt8}
    (accepted : otsCmapParse file input = .ok file') :
    ∃ maxp, file.maxp = some maxp ∧ file'.cmap.Windows input maxp.numGlyphs := by
  obtain ⟨maxp, headers, found, good, run, -⟩ := otsCmapParse_eq_ok accepted
  exact ⟨maxp, found, OpenTypeCMAP.Windows.parseSubtables good ⟨by simp, by simp, by simp⟩ run⟩

end OtsCmap
