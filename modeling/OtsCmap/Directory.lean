import OtsCmap.Format4
import OtsCmap.Format14
import OtsCmap.Rebuilt
import OtsCmap.Overlap

/-! `ots_cmap_parse`: the directory of the table, the format and length of each record recovered
from its subtable, the checks on offsets, lengths and overlap, and the dispatch of each record to
the parser of its subtable. The table is the whole input. -/
namespace OtsCmap

def readSubtableHeaders (input : List UInt8) :
    Buffer → Nat → Except Stop (List CMAPSubtableHeader × Buffer) :=
  readArray fun table => do
    let (platform, table) ← table.readU16 input
    let (encoding, table) ← table.readU16 input
    let (offset, table) ← table.readU32 input
    pure ({ platform := platform, encoding := encoding, offset := offset }, table)

def CMAPSubtableHeader.id (header : CMAPSubtableHeader) : Nat :=
  header.platform * 65536 + header.encoding

def checkOffsets (length dataOffset : Nat) :
    List CMAPSubtableHeader → Nat → Nat → Except Stop Unit
  | [], _, _ => pure ()
  | header :: rest, i, lastId => do
    failIf (header.offset > 1024 * 1024 * 1024)
    failIf (header.offset < dataOffset ∨ header.offset ≥ length)
    -- check if the table is sorted first by platform ID, then by encoding ID.
    let currentId := header.id
    failIf (i ≠ 0 ∧ lastId ≥ currentId)
    checkOffsets length dataOffset rest (i + 1) currentId

def recoverLength (input : List UInt8) (table : Buffer) (header : CMAPSubtableHeader) :
    Except Stop CMAPSubtableHeader := do
  let (format, table) ← (table.setOffset header.offset).readU16 input
  match format with
  | 0 | 4 => do
    let (len, _) ← table.readU16 input
    pure { header with format := format, length := len }
  | 12 | 13 => do
    let table ← table.skip 2
    let (length, _) ← table.readU32 input
    pure { header with format := format, length := length }
  | 14 => do
    let (length, _) ← table.readU32 input
    pure { header with format := format, length := length }
  | _ => pure { header with format := format, length := 0 }

def recoverLengths (input : List UInt8) (table : Buffer) :
    List CMAPSubtableHeader → Except Stop (List CMAPSubtableHeader)
  | [] => pure []
  | header :: rest => do
    let header ← recoverLength input table header
    let rest ← recoverLengths input table rest
    pure (header :: rest)

def checkLength (length : Nat) (header : CMAPSubtableHeader) : Except Stop Unit :=
  if header.length = 0 then pure ()
  else do
    failIf (header.length > 1024 * 1024 * 1024)
    -- We know that both the offset and length are < 1GB, so the following addition doesn't
    -- overflow.
    let endByte ← addNoWrap 32 header.offset header.length
    failIf (endByte > length)

def CMAPSubtableHeader.window (data : Slice) (header : CMAPSubtableHeader) : Except Stop Slice :=
  data.sub header.offset header.length

def parseSubtable (input : List UInt8) (data : Slice) (numGlyphs : Nat) (file : OpenTypeFile)
    (header : CMAPSubtableHeader) : Except Stop OpenTypeFile :=
  if header.platform = 0 then
    -- Unicode platform
    if header.encoding = 0 ∧ header.format = 4 then
      -- parse and output the 0-0-4 table as 3-1-4 table.
      header.window data >>= fun window => parse3x4 file 1 input window numGlyphs
    else if header.encoding = 3 ∧ header.format = 4 then
      -- parse and output the 0-3-4 table as 3-1-4 table.
      header.window data >>= fun window => parse3x4 file 1 input window numGlyphs
    else if header.encoding = 3 ∧ header.format = 12 then
      -- parse and output the 0-3-12 table as 3-10-12 table.
      header.window data >>= fun window => parse31012 file input window numGlyphs
    else if header.encoding = 5 ∧ header.format = 14 then
      header.window data >>= fun window => parse0514 file input window numGlyphs
    else pure file
  else if header.platform = 1 then
    -- Mac platform
    if header.encoding = 0 ∧ header.format = 0 then
      header.window data >>= fun window => parse100 file input window
    else pure file
  else if header.platform = 3 then
    -- MS platform
    match header.encoding with
    | 0 | 1 =>
      if header.format = 4 then
        header.window data >>= fun window => parse3x4 file header.encoding input window numGlyphs
      else pure file
    | 10 =>
      if header.format = 12 then
        header.window data >>= fun window =>
          parse31012 { file with cmap.subtable31012 := [] } input window numGlyphs
      else if header.format = 13 then
        header.window data >>= fun window =>
          parse31013 { file with cmap.subtable31013 := [] } input window numGlyphs
      else pure file
    | _ => pure file
  else pure file

def parseSubtables (input : List UInt8) (data : Slice) (numGlyphs : Nat) :
    OpenTypeFile → List CMAPSubtableHeader → Except Stop OpenTypeFile
  | file, [] => pure file
  | file, header :: rest => do
    let file ← parseSubtable input data numGlyphs file header
    parseSubtables input data numGlyphs file rest

def otsCmapParse (file : OpenTypeFile) (input : List UInt8) : Except Stop OpenTypeFile := do
  let data : Slice := ⟨0, input.length⟩
  let file := { file with cmap := {} }
  let (version, table) ← (Buffer.ofSlice data).readU16 input
  let (numTables, table) ← table.readU16 input
  failIf (version ≠ 0)
  failIf (numTables = 0)
  let (headers, table) ← readSubtableHeaders input table numTables
  checkOffsets input.length table.offset headers 0 0
  let headers ← recoverLengths input table headers
  headers.forM (checkLength input.length)
  checkOverlap headers
  -- we grab the number of glyphs in the file from the maxp table to make sure that the character
  -- map isn't referencing anything beyound this range.
  let some maxp := file.maxp | throw .failure
  parseSubtables input data maxp.numGlyphs file headers

def CMAPSubtableHeader.Placed (length : Nat) (header : CMAPSubtableHeader) : Prop :=
  header.offset ≤ 1024 * 1024 * 1024 ∧ header.offset < length

theorem checkOffsets_safe {length dataOffset : Nat} :
    ∀ (headers : List CMAPSubtableHeader) (i lastId : Nat),
      Safe (checkOffsets length dataOffset headers i lastId) fun _ =>
        (∀ header ∈ headers, header.Placed length) ∧ headers.Pairwise (fun a b => a.id < b.id) ∧
          (i ≠ 0 → ∀ header ∈ headers, lastId < header.id)
  | [], _, _ => by simp [checkOffsets]
  | header :: rest, i, lastId => by
    simp only [checkOffsets, Safe.bind_iff, Safe.failIf_iff, not_or, not_and, not_le, not_lt]
    intro small ⟨_, inside⟩ order
    refine (checkOffsets_safe rest (i + 1) header.id).mono fun _ ⟨placed, sorted, above⟩ => ?_
    have above := above (Nat.succ_ne_zero i)
    refine ⟨?_, List.pairwise_cons.mpr ⟨above, sorted⟩, fun nonzero other mem => ?_⟩
    · simpa [CMAPSubtableHeader.Placed, small, inside] using placed
    · rcases List.mem_cons.mp mem with rfl | mem
      · exact order nonzero
      · exact (order nonzero).trans (above other mem)

section Recovery

variable {input : List UInt8} {table : Buffer}

def CMAPSubtableHeader.Recovered (header header' : CMAPSubtableHeader) : Prop :=
  header'.id = header.id ∧ header'.offset = header.offset ∧ (header'.format = 4 → header'.length < 65536)

theorem recoverLength_safe (reads : table.On ⟨0, input.length⟩) (header : CMAPSubtableHeader) :
    Safe (recoverLength input table header) header.Recovered := by
  have inside : Slice.Inside input ⟨0, input.length⟩ := by simp [Slice.Inside]
  simp only [recoverLength, Buffer.readU16, Buffer.readU32, Safe.bind_iff]
  refine (Buffer.read_safe inside (Buffer.setOffset_on reads _) 2).mono
    fun ⟨format, table⟩ ⟨reads, _⟩ => ?_
  dsimp only
  split <;> simp only [Safe.bind_iff, Safe.pure_iff]
  · exact (Buffer.read_safe inside reads 2).mono fun _ ⟨_, _, _, small⟩ => ⟨rfl, rfl, fun _ => small⟩
  · exact (Buffer.read_safe inside reads 2).mono fun _ ⟨_, _, _, small⟩ => ⟨rfl, rfl, fun _ => small⟩
  · exact (Buffer.skip_safe reads 2).mono fun _ ⟨reads, _⟩ =>
      (Buffer.read_safe inside reads 4).mono fun _ _ => ⟨rfl, rfl, by simp⟩
  · exact (Buffer.skip_safe reads 2).mono fun _ ⟨reads, _⟩ =>
      (Buffer.read_safe inside reads 4).mono fun _ _ => ⟨rfl, rfl, by simp⟩
  · exact (Buffer.read_safe inside reads 4).mono fun _ _ => ⟨rfl, rfl, by simp⟩
  · exact ⟨rfl, rfl, by simp⟩

theorem recoverLengths_safe (reads : table.On ⟨0, input.length⟩) :
    ∀ headers : List CMAPSubtableHeader, (∀ header ∈ headers, header.Placed input.length) →
      Safe (recoverLengths input table headers) fun headers' =>
        headers'.map (·.id) = headers.map (·.id) ∧
          ∀ header ∈ headers', header.Placed input.length ∧ (header.format = 4 → header.length < 65536)
  | [], _ => ⟨rfl, by simp⟩
  | header :: rest, placed => by
    simp only [recoverLengths, Safe.bind_iff]
    refine (recoverLength_safe reads header).mono fun header' ⟨id, offset, short⟩ => ?_
    refine (recoverLengths_safe reads rest fun other mem => placed other (List.mem_cons_of_mem _ mem)).mono
      fun rest' ⟨ids, all⟩ => ⟨by simp [id, ids], ?_⟩
    have : header'.Placed input.length := by
      simpa [CMAPSubtableHeader.Placed, offset] using placed header (List.mem_cons_self _ _)
    simpa [this] using ⟨short, all⟩

end Recovery

structure CMAPSubtableHeader.Checked (length : Nat) (header : CMAPSubtableHeader) : Prop where
  offset_le : header.offset ≤ 1024 * 1024 * 1024
  length_le : header.length ≤ 1024 * 1024 * 1024
  window_le : header.offset + header.length ≤ length
  short : header.format = 4 → header.length < 65536

theorem checkLength_safe {length : Nat} {header : CMAPSubtableHeader}
    (placed : header.Placed length) (short : header.format = 4 → header.length < 65536) :
    Safe (checkLength length header) fun _ => header.Checked length := by
  unfold checkLength CMAPSubtableHeader.Placed at *
  split
  · exact ⟨placed.1, by omega, by omega, short⟩
  · simp only [Safe.bind_iff, Safe.failIf_iff, addNoWrap_safe_iff, not_lt, not_le]
    exact fun small => ⟨by omega, fun fits => ⟨placed.1, small, fits, short⟩⟩

theorem checked_noWrap {length : Nat} {headers : List CMAPSubtableHeader}
    (checked : ∀ header ∈ headers, header.Checked length) :
    ∀ header ∈ headers, header.offset + header.length < 2 ^ 32 := fun header mem => by
  obtain ⟨offset_le, length_le, _, _⟩ := checked header mem
  omega

theorem checkOverlap_safe {length : Nat} {headers : List CMAPSubtableHeader}
    (checked : ∀ header ∈ headers, header.Checked length) :
    Safe (checkOverlap headers) fun _ => True := by
  simp only [checkOverlap, overlapEvents_eq (checked_noWrap checked), Safe.bind_iff,
    Safe.ok_iff, Safe.failIf_iff, implies_true]

inductive Dispatch (input : List UInt8) (numGlyphs : Nat) (header : CMAPSubtableHeader)
    (file : OpenTypeFile) : OpenTypeFile → Prop
  | unchanged : Dispatch input numGlyphs header file file
  | set304 {window : Slice} {os2 : OpenTypeOS2} : window.Inside input →
      Dispatch input numGlyphs header file
        { file with cmap.subtable304 := some window, os2 := some os2 }
  | set314 {window : Slice} {os2 : OpenTypeOS2} : window.Inside input →
      Dispatch input numGlyphs header file
        { file with cmap.subtable314 := some window, os2 := some os2 }
  | set0514 {window : Slice} : window.Inside input →
      Dispatch input numGlyphs header file { file with cmap.subtable0514 := some window }
  | push100 {glyphIds : List Nat} : header.id = 65536 → glyphIds.length = kFormat0ArraySize →
      (∀ glyph ∈ glyphIds, glyph < 256) →
      Dispatch input numGlyphs header file
        { file with cmap.subtable100 := file.cmap.subtable100 ++ glyphIds }
  | set31012 {groups : List OpenTypeCMAPSubtableRange} :
      GroupsChecked (·.Checked12 numGlyphs) groups →
        Dispatch input numGlyphs header file { file with cmap.subtable31012 := groups }
  | set31013 {groups : List OpenTypeCMAPSubtableRange} :
      GroupsChecked (·.Checked13 numGlyphs) groups →
        Dispatch input numGlyphs header file { file with cmap.subtable31013 := groups }

section Dispatch

variable {input : List UInt8} {numGlyphs : Nat} {file : OpenTypeFile} {header : CMAPSubtableHeader}

theorem parseSubtable_safe (checked : header.Checked input.length) :
    Safe (parseSubtable input ⟨0, input.length⟩ numGlyphs file header)
      (Dispatch input numGlyphs header file) := by
  have window : Safe (header.window ⟨0, input.length⟩) fun window =>
      window.Inside input ∧ window.length = header.length := by
    simp [CMAPSubtableHeader.window, Slice.sub, Slice.Inside, checked.window_le]
  have format4 : ∀ encoding, header.format = 4 →
      Safe (header.window ⟨0, input.length⟩ >>= fun window =>
        parse3x4 file encoding input window numGlyphs) (Dispatch input numGlyphs header file) :=
    fun encoding four => Safe.bind_iff.mpr <| window.mono fun window ⟨inside, length⟩ =>
      (parse3x4_safe file encoding inside (length ▸ checked.short four) numGlyphs).mono
        fun _ ⟨_, chosen⟩ => by rcases chosen with rfl | rfl; exacts [.set304 inside, .set314 inside]
  have format12 : ∀ cleared : Bool, Safe (header.window ⟨0, input.length⟩ >>= fun window =>
      parse31012 (if cleared then { file with cmap.subtable31012 := [] } else file) input window
        numGlyphs) (Dispatch input numGlyphs header file) :=
    fun cleared => Safe.bind_iff.mpr <| window.mono fun _ ⟨inside, _⟩ =>
      (parse31012_safe _ inside numGlyphs).mono fun _ ⟨_, checked, chosen⟩ => by
        subst chosen; cases cleared <;> exact .set31012 checked
  unfold parseSubtable
  refine Safe.branch (fun _ => ?_) fun _ => Safe.branch (fun mac => ?_) fun _ =>
    Safe.branch (fun _ => ?_) fun _ => .unchanged
  · -- Unicode platform
    refine Safe.branch (fun default => format4 1 default.2) fun _ =>
      Safe.branch (fun bmp => format4 1 bmp.2) fun _ => Safe.branch (fun _ => format12 false) fun _ =>
        Safe.branch (fun _ => ?_) fun _ => .unchanged
    exact Safe.bind_iff.mpr <| window.mono fun window ⟨inside, _⟩ =>
      (parse0514_safe file inside numGlyphs).mono fun _ chosen => chosen ▸ .set0514 inside
  · -- Mac platform
    refine Safe.branch (fun roman => ?_) fun _ => .unchanged
    exact Safe.bind_iff.mpr <| window.mono fun window ⟨inside, _⟩ =>
      (parse100_safe file inside).mono fun _ ⟨_, full, small, chosen⟩ =>
        chosen ▸ .push100 (by simp [CMAPSubtableHeader.id, mac, roman.1]) full small
  · -- MS platform
    split
    · exact Safe.branch (fun four => format4 _ four) fun _ => .unchanged
    · exact Safe.branch (fun four => format4 _ four) fun _ => .unchanged
    · refine Safe.branch (fun _ => format12 true) fun _ => Safe.branch (fun _ => ?_) fun _ => .unchanged
      exact Safe.bind_iff.mpr <| window.mono fun window ⟨inside, _⟩ =>
        (parse31013_safe _ inside numGlyphs).mono fun _ ⟨_, checked, chosen⟩ =>
          chosen ▸ .set31013 checked
    · exact .unchanged

theorem parseSubtables_safe (Invariant : OpenTypeFile → List CMAPSubtableHeader → Prop)
    (step : ∀ file file' header rest, header.Checked input.length →
      (∀ other ∈ rest, header.id < other.id) → Invariant file (header :: rest) →
        Dispatch input numGlyphs header file file' → Invariant file' rest) :
    ∀ (file : OpenTypeFile) (headers : List CMAPSubtableHeader),
      (∀ header ∈ headers, header.Checked input.length) →
        headers.Pairwise (fun a b => a.id < b.id) → Invariant file headers →
          Safe (parseSubtables input ⟨0, input.length⟩ numGlyphs file headers) fun file' =>
            Invariant file' []
  | file, [], _, _, holds => holds
  | file, header :: rest, checked, sorted, holds => by
    simp only [parseSubtables, Safe.bind_iff]
    obtain ⟨above, sorted⟩ := List.pairwise_cons.mp sorted
    have first := checked header (List.mem_cons_self _ _)
    exact (parseSubtable_safe first).mono fun file' dispatched =>
      parseSubtables_safe Invariant step file' rest
        (fun other mem => checked other (List.mem_cons_of_mem _ mem)) sorted
        (step file file' header rest first above holds dispatched)

end Dispatch

theorem readSubtableHeaders_safe {input : List UInt8} {data : Slice} (inside : data.Inside input)
    (count : Nat) {table : Buffer} (reads : table.On data) :
    Safe (readSubtableHeaders input table count) fun (_, next) => next.On data := by
  refine (readArray_safe _ (fun buffer : Buffer => buffer.On data) (fun _ => True) (fun _ reads => ?_)
    count table reads).mono fun _ ⟨_, _, reads⟩ => reads
  simp only [Buffer.readU16, Buffer.readU32, Safe.bind_iff]
  refine (Buffer.read_safe inside reads 2).mono fun _ ⟨reads, _⟩ => ?_
  refine (Buffer.read_safe inside reads 2).mono fun _ ⟨reads, _⟩ => ?_
  exact (Buffer.read_safe inside reads 4).mono fun _ ⟨reads, _⟩ => ⟨trivial, reads⟩

theorem otsCmapParse_safe_with {file : OpenTypeFile} {input : List UInt8}
    (Invariant : Nat → OpenTypeFile → List CMAPSubtableHeader → Prop)
    (init : ∀ numGlyphs headers, (∀ header ∈ headers, header.Checked input.length) →
      headers.Pairwise (fun a b => a.id < b.id) → Invariant numGlyphs { file with cmap := {} } headers)
    (step : ∀ numGlyphs file file' header rest, header.Checked input.length →
      (∀ other ∈ rest, header.id < other.id) → Invariant numGlyphs file (header :: rest) →
        Dispatch input numGlyphs header file file' → Invariant numGlyphs file' rest) :
    Safe (otsCmapParse file input) fun file' =>
      ∃ maxp, file.maxp = some maxp ∧ Invariant maxp.numGlyphs file' [] := by
  have inside : Slice.Inside input ⟨0, input.length⟩ := by simp [Slice.Inside]
  simp only [otsCmapParse, Buffer.readU16, Safe.bind_iff, Safe.failIf_iff]
  refine (Buffer.read_safe inside (Buffer.ofSlice_on _) 2).mono fun _ ⟨reads, _⟩ => ?_
  refine (Buffer.read_safe inside reads 2).mono fun _ ⟨reads, _⟩ _ _ => ?_
  refine (readSubtableHeaders_safe inside _ reads).mono fun ⟨headers, table⟩ reads => ?_
  refine (checkOffsets_safe headers 0 0).mono fun _ ⟨placed, sorted, _⟩ => ?_
  refine (recoverLengths_safe reads headers placed).mono fun headers ⟨ids, recovered⟩ => ?_
  refine (Safe.forM_each fun header mem =>
    checkLength_safe (recovered header mem).1 (recovered header mem).2).mono fun _ checked => ?_
  refine (checkOverlap_safe checked).mono fun _ _ => ?_
  have sorted : headers.Pairwise (fun a b => a.id < b.id) := by
    rw [← List.pairwise_map (R := (· < ·)), ids, List.pairwise_map]
    exact sorted
  split
  · next maxp found =>
    exact (parseSubtables_safe _ (step maxp.numGlyphs) _ headers checked sorted
      (init _ headers checked sorted)).mono fun _ holds => ⟨maxp, found, holds⟩
  · rfl

structure Parsed (input : List UInt8) (cmap : OpenTypeCMAP) (rest : List CMAPSubtableHeader) :
    Prop where
  inside : cmap.Inside input
  once : cmap.subtable100 ≠ [] → ∀ header ∈ rest, header.id ≠ 65536

theorem Parsed.dispatch {input : List UInt8} {numGlyphs : Nat} {file file' : OpenTypeFile}
    {header : CMAPSubtableHeader} {rest : List CMAPSubtableHeader}
    (parsed : Parsed input file.cmap (header :: rest)) (above : ∀ other ∈ rest, header.id < other.id)
    (dispatched : Dispatch input numGlyphs header file file') : Parsed input file'.cmap rest := by
  have inside := parsed.inside
  have once : file.cmap.subtable100 ≠ [] → ∀ other ∈ rest, other.id ≠ 65536 :=
    fun filled other mem => parsed.once filled other (List.mem_cons_of_mem _ mem)
  cases dispatched with
  | unchanged => exact ⟨inside, once⟩
  | set304 window => exact ⟨{ inside with subtable304 := by simpa using window }, once⟩
  | set314 window => exact ⟨{ inside with subtable314 := by simpa using window }, once⟩
  | set0514 window => exact ⟨{ inside with subtable0514 := by simpa using window }, once⟩
  | set31012 => exact ⟨⟨inside.1, inside.2, inside.3, inside.4⟩, once⟩
  | set31013 => exact ⟨⟨inside.1, inside.2, inside.3, inside.4⟩, once⟩
  | push100 mac full _ =>
    have empty : file.cmap.subtable100 = [] := by
      by_contra filled
      exact parsed.once filled header (List.mem_cons_self _ _) mac
    refine ⟨⟨inside.1, inside.2, inside.3, .inr (by simpa [empty] using full)⟩, fun _ other mem => ?_⟩
    have := above other mem
    omega

theorem otsCmapParse_safe (file : OpenTypeFile) (input : List UInt8) :
    Safe (otsCmapParse file input) fun file' => file'.cmap.Inside input :=
  (otsCmapParse_safe_with (fun _ file rest => Parsed input file.cmap rest)
    (fun _ _ _ _ => ⟨⟨by simp, by simp, by simp, by simp⟩, by simp⟩)
    fun _ _ _ _ _ _ above parsed dispatched => parsed.dispatch above dispatched).mono
      fun _ ⟨_, _, parsed⟩ => parsed.inside

structure OpenTypeCMAP.Accepted (numGlyphs : Nat) (cmap : OpenTypeCMAP) : Prop where
  groups12 : GroupsChecked (·.Checked12 numGlyphs) cmap.subtable31012
  groups13 : GroupsChecked (·.Checked13 numGlyphs) cmap.subtable31013
  glyphs100 : ∀ glyph ∈ cmap.subtable100, glyph < 256

theorem OpenTypeCMAP.Accepted.dispatch {input : List UInt8} {numGlyphs : Nat}
    {file file' : OpenTypeFile} {header : CMAPSubtableHeader}
    (accepted : file.cmap.Accepted numGlyphs)
    (dispatched : Dispatch input numGlyphs header file file') : file'.cmap.Accepted numGlyphs := by
  obtain ⟨groups12, groups13, glyphs100⟩ := accepted
  cases dispatched with
  | set31012 checked => exact ⟨checked, groups13, glyphs100⟩
  | set31013 checked => exact ⟨groups12, checked, glyphs100⟩
  | push100 _ _ small =>
    exact ⟨groups12, groups13, fun glyph mem => (List.mem_append.mp mem).elim (glyphs100 glyph) (small glyph)⟩
  | _ => exact ⟨groups12, groups13, glyphs100⟩

theorem otsCmapParse_accepted (file : OpenTypeFile) (input : List UInt8) :
    Safe (otsCmapParse file input) fun file' =>
      ∃ maxp, file.maxp = some maxp ∧ file'.cmap.Accepted maxp.numGlyphs :=
  otsCmapParse_safe_with (fun numGlyphs file _ => file.cmap.Accepted numGlyphs)
    (fun _ _ _ _ => ⟨⟨by simp, by simp, by simp⟩, ⟨by simp, by simp, by simp⟩, by simp⟩)
    fun _ _ _ _ _ _ _ accepted dispatched => accepted.dispatch dispatched

/-- Every (3,10,12) group of an accepted table passed the checks of `Parse31012` against the glyph
count of `maxp`, and the groups are sorted and disjoint: each starts past the end of every group
before it. -/
theorem otsCmapParse_groups31012_checked {file file' : OpenTypeFile} {input : List UInt8}
    (accepted : otsCmapParse file input = .ok file') :
    ∃ maxp, file.maxp = some maxp ∧
      (∀ group ∈ file'.cmap.subtable31012, group.Checked12 maxp.numGlyphs) ∧
      file'.cmap.subtable31012.Pairwise OpenTypeCMAPSubtableRange.Before :=
  let ⟨maxp, found, groups⟩ := (otsCmapParse_accepted file input).of_ok accepted
  ⟨maxp, found, groups.groups12.checked, List.chain'_iff_pairwise.mp groups.groups12.ordered⟩

/-- Every (3,10,13) group of an accepted table passed the checks of `Parse31013` against the glyph
count of `maxp`, and each group starts past the start and the end of every group before it. -/
theorem otsCmapParse_groups31013_checked {file file' : OpenTypeFile} {input : List UInt8}
    (accepted : otsCmapParse file input = .ok file') :
    ∃ maxp, file.maxp = some maxp ∧
      (∀ group ∈ file'.cmap.subtable31013, group.Checked13 maxp.numGlyphs) ∧
      file'.cmap.subtable31013.Pairwise OpenTypeCMAPSubtableRange.Before :=
  let ⟨maxp, found, groups⟩ := (otsCmapParse_accepted file input).of_ok accepted
  ⟨maxp, found, groups.groups13.checked, List.chain'_iff_pairwise.mp groups.groups13.ordered⟩

def twoGroupSubtables : List UInt8 :=
  [0, 0, 0, 2, 0, 0, 0, 3, 0, 0, 0, 20, 0, 3, 0, 10, 0, 0, 0, 60,
    0, 12, 0, 0, 0, 0, 0, 40, 0, 0, 0, 0, 0, 0, 0, 2,
    0, 0, 0, 0x41, 0, 0, 0, 0x42, 0, 0, 0, 1, 0, 0, 0, 0x50, 0, 0, 0, 0x50, 0, 0, 0, 3,
    0, 13, 0, 0, 0, 0, 0, 38, 0, 0, 0, 0, 0, 2,
    0, 0, 0, 0x41, 0, 0, 0, 0x45, 0, 0, 0, 2, 0, 0, 0, 0x60, 0, 0, 0, 0x70, 0, 0, 0, 3]

theorem twoGroupSubtables_groups31012_checked :
    ∃ maxp : OpenTypeMAXP, some ⟨4⟩ = some maxp ∧
      (∀ group ∈ ([⟨0x41, 0x42, 1⟩, ⟨0x50, 0x50, 3⟩] : List OpenTypeCMAPSubtableRange),
        group.Checked12 maxp.numGlyphs) ∧
      ([⟨0x41, 0x42, 1⟩, ⟨0x50, 0x50, 3⟩] : List OpenTypeCMAPSubtableRange).Pairwise OpenTypeCMAPSubtableRange.Before :=
  @otsCmapParse_groups31012_checked { os2 := none, maxp := some ⟨4⟩ }
    { os2 := none, maxp := some ⟨4⟩, cmap := { subtable31012 := [⟨0x41, 0x42, 1⟩, ⟨0x50, 0x50, 3⟩],
                                               subtable31013 := [⟨0x41, 0x45, 2⟩, ⟨0x60, 0x70, 3⟩] } }
    twoGroupSubtables rfl

theorem twoGroupSubtables_groups31013_checked :
    ∃ maxp : OpenTypeMAXP, some ⟨4⟩ = some maxp ∧
      (∀ group ∈ ([⟨0x41, 0x45, 2⟩, ⟨0x60, 0x70, 3⟩] : List OpenTypeCMAPSubtableRange),
        group.Checked13 maxp.numGlyphs) ∧
      ([⟨0x41, 0x45, 2⟩, ⟨0x60, 0x70, 3⟩] : List OpenTypeCMAPSubtableRange).Pairwise OpenTypeCMAPSubtableRange.Before :=
  @otsCmapParse_groups31013_checked { os2 := none, maxp := some ⟨4⟩ }
    { os2 := none, maxp := some ⟨4⟩, cmap := { subtable31012 := [⟨0x41, 0x42, 1⟩, ⟨0x50, 0x50, 3⟩],
                                               subtable31013 := [⟨0x41, 0x45, 2⟩, ⟨0x60, 0x70, 3⟩] } }
    twoGroupSubtables rfl

/-- A (3,10,12) group whose last glyph is `num_glyphs` itself is accepted: the check is
`(end - start) + start_glyph_id > num_glyphs`. -/
theorem otsCmapParse_accepts_glyph_at_numGlyphs :
    otsCmapParse { os2 := none, maxp := some ⟨3⟩ }
        [0, 0, 0, 1, 0, 3, 0, 10, 0, 0, 0, 12,
          0, 12, 0, 0, 0, 0, 0, 28, 0, 0, 0, 0, 0, 0, 0, 1, 0, 0, 0, 0x41, 0, 0, 0, 0x43, 0, 0, 0, 1] =
      .ok { os2 := none, maxp := some ⟨3⟩, cmap := { subtable31012 := [⟨0x41, 0x43, 1⟩] } } ∧
    ¬ 1 + (0x43 - 0x41) < 3 :=
  ⟨rfl, by decide⟩

/-- A (3,10,13) group with its start past its end is accepted: `Parse31013` has no
`end_range < start_range` check. -/
theorem otsCmapParse_accepts_inverted_group :
    otsCmapParse { os2 := none, maxp := some ⟨3⟩ }
        [0, 0, 0, 1, 0, 3, 0, 10, 0, 0, 0, 12,
          0, 13, 0, 0, 0, 0, 0, 26, 0, 0, 0, 0, 0, 1, 0, 0, 0, 5, 0, 0, 0, 3, 0, 0, 0, 0] =
      .ok { os2 := none, maxp := some ⟨3⟩, cmap := { subtable31013 := [⟨5, 3, 0⟩] } } :=
  rfl

end OtsCmap
