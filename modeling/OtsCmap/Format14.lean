import OtsCmap.Table

/-! `Parse0514`: the Unicode variation sequences (0,5,14). The subtable is kept verbatim once its
variation selector records, and the default and non-default UVS tables they point at, are checked.
Every check is stated here by byte position in the subtable. -/
namespace OtsCmap

def unicodeValueRanges (input : List UInt8) : Buffer → Nat → Nat → Nat → Except Stop Unit
  | _, _, _, 0 => pure ()
  | uvsTable, j, prevEndUnicode, remaining + 1 => do
    let (startUnicode, uvsTable) ← uvsTable.readU24 input
    let (additional, uvsTable) ← uvsTable.readU8 input
    let endUnicode := startUnicode + additional
    failIf ((j > 0 ∧ startUnicode ≤ prevEndUnicode) ∨ endUnicode > kUnicodeUpperLimit)
    unicodeValueRanges input uvsTable (j + 1) endUnicode remaining

def uvsMappings (input : List UInt8) (numGlyphs : Nat) : Buffer → Nat → Nat → Nat → Except Stop Unit
  | _, _, _, 0 => pure ()
  | uvsTable, j, prevUnicode, remaining + 1 => do
    let (unicodeValue, uvsTable) ← uvsTable.readU24 input
    failIf ((j > 0 ∧ unicodeValue ≤ prevUnicode) ∨ unicodeValue > kUnicodeUpperLimit)
    let (glyph, uvsTable) ← uvsTable.readU16 input
    failIf (glyph ≥ numGlyphs)
    uvsMappings input numGlyphs uvsTable (j + 1) unicodeValue remaining

def defaultUvs (input : List UInt8) (data : Slice) (defUvsOffset : Nat) : Except Stop Unit := do
  let uvsData ← data.sub defUvsOffset (data.length - defUvsOffset)
  let (numUnicodeValueRanges, uvsTable) ← (Buffer.ofSlice uvsData).readU32 input
  unicodeValueRanges input uvsTable 0 0 numUnicodeValueRanges

def nonDefaultUvs (input : List UInt8) (data : Slice) (numGlyphs nonDefUvsOffset : Nat) :
    Except Stop Unit := do
  let uvsData ← data.sub nonDefUvsOffset (data.length - nonDefUvsOffset)
  let (numUvsMappings, uvsTable) ← (Buffer.ofSlice uvsData).readU32 input
  uvsMappings input numGlyphs uvsTable 0 0 numUvsMappings

def varSelectorRecords (input : List UInt8) (data : Slice) (numGlyphs : Nat) :
    Buffer → Nat → Nat → Except Stop Unit
  | _, _, 0 => pure ()
  | subtable, prevVarSelector, remaining + 1 => do
    let (varSelector, subtable) ← subtable.readU24 input
    let (defUvsOffset, subtable) ← subtable.readU32 input
    let (nonDefUvsOffset, subtable) ← subtable.readU32 input
    failIf (varSelector ≤ prevVarSelector ∨ varSelector > kUnicodeUpperLimit)
    let limit ← subNoWrap data.length 4
    failIf (defUvsOffset > limit ∨ nonDefUvsOffset > limit)
    (if defUvsOffset ≠ 0 then defaultUvs input data defUvsOffset else pure ())
    (if nonDefUvsOffset ≠ 0 then nonDefaultUvs input data numGlyphs nonDefUvsOffset else pure ())
    varSelectorRecords input data numGlyphs subtable varSelector remaining

def parse0514 (file : OpenTypeFile) (input : List UInt8) (data : Slice) (numGlyphs : Nat) :
    Except Stop OpenTypeFile := do
  let offsetVarSelectorRecords := 10
  let sizeOfVarSelectorRecord := 11
  -- Skip format and length.
  let subtable ← (Buffer.ofSlice data).skip 6
  let (numVarSelectorRecords, subtable) ← subtable.readU32 input
  let available ← subNoWrap data.length offsetVarSelectorRecords
  failIf (available / sizeOfVarSelectorRecord < numVarSelectorRecords)
  varSelectorRecords input data numGlyphs subtable 0 numVarSelectorRecords
  pure { file with cmap.subtable0514 := some data }

section Safety

variable {input : List UInt8}

theorem unicodeValueRanges_safe {uvsData : Slice} (inside : uvsData.Inside input) :
    ∀ count j prev (uvsTable : Buffer), uvsTable.On uvsData →
      Safe (unicodeValueRanges input uvsTable j prev count) fun _ => True
  | 0, _, _, _, _ => trivial
  | count + 1, j, prev, uvsTable, reads => by
    simp only [unicodeValueRanges, Buffer.readU24, Buffer.readU8, Safe.bind_iff, Safe.failIf_iff]
    refine (Buffer.read_safe inside reads 3).mono fun _ ⟨reads, _⟩ => ?_
    exact (Buffer.read_safe inside reads 1).mono fun _ ⟨reads, _⟩ _ =>
      unicodeValueRanges_safe inside count _ _ _ reads

theorem uvsMappings_safe {uvsData : Slice} (inside : uvsData.Inside input) (numGlyphs : Nat) :
    ∀ count j prev (uvsTable : Buffer), uvsTable.On uvsData →
      Safe (uvsMappings input numGlyphs uvsTable j prev count) fun _ => True
  | 0, _, _, _, _ => trivial
  | count + 1, j, prev, uvsTable, reads => by
    simp only [uvsMappings, Buffer.readU24, Buffer.readU16, Safe.bind_iff, Safe.failIf_iff]
    refine (Buffer.read_safe inside reads 3).mono fun _ ⟨reads, _⟩ _ => ?_
    exact (Buffer.read_safe inside reads 2).mono fun _ ⟨reads, _⟩ _ =>
      uvsMappings_safe inside numGlyphs count _ _ _ reads

theorem sub_rest_safe {data : Slice} (inside : data.Inside input) {offset : Nat}
    (within : offset ≤ data.length) :
    Safe (data.sub offset (data.length - offset)) fun uvsData => uvsData.Inside input := by
  unfold Slice.Inside at inside
  simp only [Slice.sub, show offset + (data.length - offset) ≤ data.length by omega, if_true,
    Safe.ok_iff, Slice.Inside]
  omega

theorem defaultUvs_safe {data : Slice} (inside : data.Inside input) {offset : Nat}
    (within : offset ≤ data.length) : Safe (defaultUvs input data offset) fun _ => True := by
  simp only [defaultUvs, Buffer.readU32, Safe.bind_iff]
  refine (sub_rest_safe inside within).mono fun uvsData inside => ?_
  exact (Buffer.read_safe inside (Buffer.ofSlice_on uvsData) 4).mono fun _ ⟨reads, _⟩ =>
    unicodeValueRanges_safe inside _ _ _ _ reads

theorem nonDefaultUvs_safe {data : Slice} (inside : data.Inside input) (numGlyphs : Nat)
    {offset : Nat} (within : offset ≤ data.length) :
    Safe (nonDefaultUvs input data numGlyphs offset) fun _ => True := by
  simp only [nonDefaultUvs, Buffer.readU32, Safe.bind_iff]
  refine (sub_rest_safe inside within).mono fun uvsData inside => ?_
  exact (Buffer.read_safe inside (Buffer.ofSlice_on uvsData) 4).mono fun _ ⟨reads, _⟩ =>
    uvsMappings_safe inside numGlyphs _ _ _ _ reads

theorem varSelectorRecords_safe {data : Slice} (inside : data.Inside input) (numGlyphs : Nat) :
    ∀ count prev (subtable : Buffer), subtable.On data →
      Safe (varSelectorRecords input data numGlyphs subtable prev count) fun _ => True
  | 0, _, _, _ => trivial
  | count + 1, prev, subtable, reads => by
    simp only [varSelectorRecords, Buffer.readU24, Buffer.readU32, Safe.bind_iff, Safe.failIf_iff,
      subNoWrap_safe_iff]
    refine (Buffer.read_safe inside reads 3).mono fun _ ⟨reads, _⟩ => ?_
    refine (Buffer.read_safe inside reads 4).mono fun ⟨defUvsOffset, _⟩ ⟨reads, _⟩ => ?_
    refine (Buffer.read_safe inside reads 4).mono
      fun ⟨nonDefUvsOffset, _⟩ ⟨reads, moved, fits, _⟩ _ => ⟨by omega, fun small => ?_⟩
    simp only [not_or, not_lt] at small
    refine (show Safe (if defUvsOffset ≠ 0 then defaultUvs input data defUvsOffset else pure ())
      fun _ => True by split <;> first | trivial | exact defaultUvs_safe inside (by omega)).mono
      fun _ _ => ?_
    refine (show Safe (if nonDefUvsOffset ≠ 0 then
        nonDefaultUvs input data numGlyphs nonDefUvsOffset else pure ()) fun _ => True by
      split <;> first | trivial | exact nonDefaultUvs_safe inside numGlyphs (by omega)).mono
      fun _ _ => ?_
    exact varSelectorRecords_safe inside numGlyphs count _ _ reads

theorem parse0514_safe (file : OpenTypeFile) {data : Slice} (inside : data.Inside input)
    (numGlyphs : Nat) : Safe (parse0514 file input data numGlyphs) fun file' =>
      file' = { file with cmap.subtable0514 := some data } := by
  simp only [parse0514, Buffer.readU32, Safe.bind_iff, Safe.failIf_iff, subNoWrap_safe_iff]
  refine (Buffer.skip_safe (Buffer.ofSlice_on data) 6).mono fun _ ⟨reads, _⟩ => ?_
  refine (Buffer.read_safe inside reads 4).mono fun _ ⟨reads, _, fits, _⟩ => ⟨by omega, fun _ => ?_⟩
  exact (varSelectorRecords_safe inside numGlyphs _ _ _ reads).mono fun _ _ => rfl

end Safety

structure DefaultUvsRanges (input : List UInt8) (start count : Nat) : Prop where
  bounded : ∀ r < count,
    entry input start 4 r 0 3 + entry input start 4 r 3 1 ≤ kUnicodeUpperLimit
  ordered : ∀ r, r + 1 < count →
    entry input start 4 r 0 3 + entry input start 4 r 3 1 < entry input start 4 (r + 1) 0 3

structure NonDefaultUvsMappings (input : List UInt8) (numGlyphs start count : Nat) : Prop where
  bounded : ∀ r < count, entry input start 5 r 0 3 ≤ kUnicodeUpperLimit
  glyphs : ∀ r < count, entry input start 5 r 3 2 < numGlyphs
  increasing : ∀ r r', r < r' → r' < count → entry input start 5 r 0 3 < entry input start 5 r' 0 3

def DefaultUvsTable (input : List UInt8) (data : Slice) (offset : Nat) : Prop :=
  offset + 4 + 4 * field input (data.base + offset) 4 ≤ data.length ∧
    DefaultUvsRanges input (data.base + offset + 4) (field input (data.base + offset) 4)

def NonDefaultUvsTable (input : List UInt8) (data : Slice) (numGlyphs offset : Nat) : Prop :=
  offset + 4 + 5 * field input (data.base + offset) 4 ≤ data.length ∧
    NonDefaultUvsMappings input numGlyphs (data.base + offset + 4) (field input (data.base + offset) 4)

structure VarSelectorRecords (input : List UInt8) (data : Slice) (numGlyphs start count : Nat) :
    Prop where
  bounded : ∀ i < count, entry input start 11 i 0 3 ≤ kUnicodeUpperLimit
  ordered : ∀ i, i + 1 < count → entry input start 11 i 0 3 < entry input start 11 (i + 1) 0 3
  defaults : ∀ i < count, entry input start 11 i 3 4 ≠ 0 →
    DefaultUvsTable input data (entry input start 11 i 3 4)
  nonDefaults : ∀ i < count, entry input start 11 i 7 4 ≠ 0 →
    NonDefaultUvsTable input data numGlyphs (entry input start 11 i 7 4)

section Accepted

variable {input : List UInt8}

theorem unicodeValueRanges_eq_ok : ∀ {count j prev : Nat} {uvsTable : Buffer},
    uvsTable.offset ≤ uvsTable.length → unicodeValueRanges input uvsTable j prev count = .ok () →
      uvsTable.offset + 4 * count ≤ uvsTable.length ∧
        DefaultUvsRanges input (uvsTable.base + uvsTable.offset) count ∧
        (0 < j → 0 < count → prev < field input (uvsTable.base + uvsTable.offset) 3)
  | 0, _, _, _, within, _ => ⟨by simpa using within, ⟨by simp, by simp⟩, by simp⟩
  | count + 1, j, prev, uvsTable, _, ok => by
    simp only [unicodeValueRanges, Buffer.readU24, Buffer.readU8, bind_eq_ok, failIf_bind,
      ite_failure_eq_ok] at ok
    obtain ⟨⟨startUnicode, b1⟩, h1, ⟨additional, b2⟩, h2, checks, rest⟩ := ok
    obtain ⟨_, _, rfl, rfl⟩ := Buffer.read_eq_ok.mp h1
    obtain ⟨fits, _, rfl, rfl⟩ := Buffer.read_eq_ok.mp h2
    obtain ⟨fits', ⟨bounded, ordered⟩, first⟩ := unicodeValueRanges_eq_ok fits rest
    have shift : uvsTable.base + (uvsTable.offset + 3 + 1) = uvsTable.base + uvsTable.offset + 4 := by
      omega
    simp only [shift, entry_shift] at bounded ordered first
    simp only [Nat.add_assoc, not_or, not_and, not_le, not_lt] at checks
    simp only at fits'
    refine ⟨by omega, ⟨fun r bound => ?_, fun r bound => ?_⟩, fun positive _ => checks.1 positive⟩
    · rcases r with _ | r
      · simpa [Nat.add_assoc] using checks.2
      · exact bounded r (by omega)
    · rcases r with _ | r
      · simpa [entry, Nat.add_assoc] using first (by omega) (by omega)
      · exact ordered r (by omega)

theorem uvsMappings_eq_ok {numGlyphs : Nat} : ∀ {count j prev : Nat} {uvsTable : Buffer},
    uvsTable.offset ≤ uvsTable.length → uvsMappings input numGlyphs uvsTable j prev count = .ok () →
      uvsTable.offset + 5 * count ≤ uvsTable.length ∧
        NonDefaultUvsMappings input numGlyphs (uvsTable.base + uvsTable.offset) count ∧
        (0 < j → 0 < count → prev < field input (uvsTable.base + uvsTable.offset) 3)
  | 0, _, _, _, within, _ => ⟨by simpa using within, ⟨by simp, by simp, by simp⟩, by simp⟩
  | count + 1, j, prev, uvsTable, _, ok => by
    simp only [uvsMappings, Buffer.readU24, Buffer.readU16, bind_eq_ok, failIf_bind,
      ite_failure_eq_ok] at ok
    obtain ⟨⟨unicodeValue, b1⟩, h1, checks, ⟨glyph, b2⟩, h2, small, rest⟩ := ok
    obtain ⟨_, _, rfl, rfl⟩ := Buffer.read_eq_ok.mp h1
    obtain ⟨fits, _, rfl, rfl⟩ := Buffer.read_eq_ok.mp h2
    obtain ⟨fits', ⟨bounded, glyphs, increasing⟩, first⟩ := uvsMappings_eq_ok fits rest
    have shift : uvsTable.base + (uvsTable.offset + 3 + 2) = uvsTable.base + uvsTable.offset + 5 := by
      omega
    simp only [shift, entry_shift] at bounded glyphs increasing first
    simp only [not_or, not_and, not_le, not_lt] at checks small
    simp only at fits'
    have adjacent : ∀ r, r + 1 < count + 1 → entry input (uvsTable.base + uvsTable.offset) 5 r 0 3 <
        entry input (uvsTable.base + uvsTable.offset) 5 (r + 1) 0 3
      | 0, _ => by simpa [entry] using first (by omega) (by omega)
      | r + 1, bound => increasing r (r + 1) (by omega) (by omega)
    refine ⟨by omega, ⟨fun r bound => ?_, fun r bound => ?_, lt_of_adjacent_lt adjacent⟩,
      fun positive _ => checks.1 positive⟩
    · rcases r with _ | r
      · simpa using checks.2
      · exact bounded r (by omega)
    · rcases r with _ | r
      · simpa [Nat.add_assoc] using small
      · exact glyphs r (by omega)

theorem uvsTable_eq_ok {data : Slice} {offset width : Nat} {loop : Buffer → Nat → Except Stop Unit}
    {Entries : Nat → Nat → Prop}
    (accepted : ∀ {count : Nat} {uvsTable : Buffer}, uvsTable.offset ≤ uvsTable.length →
      loop uvsTable count = .ok () →
        uvsTable.offset + width * count ≤ uvsTable.length ∧ Entries (uvsTable.base + uvsTable.offset) count)
    (ok : (data.sub offset (data.length - offset) >>= fun uvsData =>
      (Buffer.ofSlice uvsData).readU32 input >>= fun read => loop read.2 read.1) = .ok ()) :
    offset + 4 + width * field input (data.base + offset) 4 ≤ data.length ∧
      Entries (data.base + offset + 4) (field input (data.base + offset) 4) := by
  simp only [Buffer.readU32, bind_eq_ok] at ok
  obtain ⟨uvsData, sliced, ⟨count, uvsTable⟩, read, rest⟩ := ok
  simp only [Slice.sub] at sliced
  split at sliced
  · cases sliced
    obtain ⟨fits, _, rfl, rfl⟩ := Buffer.read_eq_ok.mp read
    obtain ⟨fits', entries⟩ := accepted fits rest
    simp only [Buffer.ofSlice, Nat.add_zero] at *
    exact ⟨by omega, by simpa using entries⟩
  · cases sliced

theorem defaultUvs_eq_ok {data : Slice} {offset : Nat} (ok : defaultUvs input data offset = .ok ()) :
    DefaultUvsTable input data offset :=
  uvsTable_eq_ok (fun within ok => (unicodeValueRanges_eq_ok within ok).imp_right And.left) ok

theorem nonDefaultUvs_eq_ok {data : Slice} {numGlyphs offset : Nat}
    (ok : nonDefaultUvs input data numGlyphs offset = .ok ()) :
    NonDefaultUvsTable input data numGlyphs offset :=
  uvsTable_eq_ok (fun within ok => (uvsMappings_eq_ok within ok).imp_right And.left) ok

theorem varSelectorRecords_eq_ok {data : Slice} {numGlyphs : Nat} :
    ∀ {count prev : Nat} {subtable : Buffer}, subtable.offset ≤ subtable.length →
      varSelectorRecords input data numGlyphs subtable prev count = .ok () →
        subtable.offset + 11 * count ≤ subtable.length ∧
          VarSelectorRecords input data numGlyphs (subtable.base + subtable.offset) count ∧
          (0 < count → prev < field input (subtable.base + subtable.offset) 3) := by
  intro count
  induction count with
  | zero => exact fun within _ => ⟨by simpa using within, ⟨by simp, by simp, by simp, by simp⟩, by simp⟩
  | succ count ih =>
    intro prev subtable _ ok
    simp only [varSelectorRecords, Buffer.readU24, Buffer.readU32, bind_eq_ok, failIf_bind,
      ite_failure_eq_ok, subNoWrap_eq_ok] at ok
    obtain ⟨⟨selector, b1⟩, h1, ⟨defUvsOffset, b2⟩, h2, ⟨nonDefUvsOffset, b3⟩, h3, checks,
      limit, ⟨_, rfl⟩, _, ⟨⟩, defaults, ⟨⟩, nonDefaults, rest⟩ := ok
    obtain ⟨_, _, rfl, rfl⟩ := Buffer.read_eq_ok.mp h1
    obtain ⟨_, _, rfl, rfl⟩ := Buffer.read_eq_ok.mp h2
    obtain ⟨fits, _, rfl, rfl⟩ := Buffer.read_eq_ok.mp h3
    obtain ⟨fits', ⟨bounded, ordered, defaults', nonDefaults'⟩, first⟩ :=
      ih fits rest
    have shift : subtable.base + (subtable.offset + 3 + 4 + 4) = subtable.base + subtable.offset + 11 := by
      omega
    simp only [shift, entry_shift] at bounded ordered defaults' nonDefaults' first
    simp only [not_or, not_le, not_lt] at checks
    simp only [Nat.add_assoc] at defaults nonDefaults
    simp only at fits'
    refine ⟨by omega, ⟨fun i bound => ?_, fun i bound => ?_, fun i bound => ?_, fun i bound => ?_⟩,
      fun _ => checks.1⟩
    · rcases i with _ | i
      · simpa using checks.2
      · exact bounded i (by omega)
    · rcases i with _ | i
      · simpa [entry] using first (by omega)
      · exact ordered i (by omega)
    · rcases i with _ | i
      · intro nonzero
        simp only [entry_zero, Nat.add_assoc] at nonzero ⊢
        exact defaultUvs_eq_ok (by rwa [if_pos nonzero] at defaults)
      · exact defaults' i (by omega)
    · rcases i with _ | i
      · intro nonzero
        simp only [entry_zero, Nat.add_assoc] at nonzero ⊢
        exact nonDefaultUvs_eq_ok (by rwa [if_pos nonzero] at nonDefaults)
      · exact nonDefaults' i (by omega)

/-- An accepted format-14 subtable, read by byte position: its `count` records lie in the
subtable from byte 10, their selectors lie in `[1, 0x10FFFF]` and strictly increase, and every
UVS table a non-zero offset points at lies in the subtable with its ranges or mappings checked. -/
theorem parse0514_accepted_wellFormed {file file' : OpenTypeFile} {data : Slice} {numGlyphs : Nat}
    (ok : parse0514 file input data numGlyphs = .ok file') :
    let count := field input (data.base + 6) 4
    let selector i := entry input (data.base + 10) 11 i 0 3
    10 + 11 * count ≤ data.length ∧
      (∀ i < count, 1 ≤ selector i ∧ selector i ≤ kUnicodeUpperLimit) ∧
      (∀ i j, i < j → j < count → selector i < selector j) ∧
      (∀ i < count, entry input (data.base + 10) 11 i 3 4 ≠ 0 →
        DefaultUvsTable input data (entry input (data.base + 10) 11 i 3 4)) ∧
      (∀ i < count, entry input (data.base + 10) 11 i 7 4 ≠ 0 →
        NonDefaultUvsTable input data numGlyphs (entry input (data.base + 10) 11 i 7 4)) := by
  simp only [parse0514, Buffer.readU32, bind_eq_ok, failIf_bind, ite_failure_eq_ok,
    subNoWrap_eq_ok] at ok
  obtain ⟨subtable, skipped, ⟨count, subtable'⟩, read, _, ⟨_, rfl⟩, _, ⟨⟩, records, _⟩ := ok
  obtain ⟨_, rfl⟩ := Buffer.skip_eq_ok.mp skipped
  obtain ⟨fits, _, rfl, rfl⟩ := Buffer.read_eq_ok.mp read
  obtain ⟨_, ⟨bounded, ordered, defaults, nonDefaults⟩, first⟩ := varSelectorRecords_eq_ok fits records
  simp only [Buffer.ofSlice, Nat.zero_add] at *
  have increasing := lt_of_adjacent_lt ordered
  refine ⟨by omega, fun i bound => ⟨?_, bounded i bound⟩, increasing, defaults, nonDefaults⟩
  have least : 0 < entry input (data.base + 10) 11 0 0 3 := by simpa using first (by omega)
  rcases i with _ | i
  · exact least
  · exact least.trans (increasing 0 (i + 1) (by omega) bound)

def oneDefaultRange : List UInt8 :=
  [0, 14, 0, 0, 0, 29, 0, 0, 0, 1, 0, 0xFE, 0, 0, 0, 0, 21, 0, 0, 0, 0, 0, 0, 0, 1, 0, 0, 0x41, 0]

theorem parse0514_accepts_oneDefaultRange :
    parse0514 { os2 := none, maxp := none } oneDefaultRange ⟨0, 29⟩ 1 =
        .ok { os2 := none, maxp := none, cmap := { subtable0514 := some ⟨0, 29⟩ } } ∧
    let count := field oneDefaultRange (0 + 6) 4
    let selector i := entry oneDefaultRange (0 + 10) 11 i 0 3
    10 + 11 * count ≤ 29 ∧
      (∀ i < count, 1 ≤ selector i ∧ selector i ≤ kUnicodeUpperLimit) ∧
      (∀ i j, i < j → j < count → selector i < selector j) ∧
      (∀ i < count, entry oneDefaultRange (0 + 10) 11 i 3 4 ≠ 0 →
        DefaultUvsTable oneDefaultRange ⟨0, 29⟩ (entry oneDefaultRange (0 + 10) 11 i 3 4)) ∧
      (∀ i < count, entry oneDefaultRange (0 + 10) 11 i 7 4 ≠ 0 →
        NonDefaultUvsTable oneDefaultRange ⟨0, 29⟩ 1 (entry oneDefaultRange (0 + 10) 11 i 7 4)) :=
  ⟨rfl, @parse0514_accepted_wellFormed oneDefaultRange { os2 := none, maxp := none }
    { os2 := none, maxp := none, cmap := { subtable0514 := some ⟨0, 29⟩ } } ⟨0, 29⟩ 1 rfl⟩

end Accepted

instance (input : List UInt8) (start count : Nat) : Decidable (DefaultUvsRanges input start count) :=
  decidable_of_iff
    ((∀ r < count, entry input start 4 r 0 3 + entry input start 4 r 3 1 ≤ kUnicodeUpperLimit) ∧
      ∀ r < count - 1,
        entry input start 4 r 0 3 + entry input start 4 r 3 1 < entry input start 4 (r + 1) 0 3)
    ⟨fun ⟨bounded, ordered⟩ => ⟨bounded, fun r bound => ordered r (by omega)⟩,
      fun ⟨bounded, ordered⟩ => ⟨bounded, fun r bound => ordered r (by omega)⟩⟩

instance (input : List UInt8) (numGlyphs start count : Nat) :
    Decidable (NonDefaultUvsMappings input numGlyphs start count) :=
  decidable_of_iff
    ((∀ r < count, entry input start 5 r 0 3 ≤ kUnicodeUpperLimit) ∧
      (∀ r < count, entry input start 5 r 3 2 < numGlyphs) ∧
      ∀ r' < count, ∀ r < r', entry input start 5 r 0 3 < entry input start 5 r' 0 3)
    ⟨fun ⟨bounded, glyphs, increasing⟩ => ⟨bounded, glyphs, fun r r' before bound =>
        increasing r' bound r before⟩,
      fun ⟨bounded, glyphs, increasing⟩ => ⟨bounded, glyphs, fun r' bound r before =>
        increasing r r' before bound⟩⟩

instance (input : List UInt8) (data : Slice) (offset : Nat) :
    Decidable (DefaultUvsTable input data offset) :=
  inferInstanceAs (Decidable (_ ∧ _))

instance (input : List UInt8) (data : Slice) (numGlyphs offset : Nat) :
    Decidable (NonDefaultUvsTable input data numGlyphs offset) :=
  inferInstanceAs (Decidable (_ ∧ _))

section Complete

variable {input : List UInt8}

theorem DefaultUvsRanges.tail {start count : Nat} (ranges : DefaultUvsRanges input start (count + 1)) :
    DefaultUvsRanges input (start + 4) count :=
  ⟨fun r bound => by simpa only [entry_shift] using ranges.bounded (r + 1) (by omega),
    fun r bound => by simpa only [entry_shift] using ranges.ordered (r + 1) (by omega)⟩

theorem NonDefaultUvsMappings.tail {numGlyphs start count : Nat}
    (mappings : NonDefaultUvsMappings input numGlyphs start (count + 1)) :
    NonDefaultUvsMappings input numGlyphs (start + 5) count :=
  ⟨fun r bound => by simpa only [entry_shift] using mappings.bounded (r + 1) (by omega),
    fun r bound => by simpa only [entry_shift] using mappings.glyphs (r + 1) (by omega),
    fun r r' before bound => by
      simpa only [entry_shift] using mappings.increasing (r + 1) (r' + 1) (by omega) (by omega)⟩

theorem VarSelectorRecords.tail {data : Slice} {numGlyphs start count : Nat}
    (records : VarSelectorRecords input data numGlyphs start (count + 1)) :
    VarSelectorRecords input data numGlyphs (start + 11) count :=
  ⟨fun i bound => by simpa only [entry_shift] using records.bounded (i + 1) (by omega),
    fun i bound => by simpa only [entry_shift] using records.ordered (i + 1) (by omega),
    fun i bound => by simpa only [entry_shift] using records.defaults (i + 1) (by omega),
    fun i bound => by simpa only [entry_shift] using records.nonDefaults (i + 1) (by omega)⟩

theorem unicodeValueRanges_complete :
    ∀ {count j prev : Nat} {uvsTable : Buffer}, uvsTable.base + uvsTable.length ≤ input.length →
      uvsTable.offset + 4 * count ≤ uvsTable.length →
      DefaultUvsRanges input (uvsTable.base + uvsTable.offset) count →
      (0 < j → 0 < count → prev < field input (uvsTable.base + uvsTable.offset) 3) →
        unicodeValueRanges input uvsTable j prev count = .ok ()
  | 0, _, _, _, _, _, _, _ => rfl
  | count + 1, j, prev, ⟨base, length, offset⟩, inside, fits, ranges, first => by
    dsimp only at inside fits ranges first
    have range := ranges.bounded 0 (by omega)
    simp only [entry_zero, Nat.add_zero, Nat.add_assoc] at range
    simp only [unicodeValueRanges, Buffer.readU24, Buffer.readU8, ok_bind, failIf_bind,
      Buffer.read_fits inside (show offset + 3 ≤ length by omega),
      Buffer.read_fits inside (show offset + 3 + 1 ≤ length by omega)]
    rw [if_neg (by omega)]
    exact unicodeValueRanges_complete inside (show offset + 3 + 1 + 4 * count ≤ length by omega)
      (by simpa only [Nat.add_assoc] using ranges.tail) fun _ _ => by
        simpa [entry, Nat.add_assoc] using ranges.ordered 0 (by omega)

theorem uvsMappings_complete {numGlyphs : Nat} :
    ∀ {count j prev : Nat} {uvsTable : Buffer}, uvsTable.base + uvsTable.length ≤ input.length →
      uvsTable.offset + 5 * count ≤ uvsTable.length →
      NonDefaultUvsMappings input numGlyphs (uvsTable.base + uvsTable.offset) count →
      (0 < j → 0 < count → prev < field input (uvsTable.base + uvsTable.offset) 3) →
        uvsMappings input numGlyphs uvsTable j prev count = .ok ()
  | 0, _, _, _, _, _, _, _ => rfl
  | count + 1, j, prev, ⟨base, length, offset⟩, inside, fits, mappings, first => by
    dsimp only at inside fits mappings first
    have bounded := mappings.bounded 0 (by omega)
    have glyph := mappings.glyphs 0 (by omega)
    simp only [entry_zero, Nat.add_zero, Nat.add_assoc] at bounded glyph
    simp only [uvsMappings, Buffer.readU24, Buffer.readU16, ok_bind, failIf_bind,
      Buffer.read_fits inside (show offset + 3 ≤ length by omega),
      Buffer.read_fits inside (show offset + 3 + 2 ≤ length by omega)]
    rw [if_neg (by omega), if_neg (by omega)]
    exact uvsMappings_complete inside (show offset + 3 + 2 + 5 * count ≤ length by omega)
      (by simpa only [Nat.add_assoc] using mappings.tail) fun _ _ => by
        simpa [entry, Nat.add_assoc] using mappings.increasing 0 1 (by omega) (by omega)

theorem uvsTable_complete {data : Slice} (inside : data.Inside input) {offset width : Nat}
    {loop : Buffer → Nat → Except Stop Unit} {Entries : Nat → Nat → Prop}
    (complete : ∀ {count : Nat} {uvsTable : Buffer}, uvsTable.base + uvsTable.length ≤ input.length →
      uvsTable.offset + width * count ≤ uvsTable.length →
        Entries (uvsTable.base + uvsTable.offset) count → loop uvsTable count = .ok ())
    (fits : offset + 4 + width * field input (data.base + offset) 4 ≤ data.length)
    (entries : Entries (data.base + offset + 4) (field input (data.base + offset) 4)) :
    (data.sub offset (data.length - offset) >>= fun uvsData =>
      (Buffer.ofSlice uvsData).readU32 input >>= fun read => loop read.2 read.1) = .ok () := by
  unfold Slice.Inside at inside
  have uvsInside : data.base + offset + (data.length - offset) ≤ input.length := by omega
  simp only [Slice.sub, if_pos (show offset + (data.length - offset) ≤ data.length by omega),
    ok_bind, Buffer.ofSlice, Buffer.readU32, Buffer.read_fits uvsInside
      (show 0 + 4 ≤ data.length - offset by omega), Nat.add_zero, Nat.zero_add]
  exact complete uvsInside (show 4 + width * _ ≤ data.length - offset by omega) entries

theorem defaultUvs_complete {data : Slice} (inside : data.Inside input) {offset : Nat}
    (table : DefaultUvsTable input data offset) : defaultUvs input data offset = .ok () :=
  uvsTable_complete inside (fun inside fits ranges =>
    unicodeValueRanges_complete inside fits ranges fun zero => absurd zero (Nat.lt_irrefl 0))
    table.1 table.2

theorem nonDefaultUvs_complete {data : Slice} (inside : data.Inside input) {numGlyphs offset : Nat}
    (table : NonDefaultUvsTable input data numGlyphs offset) :
    nonDefaultUvs input data numGlyphs offset = .ok () :=
  uvsTable_complete inside (fun inside fits mappings =>
    uvsMappings_complete inside fits mappings fun zero => absurd zero (Nat.lt_irrefl 0))
    table.1 table.2

theorem varSelectorRecords_complete {data : Slice} {numGlyphs : Nat} (inside : data.Inside input) :
    ∀ {count prev offset : Nat}, offset + 11 * count ≤ data.length →
      VarSelectorRecords input data numGlyphs (data.base + offset) count →
      (0 < count → prev < field input (data.base + offset) 3) →
        varSelectorRecords input data numGlyphs ⟨data.base, data.length, offset⟩ prev count = .ok ()
  | 0, _, _, _, _, _ => rfl
  | count + 1, prev, offset, fits, records, first => by
    have selector := records.bounded 0 (by omega)
    have defaults := records.defaults 0 (by omega)
    have nonDefaults := records.nonDefaults 0 (by omega)
    simp only [entry_zero, Nat.add_zero, Nat.add_assoc] at selector defaults nonDefaults
    have defaultFits := fun nonzero => (defaults nonzero).1
    have nonDefaultFits := fun nonzero => (nonDefaults nonzero).1
    have limit : subNoWrap data.length 4 = .ok (data.length - 4) := subNoWrap_eq_ok.mpr ⟨by omega, rfl⟩
    simp only [varSelectorRecords, Buffer.readU24, Buffer.readU32, ok_bind, failIf_bind, limit,
      Nat.add_assoc, Buffer.read_fits inside (show offset + 3 ≤ data.length by omega),
      Buffer.read_fits inside (show offset + 3 + 4 ≤ data.length by omega),
      Buffer.read_fits inside (show offset + 7 + 4 ≤ data.length by omega)]
    rw [if_neg (by omega), if_neg (by omega),
      ite_pure_eq_ok fun nonzero => defaultUvs_complete inside (defaults nonzero), ok_bind,
      ite_pure_eq_ok fun nonzero => nonDefaultUvs_complete inside (nonDefaults nonzero), ok_bind]
    exact varSelectorRecords_complete inside (by omega) records.tail fun _ => by
        simpa [entry, Nat.add_assoc] using records.ordered 0 (by omega)

/-- A format-14 subtable inside the input is accepted, and kept as it is, whenever its records lie
in the subtable from byte 10, their selectors lie in `[1, 0x10FFFF]` and strictly increase, and
every UVS table a non-zero offset points at lies in the subtable with its ranges or mappings in
order, by `0x10FFFF`, and with glyphs below `numGlyphs`. -/
theorem parse0514_accepts_wellFormed {file : OpenTypeFile} {data : Slice} {numGlyphs : Nat}
    (inside : data.Inside input) :
    let count := field input (data.base + 6) 4
    let selector i := entry input (data.base + 10) 11 i 0 3
    10 + 11 * count ≤ data.length →
      (∀ i < count, 1 ≤ selector i ∧ selector i ≤ kUnicodeUpperLimit) →
      (∀ i j, i < j → j < count → selector i < selector j) →
      (∀ i < count, entry input (data.base + 10) 11 i 3 4 ≠ 0 →
        DefaultUvsTable input data (entry input (data.base + 10) 11 i 3 4)) →
      (∀ i < count, entry input (data.base + 10) 11 i 7 4 ≠ 0 →
        NonDefaultUvsTable input data numGlyphs (entry input (data.base + 10) 11 i 7 4)) →
      parse0514 file input data numGlyphs = .ok { file with cmap.subtable0514 := some data } := by
  dsimp only
  intro fits selectors increasing defaults nonDefaults
  have records : VarSelectorRecords input data numGlyphs (data.base + 10) (field input (data.base + 6) 4) :=
    ⟨fun i bound => (selectors i bound).2, fun i bound => increasing i (i + 1) (by omega) bound,
      defaults, nonDefaults⟩
  have skipped : (Buffer.ofSlice data).skip 6 = .ok ⟨data.base, data.length, 6⟩ :=
    Buffer.skip_eq_ok.mpr ⟨show 0 + 6 ≤ data.length by omega, rfl⟩
  have available : subNoWrap data.length 10 = .ok (data.length - 10) :=
    subNoWrap_eq_ok.mpr ⟨by omega, rfl⟩
  simp only [parse0514, skipped, available, ok_bind, failIf_bind, Buffer.readU32,
    Buffer.read_fits inside (show 6 + 4 ≤ data.length by omega)]
  rw [if_neg (by omega), varSelectorRecords_complete inside (by omega) records fun positive => by
    simpa using (selectors 0 positive).1]
  rfl

theorem oneDefaultRange_wellFormed_accepted :
    parse0514 { os2 := none, maxp := none } oneDefaultRange ⟨0, 29⟩ 1 =
      .ok { os2 := none, maxp := none, cmap := { subtable0514 := some ⟨0, 29⟩ } } := by
  have count : field oneDefaultRange ((⟨0, 29⟩ : Slice).base + 6) 4 = 1 := by decide
  exact parse0514_accepts_wellFormed (Nat.le_refl _) (by decide) (by decide)
    (fun _ _ _ _ => by omega) (by decide) (by decide)

end Complete

end OtsCmap
