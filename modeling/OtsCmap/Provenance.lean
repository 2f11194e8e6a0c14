import OtsCmap.Slots

/-! Which record of the directory each slot of an accepted table comes from. The comment of
`ots_cmap_parse` lists the subtables the sanitiser passes and the slot each is output as; a record
parsed later into a slot replaces the one before, so each slot holds what its parser read from the
last record the list sends to it. -/
namespace OtsCmap

inductive Slot where
  | subtable304 | subtable314 | subtable31012 | subtable31013 | subtable100 | subtable0514
  deriving DecidableEq, Repr

def supportedSubtables : List ((Nat × Nat × Nat) × Slot) :=
  [((0, 0, 4), .subtable314), ((0, 3, 4), .subtable314), ((0, 3, 12), .subtable31012),
    ((0, 5, 14), .subtable0514), ((1, 0, 0), .subtable100), ((3, 0, 4), .subtable304),
    ((3, 1, 4), .subtable314), ((3, 10, 12), .subtable31012), ((3, 10, 13), .subtable31013)]

def CMAPSubtableHeader.outputAs (header : CMAPSubtableHeader) : Option Slot :=
  supportedSubtables.lookup (header.platform, header.encoding, header.format)

theorem CMAPSubtableHeader.outputAs_mem {header : CMAPSubtableHeader} {slot : Slot}
    (out : header.outputAs = some slot) :
    ((header.platform, header.encoding, header.format), slot) ∈ supportedSubtables := by
  obtain ⟨_, _, split, -⟩ := List.lookup_eq_some_iff.mp out
  simp [split]

theorem CMAPSubtableHeader.id_of_outputAs_subtable100 {header : CMAPSubtableHeader}
    (out : header.outputAs = some .subtable100) : header.id = 65536 := by
  have named := header.outputAs_mem out
  simp only [supportedSubtables, List.mem_cons, Prod.mk.injEq, List.not_mem_nil, or_false,
    reduceCtorEq, and_false, false_or] at named
  simp [CMAPSubtableHeader.id, named.1.1, named.1.2.1]

theorem CMAPSubtableHeader.id_le_of_outputAs {header : CMAPSubtableHeader} {slot : Slot}
    (out : header.outputAs = some slot) :
    (slot = .subtable314 → header.id ≤ 3 * 65536 + 1) ∧ (slot = .subtable31012 → header.id ≤ 3 * 65536 + 10) := by
  have named := header.outputAs_mem out
  simp only [supportedSubtables, List.mem_cons, Prod.mk.injEq, List.not_mem_nil, or_false] at named
  rcases named with h | h | h | h | h | h | h | h | h <;> obtain ⟨⟨platform, encoding, -⟩, rfl⟩ := h <;>
    simp [CMAPSubtableHeader.id, platform, encoding]

def Slot.parse : Slot → OpenTypeFile → List UInt8 → Slice → Nat → Except Stop OpenTypeFile
  | .subtable304, file, input, data, numGlyphs => parse3x4 file 0 input data numGlyphs
  | .subtable314, file, input, data, numGlyphs => parse3x4 file 1 input data numGlyphs
  | .subtable31012, file, input, data, numGlyphs => parse31012 file input data numGlyphs
  | .subtable31013, file, input, data, numGlyphs => parse31013 file input data numGlyphs
  | .subtable100, file, input, data, _ => parse100 file input data
  | .subtable0514, file, input, data, numGlyphs => parse0514 file input data numGlyphs

theorem parseSubtable_eq_outputAs (input : List UInt8) (data : Slice) (numGlyphs : Nat) (file : OpenTypeFile)
    (header : CMAPSubtableHeader) :
    parseSubtable input data numGlyphs file header =
      header.outputAs.elim (pure file) fun slot =>
        header.window data >>= fun window => slot.parse file input window numGlyphs := by
  obtain ⟨platform, encoding, offset, format, length⟩ := header
  cases listed : CMAPSubtableHeader.outputAs ⟨platform, encoding, offset, format, length⟩ with
  | none =>
    -- a record the list does not name
    simp only [CMAPSubtableHeader.outputAs, List.lookup_eq_none_iff, supportedSubtables, List.mem_cons,
      forall_eq_or_imp, bne_iff_ne, ne_eq, Prod.mk.injEq, List.not_mem_nil, false_implies, implies_true,
      and_true] at listed
    obtain ⟨n004, n034, n0312, n0514, n100, n304, n314, n31012, n31013⟩ := listed
    rw [Option.elim]
    unfold parseSubtable
    dsimp only
    by_cases p0 : platform = 0
    · rw [if_pos p0, if_neg fun ⟨e, f⟩ => n004 ⟨p0, e, f⟩, if_neg fun ⟨e, f⟩ => n034 ⟨p0, e, f⟩,
        if_neg fun ⟨e, f⟩ => n0312 ⟨p0, e, f⟩, if_neg fun ⟨e, f⟩ => n0514 ⟨p0, e, f⟩]
    rw [if_neg p0]
    by_cases p1 : platform = 1
    · rw [if_pos p1, if_neg fun ⟨e, f⟩ => n100 ⟨p1, e, f⟩]
    rw [if_neg p1]
    by_cases p3 : platform = 3
    · rw [if_pos p3]
      split
      next => rw [if_neg fun f => n304 ⟨p3, rfl, f⟩]
      next => rw [if_neg fun f => n314 ⟨p3, rfl, f⟩]
      next => rw [if_neg fun f => n31012 ⟨p3, rfl, f⟩, if_neg fun f => n31013 ⟨p3, rfl, f⟩]
      next => rfl
    rw [if_neg p3]
  | some slot =>
    have named := CMAPSubtableHeader.outputAs_mem listed
    simp only [supportedSubtables, List.mem_cons, Prod.mk.injEq, List.not_mem_nil, or_false] at named
    rcases named with h | h | h | h | h | h | h | h | h <;> obtain ⟨⟨rfl, rfl, rfl⟩, rfl⟩ := h <;> rfl

def CMAPSubtableHeader.subtable (header : CMAPSubtableHeader) : Slice := ⟨header.offset, header.length⟩

def lastOutputAs (slot : Slot) (headers : List CMAPSubtableHeader) : Option CMAPSubtableHeader :=
  (headers.filter fun header => header.outputAs = some slot).getLast?

theorem lastOutputAs_cons (slot : Slot) (header : CMAPSubtableHeader) (rest : List CMAPSubtableHeader) :
    lastOutputAs slot (header :: rest) =
      (lastOutputAs slot rest).or (if header.outputAs = some slot then some header else none) := by
  unfold lastOutputAs
  rw [List.filter_cons]
  split <;> rename_i named <;> simp only [decide_eq_true_eq] at named
  · rw [List.getLast?_cons, if_pos named]
    cases (rest.filter fun header => header.outputAs = some slot).getLast? <;> rfl
  · rw [if_neg named, Option.or_none]

theorem lastOutputAs_eq_none {slot : Slot} {headers : List CMAPSubtableHeader} :
    lastOutputAs slot headers = none ↔ ∀ header ∈ headers, header.outputAs ≠ some slot := by
  simp [lastOutputAs, List.filter_eq_nil_iff]

theorem lastOutputAs_eq_of_greatest {slot : Slot} {header : CMAPSubtableHeader} (out : header.outputAs = some slot) :
    ∀ {headers : List CMAPSubtableHeader}, headers.Pairwise (fun a b => a.id < b.id) → header ∈ headers →
      (∀ other ∈ headers, other.outputAs = some slot → other.id ≤ header.id) →
        lastOutputAs slot headers = some header
  | first :: rest, sorted, mem, greatest => by
    obtain ⟨above, sorted⟩ := List.pairwise_cons.mp sorted
    have later : ∀ other ∈ rest, other.outputAs = some slot → other.id ≤ header.id :=
      fun other mem => greatest other (List.mem_cons_of_mem _ mem)
    rw [lastOutputAs_cons]
    rcases List.mem_cons.mp mem with rfl | mem
    · have none : lastOutputAs slot rest = none := lastOutputAs_eq_none.mpr fun other mem feeds =>
        Nat.lt_irrefl _ ((above other mem).trans_le (later other mem feeds))
      simp [none, out]
    · simp [lastOutputAs_eq_of_greatest out sorted mem later]

def Slot.record (source : Slot → Option CMAPSubtableHeader) (header : CMAPSubtableHeader) (slot : Slot) :
    Option CMAPSubtableHeader :=
  if header.outputAs = some slot then some header else source slot

structure OpenTypeCMAP.FilledFrom (input : List UInt8) (numGlyphs : Nat) (cmap : OpenTypeCMAP)
    (source : Slot → Option CMAPSubtableHeader) : Prop where
  subtable304 : cmap.subtable304 = (source .subtable304).map CMAPSubtableHeader.subtable
  subtable314 : cmap.subtable314 = (source .subtable314).map CMAPSubtableHeader.subtable
  subtable0514 : cmap.subtable0514 = (source .subtable0514).map CMAPSubtableHeader.subtable
  subtable31012 : (source .subtable31012).elim (cmap.subtable31012 = []) fun header =>
    parseGroups input header.subtable 4 (checkGroup31012 numGlyphs) = .ok cmap.subtable31012
  subtable31013 : (source .subtable31013).elim (cmap.subtable31013 = []) fun header =>
    parseGroups input header.subtable 2 (checkGroup31013 numGlyphs) = .ok cmap.subtable31013
  subtable100 : (source .subtable100).elim (cmap.subtable100 = []) fun header =>
    ∃ next, readArray (·.readU8 input) ⟨header.offset, header.length, 6⟩ kFormat0ArraySize =
      .ok (cmap.subtable100, next)

section Parsers

variable {file file' : OpenTypeFile} {input : List UInt8} {data : Slice} {numGlyphs : Nat}

theorem parse3x4_slot {encoding : Nat} (ok : parse3x4 file encoding input data numGlyphs = .ok file') :
    ∃ os2, encoding = 0 ∧ file' = { file with cmap.subtable304 := some data, os2 := some os2 } ∨
      encoding = 1 ∧ file' = { file with cmap.subtable314 := some data, os2 := some os2 } := by
  obtain ⟨_, _, _, _, os2, -, -, -, -, -, -, slot⟩ := parse3x4_eq_ok.mp ok
  exact ⟨os2, slot⟩

theorem parse31012_eq_ok :
    parse31012 file input data numGlyphs = .ok file' ↔ ∃ groups,
      parseGroups input data 4 (checkGroup31012 numGlyphs) = .ok groups ∧
        file' = { file with cmap.subtable31012 := groups } := by
  simp only [parse31012, bind_eq_ok, pure, Except.pure, Except.ok.injEq]
  constructor <;> rintro ⟨groups, read, rfl⟩ <;> exact ⟨groups, read, rfl⟩

theorem parse31013_eq_ok :
    parse31013 file input data numGlyphs = .ok file' ↔ ∃ groups,
      parseGroups input data 2 (checkGroup31013 numGlyphs) = .ok groups ∧
        file' = { file with cmap.subtable31013 := groups } := by
  simp only [parse31013, bind_eq_ok, pure, Except.pure, Except.ok.injEq]
  constructor <;> rintro ⟨groups, read, rfl⟩ <;> exact ⟨groups, read, rfl⟩

theorem parse100_glyphs (ok : parse100 file input data = .ok file') :
    ∃ glyphIds next, readArray (·.readU8 input) ⟨data.base, data.length, 6⟩ kFormat0ArraySize =
      .ok (glyphIds, next) ∧ file' = { file with cmap.subtable100 := file.cmap.subtable100 ++ glyphIds } := by
  simp only [parse100, Buffer.readU16, bind_eq_ok, pure, Except.pure, Except.ok.injEq] at ok
  obtain ⟨_, skipped, ⟨_, _⟩, languageRead, ⟨glyphIds, next⟩, glyphsRead, rfl⟩ := ok
  obtain ⟨-, rfl⟩ := Buffer.skip_eq_ok.mp skipped
  obtain ⟨-, -, -, rfl⟩ := Buffer.read_eq_ok.mp languageRead
  exact ⟨glyphIds, next, glyphsRead, rfl⟩

end Parsers

section Filled

variable {input : List UInt8} {numGlyphs : Nat} {source : Slot → Option CMAPSubtableHeader}
  {header : CMAPSubtableHeader}

theorem Slot.record_of_none (out : header.outputAs = none) : Slot.record source header = source := by
  funext slot
  simp [Slot.record, out]

theorem Slot.record_of_some {slot : Slot} (out : header.outputAs = some slot) :
    Slot.record source header = Function.update source slot (some header) := by
  funext other
  by_cases same : other = slot
  · subst same; simp [Slot.record, out]
  · simp [Slot.record, out, same, Ne.symm same]

theorem OpenTypeCMAP.FilledFrom.dispatch {file file' : OpenTypeFile}
    (filled : file.cmap.FilledFrom input numGlyphs source) (checked : header.Checked input.length)
    (once : header.outputAs = some .subtable100 → source .subtable100 = none)
    (ok : parseSubtable input ⟨0, input.length⟩ numGlyphs file header = .ok file') :
    file'.cmap.FilledFrom input numGlyphs (Slot.record source header) := by
  have window : header.window ⟨0, input.length⟩ = .ok header.subtable := by
    simp [CMAPSubtableHeader.window, Slice.sub, CMAPSubtableHeader.subtable, checked.window_le]
  obtain ⟨is304, is314, is0514, is31012, is31013, is100⟩ := filled
  rw [parseSubtable_eq_outputAs] at ok
  cases out : header.outputAs with
  | none =>
    rw [out] at ok
    cases ok
    rw [Slot.record_of_none out]
    exact ⟨is304, is314, is0514, is31012, is31013, is100⟩
  | some slot =>
    rw [out, Option.elim, window, ok_bind] at ok
    rw [Slot.record_of_some out]
    cases slot with
    | subtable304 =>
      obtain ⟨_, ⟨-, rfl⟩ | ⟨one, -⟩⟩ := parse3x4_slot ok
      · exact ⟨by simp, by simpa using is314, by simpa using is0514, by simpa using is31012,
          by simpa using is31013, by simpa using is100⟩
      · cases one
    | subtable314 =>
      obtain ⟨_, ⟨zero, -⟩ | ⟨-, rfl⟩⟩ := parse3x4_slot ok
      · cases zero
      · exact ⟨by simpa using is304, by simp, by simpa using is0514, by simpa using is31012,
          by simpa using is31013, by simpa using is100⟩
    | subtable0514 =>
      have inside : header.subtable.Inside input := checked.window_le
      obtain rfl := (parse0514_safe file inside numGlyphs).of_ok ok
      exact ⟨by simpa using is304, by simpa using is314, by simp, by simpa using is31012,
        by simpa using is31013, by simpa using is100⟩
    | subtable31012 =>
      obtain ⟨groups, read, rfl⟩ := parse31012_eq_ok.mp ok
      exact ⟨by simpa using is304, by simpa using is314, by simpa using is0514, by simpa using read,
        by simpa using is31013, by simpa using is100⟩
    | subtable31013 =>
      obtain ⟨groups, read, rfl⟩ := parse31013_eq_ok.mp ok
      exact ⟨by simpa using is304, by simpa using is314, by simpa using is0514, by simpa using is31012,
        by simpa using read, by simpa using is100⟩
    | subtable100 =>
      obtain ⟨glyphIds, next, read, rfl⟩ := parse100_glyphs ok
      have empty : file.cmap.subtable100 = [] := by simpa [once out] using is100
      exact ⟨by simpa using is304, by simpa using is314, by simpa using is0514, by simpa using is31012,
        by simpa using is31013, ⟨next, by simpa [empty] using read⟩⟩

theorem parseSubtables_filledFrom {file' : OpenTypeFile} :
    ∀ {file : OpenTypeFile} {source : Slot → Option CMAPSubtableHeader} {headers : List CMAPSubtableHeader},
      (∀ header ∈ headers, header.Checked input.length) → headers.Pairwise (fun a b => a.id < b.id) →
        file.cmap.FilledFrom input numGlyphs source →
          ((source .subtable100).isSome → ∀ header ∈ headers, header.outputAs ≠ some .subtable100) →
            parseSubtables input ⟨0, input.length⟩ numGlyphs file headers = .ok file' →
              file'.cmap.FilledFrom input numGlyphs fun slot => (lastOutputAs slot headers).or (source slot)
  | _, _, [], _, _, filled, _, ok => by cases ok; simpa [lastOutputAs] using filled
  | _, source, header :: rest, checked, sorted, filled, once, ok => by
    obtain ⟨_, first, later⟩ := bind_eq_ok.mp ok
    obtain ⟨above, sorted⟩ := List.pairwise_cons.mp sorted
    have fresh : header.outputAs = some .subtable100 → source .subtable100 = none := fun mac =>
      Option.not_isSome_iff_eq_none.mp fun filled => once filled header (List.mem_cons_self _ _) mac
    have step := filled.dispatch (checked header (List.mem_cons_self _ _)) fresh first
    have onceMore : (Slot.record source header .subtable100).isSome →
        ∀ other ∈ rest, other.outputAs ≠ some .subtable100 := by
      intro filled other mem mac
      by_cases here : header.outputAs = some .subtable100
      · have := above other mem
        rw [CMAPSubtableHeader.id_of_outputAs_subtable100 here,
          CMAPSubtableHeader.id_of_outputAs_subtable100 mac] at this
        exact Nat.lt_irrefl _ this
      · simp only [Slot.record, here, if_false] at filled
        exact once filled other (List.mem_cons_of_mem _ mem) mac
    have run := parseSubtables_filledFrom (fun other mem => checked other (List.mem_cons_of_mem _ mem))
      sorted step onceMore later
    convert run using 2 with slot
    rw [lastOutputAs_cons, Slot.record]
    split <;> cases lastOutputAs slot rest <;> rfl

end Filled

theorem OpenTypeCMAP.filledFrom_empty (input : List UInt8) (numGlyphs : Nat) :
    ({} : OpenTypeCMAP).FilledFrom input numGlyphs fun _ => none :=
  ⟨rfl, rfl, rfl, by simp, by simp, by simp⟩

/-- Each slot of an accepted table holds what the parser of its slot read from the subtable of the
last record of the directory that the comment's list outputs as it; a slot no record is output as
is empty. The records are those of the directory, in order, with the format and the length the
format and length loop read at their offsets. -/
theorem otsCmapParse_filledFrom {file file' : OpenTypeFile} {input : List UInt8}
    (accepted : otsCmapParse file input = .ok file') :
    ∃ maxp headers records directory, file.maxp = some maxp ∧
      readSubtableHeaders input ⟨0, input.length, 4⟩ (field input 2 2) = .ok (records, directory) ∧
      headers.map (·.listed) = records.map (·.listed) ∧ (∀ header ∈ headers, header.Framed input) ∧
      file'.cmap.FilledFrom input maxp.numGlyphs fun slot => lastOutputAs slot headers := by
  obtain ⟨maxp, headers, found, good, run, sorted, records, directory, read, listed⟩ :=
    otsCmapParse_eq_ok accepted
  have filled := parseSubtables_filledFrom (fun header mem => (good header mem).1) sorted
    (OpenTypeCMAP.filledFrom_empty input maxp.numGlyphs) (by simp) run
  exact ⟨maxp, headers, records, directory, found, read, listed, fun header mem => (good header mem).2,
    by simpa using filled⟩

def twoFormat4Table : List UInt8 :=
  [0, 0, 0, 2, 0, 0, 0, 0, 0, 0, 0, 20, 0, 3, 0, 1, 0, 0, 0, 44,
    0, 4, 0, 24, 0, 0, 0, 2, 0, 2, 0, 0, 0, 0, 0xFF, 0xFF, 0, 0, 0xFF, 0xFF, 0, 2, 0, 0,
    0, 4, 0, 24, 0, 0, 0, 2, 0, 2, 0, 0, 0, 0, 0xFF, 0xFF, 0, 0, 0xFF, 0xFF, 0, 1, 0, 0]

theorem twoFormat4Table_filledFrom :
    ∃ maxp headers records directory,
      ({ os2 := some ⟨0x20, 0x7E⟩, maxp := some ⟨3⟩ } : OpenTypeFile).maxp = some maxp ∧
      readSubtableHeaders twoFormat4Table ⟨0, twoFormat4Table.length, 4⟩ (field twoFormat4Table 2 2) =
        .ok (records, directory) ∧
      headers.map (·.listed) = records.map (·.listed) ∧ (∀ header ∈ headers, header.Framed twoFormat4Table) ∧
      ({ subtable314 := some ⟨44, 24⟩ } : OpenTypeCMAP).FilledFrom twoFormat4Table maxp.numGlyphs
        fun slot => lastOutputAs slot headers :=
  @otsCmapParse_filledFrom { os2 := some ⟨0x20, 0x7E⟩, maxp := some ⟨3⟩ }
    { cmap := { subtable314 := some ⟨44, 24⟩ }, os2 := some ⟨0x20, 0x7E⟩, maxp := some ⟨3⟩ } twoFormat4Table rfl

/-- The (3,1,4) and (3,10,12) subtables win, as the comment of `ots_cmap_parse` says. When the
directory of an accepted table has a (3,1,4) record of format 4, the (3,1,4) slot is its subtable,
whatever (0,0,4) or (0,3,4) record came before; when it has a (3,10,12) record of format 12, the
(3,10,12) slot holds the groups `Parse31012` reads from it, whatever a (0,3,12) record held. -/
theorem otsCmapParse_ms_subtables_win {file file' : OpenTypeFile} {input : List UInt8}
    (accepted : otsCmapParse file input = .ok file') :
    ∃ maxp records directory, file.maxp = some maxp ∧
      readSubtableHeaders input ⟨0, input.length, 4⟩ (field input 2 2) = .ok (records, directory) ∧
      ∀ record ∈ records, record.platform = 3 →
        (record.encoding = 1 → field input record.offset 2 = 4 →
          file'.cmap.subtable314 = some ⟨record.offset, field input (record.offset + 2) 2⟩) ∧
        (record.encoding = 10 → field input record.offset 2 = 12 →
          parseGroups input ⟨record.offset, field input (record.offset + 4) 4⟩ 4
            (checkGroup31012 maxp.numGlyphs) = .ok file'.cmap.subtable31012) := by
  obtain ⟨maxp, headers, found, good, run, sorted, records, directory, read, listed⟩ :=
    otsCmapParse_eq_ok accepted
  have filled := parseSubtables_filledFrom (fun header mem => (good header mem).1) sorted
    (OpenTypeCMAP.filledFrom_empty input maxp.numGlyphs) (by simp) run
  simp only [Option.or_none] at filled
  refine ⟨maxp, records, directory, found, read, fun record mem ms => ?_⟩
  have inHeaders : record.listed ∈ headers.map (·.listed) := listed ▸ List.mem_map_of_mem (·.listed) mem
  obtain ⟨header, inHeaders, same⟩ := List.mem_map.mp inHeaders
  simp only [CMAPSubtableHeader.listed, Prod.mk.injEq] at same
  obtain ⟨platform, encoding, offset⟩ := same
  have framed := (good header inHeaders).2
  -- the record is the last output as its slot: no record after it has a key as small
  have last : ∀ {slot}, header.outputAs = some slot →
      (∀ other ∈ headers, other.outputAs = some slot → other.id ≤ header.id) →
        lastOutputAs slot headers = some header :=
    fun out greatest => lastOutputAs_eq_of_greatest out sorted inHeaders greatest
  constructor
  · intro one four
    have format : header.format = 4 := by rw [framed.1, offset, four]
    have out : header.outputAs = some .subtable314 := by
      rw [CMAPSubtableHeader.outputAs, platform, encoding, format, ms, one]; rfl
    have greatest : ∀ other ∈ headers, other.outputAs = some .subtable314 → other.id ≤ header.id :=
      fun other _ feeds => by
        simpa [CMAPSubtableHeader.id, platform, encoding, ms, one] using
          (CMAPSubtableHeader.id_le_of_outputAs feeds).1 rfl
    rw [filled.subtable314, last out greatest]
    simp [CMAPSubtableHeader.subtable, offset, framed.2.1 (.inr format)]
  · intro ten twelve
    have format : header.format = 12 := by rw [framed.1, offset, twelve]
    have out : header.outputAs = some .subtable31012 := by
      rw [CMAPSubtableHeader.outputAs, platform, encoding, format, ms, ten]; rfl
    have greatest : ∀ other ∈ headers, other.outputAs = some .subtable31012 → other.id ≤ header.id :=
      fun other _ feeds => by
        simpa [CMAPSubtableHeader.id, platform, encoding, ms, ten] using
          (CMAPSubtableHeader.id_le_of_outputAs feeds).2 rfl
    have groups := filled.subtable31012
    rw [last out greatest] at groups
    simpa [CMAPSubtableHeader.subtable, offset, framed.2.2.1 (.inl format)] using groups

theorem twoFormat4Table_ms_subtables_win :
    ∃ maxp records directory,
      ({ os2 := some ⟨0x20, 0x7E⟩, maxp := some ⟨3⟩ } : OpenTypeFile).maxp = some maxp ∧
      readSubtableHeaders twoFormat4Table ⟨0, twoFormat4Table.length, 4⟩ (field twoFormat4Table 2 2) =
        .ok (records, directory) ∧
      ∀ record ∈ records, record.platform = 3 →
        (record.encoding = 1 → field twoFormat4Table record.offset 2 = 4 →
          (some ⟨44, 24⟩ : Option Slice) = some ⟨record.offset, field twoFormat4Table (record.offset + 2) 2⟩) ∧
        (record.encoding = 10 → field twoFormat4Table record.offset 2 = 12 →
          parseGroups twoFormat4Table ⟨record.offset, field twoFormat4Table (record.offset + 4) 4⟩ 4
            (checkGroup31012 maxp.numGlyphs) = .ok []) :=
  @otsCmapParse_ms_subtables_win { os2 := some ⟨0x20, 0x7E⟩, maxp := some ⟨3⟩ }
    { cmap := { subtable314 := some ⟨44, 24⟩ }, os2 := some ⟨0x20, 0x7E⟩, maxp := some ⟨3⟩ } twoFormat4Table rfl

end OtsCmap
