import OtsCmap.Format4
import OtsCmap.Format14

/-! A parser handed a slice reads nothing of the input outside it. Run on a slice and on a copy of
its bytes elsewhere, in another input, it stops the same way or returns the same values; only the
slice it records differs. This is what lets the sanitizer's output, whose opaque subtables are
verbatim copies, be parsed again as the input was. -/
namespace OtsCmap

def Agree {α β : Type} (related : α → β → Prop) : Except Stop α → Except Stop β → Prop
  | .ok value, .ok value' => related value value'
  | .error stop, .error stop' => stop = stop'
  | _, _ => False

namespace Agree

variable {α β γ δ : Type} {related : α → β → Prop} {run : Except Stop α} {run' : Except Stop β}

theorem bind {next : α → Except Stop γ} {next' : β → Except Stop δ} {after : γ → δ → Prop}
    (first : Agree related run run')
    (rest : ∀ value value', related value value' → Agree after (next value) (next' value')) :
    Agree after (run >>= next) (run' >>= next') := by
  cases run <;> cases run' <;> first | exact rest _ _ first | exact first | exact first.elim

theorem self (run : Except Stop α) : Agree (· = ·) run run := by
  cases run <;> rfl

theorem bind_self {next : α → Except Stop γ} {next' : α → Except Stop δ} {after : γ → δ → Prop}
    (rest : ∀ value, Agree after (next value) (next' value)) :
    Agree after (run >>= next) (run >>= next') :=
  bind (self run) fun _ _ same => same ▸ rest _

theorem ite {condition : Prop} [Decidable condition] {yes no : Except Stop α} {yes' no' : Except Stop β}
    (ifYes : condition → Agree related yes yes') (ifNo : ¬condition → Agree related no no') :
    Agree related (if condition then yes else no) (if condition then yes' else no') := by
  split; exacts [ifYes ‹_›, ifNo ‹_›]

theorem of_ok {value : α} (agree : Agree related run run') (ok : run = .ok value) :
    ∃ value', run' = .ok value' ∧ related value value' := by
  subst ok; cases run' <;> first | exact ⟨_, rfl, agree⟩ | exact agree.elim

end Agree

structure Slice.Moved (input : List UInt8) (data : Slice) (input' : List UInt8) (data' : Slice) :
    Prop where
  inside : data.Inside input
  inside' : data'.Inside input'
  length : data'.length = data.length
  bytes : (input'.drop data'.base).take data'.length = (input.drop data.base).take data.length

section Moved

variable {input input' : List UInt8} {data data' : Slice}

theorem Slice.Moved.symm (moved : Slice.Moved input data input' data') : Slice.Moved input' data' input data :=
  ⟨moved.inside', moved.inside, moved.length.symm, moved.bytes.symm⟩

theorem Slice.Moved.window (moved : Slice.Moved input data input' data') {start count : Nat}
    (within : start + count ≤ data.length) :
    (input'.drop (data'.base + start)).take count = (input.drop (data.base + start)).take count := by
  have part : ∀ (bytes : List UInt8) (base length : Nat), start + count ≤ length →
      (bytes.drop (base + start)).take count = (((bytes.drop base).take length).drop start).take count :=
    fun bytes base length fits => by
      rw [List.drop_take, List.take_take, List.drop_drop, Nat.min_eq_left (by omega)]
  rw [part input' data'.base data'.length (moved.length ▸ within), moved.bytes,
    ← part input data.base data.length within]

theorem Slice.Moved.field (moved : Slice.Moved input data input' data') {position width : Nat}
    (within : position + width ≤ data.length) :
    field input' (data'.base + position) width = field input (data.base + position) width :=
  congrArg bigEndian (moved.window within)

theorem Slice.Moved.peek (moved : Slice.Moved input data input' data') (position width : Nat) :
    data'.peek input' position width = data.peek input position width := by
  have inside := moved.inside; have inside' := moved.inside'; have same := moved.length
  unfold Slice.Inside at inside inside'
  unfold Slice.peek fetch
  rw [moved.length]
  split
  · rw [if_pos (by omega), if_pos (by omega), moved.field ‹_›]
  · rfl

theorem Slice.Moved.bytes_eq (moved : Slice.Moved input data input' data') :
    data'.bytes input' = data.bytes input := by
  have inside : data.base + data.length ≤ input.length := moved.inside
  have inside' : data'.base + data'.length ≤ input'.length := moved.inside'
  unfold Slice.bytes
  rw [if_pos inside', if_pos inside, moved.bytes]

theorem Slice.Moved.sub (moved : Slice.Moved input data input' data') (start count : Nat) :
    Agree (fun part part' => Slice.Moved input part input' part') (data.sub start count)
      (data'.sub start count) := by
  have inside := moved.inside; have inside' := moved.inside'; have same := moved.length
  unfold Slice.Inside at inside inside'
  unfold Slice.sub
  rw [moved.length]
  split
  · exact ⟨by simp only [Slice.Inside]; omega, by simp only [Slice.Inside]; omega, rfl,
      moved.window ‹_›⟩
  · rfl

def Buffer.Moved (data data' : Slice) (buffer buffer' : Buffer) : Prop :=
  buffer.On data ∧ buffer'.On data' ∧ buffer'.offset = buffer.offset

def ReadMoved {α : Type} (data data' : Slice) (read read' : α × Buffer) : Prop :=
  read.1 = read'.1 ∧ Buffer.Moved data data' read.2 read'.2

theorem Buffer.Moved.ofSlice (data data' : Slice) :
    Buffer.Moved data data' (Buffer.ofSlice data) (Buffer.ofSlice data') :=
  ⟨Buffer.ofSlice_on data, Buffer.ofSlice_on data', rfl⟩

variable {buffer buffer' : Buffer}

theorem Buffer.Moved.read (moved : Slice.Moved input data input' data')
    (follows : Buffer.Moved data data' buffer buffer') (width : Nat) :
    Agree (ReadMoved data data') (buffer.read input width) (buffer'.read input' width) := by
  obtain ⟨⟨base, length⟩, ⟨base', length'⟩, offset⟩ := follows
  have inside := moved.inside; have inside' := moved.inside'; have same := moved.length
  unfold Slice.Inside at inside inside'
  unfold Buffer.read fetch
  rw [offset, length', length, moved.length]
  split
  · rfl
  · rw [if_pos (by omega), if_pos (by omega), base, base', moved.field (by omega)]
    exact ⟨rfl, ⟨rfl, rfl⟩, ⟨rfl, same.symm⟩, rfl⟩

theorem Buffer.Moved.skip (follows : Buffer.Moved data data' buffer buffer')
    (same : data'.length = data.length) (count : Nat) :
    Agree (Buffer.Moved data data') (buffer.skip count) (buffer'.skip count) := by
  obtain ⟨⟨base, length⟩, ⟨base', length'⟩, offset⟩ := follows
  unfold Buffer.skip
  rw [offset, length', length, same]
  split
  · rfl
  · exact ⟨⟨base, rfl⟩, ⟨base', same.symm⟩, rfl⟩

theorem Buffer.Moved.readS16 (moved : Slice.Moved input data input' data')
    (follows : Buffer.Moved data data' buffer buffer') :
    Agree (ReadMoved data data') (buffer.readS16 input) (buffer'.readS16 input') :=
  Agree.bind (follows.read moved 2) fun ⟨_, _⟩ ⟨_, _⟩ ⟨same, follows⟩ => by
    subst same; exact ⟨rfl, follows⟩

theorem readArray_moved {α : Type} {read read' : Buffer → Except Stop (α × Buffer)}
    (each : ∀ buffer buffer', Buffer.Moved data data' buffer buffer' →
      Agree (ReadMoved data data') (read buffer) (read' buffer')) :
    ∀ (count : Nat) (buffer buffer' : Buffer), Buffer.Moved data data' buffer buffer' →
      Agree (ReadMoved data data') (readArray read buffer count) (readArray read' buffer' count)
  | 0, _, _, follows => ⟨rfl, follows⟩
  | count + 1, buffer, buffer', follows =>
    Agree.bind (each buffer buffer' follows) fun ⟨_, _⟩ ⟨_, _⟩ ⟨same, follows⟩ =>
      Agree.bind (readArray_moved each count _ _ follows) fun ⟨_, _⟩ ⟨_, _⟩ ⟨rest, follows⟩ => by
        subst same rest; exact ⟨rfl, follows⟩

theorem readSegCount_moved (moved : Slice.Moved input data input' data')
    (follows : Buffer.Moved data data' buffer buffer') :
    Agree (ReadMoved data data') (readSegCount input buffer) (readSegCount input' buffer') := by
  unfold readSegCount
  refine Agree.bind (follows.skip moved.length 4) fun _ _ follows => ?_
  refine Agree.bind (follows.read moved 2) fun ⟨_, _⟩ ⟨_, _⟩ ⟨same, follows⟩ => ?_
  dsimp only at same ⊢; subst same
  refine Agree.bind_self fun _ => Agree.bind (follows.read moved 2) fun ⟨_, _⟩ ⟨_, _⟩ ⟨same, follows⟩ => ?_
  dsimp only at same ⊢; subst same
  refine Agree.bind (follows.read moved 2) fun ⟨_, _⟩ ⟨_, _⟩ ⟨same, follows⟩ => ?_
  dsimp only at same ⊢; subst same
  refine Agree.bind (follows.read moved 2) fun ⟨_, _⟩ ⟨_, _⟩ ⟨same, follows⟩ => ?_
  dsimp only at same ⊢; subst same
  refine Agree.bind (follows.read moved 2) fun ⟨_, _⟩ ⟨_, _⟩ ⟨same, follows⟩ => ?_
  dsimp only at same ⊢; subst same
  exact Agree.bind_self fun _ => Agree.bind_self fun _ => Agree.bind_self fun _ =>
    Agree.bind_self fun _ => Agree.bind_self fun _ => Agree.bind_self fun _ => ⟨rfl, follows⟩

theorem readIdRangeOffsets_moved (moved : Slice.Moved input data input' data') :
    ∀ (count : Nat) (buffer buffer' : Buffer), Buffer.Moved data data' buffer buffer' →
      Agree (ReadMoved data data') (readIdRangeOffsets input buffer count)
        (readIdRangeOffsets input' buffer' count)
  | 0, _, _, follows => ⟨rfl, follows⟩
  | count + 1, buffer, buffer', follows => by
    unfold readIdRangeOffsets
    refine Agree.bind (follows.read moved 2) fun ⟨_, _⟩ ⟨_, _⟩ ⟨same, next⟩ => ?_
    dsimp only at same ⊢; subst same
    refine Agree.bind_self fun _ =>
      Agree.bind (readIdRangeOffsets_moved moved count _ _ next) fun ⟨_, _⟩ ⟨_, _⟩ ⟨rest, next⟩ => ?_
    dsimp only at rest ⊢; subst rest
    exact ⟨by rw [follows.2.2], next⟩

theorem readRanges_moved (moved : Slice.Moved input data input' data')
    (follows : Buffer.Moved data data' buffer buffer') (segcount : Nat) :
    Agree (· = ·) (readRanges input buffer segcount) (readRanges input' buffer' segcount) := by
  have u16 := fun buffer buffer' (follows : Buffer.Moved data data' buffer buffer') => follows.read moved 2
  unfold readRanges
  refine Agree.bind (readArray_moved u16 segcount _ _ follows) fun ⟨_, _⟩ ⟨_, _⟩ ⟨same, follows⟩ => ?_
  dsimp only at same ⊢; subst same
  refine Agree.bind (follows.read moved 2) fun ⟨_, _⟩ ⟨_, _⟩ ⟨same, follows⟩ => ?_
  dsimp only at same ⊢; subst same
  refine Agree.bind_self fun _ =>
    Agree.bind (readArray_moved u16 segcount _ _ follows) fun ⟨_, _⟩ ⟨_, _⟩ ⟨same, follows⟩ => ?_
  dsimp only at same ⊢; subst same
  refine Agree.bind (readArray_moved (fun _ _ follows => follows.readS16 moved) segcount _ _ follows)
    fun ⟨_, _⟩ ⟨_, _⟩ ⟨same, follows⟩ => ?_
  dsimp only at same ⊢; subst same
  refine Agree.bind (readIdRangeOffsets_moved moved segcount _ _ follows)
    fun ⟨_, _⟩ ⟨_, _⟩ ⟨same, _⟩ => ?_
  dsimp only at same ⊢; subst same
  rfl

theorem simulate_moved (moved : Slice.Moved input data input' data') (numGlyphs : Nat)
    (ranges : List Subtable314Range) :
    simulate input' data' numGlyphs ranges = simulate input data numGlyphs ranges := by
  have each : simulateCodePoint input' data' numGlyphs = simulateCodePoint input data numGlyphs := by
    funext range codePoint
    simp only [simulateCodePoint, moved.peek, moved.length]
  rw [simulate, simulate, each]

theorem checkOrder_ok_of_ok : ∀ {ranges : List Subtable314Range} {os2 os2' : OpenTypeOS2},
    checkOrder ranges os2 = .ok os2' → ∀ other : OpenTypeOS2, ∃ other', checkOrder ranges other = .ok other'
  | [_, _], os2, _, ordered, other => by
    unfold checkOrder orderStep at *
    split_ifs at ordered ⊢ <;> exact ⟨_, rfl⟩
  | _ :: current :: _ :: _, _, _, ordered, other => by
    obtain ⟨_, step, rest⟩ := bind_eq_ok.mp ordered
    unfold orderStep at step
    split_ifs at step with short start
    cases step
    obtain ⟨other', rest⟩ := checkOrder_ok_of_ok rest (fixCharIndex other current)
    exact ⟨other', by simp only [checkOrder, orderStep, short, start, if_false, ok_bind]; exact rest⟩
  | [], _, _, _, other | [_], _, _, _, other => ⟨other, rfl⟩

theorem parse3x4_moved (moved : Slice.Moved input data input' data') {file file₁ file₂ : OpenTypeFile}
    {encoding numGlyphs : Nat} {os2 : OpenTypeOS2}
    (accepted : parse3x4 file encoding input data numGlyphs = .ok file₁) (found : file₂.os2 = some os2) :
    ∃ os2', parse3x4 file₂ 0 input' data' numGlyphs =
        .ok { file₂ with cmap.subtable304 := some data', os2 := some os2' } ∧
      parse3x4 file₂ 1 input' data' numGlyphs =
        .ok { file₂ with cmap.subtable314 := some data', os2 := some os2' } := by
  obtain ⟨_, segcount, subtable, ranges, _, -, counted, read, ordered, last, simulated, -⟩ :=
    parse3x4_eq_ok.mp accepted
  obtain ⟨⟨_, subtable'⟩, counted', same, follows⟩ :=
    (readSegCount_moved moved (Buffer.Moved.ofSlice data data')).of_ok counted
  dsimp only at same follows; subst same
  obtain ⟨_, read', rfl⟩ := (readRanges_moved moved follows segcount).of_ok read
  obtain ⟨os2', ordered'⟩ := checkOrder_ok_of_ok ordered os2
  have simulated' := (simulate_moved moved numGlyphs ranges).trans simulated
  exact ⟨os2', parse3x4_eq_ok.mpr ⟨os2, _, _, _, os2', found, counted', read', ordered', last, simulated',
      .inl ⟨rfl, rfl⟩⟩,
    parse3x4_eq_ok.mpr ⟨os2, _, _, _, os2', found, counted', read', ordered', last, simulated',
      .inr ⟨rfl, rfl⟩⟩⟩

theorem unicodeValueRanges_moved (moved : Slice.Moved input data input' data') :
    ∀ (count j prev : Nat) (buffer buffer' : Buffer), Buffer.Moved data data' buffer buffer' →
      Agree (· = ·) (unicodeValueRanges input buffer j prev count)
        (unicodeValueRanges input' buffer' j prev count)
  | 0, _, _, _, _, _ => rfl
  | count + 1, j, prev, buffer, buffer', follows => by
    unfold unicodeValueRanges
    refine Agree.bind (follows.read moved 3) fun ⟨_, _⟩ ⟨_, _⟩ ⟨same, follows⟩ => ?_
    dsimp only at same ⊢; subst same
    refine Agree.bind (follows.read moved 1) fun ⟨_, _⟩ ⟨_, _⟩ ⟨same, follows⟩ => ?_
    dsimp only at same ⊢; subst same
    exact Agree.bind_self fun _ => unicodeValueRanges_moved moved count _ _ _ _ follows

theorem uvsMappings_moved (moved : Slice.Moved input data input' data') (numGlyphs : Nat) :
    ∀ (count j prev : Nat) (buffer buffer' : Buffer), Buffer.Moved data data' buffer buffer' →
      Agree (· = ·) (uvsMappings input numGlyphs buffer j prev count)
        (uvsMappings input' numGlyphs buffer' j prev count)
  | 0, _, _, _, _, _ => rfl
  | count + 1, j, prev, buffer, buffer', follows => by
    unfold uvsMappings
    refine Agree.bind (follows.read moved 3) fun ⟨_, _⟩ ⟨_, _⟩ ⟨same, follows⟩ => ?_
    dsimp only at same ⊢; subst same
    refine Agree.bind_self fun _ => Agree.bind (follows.read moved 2) fun ⟨_, _⟩ ⟨_, _⟩ ⟨same, follows⟩ => ?_
    dsimp only at same ⊢; subst same
    exact Agree.bind_self fun _ => uvsMappings_moved moved numGlyphs count _ _ _ _ follows

theorem uvsTable_moved (moved : Slice.Moved input data input' data') (offset : Nat)
    {loop : Buffer → Nat → Except Stop Unit} {loop' : Buffer → Nat → Except Stop Unit}
    (each : ∀ (part part' : Slice) (count : Nat) (buffer buffer' : Buffer),
      Slice.Moved input part input' part' → Buffer.Moved part part' buffer buffer' →
        Agree (· = ·) (loop buffer count) (loop' buffer' count)) :
    Agree (· = ·)
      (data.sub offset (data.length - offset) >>= fun uvsData =>
        (Buffer.ofSlice uvsData).readU32 input >>= fun read => loop read.2 read.1)
      (data'.sub offset (data'.length - offset) >>= fun uvsData =>
        (Buffer.ofSlice uvsData).readU32 input' >>= fun read => loop' read.2 read.1) := by
  rw [moved.length]
  refine Agree.bind (moved.sub offset _) fun part part' movedPart => ?_
  refine Agree.bind ((Buffer.Moved.ofSlice part part').read movedPart 4)
    fun ⟨_, _⟩ ⟨_, _⟩ ⟨same, follows⟩ => ?_
  dsimp only at same ⊢; subst same
  exact each part part' _ _ _ movedPart follows

theorem varSelectorRecords_moved (moved : Slice.Moved input data input' data') (numGlyphs : Nat) :
    ∀ (count prev : Nat) (buffer buffer' : Buffer), Buffer.Moved data data' buffer buffer' →
      Agree (· = ·) (varSelectorRecords input data numGlyphs buffer prev count)
        (varSelectorRecords input' data' numGlyphs buffer' prev count)
  | 0, _, _, _, _ => rfl
  | count + 1, prev, buffer, buffer', follows => by
    unfold varSelectorRecords
    refine Agree.bind (follows.read moved 3) fun ⟨_, _⟩ ⟨_, _⟩ ⟨same, follows⟩ => ?_
    dsimp only at same ⊢; subst same
    refine Agree.bind (follows.read moved 4) fun ⟨_, _⟩ ⟨_, _⟩ ⟨same, follows⟩ => ?_
    dsimp only at same ⊢; subst same
    refine Agree.bind (follows.read moved 4) fun ⟨_, _⟩ ⟨_, _⟩ ⟨same, follows⟩ => ?_
    dsimp only at same ⊢; subst same
    rw [moved.length]
    refine Agree.bind_self fun _ => Agree.bind_self fun _ => Agree.bind_self fun _ => ?_
    refine Agree.bind (Agree.ite (fun _ => ?_) fun _ => rfl) fun _ _ _ =>
      Agree.bind (Agree.ite (fun _ => ?_) fun _ => rfl) fun _ _ _ =>
        varSelectorRecords_moved moved numGlyphs count _ _ _ follows
    · exact uvsTable_moved moved _ fun _ _ count _ _ movedPart follows =>
        unicodeValueRanges_moved movedPart count 0 0 _ _ follows
    · exact uvsTable_moved moved _ fun _ _ count _ _ movedPart follows =>
        uvsMappings_moved movedPart numGlyphs count 0 0 _ _ follows

theorem parse0514_moved (moved : Slice.Moved input data input' data') {file file₁ file₂ : OpenTypeFile}
    {numGlyphs : Nat} (accepted : parse0514 file input data numGlyphs = .ok file₁) :
    parse0514 file₂ input' data' numGlyphs = .ok { file₂ with cmap.subtable0514 := some data' } := by
  have agree : Agree (fun _ _ => True) (parse0514 file input data numGlyphs)
      (parse0514 file₂ input' data' numGlyphs) := by
    unfold parse0514
    refine Agree.bind ((Buffer.Moved.ofSlice data data').skip moved.length 6) fun _ _ follows => ?_
    refine Agree.bind (follows.read moved 4) fun ⟨_, _⟩ ⟨_, _⟩ ⟨same, follows⟩ => ?_
    dsimp only at same ⊢; subst same
    rw [moved.length]
    exact Agree.bind_self fun _ => Agree.bind_self fun _ =>
      Agree.bind (varSelectorRecords_moved moved numGlyphs _ 0 _ _ follows) fun _ _ _ => trivial
  obtain ⟨file₂', accepted', -⟩ := agree.of_ok accepted
  rw [accepted', (parse0514_safe file₂ moved.inside' numGlyphs).of_ok accepted']

end Moved

end OtsCmap
