import Mathlib.Data.List.Basic
import Mathlib.Tactic.Ring
import Mathlib.Tactic.Linarith

/-! The bounded byte reader and the slices of the input it reads. The reader (`ots::Buffer`)
lives outside `cmap.cc`; it follows the spec: big-endian reads that fail cleanly past the end of
their slice, an offset query, an absolute seek and a skip. A run either returns, fails, or reaches
what the code leaves undefined, which the model records as a fault. -/
namespace OtsCmap

inductive Stop where
  | failure
  | fault
  deriving DecidableEq, Repr

def bigEndian (bytes : List UInt8) : Nat :=
  bytes.foldl (fun value byte => value * 256 + byte.toNat) 0

def field (input : List UInt8) (position width : Nat) : Nat :=
  bigEndian ((input.drop position).take width)

def entry (input : List UInt8) (start stride index offset width : Nat) : Nat :=
  field input (start + stride * index + offset) width

def fetch (input : List UInt8) (position width : Nat) : Except Stop Nat :=
  if position + width ≤ input.length then .ok (field input position width) else .error .fault

def failIf (condition : Prop) [Decidable condition] : Except Stop Unit :=
  if condition then .error .failure else .ok ()

def addNoWrap (width a b : Nat) : Except Stop Nat :=
  if a + b < 2 ^ width then .ok (a + b) else .error .fault

def subNoWrap (a b : Nat) : Except Stop Nat :=
  if b ≤ a then .ok (a - b) else .error .fault

structure Slice where
  base : Nat
  length : Nat
  deriving DecidableEq, Repr

namespace Slice

def Inside (input : List UInt8) (data : Slice) : Prop := data.base + data.length ≤ input.length

def sub (data : Slice) (start length : Nat) : Except Stop Slice :=
  if start + length ≤ data.length then .ok ⟨data.base + start, length⟩ else .error .fault

def peek (input : List UInt8) (data : Slice) (position width : Nat) : Except Stop Nat :=
  if position + width ≤ data.length then fetch input (data.base + position) width
  else .error .fault

def bytes (input : List UInt8) (data : Slice) : Except Stop (List UInt8) :=
  if data.base + data.length ≤ input.length then .ok ((input.drop data.base).take data.length)
  else .error .fault

end Slice

structure Buffer where
  base : Nat
  length : Nat
  offset : Nat
  deriving DecidableEq, Repr

namespace Buffer

def ofSlice (data : Slice) : Buffer := ⟨data.base, data.length, 0⟩

def read (buffer : Buffer) (input : List UInt8) (width : Nat) : Except Stop (Nat × Buffer) :=
  if buffer.offset + width > buffer.length then .error .failure
  else do
    let value ← fetch input (buffer.base + buffer.offset) width
    pure (value, { buffer with offset := buffer.offset + width })

def readU8 (buffer : Buffer) (input : List UInt8) := buffer.read input 1
def readU16 (buffer : Buffer) (input : List UInt8) := buffer.read input 2
def readU24 (buffer : Buffer) (input : List UInt8) := buffer.read input 3
def readU32 (buffer : Buffer) (input : List UInt8) := buffer.read input 4

def readS16 (buffer : Buffer) (input : List UInt8) : Except Stop (Int × Buffer) := do
  let (value, buffer) ← buffer.readU16 input
  pure (if value < 32768 then value else value - 65536, buffer)

def skip (buffer : Buffer) (count : Nat) : Except Stop Buffer :=
  if buffer.offset + count > buffer.length then .error .failure
  else .ok { buffer with offset := buffer.offset + count }

def setOffset (buffer : Buffer) (offset : Nat) : Buffer := { buffer with offset := offset }

end Buffer

theorem bind_eq_ok {α β : Type} {x : Except Stop α} {f : α → Except Stop β} {b : β} :
    x >>= f = .ok b ↔ ∃ a, x = .ok a ∧ f a = .ok b := by
  cases x <;> simp [bind, Except.bind]

@[simp] theorem ok_bind {α β : Type} {a : α} {f : α → Except Stop β} : (Except.ok a >>= f) = f a := rfl

@[simp] theorem failIf_bind {β : Type} {condition : Prop} [Decidable condition]
    {f : Unit → Except Stop β} :
    failIf condition >>= f = if condition then .error .failure else f () := by
  unfold failIf; split <;> rfl

@[simp] theorem failIf_eq_ok {condition : Prop} [Decidable condition] :
    failIf condition = .ok () ↔ ¬condition := by
  unfold failIf; split <;> simp_all

theorem ite_failure_eq_ok {α : Type} {condition : Prop} [Decidable condition] {run : Except Stop α}
    {value : α} :
    (if condition then .error .failure else run) = .ok value ↔ ¬condition ∧ run = .ok value := by
  split <;> simp_all

theorem ite_pure_eq_ok {condition : Prop} [Decidable condition] {run : Except Stop Unit}
    (ok : condition → run = .ok ()) : (if condition then run else pure ()) = .ok () := by
  split
  · exact ok ‹_›
  · rfl

private theorem bigEndian_foldl (bytes : List UInt8) (value : Nat) :
    bytes.foldl (fun value byte => value * 256 + byte.toNat) value =
      value * 256 ^ bytes.length + bigEndian bytes := by
  induction bytes generalizing value with
  | nil => simp [bigEndian]
  | cons byte bytes ih =>
    rw [bigEndian, List.foldl_cons, List.foldl_cons, ih, ih, List.length_cons, pow_succ]
    ring

theorem bigEndian_lt (bytes : List UInt8) : bigEndian bytes < 256 ^ bytes.length := by
  induction bytes with
  | nil => simp [bigEndian]
  | cons byte bytes ih =>
    have small : byte.toNat < 256 := byte.val.isLt
    rw [bigEndian, List.foldl_cons, bigEndian_foldl, List.length_cons, pow_succ']
    nlinarith

theorem bigEndian_append (first second : List UInt8) :
    bigEndian (first ++ second) = bigEndian first * 256 ^ second.length + bigEndian second := by
  rw [bigEndian, List.foldl_append, bigEndian_foldl]
  rfl

theorem field_add {input : List UInt8} {position : Nat} (first second : Nat)
    (inside : position + first + second ≤ input.length) :
    field input position (first + second) =
      field input position first * 256 ^ second + field input (position + first) second := by
  have length : ((input.drop (position + first)).take second).length = second := by simp; omega
  rw [field, List.take_add, List.drop_drop, bigEndian_append, length]
  rfl

@[simp] theorem entry_shift (input : List UInt8) (start stride index offset width : Nat) :
    entry input (start + stride) stride index offset width =
      entry input start stride (index + 1) offset width := by
  unfold entry; congr 1; ring

@[simp] theorem entry_zero (input : List UInt8) (start stride offset width : Nat) :
    entry input start stride 0 offset width = field input (start + offset) width := by
  simp [entry]

theorem lt_of_adjacent_lt {f : Nat → Nat} {count : Nat}
    (adjacent : ∀ r, r + 1 < count → f r < f (r + 1)) :
    ∀ r r', r < r' → r' < count → f r < f r'
  | r, r' + 1, before, bound => by
    rcases Nat.lt_succ_iff_lt_or_eq.mp before with before | rfl
    · exact (lt_of_adjacent_lt adjacent r r' before (by omega)).trans (adjacent r' bound)
    · exact adjacent r bound

theorem field_lt (input : List UInt8) (position width : Nat) :
    field input position width < 256 ^ width :=
  lt_of_lt_of_le (bigEndian_lt _)
    (Nat.pow_le_pow_right (by norm_num) (List.length_take_le _ _))

@[simp] theorem fetch_eq_ok {input : List UInt8} {position width value : Nat} :
    fetch input position width = .ok value ↔
      position + width ≤ input.length ∧ value = field input position width := by
  unfold fetch; split <;> simp_all [eq_comm]

@[simp] theorem addNoWrap_eq_ok {width a b sum : Nat} :
    addNoWrap width a b = .ok sum ↔ a + b < 2 ^ width ∧ sum = a + b := by
  unfold addNoWrap; split <;> simp_all [eq_comm]

@[simp] theorem subNoWrap_eq_ok {a b difference : Nat} :
    subNoWrap a b = .ok difference ↔ b ≤ a ∧ difference = a - b := by
  unfold subNoWrap; split <;> simp_all [eq_comm]

namespace Buffer

variable {buffer next : Buffer} {input : List UInt8} {width value : Nat}

theorem read_eq_ok :
    buffer.read input width = .ok (value, next) ↔
      buffer.offset + width ≤ buffer.length ∧
      buffer.base + buffer.offset + width ≤ input.length ∧
      value = field input (buffer.base + buffer.offset) width ∧
      next = { buffer with offset := buffer.offset + width } := by
  unfold read
  split
  · simp only [reduceCtorEq, false_iff]; omega
  · simp only [bind_eq_ok, fetch_eq_ok, pure, Except.pure, Except.ok.injEq, Prod.mk.injEq]
    constructor
    · rintro ⟨v, ⟨fits, rfl⟩, rfl, rfl⟩; exact ⟨by omega, fits, rfl, rfl⟩
    · rintro ⟨-, fits, rfl, rfl⟩; exact ⟨_, ⟨fits, rfl⟩, rfl, rfl⟩

theorem read_fits {base length offset : Nat} (inside : base + length ≤ input.length)
    (fits : offset + width ≤ length) :
    (⟨base, length, offset⟩ : Buffer).read input width =
      .ok (field input (base + offset) width, ⟨base, length, offset + width⟩) :=
  read_eq_ok.mpr ⟨fits, show base + offset + width ≤ input.length by omega, rfl, rfl⟩

theorem skip_eq_ok {count : Nat} :
    buffer.skip count = .ok next ↔
      buffer.offset + count ≤ buffer.length ∧ next = { buffer with offset := buffer.offset + count } := by
  unfold skip; split <;> simp_all [eq_comm]

theorem readS16_eq_ok {signed : Int} :
    buffer.readS16 input = .ok (signed, next) ↔
      ∃ value, buffer.readU16 input = .ok (value, next) ∧
        signed = if value < 32768 then (value : Int) else value - 65536 := by
  simp only [readS16, bind_eq_ok, pure, Except.pure, Except.ok.injEq, Prod.mk.injEq]
  constructor
  · rintro ⟨⟨v, b⟩, h, rfl, rfl⟩; exact ⟨v, h, rfl⟩
  · rintro ⟨v, h, rfl⟩; exact ⟨(v, next), h, rfl, rfl⟩

end Buffer

def Safe {α : Type} (run : Except Stop α) (post : α → Prop) : Prop :=
  match run with
  | .ok value => post value
  | .error stop => stop = .failure

namespace Safe

variable {α β : Type} {run : Except Stop α} {post mid : α → Prop}

@[simp] theorem ok_iff {value : α} : Safe (.ok value) post ↔ post value := Iff.rfl

@[simp] theorem error_iff {stop : Stop} : Safe (.error stop : Except Stop α) post ↔ stop = .failure :=
  Iff.rfl

@[simp] theorem pure_iff {value : α} : Safe (pure value) post ↔ post value := Iff.rfl

@[simp] theorem throw_iff {stop : Stop} : Safe (throw stop : Except Stop α) post ↔ stop = .failure :=
  Iff.rfl

@[simp] theorem bind_iff {f : α → Except Stop β} {post : β → Prop} :
    Safe (run >>= f) post ↔ Safe run fun value => Safe (f value) post := by
  cases run <;> rfl

@[simp] theorem ite_failure_iff {condition : Prop} [Decidable condition] :
    Safe (if condition then .error .failure else run) post ↔ (¬condition → Safe run post) := by
  split <;> simp_all

theorem branch {condition : Prop} [Decidable condition] {yes no : Except Stop α}
    (ifYes : condition → Safe yes post) (ifNo : ¬condition → Safe no post) :
    Safe (if condition then yes else no) post := by
  split; exacts [ifYes ‹_›, ifNo ‹_›]

theorem mono (safe : Safe run mid) (weaken : ∀ value, mid value → post value) : Safe run post := by
  cases run with
  | ok value => exact weaken value safe
  | error stop => exact safe

theorem of_ok {value : α} (safe : Safe run post) (ok : run = .ok value) : post value := by
  subst ok; exact safe

theorem and_of_ok {extra : α → Prop} (safe : Safe run post)
    (accepted : ∀ value, run = .ok value → extra value) : Safe run fun value => post value ∧ extra value := by
  cases run with
  | ok value => exact ⟨safe, accepted value rfl⟩
  | error stop => exact safe

theorem forM_each {items : List α} {f : α → Except Stop PUnit} {Good : α → Prop}
    (each : ∀ item ∈ items, Safe (f item) fun _ => Good item) :
    Safe (items.forM f) fun _ => ∀ item ∈ items, Good item := by
  induction items with
  | nil => simp [pure, Except.pure]
  | cons item items ih =>
    simp only [List.forM_cons', bind_iff]
    exact (each item (List.mem_cons_self _ _)).mono fun _ good =>
      (ih fun other mem => each other (List.mem_cons_of_mem _ mem)).mono fun _ goods =>
        List.forall_mem_cons.mpr ⟨good, goods⟩

theorem forM {items : List α} {f : α → Except Stop PUnit}
    (each : ∀ item ∈ items, Safe (f item) fun _ => True) : Safe (items.forM f) fun _ => True :=
  (forM_each each).mono fun _ _ => trivial

end Safe

@[simp] theorem addNoWrap_safe_iff {width a b : Nat} {post : Nat → Prop} :
    Safe (addNoWrap width a b) post ↔ a + b < 2 ^ width ∧ post (a + b) := by
  unfold addNoWrap; split <;> simp_all

@[simp] theorem subNoWrap_safe_iff {a b : Nat} {post : Nat → Prop} :
    Safe (subNoWrap a b) post ↔ b ≤ a ∧ post (a - b) := by
  unfold subNoWrap; split <;> simp_all

theorem forM_eq_ok {α : Type} {items : List α} {f : α → Except Stop PUnit} :
    items.forM f = .ok () ↔ ∀ item ∈ items, f item = .ok () := by
  induction items with
  | nil => simp [pure, Except.pure]
  | cons item items ih =>
    simp only [List.forM_cons', bind_eq_ok, ih, List.mem_cons, forall_eq_or_imp]
    exact ⟨fun ⟨⟨⟩, first, rest⟩ => ⟨first, rest⟩, fun ⟨first, rest⟩ => ⟨(), first, rest⟩⟩

theorem Slice.peek_safe {input : List UInt8} {data : Slice} {position width : Nat}
    (inside : data.Inside input) (fits : position + width ≤ data.length) :
    Safe (data.peek input position width) fun value =>
      value = field input (data.base + position) width := by
  unfold Slice.Inside at inside
  simp [Slice.peek, fetch, fits, show data.base + position + width ≤ input.length by omega]

@[simp] theorem Safe.failIf_iff {condition : Prop} [Decidable condition] {post : Unit → Prop} :
    Safe (failIf condition) post ↔ (¬condition → post ()) := by
  unfold failIf; split <;> simp_all

namespace Buffer

variable {buffer : Buffer} {data : Slice} {input : List UInt8}

def On (buffer : Buffer) (data : Slice) : Prop := buffer.base = data.base ∧ buffer.length = data.length

theorem ofSlice_on (data : Slice) : (ofSlice data).On data := ⟨rfl, rfl⟩

theorem setOffset_on (reads : buffer.On data) (offset : Nat) : (buffer.setOffset offset).On data :=
  reads

theorem read_safe (inside : data.Inside input) (reads : buffer.On data) (width : Nat) :
    Safe (buffer.read input width) fun (value, next) =>
      next.On data ∧ next.offset = buffer.offset + width ∧ next.offset ≤ data.length ∧
        value < 256 ^ width := by
  obtain ⟨base, length⟩ := reads
  unfold read fetch
  split
  · rfl
  · rw [if_pos (by unfold Slice.Inside at inside; omega)]
    exact ⟨⟨base, length⟩, rfl, by simp only; omega, field_lt _ _ _⟩

theorem skip_safe (reads : buffer.On data) (count : Nat) :
    Safe (buffer.skip count) fun next =>
      next.On data ∧ next.offset = buffer.offset + count ∧ next.offset ≤ data.length := by
  obtain ⟨base, length⟩ := reads
  unfold skip
  split
  · rfl
  · exact ⟨⟨base, length⟩, rfl, by simp only; omega⟩

end Buffer

end OtsCmap
