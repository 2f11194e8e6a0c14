import OtsCmap.Buffer

/-! The parsed `cmap` table and the parts of the font file its parser reads and writes. The
records of `cmap.h`, `os2.h` and `maxp.h` are not in the source; they follow the spec's data model,
with the fields `cmap.cc` uses. -/
namespace OtsCmap

def kMaxCMAPGroups : Nat := 0xFFFF

def kFormat0ArraySize : Nat := 256

def kUnicodeUpperLimit : Nat := 0x10FFFF

structure Subtable314Range where
  startRange : Nat
  endRange : Nat
  idDelta : Int
  idRangeOffset : Nat
  idRangeOffsetOffset : Nat
  deriving DecidableEq, Repr

structure OpenTypeCMAPSubtableRange where
  startRange : Nat
  endRange : Nat
  startGlyphId : Nat
  deriving DecidableEq, Repr

structure OpenTypeCMAP where
  subtable304 : Option Slice := none
  subtable314 : Option Slice := none
  subtable31012 : List OpenTypeCMAPSubtableRange := []
  subtable31013 : List OpenTypeCMAPSubtableRange := []
  subtable100 : List Nat := []
  subtable0514 : Option Slice := none
  deriving DecidableEq, Repr

structure OpenTypeCMAP.Inside (input : List UInt8) (cmap : OpenTypeCMAP) : Prop where
  subtable304 : ∀ data ∈ cmap.subtable304, data.Inside input
  subtable314 : ∀ data ∈ cmap.subtable314, data.Inside input
  subtable0514 : ∀ data ∈ cmap.subtable0514, data.Inside input
  subtable100 : cmap.subtable100 = [] ∨ cmap.subtable100.length = kFormat0ArraySize

structure OpenTypeOS2 where
  firstCharIndex : Nat
  lastCharIndex : Nat
  deriving DecidableEq, Repr

structure OpenTypeMAXP where
  numGlyphs : Nat
  deriving DecidableEq, Repr

structure OpenTypeFile where
  cmap : OpenTypeCMAP := {}
  os2 : Option OpenTypeOS2
  maxp : Option OpenTypeMAXP
  deriving DecidableEq, Repr

structure CMAPSubtableHeader where
  platform : Nat
  encoding : Nat
  offset : Nat
  format : Nat := 0
  length : Nat := 0
  deriving DecidableEq, Repr

def readArray {α : Type} (read : Buffer → Except Stop (α × Buffer)) :
    Buffer → Nat → Except Stop (List α × Buffer)
  | buffer, 0 => pure ([], buffer)
  | buffer, count + 1 => do
    let (value, buffer) ← read buffer
    let (rest, buffer) ← readArray read buffer count
    pure (value :: rest, buffer)

theorem readArray_eq_ok {α : Type} {read : Buffer → Except Stop (α × Buffer)} {buffer next : Buffer}
    {count : Nat} {values : List α} :
    readArray read buffer count = .ok (values, next) ↔
      match count, values with
      | 0, values => values = [] ∧ next = buffer
      | count + 1, values => ∃ value rest middle, values = value :: rest ∧
          read buffer = .ok (value, middle) ∧ readArray read middle count = .ok (rest, next) := by
  cases count with
  | zero => simp [readArray, pure, Except.pure, eq_comm]
  | succ count =>
    simp only [readArray, bind_eq_ok, pure, Except.pure, Except.ok.injEq, Prod.mk.injEq]
    constructor
    · rintro ⟨⟨value, middle⟩, first, ⟨rest, last⟩, tail, rfl, rfl⟩
      exact ⟨value, rest, middle, rfl, first, tail⟩
    · rintro ⟨value, rest, middle, rfl, first, tail⟩
      exact ⟨(value, middle), first, (rest, next), tail, rfl, rfl⟩

theorem readArray_safe {α : Type} (read : Buffer → Except Stop (α × Buffer))
    (Invariant : Buffer → Prop) (Good : α → Prop)
    (step : ∀ buffer, Invariant buffer → Safe (read buffer) fun (value, next) => Good value ∧ Invariant next) :
    ∀ count buffer, Invariant buffer → Safe (readArray read buffer count) fun (values, next) =>
      values.length = count ∧ (∀ value ∈ values, Good value) ∧ Invariant next
  | 0, buffer, holds => by simpa [readArray] using holds
  | count + 1, buffer, holds => by
    simp only [readArray, Safe.bind_iff]
    refine (step buffer holds).mono fun ⟨value, middle⟩ ⟨good, holds⟩ => ?_
    refine (readArray_safe read Invariant Good step count middle holds).mono fun ⟨rest, next⟩ ⟨length, goods, holds⟩ => ?_
    simp_all

end OtsCmap
