import OtsCmap.Buffer

/-! The output stream the serialiser writes to. Its code is not part of the sources; the model
follows the interface the spec gives it: writes of bytes and of big-endian integers, padding,
`Tell`, `Seek`, and the save, reset and restore of the running checksum. A write is a copy over a
buffer of fixed size, so consecutive writes are one write of the bytes joined. -/
namespace OtsCmap

def toBigEndian : Nat → Nat → List UInt8
  | 0, _ => []
  | width + 1, value => toBigEndian width (value / 256) ++ [UInt8.ofNat value]

@[simp] theorem length_toBigEndian : ∀ width value, (toBigEndian width value).length = width
  | 0, _ => rfl
  | width + 1, value => by simp [toBigEndian, length_toBigEndian width]

@[simp] theorem bigEndian_toBigEndian : ∀ width value,
    bigEndian (toBigEndian width value) = value % 256 ^ width
  | 0, _ => by simp [toBigEndian, bigEndian, Nat.mod_one]
  | width + 1, value => by
    have ih := bigEndian_toBigEndian width (value / 256)
    have byte : (UInt8.ofNat value).toNat = value % 256 := rfl
    simp only [bigEndian, toBigEndian, List.foldl_append, List.foldl_cons, List.foldl_nil] at ih ⊢
    rw [ih, byte, pow_succ', Nat.mod_mul]
    omega

structure OTSStream where
  bytes : List UInt8
  position : Nat
  checksum : List UInt8
  deriving DecidableEq, Repr

namespace OTSStream

def put (out : OTSStream) (data : List UInt8) : OTSStream where
  bytes := out.bytes.take out.position ++ data ++ out.bytes.drop (out.position + data.length)
  position := out.position + data.length
  checksum := out.checksum ++ data

def write (out : OTSStream) (data : List UInt8) : Except Stop OTSStream :=
  if out.position + data.length ≤ out.bytes.length then .ok (out.put data) else .error .failure

def writeU16 (out : OTSStream) (value : Nat) : Except Stop OTSStream := out.write (toBigEndian 2 value)

def writeU32 (out : OTSStream) (value : Nat) : Except Stop OTSStream := out.write (toBigEndian 4 value)

def pad (out : OTSStream) (count : Nat) : Except Stop OTSStream := out.write (List.replicate count 0)

def tell (out : OTSStream) : Nat := out.position

def seek (out : OTSStream) (position : Nat) : Except Stop OTSStream :=
  if position ≤ out.bytes.length then .ok { out with position := position } else .error .failure

def saveChecksumState (out : OTSStream) : List UInt8 := out.checksum

def resetChecksum (out : OTSStream) : OTSStream := { out with checksum := [] }

def restoreChecksum (out : OTSStream) (saved : List UInt8) : OTSStream := { out with checksum := saved }

variable {out out' : OTSStream} {first second data : List UInt8}

@[simp] theorem put_position : (out.put data).position = out.position + data.length := rfl

@[simp] theorem put_checksum : (out.put data).checksum = out.checksum ++ data := rfl

theorem length_put (fits : out.position + data.length ≤ out.bytes.length) :
    (out.put data).bytes.length = out.bytes.length := by
  simp [put]
  omega

@[simp] theorem put_nil : out.put [] = out := by
  simp [put]

theorem put_put (fits : out.position + first.length ≤ out.bytes.length) :
    (out.put first).put second = out.put (first ++ second) := by
  obtain ⟨bytes, position, checksum⟩ := out
  have taken : (bytes.take position ++ first).length = position + first.length := by
    simp only at fits; simp; omega
  simp only [put, put_position, OTSStream.mk.injEq, List.append_assoc, Nat.add_assoc,
    List.length_append, and_true]
  simp only [← List.append_assoc]
  rw [List.take_left' taken, List.drop_append_eq_append_drop, List.drop_eq_nil_of_le (by omega),
    taken]
  simp [List.drop_drop, Nat.add_comm]

theorem write_bind_write :
    (out.write first >>= fun out => out.write second) = out.write (first ++ second) := by
  unfold write
  by_cases fits : out.position + first.length ≤ out.bytes.length
  · simp only [fits, if_true, bind, Except.bind, put_position, length_put fits, put_put fits,
      List.length_append, Nat.add_assoc]
  · simp only [fits, if_false, List.length_append, bind, Except.bind]
    rw [if_neg (by omega)]

theorem write_bind_write_bind {α : Type} {next : OTSStream → Except Stop α} :
    (out.write first >>= fun out => out.write second >>= next) =
      out.write (first ++ second) >>= next := by
  rw [← write_bind_write, bind_assoc]

theorem write_bind_write_bind_with {α : Type} {next : OTSStream → OTSStream → Except Stop α} :
    (out.write first >>= fun middle => middle.write second >>= next middle) =
      out.write (first ++ second) >>= next (out.put first) := by
  rw [← write_bind_write, bind_assoc]
  unfold write
  by_cases fits : out.position + first.length ≤ out.bytes.length
  · simp only [fits, if_true, bind, Except.bind]
  · simp only [fits, if_false, bind, Except.bind]

theorem put_put_over {before middle middle' after : List UInt8} (length : middle'.length = middle.length)
    (fits : out.position + (before ++ middle ++ after).length ≤ out.bytes.length) :
    ({ out.put (before ++ middle ++ after) with position := out.position + before.length }.put
      middle').bytes = (out.put (before ++ middle' ++ after)).bytes := by
  have same : (before ++ middle' ++ after).length = (before ++ middle ++ after).length := by
    simp [length]
  have taken : (out.bytes.take out.position ++ before).length = out.position + before.length := by
    simp only [List.length_append, List.length_take] at fits ⊢; omega
  simp only [put, same]
  generalize out.bytes.drop (out.position + (before ++ middle ++ after).length) = rest
  have split : out.bytes.take out.position ++ (before ++ middle ++ after) ++ rest =
      (out.bytes.take out.position ++ before) ++ (middle ++ (after ++ rest)) := by simp
  rw [split, List.take_left' taken, ← List.drop_drop, ← taken, List.drop_left, length, List.drop_left]
  simp

theorem write_seek_write {before pad records after : List UInt8} {back : Nat}
    (length : records.length = pad.length) (at_pad : back = out.position + before.length) :
    (out.write (before ++ pad ++ after) >>= fun table =>
      table.resetChecksum.seek back >>= fun back =>
        back.write records >>= fun written =>
          written.seek table.position >>= fun done =>
            pure (done.restoreChecksum table.saveChecksumState)) =
      (fun table => { table with checksum := out.checksum ++ (before ++ pad ++ after) }) <$>
        out.write (before ++ records ++ after) := by
  subst at_pad
  have same : (before ++ records ++ after).length = (before ++ pad ++ after).length := by
    simp [length]
  unfold write
  rw [same]
  by_cases fits : out.position + (before ++ pad ++ after).length ≤ out.bytes.length
  · have room : out.position + before.length + records.length ≤ out.bytes.length := by
      simp only [List.length_append] at fits; omega
    have room' : out.position + before.length + records.length ≤
        (out.put (before ++ pad ++ after)).bytes.length := by
      rw [length_put fits]; exact room
    simp only [fits, if_true, ok_bind, resetChecksum, seek, length_put fits, put_position,
      show out.position + before.length ≤ out.bytes.length by omega, room]
    rw [if_pos (by rw [length_put room', length_put fits]; exact fits)]
    show Except.ok _ = Except.ok _
    congr 1
    simp only [restoreChecksum, saveChecksumState, put_checksum, mk.injEq, put_position, same, and_true]
    exact put_put_over length fits
  · simp only [fits, if_false]
    rfl

theorem field_put (fits : out.position + data.length ≤ out.bytes.length) {offset width : Nat}
    (within : offset + width ≤ data.length) :
    field (out.put data).bytes (out.position + offset) width = bigEndian ((data.drop offset).take width) := by
  have taken : (out.bytes.take out.position).length = out.position := by simp; omega
  rw [field, put, List.append_assoc, List.drop_append_eq_append_drop, taken,
    List.drop_eq_nil_of_le (by omega), List.nil_append, Nat.add_sub_cancel_left,
    List.drop_append_eq_append_drop, List.take_append_of_le_length (by simp; omega)]

theorem drop_put (fits : out.position + data.length ≤ out.bytes.length) :
    (out.put data).bytes.drop out.position = data ++ out.bytes.drop (out.position + data.length) := by
  have taken : (out.bytes.take out.position).length = out.position := by simp; omega
  simp only [put, List.append_assoc, List.drop_left' taken]

theorem write_eq_ok : out.write data = .ok out' ↔
    out.position + data.length ≤ out.bytes.length ∧ out' = out.put data := by
  unfold write; split <;> simp_all [eq_comm]

end OTSStream

end OtsCmap
