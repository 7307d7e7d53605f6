import Mathlib.Data.List.Basic
import Mathlib.Algebra.Group.Nat.Basic

/-!
# Byte streams and the serializer of the layer tables

The metadata tables of a layer (`maelstrom-layer-fs/src/file.rs`) are files read and written
through a `BufferedStream`, a cursor over the file's bytes that can seek anywhere, and every
record in them is written by `encode_path` and read back by `decode_path`. Neither the stream
nor the serializer is in this slice of the source: both are modelled by what the table code
relies on, and the serializer stays a parameter of every result.

* `Codec` is a serde format for one type. Records are self-delimiting: `decode` reads a value,
  and the number of bytes it took, from the front of any byte string (`Codec.decode_encode`).
  `Codec.FixedWidth` says that every value encodes to the same number of bytes.
* `Stream` is a file with its cursor: `Stream.write` overwrites at the cursor and moves past
  what it wrote, and `Stream.decodePath` reads a record at the cursor.

The list facts the table proofs need close the module: reading one block out of a
concatenation (`drop_flatten_take`) and overwriting one block with another of the same length
(`overwrite_append`, `flatten_set`).
-/

namespace Maelstrom.LayerFs

/-- A serde format for the values of `α`, as `encode_path` and `decode_path` use it. -/
structure Codec (α : Type) where
  /-- The bytes `encode_path` writes for a value. -/
  encode : α → List UInt8
  /-- `decode_path` on a byte string: the value at its front and the number of bytes it took. -/
  decode : List UInt8 → Option (α × Nat)
  /-- A record is read back from the front of whatever follows it. -/
  decode_encode : ∀ a rest, decode (encode a ++ rest) = some (a, (encode a).length)

namespace Codec

variable {α β : Type}

/-- The codec of a struct with one field, from the codec of the field: like bincode, the
serializer writes a struct as its fields in order, with no name or tag. -/
def wrap (c : Codec α) (mk : α → β) (get : β → α) (mk_get : ∀ b, mk (get b) = b) : Codec β where
  encode b := c.encode (get b)
  decode bs := (c.decode bs).map fun p => (mk p.1, p.2)
  decode_encode b rest := by simp [c.decode_encode, mk_get]

/-- Every value encodes to `W` bytes. -/
def FixedWidth (c : Codec α) (W : Nat) : Prop := ∀ a, (c.encode a).length = W

end Codec

/-- A `BufferedStream<File>` over a file opened for reading and writing: the file's bytes, as
`flush` leaves them, and the cursor. -/
structure Stream where
  bytes : List UInt8
  pos : Nat

/-- Writing `b` over `bs` from position `p`; a gap past the end reads as zeros, as in a file. -/
def overwrite (bs : List UInt8) (p : Nat) (b : List UInt8) : List UInt8 :=
  bs.take p ++ List.replicate (p - bs.length) 0 ++ b ++ bs.drop (p + b.length)

namespace Stream

/-- A file as `open_file` and `create_file_read_write` give it, with the cursor at the start. -/
def ofBytes (bytes : List UInt8) : Stream := ⟨bytes, 0⟩

/-- `seek(SeekFrom::Start(p))`. -/
def seek (s : Stream) (p : Nat) : Stream := { s with pos := p }

/-- `write_all`: overwrite at the cursor and move past what was written. -/
def write (s : Stream) (b : List UInt8) : Stream := ⟨overwrite s.bytes s.pos b, s.pos + b.length⟩

/-- `encode_path(stream, a)`. -/
def encodePath {α : Type} (s : Stream) (c : Codec α) (a : α) : Stream := s.write (c.encode a)

/-- `decode_path(stream)`: the record at the cursor, and the stream moved past it. -/
def decodePath {α : Type} (s : Stream) (c : Codec α) : Option (α × Stream) :=
  (c.decode (s.bytes.drop s.pos)).map fun p => (p.1, s.seek (s.pos + p.2))

@[simp] theorem seek_bytes (s : Stream) (p : Nat) : (s.seek p).bytes = s.bytes := rfl

@[simp] theorem seek_pos (s : Stream) (p : Nat) : (s.seek p).pos = p := rfl

theorem overwrite_length_self (bs b : List UInt8) : overwrite bs bs.length b = bs ++ b := by
  simp [overwrite]

/-- Writing at the end of a file appends. -/
theorem write_of_pos_eq {s : Stream} (h : s.pos = s.bytes.length) (b : List UInt8) :
    s.write b = ⟨s.bytes ++ b, (s.bytes ++ b).length⟩ := by
  simp [write, h, overwrite_length_self]

/-- Writing at the end of a file appends. -/
theorem write_end (bs b : List UInt8) : write ⟨bs, bs.length⟩ b = ⟨bs ++ b, (bs ++ b).length⟩ :=
  write_of_pos_eq rfl b

/-- A record is read back where it was written. -/
theorem decodePath_mk {α : Type} {bs rest : List UInt8} {p : Nat} {c : Codec α} {a : α}
    (h : bs.drop p = c.encode a ++ rest) :
    decodePath ⟨bs, p⟩ c = some (a, ⟨bs, p + (c.encode a).length⟩) := by
  simp [decodePath, seek, h, c.decode_encode]

/-- A record is read back where it was written, wherever the cursor was. -/
theorem decodePath_seek {α : Type} {s : Stream} {rest : List UInt8} {p : Nat} {c : Codec α}
    {a : α} (h : s.bytes.drop p = c.encode a ++ rest) :
    (s.seek p).decodePath c = some (a, s.seek (p + (c.encode a).length)) := by
  simp [decodePath, seek, h, c.decode_encode]

end Stream

/-! ## Blocks of a concatenation -/

theorem overwrite_append (xs a ys b : List UInt8) (h : b.length = a.length) :
    overwrite (xs ++ a ++ ys) xs.length b = xs ++ b ++ ys := by
  have hd : (xs ++ a ++ ys).drop (xs.length + b.length) = ys := by
    rw [h, List.append_assoc, ← List.drop_drop, List.drop_left, List.drop_left]
  simp [overwrite, hd, h]

variable {α : Type}

/-- Block `i` of a concatenation, with the blocks around it. -/
theorem flatten_eq_take_getElem_drop (L : List (List α)) {i : Nat} (hi : i < L.length) :
    L.flatten = (L.take i).flatten ++ L[i] ++ (L.drop (i + 1)).flatten := by
  have h := List.take_append_drop i L
  rw [List.drop_eq_getElem_cons hi] at h
  conv_lhs => rw [← h]
  rw [List.flatten_append, List.flatten_cons, List.append_assoc]

theorem drop_flatten_take (L : List (List α)) {i : Nat} (hi : i < L.length) :
    L.flatten.drop (L.take i).flatten.length = L[i] ++ (L.drop (i + 1)).flatten := by
  rw [flatten_eq_take_getElem_drop L hi, List.append_assoc, List.drop_left]

theorem flatten_set (L : List (List α)) {i : Nat} (hi : i < L.length) (b : List α) :
    (L.set i b).flatten = (L.take i).flatten ++ b ++ (L.drop (i + 1)).flatten := by
  rw [List.set_eq_take_append_cons_drop, if_pos hi]
  simp [List.append_assoc]

/-- The first `i` blocks of `W` bytes each take `i * W` bytes. -/
theorem length_flatten_take {L : List (List α)} {W : Nat} (hL : ∀ b ∈ L, b.length = W)
    {i : Nat} (hi : i ≤ L.length) : (L.take i).flatten.length = i * W := by
  induction L generalizing i with
  | nil => simp_all
  | cons b L ih =>
    cases i with
    | zero => simp
    | succ i =>
      simp only [List.take_succ_cons, List.flatten_cons, List.length_append,
        hL b (List.mem_cons_self b L), ih (fun b hb => hL b (List.mem_cons_of_mem _ hb))
        (by simpa using hi)]
      rw [Nat.succ_mul, Nat.add_comm]

/-- Where no block is empty, more of the first blocks take more bytes. -/
theorem length_flatten_take_lt {L : List (List α)} (hL : ∀ b ∈ L, b ≠ []) {i j : Nat}
    (hij : i < j) (hj : j ≤ L.length) : (L.take i).flatten.length < (L.take j).flatten.length := by
  induction L generalizing i j with
  | nil => simp at hj; omega
  | cons b L ih =>
    obtain ⟨j, rfl⟩ : ∃ j', j = j' + 1 := ⟨j - 1, by omega⟩
    have hb : 0 < b.length := List.length_pos.2 (hL b (List.mem_cons_self b L))
    cases i with
    | zero => simp only [List.take_zero, List.flatten_nil, List.length_nil, List.take_succ_cons,
        List.flatten_cons, List.length_append]; omega
    | succ i =>
      have := ih (fun b hb => hL b (List.mem_cons_of_mem _ hb)) (i := i) (j := j) (by omega)
        (by simpa using hj)
      simp only [List.take_succ_cons, List.flatten_cons, List.length_append]
      omega

theorem length_flatten_of_width {L : List (List α)} {W : Nat} (hL : ∀ b ∈ L, b.length = W) :
    L.flatten.length = L.length * W := by
  simpa using length_flatten_take hL (le_refl L.length)

end Maelstrom.LayerFs
