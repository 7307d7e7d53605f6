import Maelstrom.LayerFs.Stream

/-!
# The file and attribute tables of a layer

`maelstrom-layer-fs/src/file.rs`: a layer's files are described by two tables. The file table
holds one `FileTableEntry` per file (its kind, its data, and the position of its attributes);
the attribute table holds one `FileAttributes` record per file, which may be rewritten in place.
Both begin with a header, and every position in them is counted from the end of the header. A
`FileId` is one more than the position of the file's entry, an `AttributesId` one more than the
position of its attributes, so neither is zero.

The types of a file's kind, data and attributes (`K`, `D`, `A`) and of the format version (`V`)
are parameters, and so is the `Serializer` that writes them. Every function is translated
line by line from the source, with `none` where the source panics (a failed `unwrap` or
`assert_eq!`) or returns an error.
-/

namespace Maelstrom.LayerFs

/-- `LayerId`. -/
structure LayerId where
  val : UInt32
  deriving DecidableEq

/-- `NonZeroU32`. -/
structure NonZeroU32 where
  get : Nat
  pos : 0 < get
  lt : get < 2 ^ 32

/-- `NonZeroU32::new(u32::try_from(n).unwrap()).unwrap()` on a `u64`: `none` where either
`unwrap` panics. -/
def NonZeroU32.ofU64 (n : Nat) : Option NonZeroU32 :=
  if h : 0 < n ∧ n < 2 ^ 32 then some ⟨n, h.1, h.2⟩ else none

theorem NonZeroU32.ofU64_succ {n : Nat} (h : n + 1 < 2 ^ 32) :
    NonZeroU32.ofU64 (n + 1) = some ⟨n + 1, Nat.succ_pos n, h⟩ := by
  rw [NonZeroU32.ofU64, dif_pos ⟨Nat.succ_pos n, h⟩]

/-- `FileId`: the layer, and one more than the position of the file's entry in its file
table. -/
structure FileId where
  layer : LayerId
  offset : NonZeroU32

/-- `FileId::offset_u64`. -/
def FileId.offsetU64 (id : FileId) : Nat := id.offset.get

/-- `AttributesId`: one more than the position of a file's attributes in the attribute table
(a `NonZeroU64`). -/
structure AttributesId where
  offset : Nat
  pos : 0 < offset

/-- `AttributesId::try_from(n).unwrap()`: `none` where the `unwrap` panics. -/
def AttributesId.tryFrom (n : Nat) : Option AttributesId :=
  if h : 0 < n then some ⟨n, h⟩ else none

theorem AttributesId.tryFrom_succ (n : Nat) :
    AttributesId.tryFrom (n + 1) = some ⟨n + 1, Nat.succ_pos n⟩ := by
  simp [AttributesId.tryFrom]

/-- `u64` subtraction, which panics on underflow. -/
def u64Sub (a b : Nat) : Option Nat := if b ≤ a then some (a - b) else none

theorem u64Sub_length_append (xs ys : List UInt8) :
    u64Sub (xs ++ ys).length xs.length = some ys.length := by
  simp [u64Sub]

/-- `FileTableEntry`. -/
structure FileTableEntry (K D : Type) where
  kind : K
  data : D
  attrId : AttributesId

/-- `FileTableHeader`. -/
structure FileTableHeader (V : Type) where
  version : V

/-- `AttributesTableHeader`. -/
structure AttributesTableHeader (V : Type) where
  version : V

/-- The serializer as the tables use it: a codec for each type they hold, and the default
`LayerFsVersion` the headers are written with. -/
structure Serializer (V K D A : Type) where
  version : Codec V
  entry : Codec (FileTableEntry K D)
  attributes : Codec A
  defaultVersion : V

variable {V K D A : Type} (S : Serializer V K D A)

/-- The codec of `FileTableHeader`, a struct of one `LayerFsVersion`. -/
def Serializer.fileTableHeader : Codec (FileTableHeader V) :=
  S.version.wrap FileTableHeader.mk FileTableHeader.version fun _ => rfl

/-- The codec of `AttributesTableHeader`, a struct of one `LayerFsVersion`. -/
def Serializer.attributesTableHeader : Codec (AttributesTableHeader V) :=
  S.version.wrap AttributesTableHeader.mk AttributesTableHeader.version fun _ => rfl

/-! ## The writer -/

/-- `FileMetadataWriter`. -/
structure FileMetadataWriter where
  layerId : LayerId
  fileTable : Stream
  fileTableStart : Nat
  attrTable : Stream
  attrTableStart : Nat

namespace FileMetadataWriter

/-- `FileMetadataWriter::new`. The start of the attribute table is read from the position of
the *file* table (line 135). -/
def new (layerId : LayerId) : FileMetadataWriter :=
  let fileTable := (Stream.ofBytes []).encodePath S.fileTableHeader ⟨S.defaultVersion⟩
  let fileTableStart := fileTable.pos
  let attrTable := (Stream.ofBytes []).encodePath S.attributesTableHeader ⟨S.defaultVersion⟩
  let attrTableStart := fileTable.pos
  { layerId, fileTable, fileTableStart, attrTable, attrTableStart }

/-- `FileMetadataWriter::insert_file`. -/
def insertFile (w : FileMetadataWriter) (kind : K) (attrs : A) (data : D) :
    Option (FileId × FileMetadataWriter) := do
  let attrId ← AttributesId.tryFrom ((← u64Sub w.attrTable.pos w.attrTableStart) + 1)
  let attrTable := w.attrTable.encodePath S.attributes attrs
  let entry : FileTableEntry K D := { kind, data, attrId }
  let offset ← NonZeroU32.ofU64 ((← u64Sub w.fileTable.pos w.fileTableStart) + 1)
  let fileId : FileId := ⟨w.layerId, offset⟩
  let fileTable := w.fileTable.encodePath S.entry entry
  pure (fileId, { w with attrTable, fileTable })

/-- `FileMetadataWriter::update_attributes`: find the file's entry, overwrite its attributes,
and put both cursors back. -/
def updateAttributes (w : FileMetadataWriter) (id : FileId) (attrs : A) :
    Option FileMetadataWriter := do
  let oldFileTablePos := w.fileTable.pos
  let oldAttrTablePos := w.attrTable.pos
  if id.layer ≠ w.layerId then none
  let (entry, fileTable) ←
    (w.fileTable.seek (w.fileTableStart + id.offsetU64 - 1)).decodePath S.entry
  let attrTable :=
    (w.attrTable.seek (w.attrTableStart + entry.attrId.offset - 1)).encodePath S.attributes attrs
  pure { w with fileTable := fileTable.seek oldFileTablePos,
                attrTable := attrTable.seek oldAttrTablePos }

/-- `FileMetadataWriter::flush`: the file table and the attribute table as a reader opening
them finds them. -/
def flush (w : FileMetadataWriter) : List UInt8 × List UInt8 :=
  (w.fileTable.bytes, w.attrTable.bytes)

end FileMetadataWriter

/-! ## The reader -/

/-- `FileMetadataReader`. -/
structure FileMetadataReader where
  fileTable : Stream
  fileTableStart : Nat
  attrTable : Stream
  attrTableStart : Nat
  layerId : LayerId

namespace FileMetadataReader

/-- `FileMetadataReader::new`, on the bytes of the two tables of the layer. -/
def new (layerId : LayerId) (fileTableBytes attrTableBytes : List UInt8) :
    Option FileMetadataReader := do
  let (_, fileTable) ← (Stream.ofBytes fileTableBytes).decodePath S.fileTableHeader
  let fileTableStart := fileTable.pos
  let (_, attrTable) ← (Stream.ofBytes attrTableBytes).decodePath S.attributesTableHeader
  let attrTableStart := attrTable.pos
  pure { fileTable, fileTableStart, attrTable, attrTableStart, layerId }

/-- `FileMetadataReader::get_attr`. -/
def getAttr (r : FileMetadataReader) (id : FileId) : Option ((K × A) × FileMetadataReader) := do
  if id.layer ≠ r.layerId then none
  let (entry, fileTable) ←
    (r.fileTable.seek (r.fileTableStart + id.offsetU64 - 1)).decodePath S.entry
  let (attrs, attrTable) ←
    (r.attrTable.seek (r.attrTableStart + entry.attrId.offset - 1)).decodePath S.attributes
  pure ((entry.kind, attrs), { r with fileTable, attrTable })

/-- `FileMetadataReader::get_data`. -/
def getData (r : FileMetadataReader) (id : FileId) : Option ((K × D) × FileMetadataReader) := do
  if id.layer ≠ r.layerId then none
  let (entry, fileTable) ←
    (r.fileTable.seek (r.fileTableStart + id.offsetU64 - 1)).decodePath S.entry
  pure ((entry.kind, entry.data), { r with fileTable })

end FileMetadataReader

end Maelstrom.LayerFs
