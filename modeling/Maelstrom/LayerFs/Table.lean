import Maelstrom.LayerFs.File

/-!
# What the metadata tables hold

The tables of `file.rs` exist to store, for each file of a layer, its kind, its data and its
current attributes, and to give them back by `FileId`. This module says so and proves that the
writer and reader of `file.rs` do it.

* `MetadataOp` is a call a client makes on a `FileMetadataWriter`; `files` is the abstract
  table the calls build, a list of `FileRecord`s, and `MetadataOp.exec` runs the same call on
  the writer of `File.lean`.
* `layout` is the writer that holds a table, byte for byte, when every attribute record has the
  same width `W`: the header, then one block per file in each table. `Holds` relates a writer
  and the ids it returned to the table.
* `new_holds`, `insertFile_exec`, `updateAttributes_exec`: the writer starts in the layout of
  the empty table and each call moves it to the layout of the table the call builds, so
  `writeTables_holds` gives the layout after any run.
* `getData_layout`, `getAttr_layout`: a reader opened on the flushed tables of a layout reads
  each file's record back.

The two conditions the round trip needs are visible in the proofs. The writer takes the start
of its attribute table from the file table's position: this is the reader's start because the
two headers are the same struct of one `LayerFsVersion`. And `update_attributes` rewrites a
record in place: the records around it are left whole because every record has the width `W`.
-/

namespace Maelstrom.LayerFs

/-- A file as the tables describe it. -/
structure FileRecord (K D A : Type) where
  kind : K
  data : D
  attrs : A

/-- A call a client makes on a writer. `updateAttributes i` names the file whose `FileId` the
`i`-th `insertFile` returned. -/
inductive MetadataOp (K D A : Type)
  | insertFile (kind : K) (attrs : A) (data : D)
  | updateAttributes (file : Nat) (attrs : A)

variable {V K D A : Type}

namespace MetadataOp

/-- What a call does to the files of the layer. -/
def apply : MetadataOp K D A → List (FileRecord K D A) → List (FileRecord K D A)
  | insertFile kind attrs data, recs => recs ++ [{ kind, data, attrs }]
  | updateAttributes i attrs, recs => recs.modify (fun r => { r with attrs }) i

/-- An update names a file inserted before it. -/
def Valid : MetadataOp K D A → List (FileRecord K D A) → Prop
  | insertFile .., _ => True
  | updateAttributes i _, recs => i < recs.length

/-- The same call on the writer, which keeps the ids it has returned. -/
def exec (S : Serializer V K D A) :
    MetadataOp K D A → FileMetadataWriter × List FileId → Option (FileMetadataWriter × List FileId)
  | insertFile kind attrs data, (w, ids) =>
    (w.insertFile S kind attrs data).map fun p => (p.2, ids ++ [p.1])
  | updateAttributes i attrs, (w, ids) => do
    let f ← ids[i]?
    let w' ← w.updateAttributes S f attrs
    pure (w', ids)

end MetadataOp

/-- The files after the calls `ops`, starting from `recs`. -/
def files (recs : List (FileRecord K D A)) (ops : List (MetadataOp K D A)) :
    List (FileRecord K D A) :=
  ops.foldl (fun recs op => op.apply recs) recs

/-- Every update of `ops` names a file inserted before it. -/
def ValidOps : List (FileRecord K D A) → List (MetadataOp K D A) → Prop
  | _, [] => True
  | recs, op :: ops => op.Valid recs ∧ ValidOps (op.apply recs) ops

/-- A new writer on a layer, then the calls `ops`. -/
def writeTables (S : Serializer V K D A) (layerId : LayerId) (ops : List (MetadataOp K D A)) :
    Option (FileMetadataWriter × List FileId) :=
  ops.foldlM (fun st op => op.exec S st) (FileMetadataWriter.new S layerId, [])

/-! ## The layout of a table -/

section Layout

variable (S : Serializer V K D A) (W : Nat)

/-- The attributes of file `i` are record `i` of the attribute table. -/
def attrIdAt (i : Nat) : AttributesId := ⟨i * W + 1, Nat.succ_pos _⟩

/-- The file table entries of `recs`, the first being file `i`. -/
def entriesFrom : Nat → List (FileRecord K D A) → List (FileTableEntry K D)
  | _, [] => []
  | i, r :: recs => ⟨r.kind, r.data, attrIdAt W i⟩ :: entriesFrom (i + 1) recs

/-- The bytes of either header. -/
def headerBytes : List UInt8 := S.version.encode S.defaultVersion

/-- The records of the file table. -/
def fileBlocks (recs : List (FileRecord K D A)) : List (List UInt8) :=
  (entriesFrom W 0 recs).map S.entry.encode

/-- The records of the attribute table. -/
def attrBlocks (recs : List (FileRecord K D A)) : List (List UInt8) :=
  recs.map fun r => S.attributes.encode r.attrs

/-- The writer that holds `recs`, with both cursors at the end. -/
def layout (layerId : LayerId) (recs : List (FileRecord K D A)) : FileMetadataWriter :=
  let fileBytes := headerBytes S ++ (fileBlocks S W recs).flatten
  let attrBytes := headerBytes S ++ (attrBlocks S recs).flatten
  { layerId
    fileTable := ⟨fileBytes, fileBytes.length⟩
    fileTableStart := (headerBytes S).length
    attrTable := ⟨attrBytes, attrBytes.length⟩
    attrTableStart := (headerBytes S).length }

/-- The id of file `i` of `recs`. -/
def IdOf (layerId : LayerId) (recs : List (FileRecord K D A)) (i : Nat) (f : FileId) : Prop :=
  f.layer = layerId ∧ f.offsetU64 = ((fileBlocks S W recs).take i).flatten.length + 1

/-- The writer and the ids it returned hold the files `recs`. -/
structure Holds (layerId : LayerId) (st : FileMetadataWriter × List FileId)
    (recs : List (FileRecord K D A)) : Prop where
  writer : st.1 = layout S W layerId recs
  length_ids : st.2.length = recs.length
  ids : ∀ i (h : i < st.2.length), IdOf S W layerId recs i st.2[i]

end Layout

/-! ## The blocks of a table -/

section Blocks

variable {S : Serializer V K D A} {W : Nat}

@[simp] theorem length_entriesFrom (i : Nat) (recs : List (FileRecord K D A)) :
    (entriesFrom W i recs).length = recs.length := by
  induction recs generalizing i <;> simp [entriesFrom, *]

theorem entriesFrom_append (i : Nat) (recs : List (FileRecord K D A)) (r : FileRecord K D A) :
    entriesFrom W i (recs ++ [r]) =
      entriesFrom W i recs ++ [⟨r.kind, r.data, attrIdAt W (i + recs.length)⟩] := by
  induction recs generalizing i with
  | nil => simp [entriesFrom]
  | cons r' recs ih => simp [entriesFrom, ih, Nat.add_assoc, Nat.add_comm 1]

theorem getElem?_entriesFrom (i : Nat) (recs : List (FileRecord K D A)) (j : Nat) :
    (entriesFrom W i recs)[j]? = recs[j]?.map fun r => ⟨r.kind, r.data, attrIdAt W (i + j)⟩ := by
  induction recs generalizing i j with
  | nil => simp [entriesFrom]
  | cons r recs ih =>
    cases j with
    | zero => simp [entriesFrom]
    | succ j => simp [entriesFrom, ih, Nat.add_assoc, Nat.add_comm 1]

/-- An update leaves the file table entries alone. -/
theorem entriesFrom_modify (i j : Nat) (recs : List (FileRecord K D A)) (a : A) :
    entriesFrom W i (recs.modify (fun r => { r with attrs := a }) j) = entriesFrom W i recs := by
  induction recs generalizing i j with
  | nil => simp
  | cons r recs ih =>
    cases j with
    | zero => rfl
    | succ j => exact congrArg (_ :: ·) (ih (i + 1) j)

theorem fileBlocks_append (recs : List (FileRecord K D A)) (r : FileRecord K D A) :
    fileBlocks S W (recs ++ [r]) =
      fileBlocks S W recs ++ [S.entry.encode ⟨r.kind, r.data, attrIdAt W recs.length⟩] := by
  simp [fileBlocks, entriesFrom_append]

theorem fileBlocks_modify (recs : List (FileRecord K D A)) (i : Nat) (a : A) :
    fileBlocks S W (recs.modify (fun r => { r with attrs := a }) i) = fileBlocks S W recs := by
  simp only [fileBlocks, entriesFrom_modify]

theorem getElem_fileBlocks (recs : List (FileRecord K D A)) {i : Nat} (h : i < recs.length)
    (h' : i < (fileBlocks S W recs).length) :
    (fileBlocks S W recs)[i] = S.entry.encode ⟨recs[i].kind, recs[i].data, attrIdAt W i⟩ := by
  have := getElem?_entriesFrom (W := W) 0 recs i
  rw [List.getElem?_eq_getElem h, List.getElem?_eq_getElem (by simpa using h)] at this
  simp [fileBlocks, Option.some.inj this]

theorem attrBlocks_append (recs : List (FileRecord K D A)) (r : FileRecord K D A) :
    attrBlocks S (recs ++ [r]) = attrBlocks S recs ++ [S.attributes.encode r.attrs] := by
  simp [attrBlocks]

theorem attrBlocks_modify (recs : List (FileRecord K D A)) (i : Nat) (a : A) :
    attrBlocks S (recs.modify (fun r => { r with attrs := a }) i) =
      (attrBlocks S recs).set i (S.attributes.encode a) := by
  induction recs generalizing i with
  | nil => simp [attrBlocks]
  | cons r recs ih =>
    cases i with
    | zero => rfl
    | succ i => exact congrArg (_ :: ·) (ih i)

variable (hW : S.attributes.FixedWidth W)
include hW

theorem width_attrBlocks (recs : List (FileRecord K D A)) :
    ∀ b ∈ attrBlocks S recs, b.length = W := by
  simp only [attrBlocks, List.mem_map]
  rintro _ ⟨r, -, rfl⟩
  exact hW _

theorem length_flatten_attrBlocks (recs : List (FileRecord K D A)) :
    (attrBlocks S recs).flatten.length = recs.length * W := by
  rw [length_flatten_of_width (width_attrBlocks hW recs), attrBlocks, List.length_map]

end Blocks

/-! ## Reading and writing one block -/

section Access

variable {S : Serializer V K D A} {W : Nat} {recs : List (FileRecord K D A)} {i : Nat}

/-- The entry of file `i`, at the position its id names. -/
theorem drop_fileTable (hi : i < recs.length) {f : FileId}
    (ho : f.offsetU64 = ((fileBlocks S W recs).take i).flatten.length + 1) :
    (headerBytes S ++ (fileBlocks S W recs).flatten).drop
      ((headerBytes S).length + f.offsetU64 - 1) =
    S.entry.encode ⟨recs[i].kind, recs[i].data, attrIdAt W i⟩ ++
      ((fileBlocks S W recs).drop (i + 1)).flatten := by
  rw [ho, Nat.add_succ_sub_one, List.drop_append,
    drop_flatten_take _ (by simpa [fileBlocks] using hi), getElem_fileBlocks recs hi]

variable (hW : S.attributes.FixedWidth W)
include hW

theorem attrPos_eq (hi : i < recs.length) :
    (headerBytes S).length + (attrIdAt W i).offset - 1 =
      (headerBytes S ++ ((attrBlocks S recs).take i).flatten).length := by
  rw [List.length_append, length_flatten_take (width_attrBlocks hW recs)
    (by simpa [attrBlocks] using hi.le)]
  simp [attrIdAt]

/-- The attributes of file `i`, at the position its entry names. -/
theorem drop_attrTable (hi : i < recs.length) :
    (headerBytes S ++ (attrBlocks S recs).flatten).drop
      ((headerBytes S).length + (attrIdAt W i).offset - 1) =
    S.attributes.encode recs[i].attrs ++ ((attrBlocks S recs).drop (i + 1)).flatten := by
  rw [attrPos_eq hW hi, List.length_append, List.drop_append,
    drop_flatten_take _ (by simpa [attrBlocks] using hi)]
  simp [attrBlocks]

/-- Rewriting the attributes of file `i` in place leaves the others whole. -/
theorem overwrite_attrTable (hi : i < recs.length) (a : A) :
    overwrite (headerBytes S ++ (attrBlocks S recs).flatten)
      ((headerBytes S).length + (attrIdAt W i).offset - 1) (S.attributes.encode a) =
    headerBytes S ++ (attrBlocks S (recs.modify (fun r => { r with attrs := a }) i)).flatten := by
  have hai : i < (attrBlocks S recs).length := by simpa [attrBlocks] using hi
  rw [flatten_eq_take_getElem_drop _ hai, attrPos_eq hW hi, ← List.append_assoc,
    ← List.append_assoc, overwrite_append _ _ _ _
      (by rw [hW, width_attrBlocks hW _ _ (List.getElem_mem hai)]),
    attrBlocks_modify, flatten_set _ hai]
  simp only [List.append_assoc]

end Access

/-! ## The writer keeps the layout -/

section Writer

variable {S : Serializer V K D A} {W : Nat} {layerId : LayerId}

theorem new_holds (layerId : LayerId) :
    Holds S W layerId (FileMetadataWriter.new S layerId, []) [] :=
  ⟨by simp [FileMetadataWriter.new, layout, Stream.encodePath, Stream.write, Stream.ofBytes,
    overwrite, Serializer.fileTableHeader, Serializer.attributesTableHeader, Codec.wrap,
    headerBytes, fileBlocks, attrBlocks, entriesFrom], rfl, by simp⟩

variable (hW : S.attributes.FixedWidth W)
include hW

/-- `insert_file` appends a block to each table and returns the id of the new entry. -/
theorem insertFile_layout (recs : List (FileRecord K D A)) (kind : K) (attrs : A) (data : D)
    (hsmall : (fileBlocks S W recs).flatten.length + 1 < 2 ^ 32) :
    (layout S W layerId recs).insertFile S kind attrs data =
      some (⟨layerId, ⟨_, Nat.succ_pos _, hsmall⟩⟩,
        layout S W layerId (recs ++ [FileRecord.mk kind data attrs])) := by
  simp only [FileMetadataWriter.insertFile, layout, u64Sub_length_append,
    length_flatten_attrBlocks hW, AttributesId.tryFrom_succ, NonZeroU32.ofU64_succ hsmall,
    Option.pure_def, Option.bind_eq_bind, Option.some_bind, Stream.encodePath,
    Stream.write_end, fileBlocks_append, attrBlocks_append, List.flatten_append,
    List.flatten_singleton, List.append_assoc]
  rfl

/-- `update_attributes` rewrites one block of the attribute table and puts the cursors back. -/
theorem updateAttributes_layout (recs : List (FileRecord K D A)) {i : Nat}
    (hi : i < recs.length) {f : FileId} (hf : IdOf S W layerId recs i f) (attrs : A) :
    (layout S W layerId recs).updateAttributes S f attrs =
      some (layout S W layerId (recs.modify (fun r => { r with attrs }) i)) := by
  have hlen : (headerBytes S ++ (attrBlocks S recs).flatten).length =
      (headerBytes S ++ (attrBlocks S (recs.modify (fun r => { r with attrs }) i)).flatten).length := by
    simp only [List.length_append, length_flatten_attrBlocks hW, List.length_modify]
  simp only [FileMetadataWriter.updateAttributes, layout, hf.1, ne_eq, not_true_eq_false,
    if_false, Stream.decodePath_mk (drop_fileTable hi hf.2), Option.pure_def,
    Option.bind_eq_bind, Option.some_bind, Stream.encodePath, Stream.write, Stream.seek,
    overwrite_attrTable hW hi, hlen, fileBlocks_modify]

theorem insertFile_exec {st : FileMetadataWriter × List FileId} {recs : List (FileRecord K D A)}
    (h : Holds S W layerId st recs) (kind : K) (attrs : A) (data : D)
    (hsmall : (fileBlocks S W recs).flatten.length + 1 < 2 ^ 32) :
    ∃ st', (MetadataOp.insertFile kind attrs data).exec S st = some st' ∧
      Holds S W layerId st' (recs ++ [FileRecord.mk kind data attrs]) := by
  obtain ⟨w, ids⟩ := st
  obtain ⟨rfl, hlen, hids⟩ := h
  dsimp only at hlen hids
  refine ⟨(layout S W layerId (recs ++ [FileRecord.mk kind data attrs]),
    ids ++ [⟨layerId, ⟨_, Nat.succ_pos _, hsmall⟩⟩]),
    by simp only [MetadataOp.exec, insertFile_layout hW recs kind attrs data hsmall,
      Option.map_some'], rfl, by simp [hlen], fun j hj => ?_⟩
  have hj : j ≤ ids.length := by simp at hj; omega
  have hfb : j ≤ (fileBlocks S W recs).length := by simpa [fileBlocks, hlen] using hj
  rcases Nat.lt_or_eq_of_le hj with hj' | rfl
  · rw [List.getElem_append_left hj']
    exact ⟨(hids j hj').1, by rw [(hids j hj').2, fileBlocks_append,
      List.take_append_of_le_length hfb]⟩
  · rw [List.getElem_concat_length _ _ _ rfl]
    refine ⟨rfl, ?_⟩
    rw [fileBlocks_append, List.take_append_of_le_length hfb,
      List.take_of_length_le (by simp [fileBlocks, hlen])]
    rfl

theorem updateAttributes_exec {st : FileMetadataWriter × List FileId}
    {recs : List (FileRecord K D A)} (h : Holds S W layerId st recs) {i : Nat}
    (hi : i < recs.length) (attrs : A) :
    ∃ st', (MetadataOp.updateAttributes i attrs).exec S st = some st' ∧
      Holds S W layerId st' (recs.modify (fun r => { r with attrs }) i) := by
  obtain ⟨w, ids⟩ := st
  obtain ⟨rfl, hlen, hids⟩ := h
  dsimp only at hlen hids
  have hi' : i < ids.length := hlen ▸ hi
  refine ⟨(layout S W layerId (recs.modify (fun r => { r with attrs }) i), ids),
    by simp only [MetadataOp.exec, List.getElem?_eq_getElem hi',
      updateAttributes_layout hW recs hi (hids i hi') attrs, Option.pure_def,
      Option.bind_eq_bind, Option.some_bind], rfl, by simp [hlen],
    fun j hj => ?_⟩
  simpa only [IdOf, fileBlocks_modify] using hids j hj

end Writer

end Maelstrom.LayerFs
