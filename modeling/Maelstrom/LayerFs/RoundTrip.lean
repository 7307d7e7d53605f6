import Maelstrom.LayerFs.Table

/-!
# The metadata tables round-trip

A writer that inserts files and updates their attributes, then flushes, leaves two tables
from which a reader gets back each file's kind and data as inserted, and the attributes of the
last update of the file, or those it was inserted with (`metadata_tables_round_trip`).

* `writeTables_holds`: a run of calls on a new writer ends in the layout of the table the calls
  build, provided every update names an inserted file and the file table stays below
  `2 ^ 32 - 1` bytes, so that no `FileId` overflows its `u32`.
* `Reads`: a reader of the tables of a layout, with its cursors anywhere. Opening the flushed
  tables gives one (`new_reads`), and `getData_reads` and `getAttr_reads` read a file's record
  back and leave a reader of the same tables.
* `insertCalls` and `lastUpdate` restate the table in the words of the calls themselves
  (`getElem?_files`).
* `writeTables_ids_increasing`: the ids a run returns have increasing offsets, so no two files
  of a layer share a `FileId`.
-/

namespace Maelstrom.LayerFs

variable {V K D A : Type}

/-! ## Runs of the writer -/

section Runs

variable {S : Serializer V K D A} {W : Nat} {layerId : LayerId}

theorem payload_le_apply (op : MetadataOp K D A) (recs : List (FileRecord K D A)) :
    (fileBlocks S W recs).flatten.length ≤ (fileBlocks S W (op.apply recs)).flatten.length := by
  cases op with
  | insertFile kind attrs data => simp [MetadataOp.apply, fileBlocks_append]
  | updateAttributes i attrs => simp [MetadataOp.apply, fileBlocks_modify]

theorem payload_le_files (ops : List (MetadataOp K D A)) (recs : List (FileRecord K D A)) :
    (fileBlocks S W recs).flatten.length ≤ (fileBlocks S W (files recs ops)).flatten.length := by
  induction ops generalizing recs with
  | nil => exact le_rfl
  | cons op ops ih => exact (payload_le_apply op recs).trans (ih _)

variable (hW : S.attributes.FixedWidth W)
include hW

theorem exec_holds {st : FileMetadataWriter × List FileId} {recs : List (FileRecord K D A)}
    (h : Holds S W layerId st recs) {op : MetadataOp K D A} (hv : op.Valid recs)
    (hsmall : (fileBlocks S W (op.apply recs)).flatten.length < 2 ^ 32 - 1) :
    ∃ st', op.exec S st = some st' ∧ Holds S W layerId st' (op.apply recs) := by
  cases op with
  | insertFile kind attrs data =>
    refine insertFile_exec hW h kind attrs data ?_
    simp only [MetadataOp.apply, fileBlocks_append, List.flatten_append,
      List.length_append] at hsmall
    omega
  | updateAttributes i attrs => exact updateAttributes_exec hW h hv attrs

theorem foldlM_exec_holds : ∀ (ops : List (MetadataOp K D A))
    {st : FileMetadataWriter × List FileId} {recs : List (FileRecord K D A)},
    Holds S W layerId st recs → ValidOps recs ops →
    (fileBlocks S W (files recs ops)).flatten.length < 2 ^ 32 - 1 →
    ∃ st', ops.foldlM (fun st op => op.exec S st) st = some st' ∧
      Holds S W layerId st' (files recs ops)
  | [], st, _, h, _, _ => ⟨st, rfl, h⟩
  | op :: ops, _, recs, h, ⟨hv, hvs⟩, hsmall => by
    obtain ⟨st', hst', h'⟩ := exec_holds hW h hv ((payload_le_files ops _).trans_lt hsmall)
    obtain ⟨st'', hst'', h''⟩ := foldlM_exec_holds ops h' hvs hsmall
    exact ⟨st'', by simp [List.foldlM_cons, hst', hst''], h''⟩

/-- **A run of the writer ends in the layout of the table it builds.** -/
theorem writeTables_holds (ops : List (MetadataOp K D A)) (hv : ValidOps [] ops)
    (hsmall : (fileBlocks S W (files [] ops)).flatten.length < 2 ^ 32 - 1) :
    ∃ st, writeTables S layerId ops = some st ∧ Holds S W layerId st (files [] ops) :=
  foldlM_exec_holds hW ops (new_holds layerId) hv hsmall

end Runs

/-! ## The reader -/

/-- A reader of the flushed tables of `layout S W layerId recs`, its cursors anywhere. -/
structure Reads (S : Serializer V K D A) (W : Nat) (layerId : LayerId) (r : FileMetadataReader)
    (recs : List (FileRecord K D A)) : Prop where
  fileTable : r.fileTable.bytes = headerBytes S ++ (fileBlocks S W recs).flatten
  fileTableStart : r.fileTableStart = (headerBytes S).length
  attrTable : r.attrTable.bytes = headerBytes S ++ (attrBlocks S recs).flatten
  attrTableStart : r.attrTableStart = (headerBytes S).length
  layerId : r.layerId = layerId

section Reader

variable {S : Serializer V K D A} {W : Nat} {layerId : LayerId} {recs : List (FileRecord K D A)}

/-- Opening the flushed tables finds the end of both headers where the writer put it. -/
theorem new_reads (layerId : LayerId) (recs : List (FileRecord K D A)) :
    ∃ r, FileMetadataReader.new S layerId (layout S W layerId recs).flush.1
      (layout S W layerId recs).flush.2 = some r ∧ Reads S W layerId r recs := by
  have hf : (headerBytes S ++ (fileBlocks S W recs).flatten).drop 0 =
      S.fileTableHeader.encode ⟨S.defaultVersion⟩ ++ (fileBlocks S W recs).flatten := rfl
  have ha : (headerBytes S ++ (attrBlocks S recs).flatten).drop 0 =
      S.attributesTableHeader.encode ⟨S.defaultVersion⟩ ++ (attrBlocks S recs).flatten := rfl
  simp only [FileMetadataReader.new, FileMetadataWriter.flush, layout, Stream.ofBytes,
    Stream.decodePath_mk hf, Stream.decodePath_mk ha, Option.pure_def, Option.bind_eq_bind,
    Option.some_bind]
  exact ⟨_, rfl, rfl, by simp [headerBytes, Serializer.fileTableHeader, Codec.wrap], rfl,
    by simp [headerBytes, Serializer.attributesTableHeader, Codec.wrap], rfl⟩

theorem getData_reads {r : FileMetadataReader} (hr : Reads S W layerId r recs) {i : Nat}
    (hi : i < recs.length) {f : FileId} (hf : IdOf S W layerId recs i f) :
    ∃ r', r.getData S f = some ((recs[i].kind, recs[i].data), r') ∧ Reads S W layerId r' recs := by
  have h : r.fileTable.bytes.drop (r.fileTableStart + f.offsetU64 - 1) =
      S.entry.encode ⟨recs[i].kind, recs[i].data, attrIdAt W i⟩ ++
        ((fileBlocks S W recs).drop (i + 1)).flatten := by
    rw [hr.fileTable, hr.fileTableStart]
    exact drop_fileTable hi hf.2
  simp only [FileMetadataReader.getData, hf.1, hr.layerId, ne_eq, not_true_eq_false, if_false,
    Stream.decodePath_seek h, Option.pure_def, Option.bind_eq_bind, Option.some_bind]
  exact ⟨_, rfl, hr.fileTable, hr.fileTableStart, hr.attrTable, hr.attrTableStart, rfl⟩

theorem getAttr_reads (hW : S.attributes.FixedWidth W) {r : FileMetadataReader}
    (hr : Reads S W layerId r recs) {i : Nat} (hi : i < recs.length) {f : FileId}
    (hf : IdOf S W layerId recs i f) :
    ∃ r', r.getAttr S f = some ((recs[i].kind, recs[i].attrs), r') ∧ Reads S W layerId r' recs := by
  have h : r.fileTable.bytes.drop (r.fileTableStart + f.offsetU64 - 1) =
      S.entry.encode ⟨recs[i].kind, recs[i].data, attrIdAt W i⟩ ++
        ((fileBlocks S W recs).drop (i + 1)).flatten := by
    rw [hr.fileTable, hr.fileTableStart]
    exact drop_fileTable hi hf.2
  have h' : r.attrTable.bytes.drop (r.attrTableStart + (attrIdAt W i).offset - 1) =
      S.attributes.encode recs[i].attrs ++ ((attrBlocks S recs).drop (i + 1)).flatten := by
    rw [hr.attrTable, hr.attrTableStart]
    exact drop_attrTable hW hi
  simp only [FileMetadataReader.getAttr, hf.1, hr.layerId, ne_eq, not_true_eq_false, if_false,
    Stream.decodePath_seek h, Stream.decodePath_seek h', Option.pure_def, Option.bind_eq_bind,
    Option.some_bind]
  exact ⟨_, rfl, hr.fileTable, hr.fileTableStart, hr.attrTable, hr.attrTableStart, rfl⟩

end Reader

/-! ## The table in the words of the calls -/

/-- The arguments of the `insert_file` calls of `ops`, in order: file `i` is the `i`-th. -/
def insertCalls : List (MetadataOp K D A) → List (K × A × D)
  | [] => []
  | .insertFile kind attrs data :: ops => (kind, attrs, data) :: insertCalls ops
  | .updateAttributes .. :: ops => insertCalls ops

/-- The attributes of the last `update_attributes` on file `i` in `ops`, if there is one. -/
def lastUpdate (ops : List (MetadataOp K D A)) (i : Nat) : Option A :=
  ops.foldl (fun last op => match op with
    | .updateAttributes j attrs => if j = i then some attrs else last
    | .insertFile .. => last) none

section Words

theorem files_append (recs : List (FileRecord K D A)) (ops : List (MetadataOp K D A))
    (op : MetadataOp K D A) : files recs (ops ++ [op]) = op.apply (files recs ops) := by
  simp [files]

theorem insertCalls_append (ops : List (MetadataOp K D A)) (op : MetadataOp K D A) :
    insertCalls (ops ++ [op]) = insertCalls ops ++ insertCalls [op] := by
  induction ops with
  | nil => simp [insertCalls]
  | cons o ops ih => cases o <;> simp [insertCalls, ih]

theorem lastUpdate_append_insertFile (ops : List (MetadataOp K D A)) (kind : K) (attrs : A)
    (data : D) (i : Nat) : lastUpdate (ops ++ [.insertFile kind attrs data]) i = lastUpdate ops i := by
  simp [lastUpdate]

theorem lastUpdate_append_updateAttributes (ops : List (MetadataOp K D A)) (j : Nat) (attrs : A)
    (i : Nat) :
    lastUpdate (ops ++ [.updateAttributes j attrs]) i =
      if j = i then some attrs else lastUpdate ops i := by
  simp [lastUpdate]

theorem validOps_append (recs : List (FileRecord K D A)) (ops : List (MetadataOp K D A))
    (op : MetadataOp K D A) :
    ValidOps recs (ops ++ [op]) ↔ ValidOps recs ops ∧ op.Valid (files recs ops) := by
  induction ops generalizing recs with
  | nil => simp [ValidOps, files]
  | cons o ops ih => simp [ValidOps, ih, files, and_assoc]

theorem length_files (ops : List (MetadataOp K D A)) :
    (files [] ops).length = (insertCalls ops).length := by
  induction ops using List.reverseRecOn with
  | nil => rfl
  | append_singleton ops op ih =>
    cases op <;> simp [files_append, insertCalls_append, MetadataOp.apply, insertCalls, ih]

/-- No update of a valid run names a file past the end of the table. -/
theorem lastUpdate_eq_none {ops : List (MetadataOp K D A)} (hv : ValidOps [] ops) {i : Nat}
    (hi : (files [] ops).length ≤ i) : lastUpdate ops i = none := by
  induction ops using List.reverseRecOn with
  | nil => rfl
  | append_singleton ops op ih =>
    obtain ⟨hv', hop⟩ := (validOps_append _ _ _).1 hv
    rw [files_append] at hi
    cases op with
    | insertFile kind attrs data =>
      simp only [MetadataOp.apply, List.length_append] at hi
      rw [lastUpdate_append_insertFile, ih hv' (by omega)]
    | updateAttributes j attrs =>
      simp only [MetadataOp.apply, List.length_modify] at hi
      simp only [MetadataOp.Valid] at hop
      rw [lastUpdate_append_updateAttributes, if_neg (by omega), ih hv' hi]

/-- **File `i` has the kind and data it was inserted with, and the attributes of its last
update, or those it was inserted with.** -/
theorem getElem?_files {ops : List (MetadataOp K D A)} (hv : ValidOps [] ops) (i : Nat) :
    (files [] ops)[i]? =
      (insertCalls ops)[i]?.map fun c => ⟨c.1, c.2.2, (lastUpdate ops i).getD c.2.1⟩ := by
  induction ops using List.reverseRecOn generalizing i with
  | nil => simp [files, insertCalls]
  | append_singleton ops op ih =>
    obtain ⟨hv', -⟩ := (validOps_append _ _ _).1 hv
    have hlen := length_files ops
    rw [files_append, insertCalls_append]
    cases op with
    | insertFile kind attrs data =>
      simp only [MetadataOp.apply, insertCalls, lastUpdate_append_insertFile]
      rcases Nat.lt_trichotomy i (files [] ops).length with hi | rfl | hi
      · rw [List.getElem?_append_left hi, List.getElem?_append_left (hlen ▸ hi), ih hv']
      · rw [lastUpdate_eq_none hv' le_rfl]
        simp [hlen]
      · rw [List.getElem?_eq_none (by simp; omega), List.getElem?_eq_none (by simp; omega)]
        rfl
    | updateAttributes j attrs =>
      simp only [MetadataOp.apply, insertCalls, List.append_nil, List.getElem?_modify, ih hv',
        lastUpdate_append_updateAttributes]
      by_cases hj : j = i <;> cases (insertCalls ops)[i]? <;> simp [hj]

end Words

/-! ## The round trip -/

/-- **The metadata tables round-trip.** After any run of `insert_file` and `update_attributes`
calls on a new writer, each update naming a file inserted before it and the file table staying
below `2 ^ 32 - 1` bytes, the run returns one `FileId` per inserted file, and a reader opened on
the flushed tables gives, for each of them, the kind and data it was inserted with and the
attributes of its last update, or those it was inserted with. The serializer is any whose
attribute records all have one width. -/
theorem metadata_tables_round_trip (S : Serializer V K D A) {W : Nat}
    (hW : S.attributes.FixedWidth W) (layerId : LayerId) (ops : List (MetadataOp K D A))
    (hv : ValidOps [] ops) (hsmall : (fileBlocks S W (files [] ops)).flatten.length < 2 ^ 32 - 1) :
    ∃ w ids, writeTables S layerId ops = some (w, ids) ∧ ids.length = (insertCalls ops).length ∧
      ∃ r, FileMetadataReader.new S layerId w.flush.1 w.flush.2 = some r ∧
        ∀ i (hi : i < ids.length), ∃ kind attrs data,
          (insertCalls ops)[i]? = some (kind, attrs, data) ∧
          (r.getData S ids[i]).map Prod.fst = some (kind, data) ∧
          (r.getAttr S ids[i]).map Prod.fst = some (kind, (lastUpdate ops i).getD attrs) := by
  obtain ⟨⟨w, ids⟩, hrun, hh⟩ := foldlM_exec_holds hW ops (new_holds layerId) hv hsmall
  obtain ⟨rfl, hlen, hids⟩ := hh
  obtain ⟨r, hr, hreads⟩ := new_reads (S := S) (W := W) layerId (files [] ops)
  refine ⟨_, ids, hrun, by rw [hlen, length_files], r, hr, fun i hi => ?_⟩
  have hi' : i < (files [] ops).length := hlen ▸ hi
  obtain ⟨_, hd, -⟩ := getData_reads hreads hi' (hids i hi)
  obtain ⟨_, ha, -⟩ := getAttr_reads hW hreads hi' (hids i hi)
  have hspec := getElem?_files hv i
  rw [List.getElem?_eq_getElem hi'] at hspec
  obtain ⟨⟨kind, attrs, data⟩, hc, heq⟩ := Option.map_eq_some'.1 hspec.symm
  refine ⟨kind, attrs, data, hc, ?_, ?_⟩ <;> simp [hd, ha, ← heq]

/-! ## Distinct ids -/

theorem fileBlocks_ne_nil {S : Serializer V K D A} {W : Nat} (hne : ∀ e, S.entry.encode e ≠ [])
    (recs : List (FileRecord K D A)) : ∀ b ∈ fileBlocks S W recs, b ≠ [] := by
  intro b hb
  obtain ⟨e, -, rfl⟩ := List.mem_map.1 hb
  exact hne e

/-- **No two files of a layer share a `FileId`.** After any run of `insert_file` and
`update_attributes` calls as in the round trip, where no file table entry is written as no
bytes, the ids the run returns are all on the writer's layer, with offsets increasing in the
order of the `insert_file` calls. -/
theorem writeTables_ids_increasing (S : Serializer V K D A) {W : Nat}
    (hW : S.attributes.FixedWidth W) (hne : ∀ e, S.entry.encode e ≠ []) (layerId : LayerId)
    (ops : List (MetadataOp K D A)) (hv : ValidOps [] ops)
    (hsmall : (fileBlocks S W (files [] ops)).flatten.length < 2 ^ 32 - 1) :
    ∃ w ids, writeTables S layerId ops = some (w, ids) ∧ (∀ f ∈ ids, f.layer = layerId) ∧
      ids.Pairwise fun f g => f.offsetU64 < g.offsetU64 := by
  obtain ⟨⟨w, ids⟩, hrun, ⟨-, hlen, hids⟩⟩ := foldlM_exec_holds hW ops (new_holds layerId) hv hsmall
  refine ⟨w, ids, hrun, fun f hf => ?_, List.pairwise_iff_getElem.2 fun i j hi hj hij => ?_⟩
  · obtain ⟨i, hi, rfl⟩ := List.getElem_of_mem hf
    exact (hids i hi).1
  · rw [(hids i hi).2, (hids j hj).2]
    have hj' : j ≤ (fileBlocks S W (files [] ops)).length := by
      simp only [fileBlocks, List.length_map, length_entriesFrom]
      exact hlen ▸ hj.le
    have := length_flatten_take_lt (fileBlocks_ne_nil hne _) hij hj'
    omega

/-! ## An instance

A serializer with one-byte booleans for kinds and attributes and the attribute id in unary,
and a run that inserts two files and updates the first. -/

/-- `n` in unary: `n` ones, then a zero. -/
def unaryEncode (n : Nat) : List UInt8 := List.replicate n 1 ++ [0]

/-- The number written in unary at the front of `bs`, and the bytes it took. -/
def unaryDecode : List UInt8 → Option (Nat × Nat)
  | [] => none
  | b :: bs => if b = 0 then some (0, 1) else (unaryDecode bs).map fun p => (p.1 + 1, p.2 + 1)

theorem length_unaryEncode (n : Nat) : (unaryEncode n).length = n + 1 := by
  simp [unaryEncode]

theorem unaryDecode_encode (n : Nat) (rest : List UInt8) :
    unaryDecode (unaryEncode n ++ rest) = some (n, n + 1) := by
  induction n with
  | zero => rfl
  | succ n ih => simpa [unaryEncode, unaryDecode, List.replicate_succ] using ih

/-- Booleans as one byte. -/
def boolCodec : Codec Bool where
  encode b := [if b then 1 else 0]
  decode
    | [] => none
    | x :: _ => some (x = 1, 1)
  decode_encode b _ := by cases b <;> rfl

/-- A file table entry: the kind as one byte, the attribute id in unary. -/
def entryCodec : Codec (FileTableEntry Bool Unit) where
  encode e := [if e.kind then 1 else 0] ++ unaryEncode e.attrId.offset
  decode
    | [] => none
    | x :: bs => match unaryDecode bs with
      | some (n, k) => if h : 0 < n then some (⟨x = 1, (), ⟨n, h⟩⟩, k + 1) else none
      | none => none
  decode_encode e rest := by
    obtain ⟨kind, ⟨⟩, ⟨n, hn⟩⟩ := e
    cases kind <;> simp [unaryDecode_encode, hn, length_unaryEncode, Nat.add_comm]

/-- The serializer of the instance; the version is written as nothing. -/
def boolSerializer : Serializer Unit Bool Unit Bool where
  version := ⟨fun _ => [], fun _ => some ((), 0), fun _ _ => rfl⟩
  entry := entryCodec
  attributes := boolCodec
  defaultVersion := ()

/-- Insert two files, then update the attributes of the first. -/
def twoFiles : List (MetadataOp Bool Unit Bool) :=
  [.insertFile true false (), .insertFile false true (), .updateAttributes 0 true]

theorem boolSerializer_fixedWidth : boolSerializer.attributes.FixedWidth 1 := fun _ => rfl

theorem validOps_twoFiles : ValidOps [] twoFiles := by
  simp [twoFiles, ValidOps, MetadataOp.Valid, MetadataOp.apply]

theorem length_fileBlocks_twoFiles :
    (fileBlocks boolSerializer 1 (files [] twoFiles)).flatten.length < 2 ^ 32 - 1 := by
  simp [fileBlocks, files, twoFiles, MetadataOp.apply, entriesFrom, boolSerializer, entryCodec,
    unaryEncode, attrIdAt]

theorem metadata_tables_round_trip_twoFiles :
    boolSerializer.attributes.FixedWidth 1 ∧ ValidOps [] twoFiles ∧
    (fileBlocks boolSerializer 1 (files [] twoFiles)).flatten.length < 2 ^ 32 - 1 ∧
    ∃ w ids, writeTables boolSerializer ⟨0⟩ twoFiles = some (w, ids) ∧
      ids.length = (insertCalls twoFiles).length ∧
      ∃ r, FileMetadataReader.new boolSerializer ⟨0⟩ w.flush.1 w.flush.2 = some r ∧
        ∀ i (hi : i < ids.length), ∃ kind attrs data,
          (insertCalls twoFiles)[i]? = some (kind, attrs, data) ∧
          (r.getData boolSerializer ids[i]).map Prod.fst = some (kind, data) ∧
          (r.getAttr boolSerializer ids[i]).map Prod.fst =
            some (kind, (lastUpdate twoFiles i).getD attrs) :=
  ⟨boolSerializer_fixedWidth, validOps_twoFiles, length_fileBlocks_twoFiles,
    metadata_tables_round_trip boolSerializer boolSerializer_fixedWidth ⟨0⟩ twoFiles
      validOps_twoFiles length_fileBlocks_twoFiles⟩

theorem writeTables_ids_increasing_twoFiles :
    boolSerializer.attributes.FixedWidth 1 ∧ (∀ e, boolSerializer.entry.encode e ≠ []) ∧
    ValidOps [] twoFiles ∧
    (fileBlocks boolSerializer 1 (files [] twoFiles)).flatten.length < 2 ^ 32 - 1 ∧
    ∃ w ids, writeTables boolSerializer ⟨0⟩ twoFiles = some (w, ids) ∧
      (∀ f ∈ ids, f.layer = ⟨0⟩) ∧ ids.Pairwise fun f g => f.offsetU64 < g.offsetU64 :=
  have hne : ∀ e, boolSerializer.entry.encode e ≠ [] := fun _ => List.cons_ne_nil _ _
  ⟨boolSerializer_fixedWidth, hne, validOps_twoFiles, length_fileBlocks_twoFiles,
    writeTables_ids_increasing boolSerializer boolSerializer_fixedWidth hne ⟨0⟩ twoFiles
      validOps_twoFiles length_fileBlocks_twoFiles⟩

theorem writeTables_holds_twoFiles :
    boolSerializer.attributes.FixedWidth 1 ∧ ValidOps [] twoFiles ∧
    (fileBlocks boolSerializer 1 (files [] twoFiles)).flatten.length < 2 ^ 32 - 1 ∧
    ∃ st, writeTables boolSerializer ⟨0⟩ twoFiles = some st ∧
      Holds boolSerializer 1 ⟨0⟩ st (files [] twoFiles) :=
  ⟨boolSerializer_fixedWidth, validOps_twoFiles, length_fileBlocks_twoFiles,
    writeTables_holds boolSerializer_fixedWidth twoFiles validOps_twoFiles
      length_fileBlocks_twoFiles⟩

end Maelstrom.LayerFs
