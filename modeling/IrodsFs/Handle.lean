import IrodsFs.Basic

/-!
# File handles and their pipelines

`NewFileHandle` gives every open file a reader and a writer chosen by the open mode. The
pipelines belong to the common library and are modelled from the spec (its writer pipeline has
three layers), with only the state the handlers can observe.
-/
namespace IrodsFs

/-- Modelled from the spec: the reader of a handle. The prefetching reader remembers whether it
has seen an error. -/
inductive Reader
  | nilReader
  | syncReader
  | asyncCacheThroughReader (failed : Bool)
deriving DecidableEq, Repr

def iRODSIOBlockSize : Nat := 16 * 1024 * 1024

/-- Modelled from the spec: the state of the buffered writer (`SyncBufferedWriter`), the offset
its buffer starts at and the bytes it holds. -/
structure WriteBuffer where
  currentOffset : Nat
  buffer : List UInt8
deriving DecidableEq, Repr

def WriteBuffer.writes (b : WriteBuffer) : List (Nat × List UInt8) :=
  if b.buffer = [] then [] else [(b.currentOffset, b.buffer)]

/-- Modelled from the spec: the writer of a handle. The asynchronous writer holds the writes it
accepted and has not handed on yet, oldest first, over the buffered writer, and remembers whether
a backend write failed. -/
inductive Writer
  | nilWriter
  | syncWriter
  | asyncWriter (pending : List (Nat × List UInt8)) (buffered : WriteBuffer) (failed : Bool)
deriving DecidableEq, Repr

/-- Modelled from the spec: `WriteAt` of the buffered writer, with the backend writes it makes.
A write that does not extend the buffer's trailing edge first sends what the buffer holds; a
buffer that reaches the block size is sent. -/
def bufferedWriteAt (b : WriteBuffer) (offset : Nat) (data : List UInt8) :
    List (Nat × List UInt8) × WriteBuffer :=
  if data = [] then ([], b)
  else
    let flushed : List (Nat × List UInt8) × WriteBuffer :=
      if b.currentOffset + b.buffer.length = offset then ([], b) else (b.writes, ⟨offset, []⟩)
    let filled : WriteBuffer := ⟨flushed.2.currentOffset, flushed.2.buffer ++ data⟩
    if iRODSIOBlockSize ≤ filled.buffer.length then
      (flushed.1 ++ [(filled.currentOffset, filled.buffer)],
        ⟨filled.currentOffset + filled.buffer.length, []⟩)
    else (flushed.1, filled)

@[simp] theorem bufferedWriteAt_nil (b : WriteBuffer) (offset : Nat) :
    bufferedWriteAt b offset [] = ([], b) := rfl

theorem bufferedWriteAt_continue {b : WriteBuffer} {offset : Nat} {data : List UInt8}
    (hdata : data ≠ []) (hcont : b.currentOffset + b.buffer.length = offset) :
    (bufferedWriteAt b offset data).1 ++ (bufferedWriteAt b offset data).2.writes =
      [(b.currentOffset, b.buffer ++ data)] := by
  simp only [bufferedWriteAt, if_neg hdata, if_pos hcont]
  split_ifs <;> simp [WriteBuffer.writes, hdata]

theorem bufferedWriteAt_jump {b : WriteBuffer} {offset : Nat} {data : List UInt8}
    (hdata : data ≠ []) (hjump : b.currentOffset + b.buffer.length ≠ offset) :
    (bufferedWriteAt b offset data).1 ++ (bufferedWriteAt b offset data).2.writes =
      b.writes ++ [(offset, data)] := by
  simp only [bufferedWriteAt, if_neg hdata, if_neg hjump]
  split_ifs <;> simp [WriteBuffer.writes, hdata]

/-- Modelled from the spec: the backend writes of the asynchronous writer's `Flush`: the queued
writes through the buffered writer, then the buffered writer's own `Flush`. -/
def drainWrites (b : WriteBuffer) : List (Nat × List UInt8) → List (Nat × List UInt8)
  | [] => b.writes
  | (offset, data) :: rest =>
      (bufferedWriteAt b offset data).1 ++ drainWrites (bufferedWriteAt b offset data).2 rest

/-- A `FileHandle` as the handlers read it: the local path of its `File`, the iRODS path and open
mode of its backend handle, and its reader and writer, which `Release` sets to nil. The backend
handle's ID is the key the handle is stored under. -/
structure FileHandle where
  file : String
  path : String
  openMode : FileOpenMode
  reader : Option Reader
  writer : Option Writer
deriving DecidableEq, Repr

/-- `NewFileHandle`, which fails only when the prefetching reader cannot be built
(`readerCreated` is that step's outcome). -/
def newFileHandle (file path : String) (openMode : FileOpenMode) (readerCreated : Bool) :
    Option FileHandle :=
  if openMode.IsReadOnly then
    if readerCreated then
      some ⟨file, path, openMode, some (.asyncCacheThroughReader false), some .nilWriter⟩
    else none
  else if openMode.IsWriteOnly then
    some ⟨file, path, openMode, some .nilReader, some (.asyncWriter [] ⟨0, []⟩ false)⟩
  else some ⟨file, path, openMode, some .syncReader, some .syncWriter⟩

theorem newFileHandle_eq_some {file path : String} {openMode : FileOpenMode}
    {readerCreated : Bool} {handle : FileHandle}
    (h : newFileHandle file path openMode readerCreated = some handle) :
    handle.file = file ∧ handle.path = path ∧ handle.openMode = openMode ∧
      (openMode.IsWriteOnly = true → handle.writer = some (.asyncWriter [] ⟨0, []⟩ false)) := by
  unfold newFileHandle at h
  split_ifs at h with hro hcreated hwo <;> cases h <;> simp_all [FileOpenMode.IsWriteOnly]
  cases openMode <;> simp_all [FileOpenMode.IsReadOnly]

/-- Modelled from the spec: an object's bytes after writing `data` at `offset`; a gap past the
end reads as zeros. -/
def writeBytes (content : List UInt8) (offset : Nat) (data : List UInt8) : List UInt8 :=
  let padded := content ++ List.replicate (offset - content.length) 0
  padded.take offset ++ data ++ padded.drop (offset + data.length)

theorem writeBytes_of_le {content : List UInt8} {offset : Nat} (h : offset ≤ content.length)
    (data : List UInt8) :
    writeBytes content offset data =
      content.take offset ++ data ++ content.drop (offset + data.length) := by
  unfold writeBytes
  rw [Nat.sub_eq_zero_of_le h, List.replicate_zero, List.append_nil]

/-- A write that starts where the one before it ends extends it: the two are one write. -/
theorem writeBytes_append (content : List UInt8) (offset : Nat) (data data' : List UInt8) :
    writeBytes (writeBytes content offset data) (offset + data.length) data' =
      writeBytes content offset (data ++ data') := by
  -- both sides first pad the object up to `offset`
  have hpad : ∀ data, writeBytes content offset data =
      writeBytes (content ++ List.replicate (offset - content.length) 0) offset data := fun data => by
    rw [@writeBytes_of_le (content ++ _) offset (by simp; omega)]
    rfl
  have hlen : offset ≤ (content ++ List.replicate (offset - content.length) 0).length := by
    simp; omega
  rw [hpad, hpad]
  generalize content ++ List.replicate (offset - content.length) 0 = padded at hlen ⊢
  have hfront : (padded.take offset ++ data).length = offset + data.length := by simp; omega
  rw [writeBytes_of_le hlen, writeBytes_of_le hlen, writeBytes_of_le (by simp; omega),
    List.take_left' hfront, ← List.drop_drop, List.drop_left' hfront, List.drop_drop,
    List.length_append, Nat.add_assoc]
  simp only [List.append_assoc]

/-- Modelled from the spec: an object's bytes after a truncate to `size`. -/
def truncateBytes (content : List UInt8) (size : Nat) : List UInt8 :=
  content.take size ++ List.replicate (size - content.length) 0

theorem length_truncateBytes (content : List UInt8) (size : Nat) :
    (truncateBytes content size).length = size := by
  simp only [truncateBytes, List.length_append, List.length_take, List.length_replicate]
  omega

end IrodsFs
