import IrodsFs.Handle
import IrodsFs.Xattr

/-!
# The filesystem process as a state machine

The state is the part of `IRODSFS` the handlers share: the termination flag, `fileHandleMap`, the
`FileHandle`s by backend ID, the background close tasks, and the `File.Truncate` calls between
their `ListByPath` snapshot and their walk. Beside it lie the objects' bytes and the trace of
every remote call. Each event carries the outcomes of the remote calls it makes, so a statement
over all runs is one over all outcomes. The kernel sends no request for a handle after its
`RELEASE`.
-/

namespace IrodsFs

/-- A mount: its path mappings, the filter of internal attributes, and whether an instance report
client is attached. -/
structure Config where
  vpathManager : VPathManager
  isUnhandledAttr : String → Bool
  reporting : Bool

/-- What `StatIRODSEntry` returns, as far as `File.Truncate` reads it. -/
structure IRODSEntry where
  path : String
  size : Int
deriving DecidableEq, Repr

/-- A `File.Truncate` that has taken its `ListByPath` snapshot. -/
structure TruncateTask where
  file : String
  size : UInt64
  entry : IRODSEntry
  handlesOpened : List Nat
deriving DecidableEq, Repr

structure State where
  terminated : Bool
  nextID : Nat
  handles : Nat → Option FileHandle
  fileHandleMap : List Nat
  released : List Nat
  closeTasks : List Nat
  truncates : List TruncateTask
  objects : String → List UInt8
  calls : List (String × ClientCall)

def State.init (objects : String → List UInt8) : State :=
  ⟨false, 0, fun _ => none, [], [], [], [], objects, []⟩

/-! ### Outcomes of the remote calls one request makes -/

structure OpenOutcome where
  ensured : Bool
  openFile : ClientResult Unit
  readerCreated : Bool

structure ReleaseOutcome where
  readerFailed : Bool
  writerFailAt : Option Nat

structure LookupOutcome where
  ensured : Bool
  stat : ClientResult IRODSEntry

structure TruncateOutcome where
  handleTruncated : Bool
  truncateFile : ClientResult Unit

inductive Event
  | open (path : String) (flags : UInt32) (outcome : OpenOutcome)
  | write (id : Nat) (data : List UInt8) (offset : Int) (written : Bool)
  | truncate (id : Nat) (size : UInt64) (truncated : Bool)
  | setattr (id : Nat) (size : Option UInt64) (truncated : Bool)
  | flush (id : Nat) (failAt : Option Nat)
  | fsync (id : Nat) (failAt : Option Nat)
  | release (id : Nat) (outcome : ReleaseOutcome)
  | fileSetattr (path : String) (size : Option UInt64) (outcome : LookupOutcome)
  | truncateResume (index : Nat) (outcome : TruncateOutcome)
  | setxattr (path attr : String) (data : List UInt8) (ensured : Bool) (result : ClientResult Unit)
  | removexattr (path attr : String) (ensured : Bool)
      (getResult : ClientResult (Option (List UInt8))) (removeResult : ClientResult Unit)
  | upload (id : Nat) (failAt : Option Nat)
  | runCloseTask (id : Nat)
  | terminate

namespace State

def record (s : State) (file : String) (calls : List ClientCall) : State :=
  { s with calls := s.calls ++ calls.map (file, ·) }

def updateHandle (s : State) (id : Nat) (f : FileHandle → FileHandle) : State :=
  { s with handles := Function.update s.handles id ((s.handles id).map f) }

def setWriter (s : State) (id : Nat) (writer : Option Writer) : State :=
  s.updateHandle id ({ · with writer })

def clearReader (s : State) (id : Nat) : State :=
  s.updateHandle id ({ · with reader := none })

def writeObject (s : State) (path : String) (offset : Nat) (data : List UInt8) : State :=
  { s with objects := Function.update s.objects path (writeBytes (s.objects path) offset data) }

def truncateObject (s : State) (path : String) (size : Nat) : State :=
  { s with objects := Function.update s.objects path (truncateBytes (s.objects path) size) }

/-- Modelled from the spec: `fileHandleMap.ListByPath`, the registered handles of an iRODS path
in the order they were added. -/
def listByPath (s : State) (path : String) : List Nat :=
  s.fileHandleMap.filter fun id => (s.handles id).any (·.path == path)

/-! ### The pipelines at work -/

/-- Modelled from the spec: the synchronous writer under the asynchronous one sends `pending` in
order through the backend handle `id`; `failAt = some k` makes the write after `k` successful
ones fail, which stops the rest. The flag says whether a write failed. -/
def uploadAll (id : Nat) (handle : FileHandle) :
    State → List (Nat × List UInt8) → Option Nat → State × Bool
  | s, [], _ => (s, false)
  | s, (offset, data) :: rest, failAt =>
      let s := s.record handle.file [.writeAt id offset data]
      match failAt with
      | some 0 => (s, true)
      | some (k + 1) => uploadAll id handle (s.writeObject handle.path offset data) rest (some k)
      | none => uploadAll id handle (s.writeObject handle.path offset data) rest none

theorem uploadAll_frame (id : Nat) (handle : FileHandle) (s : State)
    (pending : List (Nat × List UInt8)) (failAt : Option Nat) :
    ∃ calls objects, (s.uploadAll id handle pending failAt).1 = { s with calls, objects } := by
  induction pending generalizing s failAt with
  | nil => exact ⟨s.calls, s.objects, rfl⟩
  | cons write rest ih =>
      unfold uploadAll
      rcases failAt with _ | _ | k
      · exact ih _ _
      · exact ⟨_, _, rfl⟩
      · exact ih _ _

/-- Modelled from the spec: `Flush` (and `Release`) of a writer, with the writer afterwards and
whether it reports an error. Only the asynchronous writer holds anything: its queue and its
buffer drain; its error is sticky. -/
def writerFlush (s : State) (id : Nat) (handle : FileHandle) :
    Writer → Option Nat → State × Writer × Bool
  | .nilWriter, _ => (s, .nilWriter, false)
  | .syncWriter, _ => (s, .syncWriter, false)
  | .asyncWriter pending buffered failed, failAt =>
      if failed then (s, .asyncWriter pending buffered true, true)
      else
        let uploaded := s.uploadAll id handle (drainWrites buffered pending) failAt
        (uploaded.1, .asyncWriter [] ⟨0, []⟩ uploaded.2, uploaded.2)

/-- Modelled from the spec: the asynchronous writer's worker hands its oldest queued write to the
buffered writer; a failed backend write is remembered and the rest of the queue dropped. -/
def upload (s : State) (id : Nat) (handle : FileHandle) (failAt : Option Nat) : State :=
  match handle.writer with
  | some (.asyncWriter ((offset, data) :: rest) buffered false) =>
      let written := bufferedWriteAt buffered offset data
      let uploaded := s.uploadAll id handle written.1 failAt
      if uploaded.2 then uploaded.1.setWriter id (some (.asyncWriter [] ⟨0, []⟩ true))
      else uploaded.1.setWriter id (some (.asyncWriter rest written.2 false))
  | _ => s

/-- The worker does nothing unless the writer has a queued write and has not failed; then the
buffered writer's backend writes are sent, and the writer moves on or is marked failed. -/
theorem upload_cases (s : State) (id : Nat) (handle : FileHandle) (failAt : Option Nat) :
    s.upload id handle failAt = s ∨
      ∃ offset data rest buffered,
        handle.writer = some (.asyncWriter ((offset, data) :: rest) buffered false) ∧
        ((s.uploadAll id handle (bufferedWriteAt buffered offset data).1 failAt).2 = false ∧
            s.upload id handle failAt =
              (s.uploadAll id handle (bufferedWriteAt buffered offset data).1 failAt).1.setWriter
                id (some (.asyncWriter rest (bufferedWriteAt buffered offset data).2 false)) ∨
          s.upload id handle failAt =
            (s.uploadAll id handle (bufferedWriteAt buffered offset data).1 failAt).1.setWriter id
              (some (.asyncWriter [] ⟨0, []⟩ true))) := by
  unfold upload
  split
  · rename_i offset data rest buffered hw
    refine .inr ⟨offset, data, rest, buffered, hw, ?_⟩
    dsimp only
    cases (s.uploadAll id handle (bufferedWriteAt buffered offset data).1 failAt).2
    · exact .inl ⟨rfl, rfl⟩
    · exact .inr rfl
  · exact .inl rfl

/-! ### The handlers -/

/-- The end of `File.Open` once `OpenFile` has returned a backend handle, whose ID is taken to be
`s.nextID`: the report, then the `FileHandle`, which is stored and registered. -/
def openedFile (cfg : Config) (s : State) (path irodsPath : String) (openMode : FileOpenMode)
    (readerCreated : Bool) : State × Errno :=
  let id := s.nextID
  let s := { s with nextID := id + 1 }
  let s := if cfg.reporting then s.record path [.startFileAccess id] else s
  match newFileHandle path irodsPath openMode readerCreated with
  | none => (s, Errno.EREMOTEIO)
  | some fileHandle =>
      ({ s with handles := Function.update s.handles id (some fileHandle),
                fileHandleMap := s.fileHandleMap ++ [id] }, .OK)

def fileOpen (cfg : Config) (s : State) (path : String) (flags : UInt32) (o : OpenOutcome) :
    State × Errno :=
  if s.terminated then (s, .ECONNABORTED)
  else
    let openMode := openModeOfFlags flags
    match cfg.vpathManager.GetClosestEntry path with
    | none => (s, Errno.EREMOTEIO)
    | some vpathEntry =>
        if vpathEntry.IsVirtualDirEntry then (s, .EPERM)
        else if vpathEntry.readOnly && openMode != .readOnly then (s, Errno.EREMOTEIO)
        else if !o.ensured then (s, Errno.EREMOTEIO)
        else match cfg.vpathManager.GetIRODSPath vpathEntry path with
          | none => (s, Errno.EREMOTEIO)
          | some irodsPath =>
              let s := s.record path [.openFile irodsPath openMode]
              match o.openFile with
              | .notFound => (s, .ENOENT)
              | .failed => (s, Errno.EREMOTEIO)
              | .ok _ => openedFile cfg s path irodsPath openMode o.readerCreated

/-- What `File.Open` can do to the state: nothing; or, for an entry that is no virtual directory,
read-only only when the open is, ensured and with an iRODS path, make the `OpenFile` call, and go
on to `openedFile` when it succeeds. -/
theorem fileOpen_cases (cfg : Config) (s : State) (path : String) (flags : UInt32)
    (o : OpenOutcome) :
    (s.fileOpen cfg path flags o).1 = s ∨
      ∃ entry irodsPath, cfg.vpathManager.GetClosestEntry path = some entry ∧
        entry.IsVirtualDirEntry = false ∧
        (entry.readOnly = true → openModeOfFlags flags = .readOnly) ∧ o.ensured = true ∧
        cfg.vpathManager.GetIRODSPath entry path = some irodsPath ∧
        ((s.fileOpen cfg path flags o).1 = s.record path [.openFile irodsPath (openModeOfFlags flags)] ∨
          s.fileOpen cfg path flags o =
            (s.record path [.openFile irodsPath (openModeOfFlags flags)]).openedFile cfg path
              irodsPath (openModeOfFlags flags) o.readerCreated) := by
  unfold fileOpen
  by_cases hterm : s.terminated = true
  · rw [if_pos hterm]; exact .inl rfl
  rw [if_neg hterm]
  dsimp only
  rcases hentry : cfg.vpathManager.GetClosestEntry path with _ | entry
  · exact .inl rfl
  dsimp only
  by_cases hvirt : entry.IsVirtualDirEntry = true
  · rw [if_pos hvirt]; exact .inl rfl
  rw [if_neg hvirt]
  by_cases hro : (entry.readOnly && openModeOfFlags flags != .readOnly) = true
  · rw [if_pos hro]; exact .inl rfl
  rw [if_neg hro]
  by_cases hens : (!o.ensured) = true
  · rw [if_pos hens]; exact .inl rfl
  rw [if_neg hens]
  rcases hpath : cfg.vpathManager.GetIRODSPath entry path with _ | irodsPath
  · exact .inl rfl
  refine .inr ⟨entry, irodsPath, rfl, by simpa using hvirt, fun h => by simpa [h] using hro,
    by simpa using hens, hpath, ?_⟩
  dsimp only
  rcases o.openFile with _ | _ | _
  · exact .inr rfl
  · exact .inl rfl
  · exact .inl rfl
/-- `FileHandle.Write`, with the byte count it reports. -/
def handleWrite (s : State) (id : Nat) (handle : FileHandle) (data : List UInt8) (offset : Int)
    (written : Bool) : State × UInt32 × Errno :=
  if s.terminated then (s, 0, .ECONNABORTED)
  else if !handle.openMode.IsWriteMode then (s, 0, .EBADFD)
  else match handle.writer with
    | none => (s, 0, .EBADFD)
    | some writer =>
        if data.length = 0 then (s, 0, .OK)
        else if offset < 0 then (s, 0, .EBADFD)
        else match writer with
          | .nilWriter => (s, 0, Errno.EREMOTEIO)
          | .syncWriter =>
              let s := s.record handle.file [.writeAt id offset.toNat data]
              if written then (s.writeObject handle.path offset.toNat data, UInt32.ofNat data.length, .OK)
              else (s, 0, Errno.EREMOTEIO)
          | .asyncWriter pending buffered failed =>
              if failed then (s, 0, Errno.EREMOTEIO)
              else (s.setWriter id
                  (some (.asyncWriter (pending ++ [(offset.toNat, data)]) buffered false)),
                UInt32.ofNat data.length, .OK)

/-- What `FileHandle.Write` can do: nothing, answering an error or taking no data; through the
synchronous writer, record the backend write and, when it succeeds, write the object and answer
`OK`; or queue the write on an asynchronous writer that has not failed and answer `OK`. Either
writer is reached only through a write-mode handle. -/
theorem handleWrite_cases (s : State) (id : Nat) (handle : FileHandle) (data : List UInt8)
    (offset : Int) (written : Bool) :
    ((s.handleWrite id handle data offset written).1 = s ∧
        ((s.handleWrite id handle data offset written).2.2 ≠ .OK ∨ data = [])) ∨
      (handle.openMode.IsWriteMode = true ∧ handle.writer = some .syncWriter ∧
        (((s.handleWrite id handle data offset written).1 =
              s.record handle.file [.writeAt id offset.toNat data] ∧
            (s.handleWrite id handle data offset written).2.2 ≠ .OK) ∨
          (data ≠ [] ∧ (s.handleWrite id handle data offset written).1 =
              (s.record handle.file [.writeAt id offset.toNat data]).writeObject handle.path
                offset.toNat data ∧
            (s.handleWrite id handle data offset written).2.2 = .OK))) ∨
      (handle.openMode.IsWriteMode = true ∧ data ≠ [] ∧
        ∃ pending buffered, handle.writer = some (.asyncWriter pending buffered false) ∧
          (s.handleWrite id handle data offset written).1 =
            s.setWriter id (some (.asyncWriter (pending ++ [(offset.toNat, data)]) buffered false)) ∧
          (s.handleWrite id handle data offset written).2.2 = .OK) := by
  have hbadfd : Errno.EBADFD ≠ .OK := by decide
  have hremote : Errno.EREMOTEIO ≠ .OK := by decide
  unfold handleWrite
  by_cases hterm : s.terminated = true
  · rw [if_pos hterm]; exact .inl ⟨rfl, .inl (show Errno.ECONNABORTED ≠ .OK by decide)⟩
  rw [if_neg hterm]
  cases hmode : handle.openMode.IsWriteMode
  · exact .inl ⟨rfl, .inl hbadfd⟩
  rw [if_neg (by decide : ¬(!true) = true)]
  rcases hw : handle.writer with _ | writer
  · exact .inl ⟨rfl, .inl hbadfd⟩
  dsimp only
  by_cases hlen : data.length = 0
  · rw [if_pos hlen]; exact .inl ⟨rfl, .inr (List.length_eq_zero.mp hlen)⟩
  rw [if_neg hlen]
  have hdata : data ≠ [] := fun h => hlen (by rw [h]; rfl)
  by_cases hoff : offset < 0
  · rw [if_pos hoff]; exact .inl ⟨rfl, .inl hbadfd⟩
  rw [if_neg hoff]
  rcases writer with _ | _ | ⟨pending, buffered, _ | _⟩
  · exact .inl ⟨rfl, .inl hremote⟩
  · cases written
    · exact .inr (.inl ⟨rfl, rfl, .inl ⟨rfl, hremote⟩⟩)
    · exact .inr (.inl ⟨rfl, rfl, .inr ⟨hdata, rfl, rfl⟩⟩)
  · exact .inr (.inr ⟨rfl, hdata, pending, buffered, rfl, rfl, rfl⟩)
  · exact .inl ⟨rfl, .inl hremote⟩

/-- `FileHandle.Truncate`: straight to the backend handle. -/
def handleTruncate (s : State) (id : Nat) (handle : FileHandle) (size : UInt64) (truncated : Bool) :
    State × Errno :=
  if s.terminated then (s, .ECONNABORTED)
  else if !handle.openMode.IsWriteMode then (s, .EBADFD)
  else
    let s := s.record handle.file [.truncate id (toInt64 size)]
    if truncated then (s.truncateObject handle.path (toInt64 size).toNat, .OK) else (s, Errno.EREMOTEIO)

/-- What `FileHandle.Truncate` can do to the state: nothing, or, through a write-mode handle,
record the backend truncate and, when it succeeds, truncate the object. -/
theorem handleTruncate_cases (s : State) (id : Nat) (handle : FileHandle) (size : UInt64)
    (truncated : Bool) :
    (s.handleTruncate id handle size truncated).1 = s ∨
      (handle.openMode.IsWriteMode = true ∧
        ((s.handleTruncate id handle size truncated).1 =
            s.record handle.file [.truncate id (toInt64 size)] ∨
          (s.handleTruncate id handle size truncated).1 =
            (s.record handle.file [.truncate id (toInt64 size)]).truncateObject handle.path
              (toInt64 size).toNat)) := by
  unfold handleTruncate
  by_cases hterm : s.terminated = true
  · rw [if_pos hterm]; exact .inl rfl
  rw [if_neg hterm]
  cases hmode : handle.openMode.IsWriteMode
  · exact .inl rfl
  rw [if_neg (by decide : ¬(!true) = true)]
  cases truncated
  · exact .inr ⟨rfl, .inl rfl⟩
  · exact .inr ⟨rfl, .inr rfl⟩

def handleFlush (s : State) (id : Nat) (handle : FileHandle) (failAt : Option Nat) : State × Errno :=
  if s.terminated then (s, .ECONNABORTED)
  else match handle.writer with
    | none => (s, .OK)
    | some writer =>
        let flushed := s.writerFlush id handle writer failAt
        (flushed.1.setWriter id (some flushed.2.1), if flushed.2.2 then Errno.EREMOTEIO else .OK)

/-- What `FileHandle.Flush` can do: nothing, answering `OK` only for a handle with no writer; or
flush the writer and store it back, answering `EREMOTEIO` when the writer reports an error. -/
theorem handleFlush_cases (s : State) (id : Nat) (handle : FileHandle) (failAt : Option Nat) :
    ((s.handleFlush id handle failAt).1 = s ∧
        ((s.handleFlush id handle failAt).2 = .OK → handle.writer = none)) ∨
      ∃ writer, handle.writer = some writer ∧
        s.handleFlush id handle failAt =
          ((s.writerFlush id handle writer failAt).1.setWriter id
              (some (s.writerFlush id handle writer failAt).2.1),
            if (s.writerFlush id handle writer failAt).2.2 then Errno.EREMOTEIO else .OK) := by
  unfold handleFlush
  by_cases hterm : s.terminated = true
  · rw [if_pos hterm]
    exact .inl ⟨rfl, fun h => absurd h (show Errno.ECONNABORTED ≠ .OK by decide)⟩
  rw [if_neg hterm]
  rcases hw : handle.writer with _ | writer
  · exact .inl ⟨rfl, fun _ => rfl⟩
  · exact .inr ⟨writer, rfl, rfl⟩

def handleFsync (s : State) (id : Nat) (handle : FileHandle) (failAt : Option Nat) : State × Errno :=
  s.handleFlush id handle failAt

/-- `FileHandle.Setattr`: a size goes to `Truncate`; anything else is acknowledged by
`File.Setattr`. -/
def handleSetattr (s : State) (id : Nat) (handle : FileHandle) (size : Option UInt64)
    (truncated : Bool) : State × Errno :=
  if s.terminated then (s, .ECONNABORTED)
  else match size with
    | some size => s.handleTruncate id handle size truncated
    | none => (s, .OK)

/-- The `closeFunc` of `Release`: registry removal, the report, then the backend close. -/
def closeFunc (cfg : Config) (s : State) (id : Nat) (handle : FileHandle) : State :=
  let s := { s with fileHandleMap := s.fileHandleMap.filter (· != id) }
  let s := if cfg.reporting then s.record handle.file [.doneFileAccess id] else s
  s.record handle.file [.close id]

/-- The writer block of `Release`: the writer, if there is one, is released (flushed) and asked
for its error. -/
def releaseWriter (s : State) (id : Nat) (handle : FileHandle) (failAt : Option Nat) :
    State × Option Writer × Bool :=
  match handle.writer with
  | some writer =>
      let flushed := s.writerFlush id handle writer failAt
      (flushed.1, some flushed.2.1, flushed.2.2)
  | none => (s, none, false)

def handleRelease (cfg : Config) (s : State) (id : Nat) (handle : FileHandle) (o : ReleaseOutcome) :
    State × Errno :=
  if s.terminated then (s, .ECONNABORTED)
  else
    let readerFailed := match handle.reader with
      | some (.asyncCacheThroughReader failed) => failed || o.readerFailed
      | _ => false
    if readerFailed then (s, Errno.EREMOTEIO)
    else
      let released := (s.clearReader id).releaseWriter id handle o.writerFailAt
      if released.2.2 then (released.1.setWriter id released.2.1, Errno.EREMOTEIO)
      else
        let s := released.1.setWriter id none
        if handle.openMode.IsReadOnly then ({ s with closeTasks := s.closeTasks ++ [id] }, .OK)
        else (closeFunc cfg s id handle, .OK)

/-- What `FileHandle.Release` can do to the state, `released` being the state, writer and error
once the reader is cleared and the writer released: answer an error and change nothing; answer
`EREMOTEIO` keeping the failed writer; or drop the writer and answer `OK`, scheduling the close of
a read-only handle and running `closeFunc` for any other. -/
theorem handleRelease_cases (cfg : Config) (s : State) (id : Nat) (handle : FileHandle)
    (o : ReleaseOutcome) {released : State × Option Writer × Bool}
    (hreleased : (s.clearReader id).releaseWriter id handle o.writerFailAt = released) :
    ((handleRelease cfg s id handle o).1 = s ∧ (handleRelease cfg s id handle o).2 ≠ .OK) ∨
      (released.2.2 = true ∧
        handleRelease cfg s id handle o = (released.1.setWriter id released.2.1, Errno.EREMOTEIO)) ∨
      (released.2.2 = false ∧ handle.openMode.IsReadOnly = true ∧
        handleRelease cfg s id handle o =
          ({ released.1.setWriter id none with
              closeTasks := (released.1.setWriter id none).closeTasks ++ [id] }, .OK)) ∨
      (released.2.2 = false ∧ handle.openMode.IsReadOnly = false ∧
        handleRelease cfg s id handle o = (closeFunc cfg (released.1.setWriter id none) id handle, .OK)) := by
  subst hreleased
  unfold handleRelease
  by_cases hterm : s.terminated = true
  · rw [if_pos hterm]; exact .inl ⟨rfl, show Errno.ECONNABORTED ≠ .OK by decide⟩
  rw [if_neg hterm]
  dsimp only
  split
  · exact .inl ⟨rfl, show Errno.EREMOTEIO ≠ .OK by decide⟩
  cases hfailed : ((s.clearReader id).releaseWriter id handle o.writerFailAt).2.2
  · rw [if_neg Bool.false_ne_true]
    cases hro : handle.openMode.IsReadOnly
    · rw [if_neg Bool.false_ne_true]; exact .inr (.inr (.inr ⟨rfl, rfl, rfl⟩))
    · rw [if_pos rfl]; exact .inr (.inr (.inl ⟨rfl, rfl, rfl⟩))
  · rw [if_pos rfl]; exact .inr (.inl ⟨rfl, rfl⟩)

/-- `File.Truncate` up to its `ListByPath` snapshot: an errno when it fails before, and otherwise
a new task. -/
def truncateLookup (cfg : Config) (s : State) (path : String) (size : UInt64) (o : LookupOutcome) :
    State × Option Errno :=
  if s.terminated then (s, some .ECONNABORTED)
  else match cfg.vpathManager.GetClosestEntry path with
    | none => (s, some Errno.EREMOTEIO)
    | some vpathEntry =>
        if vpathEntry.IsVirtualDirEntry then (s, some Errno.EREMOTEIO)
        else if !o.ensured then (s, some Errno.EREMOTEIO)
        else match o.stat with
          | .notFound => (s, some .ENOENT)
          | .failed => (s, some Errno.EREMOTEIO)
          | .ok irodsEntry =>
              ({ s with truncates := s.truncates ++ [⟨path, size, irodsEntry,
                  s.listByPath irodsEntry.path⟩] }, none)

/-- `File.Setattr`: a size goes to `File.Truncate`. -/
def fileSetattr (cfg : Config) (s : State) (path : String) (size : Option UInt64)
    (o : LookupOutcome) : State × Option Errno :=
  if s.terminated then (s, some .ECONNABORTED)
  else match size with
    | some size => s.truncateLookup cfg path size o
    | none => (s, some .OK)

/-- The loop of `File.Truncate` over its snapshot: the first write-mode handle truncates, an error
from it is returned at once, and success stops the loop with `callFtruncate` set. -/
def truncateLoop (size : UInt64) (truncated : Bool) :
    State → List Nat → State × Option Errno × Bool
  | s, [] => (s, none, false)
  | s, id :: rest =>
      match s.handles id with
      | some handle =>
          if handle.openMode.IsWriteMode then
            let r := s.handleTruncate id handle size truncated
            if r.2 != .OK then (r.1, some r.2, false) else (r.1, none, true)
          else truncateLoop size truncated s rest
      | none => truncateLoop size truncated s rest

/-- `File.Truncate` after its snapshot: the loop, then the direct truncate when no handle took
the size and the object's size differs from it. -/
def truncateFinish (s : State) (task : TruncateTask) (o : TruncateOutcome) : State × Errno :=
  let loop := truncateLoop task.size o.handleTruncated s task.handlesOpened
  match loop.2.1 with
  | some errno => (loop.1, errno)
  | none =>
      if !loop.2.2 && task.entry.size != toInt64 task.size then
        let s := loop.1.record task.file [.truncateFile task.entry.path (toInt64 task.size)]
        match o.truncateFile with
        | .ok _ => (s.truncateObject task.entry.path (toInt64 task.size).toNat, .OK)
        | result => (s, clientErrno result)
      else (loop.1, .OK)

/-- What the tail of `File.Truncate` can do to the state beyond its loop: nothing, or make the direct
`TruncateFile` call and, when it succeeds, truncate the object. -/
theorem truncateFinish_cases (s : State) (task : TruncateTask) (o : TruncateOutcome) :
    (truncateFinish s task o).1 = (truncateLoop task.size o.handleTruncated s task.handlesOpened).1 ∨
      (truncateFinish s task o).1 =
        (truncateLoop task.size o.handleTruncated s task.handlesOpened).1.record task.file
          [.truncateFile task.entry.path (toInt64 task.size)] ∨
      (truncateFinish s task o).1 =
        ((truncateLoop task.size o.handleTruncated s task.handlesOpened).1.record task.file
          [.truncateFile task.entry.path (toInt64 task.size)]).truncateObject task.entry.path
          (toInt64 task.size).toNat := by
  unfold truncateFinish
  dsimp only
  rcases (truncateLoop task.size o.handleTruncated s task.handlesOpened).2.1 with _ | errno
  swap; · exact .inl rfl
  dsimp only
  by_cases hdirect : (!(truncateLoop task.size o.handleTruncated s task.handlesOpened).2.2 &&
      task.entry.size != toInt64 task.size) = true
  · rw [if_pos hdirect]
    rcases o.truncateFile with _ | _ | _
    · exact .inr (.inr rfl)
    · exact .inr (.inl rfl)
    · exact .inr (.inl rfl)
  · rw [if_neg hdirect]
    exact .inl rfl
/-! ### One step -/

def liveHandle? (s : State) (id : Nat) : Option FileHandle :=
  if id ∈ s.released then none else s.handles id

/-- One event. A FUSE request gets its reply, except a `File.Truncate` still between its two
halves. -/
def step (cfg : Config) (s : State) : Event → State × Option Errno
  | .open path flags o => let r := s.fileOpen cfg path flags o; (r.1, some r.2)
  | .write id data offset written =>
      match s.liveHandle? id with
      | some handle => let r := s.handleWrite id handle data offset written; (r.1, some r.2.2)
      | none => (s, none)
  | .truncate id size truncated =>
      match s.liveHandle? id with
      | some handle => let r := s.handleTruncate id handle size truncated; (r.1, some r.2)
      | none => (s, none)
  | .setattr id size truncated =>
      match s.liveHandle? id with
      | some handle => let r := s.handleSetattr id handle size truncated; (r.1, some r.2)
      | none => (s, none)
  | .flush id failAt =>
      match s.liveHandle? id with
      | some handle => let r := s.handleFlush id handle failAt; (r.1, some r.2)
      | none => (s, none)
  | .fsync id failAt =>
      match s.liveHandle? id with
      | some handle => let r := s.handleFsync id handle failAt; (r.1, some r.2)
      | none => (s, none)
  | .release id o =>
      match s.liveHandle? id with
      | some handle =>
          let r := handleRelease cfg { s with released := s.released ++ [id] } id handle o
          (r.1, some r.2)
      | none => (s, none)
  | .fileSetattr path size o => s.fileSetattr cfg path size o
  | .truncateResume index o =>
      match s.truncates[index]? with
      | some task =>
          let r := truncateFinish { s with truncates := s.truncates.eraseIdx index } task o
          (r.1, some r.2)
      | none => (s, none)
  | .setxattr path attr data ensured result =>
      let r := setxattr s.terminated cfg.vpathManager cfg.isUnhandledAttr path attr data ensured
        result
      (s.record path r.2, some r.1)
  | .removexattr path attr ensured getResult removeResult =>
      let r := removexattr s.terminated cfg.vpathManager path attr ensured getResult removeResult
      (s.record path r.2, some r.1)
  | .upload id failAt =>
      match s.handles id with
      | some handle => (s.upload id handle failAt, none)
      | none => (s, none)
  | .runCloseTask id =>
      match s.handles id with
      | some handle =>
          if id ∈ s.closeTasks then (closeFunc cfg { s with closeTasks := s.closeTasks.erase id }
            id handle, none)
          else (s, none)
      | none => (s, none)
  | .terminate => ({ s with terminated := true }, none)

end State

def run (cfg : Config) : State → List Event → State
  | s, [] => s
  | s, e :: events => run cfg (s.step cfg e).1 events

/-- The replies to the events of a run, in order; `none` where an event gets no reply. -/
def replies (cfg : Config) : State → List Event → List (Option Errno)
  | _, [] => []
  | s, e :: events => (s.step cfg e).2 :: replies cfg (s.step cfg e).1 events

theorem run_append (cfg : Config) (s : State) (first second : List Event) :
    run cfg s (first ++ second) = run cfg (run cfg s first) second := by
  induction first generalizing s with
  | nil => rfl
  | cons e first ih => exact ih _

end IrodsFs
