import IrodsFs.ReadOnly
import IrodsFs.ReadWriteOrder

/-!
# Reading through a handle

`FileHandle.Read` answers from the handle's reader. A read-write handle has the synchronous reader
and writes straight through, so its `Read` returns the spec's byte array: the writes and
truncates it accepted, in call order (`read_write_handle_reads_accepted_ops`). `Read` changes
nothing the model keeps, so it is a query on the state rather than an event.
-/

namespace IrodsFs

/-- What `FileHandle.Read` meets below the handle: the size `GetEntry()` reports, whether the
reader's `ReadAt` fails with an error other than `io.EOF`, and, modelled from the spec, the bytes
the prefetching reader serves from its cache. -/
structure ReadOutcome where
  entrySize : Int
  readFailed : Bool
  cached : List UInt8
deriving DecidableEq, Repr

/-- Modelled from the spec: `ReadAt` of a reader into a buffer of `size` bytes, giving the bytes
read, or `none` for an error other than `io.EOF`. The synchronous reader reads the backend object
up to its end, the prefetching reader serves up to `size` bytes of its cache, and the nil reader
fails. -/
def Reader.readAt (reader : Reader) (content : List UInt8) (size offset : Nat) (o : ReadOutcome) :
    Option (List UInt8) :=
  match reader with
  | .nilReader => none
  | .syncReader => if o.readFailed then none else some ((content.drop offset).take size)
  | .asyncCacheThroughReader _ => if o.readFailed then none else some (o.cached.take size)

namespace State

/-- `FileHandle.Read` into a buffer of `size` bytes: the bytes returned and the errno. The kernel
never asks for a negative offset. -/
def handleRead (s : State) (handle : FileHandle) (size offset : Nat) (o : ReadOutcome) :
    List UInt8 × Errno :=
  if s.terminated then ([], .ECONNABORTED)
  else if !handle.openMode.IsReadMode then ([], .EBADFD)
  else match handle.reader with
    | none => ([], .EBADFD)
    | some reader =>
        if (offset : Int) > o.entrySize then ([], .OK)
        else match reader.readAt (s.objects handle.path) size offset o with
          | some data => (data, .OK)
          | none => ([], Errno.EREMOTEIO)

/-- A `READ` of handle `id`, which the kernel sends only while the handle is open. -/
def read (s : State) (id size offset : Nat) (o : ReadOutcome) : Option (List UInt8 × Errno) :=
  (s.liveHandle? id).map fun handle => s.handleRead handle size offset o

/-- Through the synchronous reader, a `Read` at an offset the entry covers that answers `OK`
returns the object's bytes from the offset, as many as fit the buffer. -/
theorem handleRead_syncReader {s : State} {handle : FileHandle} {size offset : Nat}
    {o : ReadOutcome} {data : List UInt8} (hreader : handle.reader = some .syncReader)
    (hoffset : (offset : Int) ≤ o.entrySize)
    (hok : s.handleRead handle size offset o = (data, .OK)) :
    data = ((s.objects handle.path).drop offset).take size := by
  have hconn : Errno.ECONNABORTED ≠ .OK := by decide
  have hbadfd : Errno.EBADFD ≠ .OK := by decide
  have hremote : Errno.EREMOTEIO ≠ .OK := by decide
  simp only [handleRead, hreader, Reader.readAt, gt_iff_lt, not_lt.mpr hoffset, if_false] at hok
  split_ifs at hok <;> simp_all

/-! ### A handle's reader along its requests

Only `Open` and `Release` touch a reader: every other handler sets at most a writer. -/

def readers (s : State) : Nat → Option (Option Reader) :=
  fun id => (s.handles id).map (·.reader)

theorem readers_setWriter (s : State) (id : Nat) (writer : Option Writer) :
    (s.setWriter id writer).readers = s.readers := by
  funext j
  by_cases hj : j = id
  · subst hj
    cases h : s.handles j <;> simp [readers, setWriter, updateHandle, h]
  · simp [readers, setWriter, updateHandle, hj]

theorem readers_handleWrite (s : State) (id : Nat) (handle : FileHandle) (data : List UInt8)
    (offset : Int) (written : Bool) :
    (s.handleWrite id handle data offset written).1.readers = s.readers := by
  rcases handleWrite_cases s id handle data offset written
    with ⟨h, -⟩ | ⟨-, -, ⟨h, -⟩ | ⟨-, h, -⟩⟩ | ⟨-, -, _, _, -, h, -⟩ <;> rw [h]
  all_goals first | rfl | exact readers_setWriter _ _ _

theorem readers_handleSetattr (s : State) (id : Nat) (handle : FileHandle)
    (size : Option UInt64) (truncated : Bool) :
    (s.handleSetattr id handle size truncated).1.readers = s.readers := by
  unfold readers
  rw [handles_handleSetattr]

theorem readers_handleFlush (s : State) (id : Nat) (handle : FileHandle) (failAt : Option Nat) :
    (s.handleFlush id handle failAt).1.readers = s.readers := by
  rcases handleFlush_cases s id handle failAt with ⟨h, -⟩ | ⟨writer, -, h⟩ <;> rw [h]
  rw [readers_setWriter]
  unfold readers
  rw [handles_writerFlush]

theorem readers_upload (s : State) (id : Nat) (handle : FileHandle) (failAt : Option Nat) :
    (s.upload id handle failAt).readers = s.readers := by
  rcases upload_cases s id handle failAt with h | ⟨_, _, _, _, -, ⟨-, h⟩ | h⟩ <;> rw [h]
  all_goals
    rw [readers_setWriter]
    unfold readers
    rw [handles_uploadAll]

theorem released_handleRelease (cfg : Config) (s : State) (id : Nat) (handle : FileHandle)
    (o : ReleaseOutcome) : (handleRelease cfg s id handle o).1.released = s.released := by
  rcases view_handleRelease cfg s id handle o with ⟨h, -⟩ | ⟨-, -, h⟩ | ⟨-, -, h⟩ <;>
    exact congrArg View.released h

/-- Handle `id` reads through `reader`, unless the kernel has released it. -/
def ReaderHeld (s : State) (id : Nat) (reader : Reader) : Prop :=
  id ∈ s.released ∨ s.readers id = some (some reader)

theorem ReaderHeld.start {s : State} {id : Nat} {handle : FileHandle} {reader : Reader}
    (hh : s.handles id = some handle) (hreader : handle.reader = some reader) :
    s.ReaderHeld id reader :=
  .inr (by simp [readers, hh, hreader])

theorem ReaderHeld.of_quiet {s s' : State} {id : Nat} {reader : Reader}
    (hs : s.ReaderHeld id reader) (hquiet : Quiet s s') (hreaders : s'.readers = s.readers) :
    s'.ReaderHeld id reader := by
  rw [ReaderHeld, hreaders, show s'.released = s.released from congrArg View.released hquiet]
  exact hs

/-- **One request on the handle keeps its reader**, or releases the handle. -/
theorem readerHeld_step (cfg : Config) (s : State) {id : Nat} {reader : Reader} (e : Event)
    (he : e.OnHandle id = true) (hs : s.ReaderHeld id reader) :
    (s.step cfg e).1.ReaderHeld id reader := by
  cases e with
  | write j data offset written =>
      simp only [step]
      split
      · exact hs.of_quiet (quiet_handleWrite _ _ _ _ _ _) (readers_handleWrite _ _ _ _ _ _)
      · exact hs
  | truncate j size truncated =>
      simp only [step]
      split
      · exact hs.of_quiet (quiet_handleTruncate _ _ _ _ _)
          (by unfold readers; rw [handles_handleTruncate])
      · exact hs
  | setattr j size truncated =>
      simp only [step]
      split
      · exact hs.of_quiet (quiet_handleSetattr _ _ _ _ _) (readers_handleSetattr _ _ _ _ _)
      · exact hs
  | flush j failAt | fsync j failAt =>
      simp only [step, handleFsync]
      split
      · exact hs.of_quiet (quiet_handleFlush _ _ _ _) (readers_handleFlush _ _ _ _)
      · exact hs
  -- a `Release` of the live handle marks it released before anything else
  | release j o =>
      obtain rfl : j = id := beq_iff_eq.mp he
      simp only [step]
      split
      · refine .inl ?_
        rw [released_handleRelease]
        exact List.mem_append_right _ (List.mem_singleton_self _)
      · exact hs
  | upload j failAt =>
      simp only [step]
      split
      · exact hs.of_quiet (quiet_upload _ _ _ _) (readers_upload _ _ _ _)
      · exact hs
  | «open» | fileSetattr | truncateResume | setxattr | removexattr | runCloseTask | terminate =>
      cases he

theorem readerHeld_run (cfg : Config) {id : Nat} {reader : Reader} :
    ∀ (s : State) (events : List Event), (∀ e ∈ events, e.OnHandle id = true) →
      s.ReaderHeld id reader → (run cfg s events).ReaderHeld id reader
  | _, [], _, hs => hs
  | s, e :: events, hevents, hs =>
      readerHeld_run cfg _ events (fun e' he' => hevents e' (.tail _ he'))
        (readerHeld_step cfg s e (hevents e (.head _)) hs)

/-- **A read through the synchronous reader sees the accepted changes.** While handle `id`
writes through to `path`, whose object is `content` changed by `ops`, and still reads through the
synchronous reader, a `Read` of it that answers `OK` within the entry's size returns the bytes of
`applyOps content ops` from the offset. -/
theorem read_of_opsApplied {s : State} {id : Nat} {path : String} {content : List UInt8}
    {ops : List ByteOp} (hops : s.OpsApplied id path content ops)
    (hreader : s.ReaderHeld id .syncReader) {size offset : Nat} {o : ReadOutcome}
    (hoffset : (offset : Int) ≤ o.entrySize) {data : List UInt8}
    (hread : s.read id size offset o = some (data, .OK)) :
    data = ((applyOps content ops).drop offset).take size := by
  obtain ⟨handle, hlive, hok⟩ := Option.map_eq_some'.mp hread
  obtain ⟨⟨hnotReleased, -⟩, hh⟩ := liveHandle?_eq_some hlive
  have hsync : handle.reader = some .syncReader := by
    rcases hreader with hreleased | hheld
    · exact absurd hreleased hnotReleased
    · simpa [readers, hh] using hheld
  rw [handleRead_syncReader hsync hoffset hok, (hops.handles handle hh).1, hops.objects]

end State

/-- **A read-write handle reads what it wrote.** From a handle with the synchronous writer and
reader, as `NewFileHandle` builds a read-write handle, run any of its requests and the worker's
uploads; a `Read` on it that answers `OK` at an offset within the entry's size returns the bytes
of the spec's byte array from that offset, as many as fit the buffer: the writes and truncates
that answered `OK`, applied in call order to the object the handle started from. -/
theorem read_write_handle_reads_accepted_ops (cfg : Config) (s : State) (id : Nat)
    (handle : FileHandle) (hh : s.handles id = some handle)
    (hsync : handle.writer = some .syncWriter) (hreader : handle.reader = some .syncReader)
    (events : List Event) (hevents : ∀ e ∈ events, e.OnHandle id = true) (size offset : Nat)
    (o : ReadOutcome) (hoffset : (offset : Int) ≤ o.entrySize) (data : List UInt8)
    (hread : (run cfg s events).read id size offset o = some (data, .OK)) :
    data = ((applyOps (s.objects handle.path) (acceptedOps cfg s events)).drop offset).take size := by
  have hops := State.opsApplied_run cfg s events hevents (.start hh (by rw [hsync]; rfl))
  rw [List.nil_append] at hops
  exact State.read_of_opsApplied hops (State.readerHeld_run cfg s events hevents (.start hh hreader))
    hoffset hread

/-- Four bytes written, a truncate to two, a byte written at offset 3, and a read of the whole
object: the read returns the byte array the three changes make. -/
theorem read_write_handle_reads_accepted_ops_truncate :
    (run plainMount (State.init fun _ => []) openReadWriteRun).handles 0 =
        some ⟨"/f", "/f", .readWrite, some .syncReader, some .syncWriter⟩ ∧
      (∀ e ∈ writeTruncateWriteRun, e.OnHandle 0 = true) ∧
      ((0 : Nat) : Int) ≤ (⟨4, false, []⟩ : ReadOutcome).entrySize ∧
      (run plainMount (run plainMount (State.init fun _ => []) openReadWriteRun)
          writeTruncateWriteRun).read 0 8 0 ⟨4, false, []⟩ = some ([1, 2, 0, 9], .OK) ∧
      [1, 2, 0, 9] =
        ((applyOps ((run plainMount (State.init fun _ => []) openReadWriteRun).objects "/f")
          (acceptedOps plainMount (run plainMount (State.init fun _ => []) openReadWriteRun)
            writeTruncateWriteRun)).drop 0).take 8 :=
  have hh : (run plainMount (State.init fun _ => []) openReadWriteRun).handles 0 =
      some ⟨"/f", "/f", .readWrite, some .syncReader, some .syncWriter⟩ := by decide
  have hread : (run plainMount (run plainMount (State.init fun _ => []) openReadWriteRun)
      writeTruncateWriteRun).read 0 8 0 ⟨4, false, []⟩ = some ([1, 2, 0, 9], .OK) := by decide
  ⟨hh, by decide, by decide, hread, read_write_handle_reads_accepted_ops plainMount _ 0 _ hh rfl rfl
    writeTruncateWriteRun (by decide) 8 0 ⟨4, false, []⟩ (by decide) _ hread⟩

end IrodsFs
