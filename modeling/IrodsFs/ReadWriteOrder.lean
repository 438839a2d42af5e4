import IrodsFs.WriteOrder

/-!
# A read-write handle keeps writes and truncates in call order

A read-write handle has the synchronous writer: `Write` goes to the backend handle at once, as
`FileHandle.Truncate` does. Nothing waits between them, so the truncate that a queued write of
the asynchronous writer overtakes (`truncate_overtaken_by_queued_write`) keeps its place here.
After any run of the handle's requests, with the worker's uploads between them, the object is the
byte array the spec describes: the writes and truncates that answered `OK`, applied in call order
(`sync_writer_keeps_call_order`). No `Flush` is needed for it.
-/

namespace IrodsFs

/-- The spec's reference meaning of a handle's changes, as changes to a byte array. -/
inductive ByteOp
  | write (offset : Nat) (data : List UInt8)
  | truncate (size : Nat)
deriving DecidableEq, Repr

def ByteOp.apply (content : List UInt8) : ByteOp → List UInt8
  | .write offset data => writeBytes content offset data
  | .truncate size => truncateBytes content size

/-- The bytes the changes make of `content`, applied in order. -/
def applyOps (content : List UInt8) (ops : List ByteOp) : List UInt8 :=
  ops.foldl ByteOp.apply content

theorem applyOps_append (content : List UInt8) (ops ops' : List ByteOp) :
    applyOps content (ops ++ ops') = applyOps (applyOps content ops) ops' :=
  List.foldl_append _ _ _ _

/-- A truncate between two writes cuts the first and pads before the second. -/
example : applyOps [] [.write 0 [1, 2, 3, 4], .truncate 2, .write 3 [9]] = [1, 2, 0, 9] := by
  decide

/-- Whether a writer hands every write to the backend at once: any writer but the asynchronous
one. -/
def writesThrough : Option Writer → Bool
  | some (.asyncWriter ..) => false
  | _ => true

/-- The requests on handle `id`, and the worker's uploads for it. -/
def Event.OnHandle (id : Nat) : Event → Bool
  | .write j .. | .truncate j .. | .setattr j .. | .upload j _ | .flush j _ | .fsync j _
  | .release j _ => j == id
  | _ => false

/-- The change an event made that the spec counts: a `Write` of data or a truncate, either
through `FileHandle.Truncate` or `FileHandle.Setattr` with a size, that answered `OK`. -/
def acceptedOp (e : Event) (reply : Option Errno) : List ByteOp :=
  if reply = some .OK then
    match e with
    | .write _ data offset _ => if data = [] then [] else [.write offset.toNat data]
    | .truncate _ size _ | .setattr _ (some size) _ => [.truncate (toInt64 size).toNat]
    | _ => []
  else []

theorem acceptedOp_none (e : Event) : acceptedOp e none = [] :=
  if_neg nofun

theorem acceptedOp_error (e : Event) {reply : Errno} (h : reply ≠ .OK) :
    acceptedOp e (some reply) = [] :=
  if_neg fun hok => h (Option.some.inj hok)

theorem acceptedOp_write_ok {id : Nat} {data : List UInt8} {offset : Int} {written : Bool}
    (hdata : data ≠ []) :
    acceptedOp (.write id data offset written) (some .OK) = [.write offset.toNat data] := by
  simp [acceptedOp, hdata]

theorem acceptedOp_write_rejected {id : Nat} {data : List UInt8} {offset : Int}
    {written : Bool} {reply : Errno} (h : reply ≠ .OK ∨ data = []) :
    acceptedOp (.write id data offset written) (some reply) = [] := by
  rcases h with h | rfl
  · exact acceptedOp_error _ h
  · unfold acceptedOp
    split <;> rfl

/-- The changes of a run the filesystem accepted, in call order. -/
def acceptedOps (cfg : Config) : State → List Event → List ByteOp
  | _, [] => []
  | s, e :: events => acceptedOp e (s.step cfg e).2 ++ acceptedOps cfg (s.step cfg e).1 events

namespace State

/-! ### Handlers over a writer that writes through -/

@[simp] theorem objects_truncateObject (s : State) (path : String) (size : Nat) :
    (s.truncateObject path size).objects path = truncateBytes (s.objects path) size := by
  simp [truncateObject]

theorem writerFlush_of_writesThrough (s : State) (id : Nat) (handle : FileHandle)
    {writer : Writer} (h : writesThrough (some writer) = true) (failAt : Option Nat) :
    s.writerFlush id handle writer failAt = (s, writer, false) := by
  cases writer with
  | nilWriter | syncWriter => rfl
  | asyncWriter => cases h

theorem releaseWriter_of_writesThrough (s : State) (id : Nat) {handle : FileHandle}
    (h : writesThrough handle.writer = true) (failAt : Option Nat) :
    s.releaseWriter id handle failAt = (s, handle.writer, false) := by
  unfold releaseWriter
  split
  · rename_i writer hw
    rw [writerFlush_of_writesThrough s id handle (hw ▸ h) failAt, hw]
  · rename_i hw
    rw [hw]

/-- `FileHandle.Truncate` answers `OK` exactly when it has truncated the object; otherwise the
objects are as they were. -/
theorem handleTruncate_objects (s : State) (id : Nat) (handle : FileHandle) (size : UInt64)
    (truncated : Bool) :
    ((s.handleTruncate id handle size truncated).2 ≠ .OK ∧
        (s.handleTruncate id handle size truncated).1.objects = s.objects) ∨
      ((s.handleTruncate id handle size truncated).2 = .OK ∧
        (s.handleTruncate id handle size truncated).1 =
          (s.record handle.file [.truncate id (toInt64 size)]).truncateObject handle.path
            (toInt64 size).toNat) := by
  unfold handleTruncate
  by_cases hterm : s.terminated = true
  · rw [if_pos hterm]; exact .inl ⟨show Errno.ECONNABORTED ≠ .OK by decide, rfl⟩
  rw [if_neg hterm]
  cases handle.openMode.IsWriteMode
  · exact .inl ⟨show Errno.EBADFD ≠ .OK by decide, rfl⟩
  rw [if_neg (by decide : ¬(!true) = true)]
  cases truncated
  · exact .inl ⟨show Errno.EREMOTEIO ≠ .OK by decide, rfl⟩
  · exact .inr ⟨rfl, rfl⟩

/-! ### The invariant -/

/-- Handle `id` serves `path` through a writer that writes through, and the object is `content`
with `ops` applied. -/
structure OpsApplied (s : State) (id : Nat) (path : String) (content : List UInt8)
    (ops : List ByteOp) : Prop where
  handles : ∀ handle, s.handles id = some handle →
    handle.path = path ∧ writesThrough handle.writer = true
  objects : s.objects path = applyOps content ops

section Invariant

variable {s : State} {id : Nat} {path : String} {content : List UInt8} {ops : List ByteOp}

theorem OpsApplied.of_eq {s' : State} (hs : s.OpsApplied id path content ops)
    (hhandles : s'.handles id = s.handles id) (hobjects : s'.objects path = s.objects path) :
    s'.OpsApplied id path content ops :=
  ⟨fun handle hh => hs.handles handle (hhandles ▸ hh), hobjects.trans hs.objects⟩

theorem OpsApplied.start {handle : FileHandle} (hh : s.handles id = some handle)
    (hthrough : writesThrough handle.writer = true) :
    s.OpsApplied id handle.path (s.objects handle.path) [] := by
  refine ⟨fun handle' hh' => ?_, rfl⟩
  cases hh.symm.trans hh'
  exact ⟨rfl, hthrough⟩

theorem OpsApplied.of_handle {s' : State} (hs : s.OpsApplied id path content ops)
    {handle : FileHandle} (hh : s'.handles id = some handle) (hpath : handle.path = path)
    (hthrough : writesThrough handle.writer = true) (hobjects : s'.objects path = s.objects path) :
    s'.OpsApplied id path content ops := by
  refine ⟨fun handle' hh' => ?_, hobjects.trans hs.objects⟩
  cases hh.symm.trans hh'
  exact ⟨hpath, hthrough⟩

end Invariant

section Handler

variable {s : State} {id : Nat} {handle : FileHandle} {path : String} {content : List UInt8}
  {ops : List ByteOp} (hs : s.OpsApplied id path content ops) (hh : s.handles id = some handle)
include hs hh

theorem opsApplied_handleWrite (data : List UInt8) (offset : Int) (written : Bool) :
    (s.handleWrite id handle data offset written).1.OpsApplied id path content
      (ops ++ acceptedOp (.write id data offset written)
        (some (s.handleWrite id handle data offset written).2.2)) := by
  obtain ⟨rfl, hthrough⟩ := hs.handles handle hh
  rcases handleWrite_cases s id handle data offset written
    with ⟨h, hreply⟩ | ⟨-, -, ⟨h, hreply⟩ | ⟨hdata, h, hok⟩⟩ |
      ⟨-, -, pending, buffered, hasync, -, -⟩
  -- a rejected write changes no object and is not counted
  · rw [acceptedOp_write_rejected hreply, List.append_nil, h]
    exact hs
  · rw [acceptedOp_write_rejected (.inl hreply), List.append_nil, h]
    exact hs.of_eq rfl rfl
  -- the synchronous writer writes the object at once
  · rw [hok, acceptedOp_write_ok hdata, h]
    refine ⟨hs.handles, ?_⟩
    rw [objects_writeObject, applyOps_append, ← hs.objects]
    rfl
  -- the asynchronous writer is not among the writers that write through
  · rw [hasync] at hthrough
    cases hthrough

theorem opsApplied_handleTruncate (size : UInt64) (truncated : Bool) :
    (s.handleTruncate id handle size truncated).1.OpsApplied id path content
      (ops ++ acceptedOp (.truncate id size truncated)
        (some (s.handleTruncate id handle size truncated).2)) := by
  obtain ⟨rfl, -⟩ := hs.handles handle hh
  rcases handleTruncate_objects s id handle size truncated with ⟨hne, hobjects⟩ | ⟨hok, h⟩
  · rw [acceptedOp_error _ hne, List.append_nil]
    exact hs.of_eq (congrFun (handles_handleTruncate _ _ _ _ _) id) (congrFun hobjects _)
  · rw [hok, h]
    refine ⟨hs.handles, ?_⟩
    rw [objects_truncateObject, applyOps_append, ← hs.objects]
    rfl

theorem opsApplied_handleSetattr (size : Option UInt64) (truncated : Bool) :
    (s.handleSetattr id handle size truncated).1.OpsApplied id path content
      (ops ++ acceptedOp (.setattr id size truncated)
        (some (s.handleSetattr id handle size truncated).2)) := by
  unfold handleSetattr
  by_cases hterm : s.terminated = true
  · rw [if_pos hterm, acceptedOp_error _ (show Errno.ECONNABORTED ≠ .OK by decide),
      List.append_nil]
    exact hs
  rw [if_neg hterm]
  rcases size with _ | size
  -- a change of anything but the size is acknowledged and changes nothing
  · rw [show acceptedOp (.setattr id none truncated) (some .OK) = [] from rfl, List.append_nil]
    exact hs
  -- a size goes to `Truncate`
  · exact opsApplied_handleTruncate hs hh size truncated

theorem opsApplied_handleFlush (failAt : Option Nat) :
    (s.handleFlush id handle failAt).1.OpsApplied id path content ops := by
  obtain ⟨rfl, hthrough⟩ := hs.handles handle hh
  rcases handleFlush_cases s id handle failAt with ⟨h, -⟩ | ⟨writer, hwriter, h⟩ <;> rw [h]
  · exact hs
  -- the writer holds nothing, and is stored back as it was
  · rw [writerFlush_of_writesThrough s id handle (hwriter ▸ hthrough) failAt]
    exact hs.of_handle (handles_setWriter_self hh _) rfl (hwriter ▸ hthrough) rfl

theorem opsApplied_upload (failAt : Option Nat) :
    (s.upload id handle failAt).OpsApplied id path content ops := by
  obtain ⟨-, hthrough⟩ := hs.handles handle hh
  rcases upload_cases s id handle failAt with h | ⟨_, _, _, _, hasync, -⟩
  · rw [h]
    exact hs
  -- only the asynchronous writer has anything to upload
  · rw [hasync] at hthrough
    cases hthrough

theorem opsApplied_handleRelease (cfg : Config) (o : ReleaseOutcome) :
    (handleRelease cfg s id handle o).1.OpsApplied id path content ops := by
  obtain ⟨rfl, hthrough⟩ := hs.handles handle hh
  have hh' : (s.clearReader id).handles id = some { handle with reader := none } := by
    simp [clearReader, updateHandle, hh]
  -- the writer is released with nothing to upload, then dropped
  have hdropped : ((s.clearReader id).setWriter id none).OpsApplied id handle.path content ops :=
    hs.of_handle (handles_setWriter_self hh' none) rfl rfl rfl
  rcases handleRelease_cases cfg s id handle o
      (releaseWriter_of_writesThrough (s.clearReader id) id hthrough o.writerFailAt)
    with ⟨h, -⟩ | ⟨hfailed, -⟩ | ⟨-, -, h⟩ | ⟨-, -, h⟩
  · rw [h]
    exact hs
  · cases hfailed
  · rw [h]
    exact hdropped.of_eq rfl rfl
  · rw [h]
    exact hdropped.of_eq (congrFun (handles_closeFunc _ _ _ _) id)
      (congrFun (objects_closeFunc _ _ _ _) _)

end Handler

/-! ### Along a run -/

/-- **One request on the handle keeps the invariant**, with the change it made added after the
others. -/
theorem opsApplied_step (cfg : Config) (s : State) {id : Nat} {path : String}
    {content : List UInt8} {ops : List ByteOp} (e : Event) (he : e.OnHandle id = true)
    (hs : s.OpsApplied id path content ops) :
    (s.step cfg e).1.OpsApplied id path content (ops ++ acceptedOp e (s.step cfg e).2) := by
  cases e with
  | write j data offset written =>
      obtain rfl : j = id := beq_iff_eq.mp he
      simp only [step]
      split
      · exact opsApplied_handleWrite hs (liveHandle?_eq_some ‹_›).2 data offset written
      · rw [acceptedOp_none, List.append_nil]
        exact hs
  | truncate j size truncated =>
      obtain rfl : j = id := beq_iff_eq.mp he
      simp only [step]
      split
      · exact opsApplied_handleTruncate hs (liveHandle?_eq_some ‹_›).2 size truncated
      · rw [acceptedOp_none, List.append_nil]
        exact hs
  | setattr j size truncated =>
      obtain rfl : j = id := beq_iff_eq.mp he
      simp only [step]
      split
      · exact opsApplied_handleSetattr hs (liveHandle?_eq_some ‹_›).2 size truncated
      · rw [acceptedOp_none, List.append_nil]
        exact hs
  | flush j failAt | fsync j failAt =>
      obtain rfl : j = id := beq_iff_eq.mp he
      simp only [acceptedOp, ite_self, List.append_nil, step]
      split
      · exact opsApplied_handleFlush hs (liveHandle?_eq_some ‹_›).2 failAt
      · exact hs
  | release j o =>
      obtain rfl : j = id := beq_iff_eq.mp he
      simp only [acceptedOp, ite_self, List.append_nil, step]
      split
      · rename_i handle hlive
        exact opsApplied_handleRelease (s := { s with released := s.released ++ [j] })
          (hs.of_eq rfl rfl) (liveHandle?_eq_some hlive).2 cfg o
      · exact hs
  | upload j failAt =>
      obtain rfl : j = id := beq_iff_eq.mp he
      simp only [acceptedOp, ite_self, List.append_nil, step]
      split
      · exact opsApplied_upload hs ‹_› failAt
      · exact hs
  | «open» | fileSetattr | truncateResume | setxattr | removexattr | runCloseTask | terminate =>
      cases he

/-- The invariant along a run of the handle's requests, with the changes the run accepted. -/
theorem opsApplied_run (cfg : Config) {id : Nat} {path : String} {content : List UInt8} :
    ∀ (s : State) (events : List Event) {ops : List ByteOp},
      (∀ e ∈ events, e.OnHandle id = true) → s.OpsApplied id path content ops →
      (run cfg s events).OpsApplied id path content (ops ++ acceptedOps cfg s events)
  | _, [], _, _, hs => by rw [acceptedOps, List.append_nil]; exact hs
  | s, e :: events, _, hevents, hs => by
      rw [acceptedOps, ← List.append_assoc]
      exact opsApplied_run cfg _ events (fun e' he' => hevents e' (.tail _ he'))
        (opsApplied_step cfg s e (hevents e (.head _)) hs)

end State

/-- **A read-write handle keeps writes and truncates in call order.** From a handle with the
synchronous writer, run any of its requests (`Write`, `Truncate`, `Setattr`, `Flush`, `Fsync`,
`Release`) and the worker's uploads: after every step the object is what the writes and truncates
that answered `OK` make of the object it started from, applied in call order. -/
theorem sync_writer_keeps_call_order (cfg : Config) (s : State) (id : Nat) (handle : FileHandle)
    (hh : s.handles id = some handle) (hsync : handle.writer = some .syncWriter)
    (events : List Event) (hevents : ∀ e ∈ events, e.OnHandle id = true) :
    (run cfg s events).objects handle.path =
      applyOps (s.objects handle.path) (acceptedOps cfg s events) :=
  (State.opsApplied_run cfg s events hevents (.start hh (by rw [hsync]; rfl))).objects

/-- A read-write handle on `/f`, opened under `plainMount`. -/
def openReadWriteRun : List Event :=
  [.open "/f" O_RDWR ⟨true, .ok (), true⟩]

/-- Four bytes written at offset 0, a truncate to two bytes, and a byte written at offset 3. -/
def writeTruncateWriteRun : List Event :=
  [.write 0 [1, 2, 3, 4] 0 true, .truncate 0 2 true, .write 0 [9] 3 true]

/-- Where the asynchronous writer lets the write overtake the truncate, the read-write handle
leaves the object as the byte array does. -/
theorem sync_writer_keeps_call_order_truncate :
    (run plainMount (State.init fun _ => []) openReadWriteRun).handles 0 =
        some ⟨"/f", "/f", .readWrite, some .syncReader, some .syncWriter⟩ ∧
      (∀ e ∈ writeTruncateWriteRun, e.OnHandle 0 = true) ∧
      (run plainMount (run plainMount (State.init fun _ => []) openReadWriteRun)
          writeTruncateWriteRun).objects "/f" =
        applyOps ((run plainMount (State.init fun _ => []) openReadWriteRun).objects "/f")
          (acceptedOps plainMount (run plainMount (State.init fun _ => []) openReadWriteRun)
            writeTruncateWriteRun) :=
  have hh : (run plainMount (State.init fun _ => []) openReadWriteRun).handles 0 =
      some ⟨"/f", "/f", .readWrite, some .syncReader, some .syncWriter⟩ := by decide
  ⟨hh, by decide, sync_writer_keeps_call_order plainMount _ 0 _ hh rfl writeTruncateWriteRun
    (by decide)⟩

end IrodsFs
