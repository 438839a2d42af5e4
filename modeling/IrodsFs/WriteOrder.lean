import IrodsFs.Writer

/-!
# Writes reach the object in call order

The spec gives a handle's write path its meaning through a byte array: the object is what the
accepted writes make of it, applied in call order. The asynchronous writer queues each write, and
its worker, `Flush`, `Fsync` and `Release` hand the queue, oldest first, to the buffered writer,
which merges a write that continues its buffer into it. Merging changes no byte
(`Coalesces.applyWrites_eq`), so while the writer has not failed, the object with the writes the
writer holds applied is the one the spec describes, and a drain that answers `OK` leaves that
object itself. A truncate beside the writes breaks this (`truncate_overtaken_by_queued_write`).
-/

namespace IrodsFs

/-- The spec's reference meaning of a handle's writes: the bytes they make of `content`, applied
in order. -/
def applyWrites (content : List UInt8) (writes : List (Nat × List UInt8)) : List UInt8 :=
  writes.foldl (fun bytes write => writeBytes bytes write.1 write.2) content

@[simp] theorem applyWrites_nil (content : List UInt8) : applyWrites content [] = content := rfl

@[simp] theorem applyWrites_singleton (content : List UInt8) (write : Nat × List UInt8) :
    applyWrites content [write] = writeBytes content write.1 write.2 := rfl

theorem applyWrites_append (content : List UInt8) (writes writes' : List (Nat × List UInt8)) :
    applyWrites content (writes ++ writes') = applyWrites (applyWrites content writes) writes' :=
  List.foldl_append _ _ _ _

/-- A later write overwrites an earlier one where they overlap. -/
example : applyWrites [7, 7, 7] [(1, [1, 2]), (0, [3, 4])] = [3, 4, 2] := by decide

/-- The writes that carry bytes; the buffered writer passes a write of none over. -/
def nonemptyWrites (writes : List (Nat × List UInt8)) : List (Nat × List UInt8) :=
  writes.filter fun write => !write.2.isEmpty

@[simp] theorem nonemptyWrites_nil : nonemptyWrites [] = [] := rfl

@[simp] theorem nonemptyWrites_append (writes writes' : List (Nat × List UInt8)) :
    nonemptyWrites (writes ++ writes') = nonemptyWrites writes ++ nonemptyWrites writes' :=
  List.filter_append _ _

theorem nonemptyWrites_singleton {offset : Nat} {data : List UInt8} (hdata : data ≠ []) :
    nonemptyWrites [(offset, data)] = [(offset, data)] := by
  simp [nonemptyWrites, hdata]

/-- `merged` is `writes` with runs of writes, each starting where the one before it ends, merged
into one write each: what the buffered writer makes of the writes it is given. -/
inductive Coalesces : List (Nat × List UInt8) → List (Nat × List UInt8) → Prop
  | nil : Coalesces [] []
  | start {writes merged : List (Nat × List UInt8)} (write : Nat × List UInt8) :
      Coalesces writes merged → Coalesces (writes ++ [write]) (merged ++ [write])
  | extend {writes merged : List (Nat × List UInt8)} {offset : Nat} {data : List UInt8}
      (write : Nat × List UInt8) : Coalesces writes (merged ++ [(offset, data)]) →
      write.1 = offset + data.length →
      Coalesces (writes ++ [write]) (merged ++ [(offset, data ++ write.2)])

theorem Coalesces.refl (writes : List (Nat × List UInt8)) : Coalesces writes writes := by
  induction writes using List.reverseRecOn with
  | nil => exact .nil
  | append_singleton writes write ih => exact ih.start write

/-- Merging changes no byte of the object. -/
theorem Coalesces.applyWrites_eq {writes merged : List (Nat × List UInt8)}
    (h : Coalesces writes merged) (content : List UInt8) :
    applyWrites content writes = applyWrites content merged := by
  induction h with
  | nil => rfl
  | start write _ ih => rw [applyWrites_append, applyWrites_append, ih]
  | extend write _ hnext ih =>
      rw [applyWrites_append, applyWrites_append, ih, applyWrites_append, applyWrites_singleton,
        applyWrites_singleton, applyWrites_singleton, hnext, writeBytes_append]

/-- What the buffered writer sends for one write, and then holds, carries on the merge of what
it held before. -/
theorem coalesces_bufferedWriteAt {writes merged : List (Nat × List UInt8)} {b : WriteBuffer}
    (h : Coalesces writes (merged ++ b.writes)) (offset : Nat) (data : List UInt8) :
    Coalesces (writes ++ nonemptyWrites [(offset, data)])
      (merged ++ ((bufferedWriteAt b offset data).1 ++ (bufferedWriteAt b offset data).2.writes)) := by
  by_cases hdata : data = []
  · subst hdata
    simpa [nonemptyWrites] using h
  rw [nonemptyWrites_singleton hdata]
  by_cases hcont : b.currentOffset + b.buffer.length = offset
  · rw [bufferedWriteAt_continue hdata hcont]
    by_cases hbuf : b.buffer = []
    -- an empty buffer starts a new run
    · rw [WriteBuffer.writes, if_pos hbuf, List.append_nil] at h
      rw [hbuf, List.length_nil, Nat.add_zero] at hcont
      rw [hbuf, List.nil_append, hcont]
      exact h.start _
    -- a nonempty one grows its run
    · rw [WriteBuffer.writes, if_neg hbuf] at h
      exact h.extend _ hcont.symm
  · rw [bufferedWriteAt_jump hdata hcont, ← List.append_assoc]
    exact h.start _

/-- What `Flush` of the asynchronous writer sends carries on the merge, and leaves nothing held. -/
theorem coalesces_drainWrites {writes merged : List (Nat × List UInt8)} {b : WriteBuffer}
    (h : Coalesces writes (merged ++ b.writes)) (pending : List (Nat × List UInt8)) :
    Coalesces (writes ++ nonemptyWrites pending) (merged ++ drainWrites b pending) := by
  induction pending generalizing writes merged b with
  | nil => simpa [drainWrites] using h
  | cons write rest ih =>
      obtain ⟨offset, data⟩ := write
      have hstep := coalesces_bufferedWriteAt h offset data
      rw [← List.append_assoc] at hstep
      rw [drainWrites, show (offset, data) :: rest = [(offset, data)] ++ rest from rfl,
        nonemptyWrites_append, ← List.append_assoc, ← List.append_assoc]
      exact ih hstep

theorem applyWrites_bufferedWriteAt (content : List UInt8) (b : WriteBuffer) (offset : Nat)
    (data : List UInt8) :
    applyWrites (applyWrites content (bufferedWriteAt b offset data).1)
        (bufferedWriteAt b offset data).2.writes =
      applyWrites content (b.writes ++ nonemptyWrites [(offset, data)]) := by
  rw [← applyWrites_append]
  exact ((@coalesces_bufferedWriteAt _ [] _ (Coalesces.refl _) offset data).applyWrites_eq _).symm

theorem applyWrites_drainWrites (content : List UInt8) (b : WriteBuffer)
    (pending : List (Nat × List UInt8)) :
    applyWrites content (drainWrites b pending) =
      applyWrites content (b.writes ++ nonemptyWrites pending) :=
  ((@coalesces_drainWrites _ [] _ (Coalesces.refl _) pending).applyWrites_eq content).symm

/-- The bytes a writer holds in its buffer, as the write that will send them. -/
def bufferedWrites : Option Writer → List (Nat × List UInt8)
  | some (.asyncWriter _ buffered _) => buffered.writes
  | _ => []

/-- The writes a writer has queued and not handed to its buffer, less those of no bytes. -/
def queuedWrites : Option Writer → List (Nat × List UInt8)
  | some (.asyncWriter pending _ _) => nonemptyWrites pending
  | _ => []

/-- The writes a writer holds, oldest first. -/
def pendingWrites (writer : Option Writer) : List (Nat × List UInt8) :=
  bufferedWrites writer ++ queuedWrites writer

@[simp] theorem bufferedWrites_asyncWriter (pending : List (Nat × List UInt8)) (buffered : WriteBuffer)
    (failed : Bool) : bufferedWrites (some (.asyncWriter pending buffered failed)) = buffered.writes :=
  rfl

@[simp] theorem queuedWrites_asyncWriter (pending : List (Nat × List UInt8)) (buffered : WriteBuffer)
    (failed : Bool) : queuedWrites (some (.asyncWriter pending buffered failed)) = nonemptyWrites pending :=
  rfl

def uploadFailed : Option Writer → Bool
  | some (.asyncWriter _ _ failed) => failed
  | _ => false

/-- The events of handle `id`'s write path. -/
def Event.OnWritePath (id : Nat) : Event → Bool
  | .write j .. | .upload j _ | .flush j _ | .fsync j _ | .release j _ => j == id
  | _ => false

/-- The events that drain handle `id`'s writer and answer. -/
def Event.Drains (id : Nat) : Event → Bool
  | .flush j _ | .fsync j _ | .release j _ => j == id
  | _ => false

/-- The write an event made that the spec counts: a `Write` of data that answered `OK`. -/
def acceptedWrite (e : Event) (reply : Option Errno) : List (Nat × List UInt8) :=
  match e with
  | .write _ data offset _ =>
      if reply = some .OK ∧ data ≠ [] then [(offset.toNat, data)] else []
  | _ => []

theorem acceptedWrite_ok {id : Nat} {data : List UInt8} {offset : Int} {written : Bool}
    (hdata : data ≠ []) :
    acceptedWrite (.write id data offset written) (some .OK) = [(offset.toNat, data)] :=
  if_pos ⟨rfl, hdata⟩

theorem acceptedWrite_rejected {id : Nat} {data : List UInt8} {offset : Int} {written : Bool}
    {reply : Errno} (h : reply ≠ .OK ∨ data = []) :
    acceptedWrite (.write id data offset written) (some reply) = [] :=
  if_neg fun ⟨hok, hdata⟩ => h.elim (· (Option.some.inj hok)) hdata

/-- The writes of a run the filesystem accepted, in call order. -/
def acceptedWrites (cfg : Config) : State → List Event → List (Nat × List UInt8)
  | _, [] => []
  | s, e :: events =>
      acceptedWrite e (s.step cfg e).2 ++ acceptedWrites cfg (s.step cfg e).1 events

namespace State

@[simp] theorem objects_setWriter (s : State) (id : Nat) (writer : Option Writer) :
    (s.setWriter id writer).objects = s.objects := rfl

@[simp] theorem objects_writeObject (s : State) (path : String) (offset : Nat) (data : List UInt8) :
    (s.writeObject path offset data).objects path = writeBytes (s.objects path) offset data := by
  simp [writeObject]

theorem objects_closeFunc (cfg : Config) (s : State) (id : Nat) (handle : FileHandle) :
    (closeFunc cfg s id handle).objects = s.objects := by
  unfold closeFunc
  split <;> rfl

theorem handles_setWriter_self {s : State} {id : Nat} {handle : FileHandle}
    (hh : s.handles id = some handle) (writer : Option Writer) :
    (s.setWriter id writer).handles id = some { handle with writer } := by
  simp [setWriter, updateHandle, hh]

/-! ### Backend writes apply in order -/

theorem uploadAll_objects (id : Nat) (handle : FileHandle) (s : State)
    (pending : List (Nat × List UInt8)) (failAt : Option Nat)
    (h : (s.uploadAll id handle pending failAt).2 = false) :
    (s.uploadAll id handle pending failAt).1.objects handle.path =
      applyWrites (s.objects handle.path) pending := by
  induction pending generalizing s failAt with
  | nil => rfl
  | cons write rest ih =>
      unfold uploadAll at h ⊢
      rcases failAt with _ | _ | k
      · rw [ih _ _ h, objects_writeObject]; rfl
      · cases h
      · rw [ih _ _ h, objects_writeObject]; rfl

/-- A writer flush that reports no error had a writer that had not failed, sent everything it
held, and leaves an empty writer. -/
theorem writerFlush_ok {s : State} {id : Nat} {handle : FileHandle} {writer : Writer}
    {failAt : Option Nat} (h : (s.writerFlush id handle writer failAt).2.2 = false) :
    uploadFailed (some writer) = false ∧
      (s.writerFlush id handle writer failAt).1.objects handle.path =
        applyWrites (s.objects handle.path) (pendingWrites (some writer)) ∧
      pendingWrites (some (s.writerFlush id handle writer failAt).2.1) = [] := by
  cases writer with
  | nilWriter => exact ⟨rfl, rfl, rfl⟩
  | syncWriter => exact ⟨rfl, rfl, rfl⟩
  | asyncWriter pending buffered failed =>
      cases failed
      · exact ⟨rfl, (uploadAll_objects id handle s _ failAt h).trans
          (applyWrites_drainWrites _ buffered pending), rfl⟩
      · cases h

/-- A writer flush that reports an error leaves a failed writer. -/
theorem writerFlush_error {s : State} {id : Nat} {handle : FileHandle} {writer : Writer}
    {failAt : Option Nat} (h : (s.writerFlush id handle writer failAt).2.2 = true) :
    uploadFailed (some (s.writerFlush id handle writer failAt).2.1) = true := by
  cases writer with
  | nilWriter => cases h
  | syncWriter => cases h
  | asyncWriter pending buffered failed =>
      cases failed
      · exact h
      · rfl

theorem releaseWriter_ok {s : State} {id : Nat} {handle : FileHandle} {failAt : Option Nat}
    (h : (s.releaseWriter id handle failAt).2.2 = false) :
    uploadFailed handle.writer = false ∧
      (s.releaseWriter id handle failAt).1.objects handle.path =
        applyWrites (s.objects handle.path) (pendingWrites handle.writer) := by
  unfold releaseWriter at h ⊢
  revert h
  rcases handle.writer with _ | writer
  · exact fun _ => ⟨rfl, rfl⟩
  · exact fun h => ⟨(writerFlush_ok h).1, (writerFlush_ok h).2.1⟩

theorem releaseWriter_error {s : State} {id : Nat} {handle : FileHandle} {failAt : Option Nat}
    (h : (s.releaseWriter id handle failAt).2.2 = true) :
    uploadFailed (s.releaseWriter id handle failAt).2.1 = true := by
  unfold releaseWriter at h ⊢
  revert h
  rcases handle.writer with _ | writer
  · exact fun h => absurd h Bool.false_ne_true
  · exact writerFlush_error

/-! ### The invariant -/

/-- Handle `id` serves `path`, and unless its writer has failed, the object with the writes the
writer holds applied is `content` with `accepted` applied. -/
def WritesApplied (s : State) (id : Nat) (path : String) (content : List UInt8)
    (accepted : List (Nat × List UInt8)) : Prop :=
  ∀ handle, s.handles id = some handle → handle.path = path ∧
    (uploadFailed handle.writer = false →
      applyWrites (s.objects path) (pendingWrites handle.writer) = applyWrites content accepted)

section Invariant

variable {s : State} {id : Nat} {path : String} {content : List UInt8}
  {accepted : List (Nat × List UInt8)}

theorem writesApplied_of_handle {handle : FileHandle} (hh : s.handles id = some handle)
    (hpath : handle.path = path)
    (happlied : uploadFailed handle.writer = false →
      applyWrites (s.objects path) (pendingWrites handle.writer) = applyWrites content accepted) :
    s.WritesApplied id path content accepted := fun handle' hh' => by
  cases hh.symm.trans hh'
  exact ⟨hpath, happlied⟩

theorem WritesApplied.of_eq {s' : State} (hs : s.WritesApplied id path content accepted)
    (hhandles : s'.handles id = s.handles id) (hobjects : s'.objects path = s.objects path) :
    s'.WritesApplied id path content accepted := fun handle hh => by
  rw [hobjects]
  exact hs handle (hhandles ▸ hh)

end Invariant

/-! ### Each handler of the write path keeps it -/

section Handler

variable {s : State} {id : Nat} {handle : FileHandle} {path : String} {content : List UInt8}
  {accepted : List (Nat × List UInt8)} (hs : s.WritesApplied id path content accepted)
  (hh : s.handles id = some handle)
include hs hh

theorem writesApplied_handleWrite (data : List UInt8) (offset : Int) (written : Bool) :
    (s.handleWrite id handle data offset written).1.WritesApplied id path content
      (accepted ++ acceptedWrite (.write id data offset written)
        (some (s.handleWrite id handle data offset written).2.2)) := by
  obtain ⟨rfl, happlied⟩ := hs handle hh
  rcases handleWrite_cases s id handle data offset written
    with ⟨h, hreply⟩ | ⟨-, hsync, ⟨h, hreply⟩ | ⟨hdata, h, hok⟩⟩ |
      ⟨-, hdata, pending, buffered, hasync, h, hok⟩
  -- a rejected write changes no object and is not counted
  · rw [acceptedWrite_rejected hreply, List.append_nil, h]
    exact hs
  · rw [acceptedWrite_rejected (.inl hreply), List.append_nil, h]
    exact hs.of_eq rfl rfl
  -- the synchronous writer writes the object at once
  · rw [hok, acceptedWrite_ok hdata, h]
    refine writesApplied_of_handle hh rfl fun _ => ?_
    rw [hsync] at happlied ⊢
    rw [objects_writeObject, applyWrites_append, ← happlied rfl]
    rfl
  -- the asynchronous writer queues it behind the others
  · rw [hok, acceptedWrite_ok hdata, h]
    refine writesApplied_of_handle (handles_setWriter_self hh _) rfl fun _ => ?_
    have happlied : applyWrites (s.objects handle.path) (buffered.writes ++ nonemptyWrites pending) =
        applyWrites content accepted := by
      rw [hasync] at happlied
      exact happlied rfl
    change applyWrites (s.objects handle.path)
      (buffered.writes ++ nonemptyWrites (pending ++ [(offset.toNat, data)])) = _
    rw [nonemptyWrites_append, nonemptyWrites_singleton hdata, ← List.append_assoc,
      applyWrites_append, happlied, applyWrites_append]

theorem writesApplied_upload (failAt : Option Nat) :
    (s.upload id handle failAt).WritesApplied id path content accepted := by
  obtain ⟨rfl, happlied⟩ := hs handle hh
  rcases upload_cases s id handle failAt
    with h | ⟨offset, data, rest, buffered, hasync, ⟨hup, h⟩ | h⟩ <;> rw [h]
  · exact hs
  all_goals have hh' := (congrFun (handles_uploadAll id handle s
    (bufferedWriteAt buffered offset data).1 failAt) id).trans hh
  -- the oldest write goes through the buffer, and what it sends reaches the object
  · refine writesApplied_of_handle (handles_setWriter_self hh' _) rfl fun _ => ?_
    rw [hasync] at happlied
    change applyWrites _ ((bufferedWriteAt buffered offset data).2.writes ++ nonemptyWrites rest) = _
    rw [objects_setWriter, uploadAll_objects id handle s _ failAt hup,
      applyWrites_append _ (bufferedWriteAt buffered offset data).2.writes,
      applyWrites_bufferedWriteAt, ← applyWrites_append, List.append_assoc, ← nonemptyWrites_append]
    exact happlied rfl
  -- a failed backend write fails the writer
  · exact writesApplied_of_handle (handles_setWriter_self hh' _) rfl nofun

/-- A writer flush that reports no error leaves the object the invariant describes. -/
theorem objects_writerFlush_ok {writer : Writer} {failAt : Option Nat}
    (hwriter : handle.writer = some writer)
    (hflushed : (s.writerFlush id handle writer failAt).2.2 = false) :
    (s.writerFlush id handle writer failAt).1.objects path = applyWrites content accepted := by
  obtain ⟨rfl, happlied⟩ := hs handle hh
  obtain ⟨hfailed, hobjects, -⟩ := writerFlush_ok hflushed
  rw [hobjects, ← hwriter]
  exact happlied (hwriter ▸ hfailed)

theorem objects_releaseWriter_ok {failAt : Option Nat}
    (hreleased : ((s.clearReader id).releaseWriter id handle failAt).2.2 = false) :
    ((s.clearReader id).releaseWriter id handle failAt).1.objects path =
      applyWrites content accepted := by
  obtain ⟨rfl, happlied⟩ := hs handle hh
  obtain ⟨hfailed, hobjects⟩ := releaseWriter_ok hreleased
  exact hobjects.trans (happlied hfailed)

theorem writesApplied_handleFlush (failAt : Option Nat) :
    (s.handleFlush id handle failAt).1.WritesApplied id path content accepted := by
  obtain ⟨rfl, -⟩ := hs handle hh
  rcases handleFlush_cases s id handle failAt with ⟨h, -⟩ | ⟨writer, hwriter, h⟩ <;> rw [h]
  · exact hs
  have hh' := (congrFun (handles_writerFlush s id handle writer failAt) id).trans hh
  refine writesApplied_of_handle (handles_setWriter_self hh' _) rfl fun hnot => ?_
  cases hflushed : (s.writerFlush id handle writer failAt).2.2
  -- the writer is stored back empty
  · rw [objects_setWriter, (writerFlush_ok hflushed).2.2, applyWrites_nil]
    exact objects_writerFlush_ok hs hh hwriter hflushed
  -- or failed
  · exact absurd (hnot.symm.trans (writerFlush_error hflushed)) Bool.false_ne_true

theorem writesApplied_handleRelease (cfg : Config) (o : ReleaseOutcome) :
    (handleRelease cfg s id handle o).1.WritesApplied id path content accepted := by
  obtain ⟨rfl, -⟩ := hs handle hh
  have hh' : ((s.clearReader id).releaseWriter id handle o.writerFailAt).1.handles id =
      some { handle with reader := none } := by
    rw [handles_releaseWriter]
    simp [clearReader, updateHandle, hh]
  -- once the writer is released and dropped, the object is the one the spec describes
  have hdropped (hok : ((s.clearReader id).releaseWriter id handle o.writerFailAt).2.2 = false) :
      WritesApplied (((s.clearReader id).releaseWriter id handle o.writerFailAt).1.setWriter id none)
        id handle.path content accepted :=
    writesApplied_of_handle (handles_setWriter_self hh' _) rfl fun _ =>
      objects_releaseWriter_ok hs hh hok
  rcases handleRelease_cases cfg s id handle o rfl
    with ⟨h, -⟩ | ⟨hfailed, h⟩ | ⟨hok, -, h⟩ | ⟨hok, -, h⟩ <;> rw [h]
  · exact hs
  -- a failed writer is stored back failed
  · exact writesApplied_of_handle (handles_setWriter_self hh' _) rfl fun hnot =>
      absurd (hnot.symm.trans (releaseWriter_error hfailed)) Bool.false_ne_true
  · exact (hdropped hok).of_eq rfl rfl
  · exact (hdropped hok).of_eq (congrFun (handles_closeFunc _ _ _ _) id)
      (congrFun (objects_closeFunc _ _ _ _) _)

/-- A `Flush` that answers `OK` has uploaded the whole queue: the object is the one the
invariant describes. -/
theorem objects_handleFlush_ok (failAt : Option Nat)
    (hok : (s.handleFlush id handle failAt).2 = .OK) :
    (s.handleFlush id handle failAt).1.objects path = applyWrites content accepted := by
  obtain ⟨rfl, happlied⟩ := hs handle hh
  rcases handleFlush_cases s id handle failAt with ⟨h, hnone⟩ | ⟨writer, hwriter, h⟩
  -- a handle with no writer has nothing queued
  · rw [h]
    rw [hnone hok] at happlied
    exact happlied rfl
  -- otherwise the writer uploaded its whole queue
  · rw [h] at hok ⊢
    cases hflushed : (s.writerFlush id handle writer failAt).2.2
    · exact objects_writerFlush_ok hs hh hwriter hflushed
    · rw [hflushed] at hok
      cases hok

/-- A `Release` that answers `OK` has released the writer with no error: the object is the one
the invariant describes. -/
theorem objects_handleRelease_ok (cfg : Config) (o : ReleaseOutcome)
    (hok : (handleRelease cfg s id handle o).2 = .OK) :
    (handleRelease cfg s id handle o).1.objects path = applyWrites content accepted := by
  rcases handleRelease_cases cfg s id handle o rfl
    with ⟨-, hne⟩ | ⟨-, h⟩ | ⟨hreleased, -, h⟩ | ⟨hreleased, -, h⟩
  · exact absurd hok hne
  · rw [h] at hok
    cases hok
  · rw [h]
    exact objects_releaseWriter_ok hs hh hreleased
  · rw [h]
    exact (congrFun (objects_closeFunc _ _ _ _) _).trans (objects_releaseWriter_ok hs hh hreleased)

end Handler

/-! ### Along a run -/

section Run

variable {id : Nat} {path : String} {content : List UInt8}

/-- **One event of the handle's write path keeps the invariant**, with the write it accepted
added after the others. -/
theorem writesApplied_step (cfg : Config) (s : State) (e : Event) (he : e.OnWritePath id = true)
    {accepted : List (Nat × List UInt8)} (hs : s.WritesApplied id path content accepted) :
    (s.step cfg e).1.WritesApplied id path content
      (accepted ++ acceptedWrite e (s.step cfg e).2) := by
  cases e with
  | write j data offset written =>
      obtain rfl : j = id := beq_iff_eq.mp he
      simp only [step]
      split
      · exact writesApplied_handleWrite hs (liveHandle?_eq_some ‹_›).2 data offset written
      · rw [show acceptedWrite (.write j data offset written) none = [] from rfl, List.append_nil]
        exact hs
  | upload j failAt =>
      obtain rfl : j = id := beq_iff_eq.mp he
      simp only [acceptedWrite, List.append_nil, step]
      split
      · exact writesApplied_upload hs ‹_› failAt
      · exact hs
  | flush j failAt | fsync j failAt =>
      obtain rfl : j = id := beq_iff_eq.mp he
      simp only [acceptedWrite, List.append_nil, step]
      split
      · exact writesApplied_handleFlush hs (liveHandle?_eq_some ‹_›).2 failAt
      · exact hs
  | release j o =>
      obtain rfl : j = id := beq_iff_eq.mp he
      simp only [acceptedWrite, List.append_nil, step]
      split
      · rename_i handle hlive
        exact writesApplied_handleRelease (s := { s with released := s.released ++ [j] }) hs
          (liveHandle?_eq_some hlive).2 cfg o
      · exact hs
  | «open» | truncate | setattr | fileSetattr | truncateResume | setxattr | removexattr
  | runCloseTask | terminate => cases he

/-- The invariant along a run of the handle's write path, with the writes the run accepted. -/
theorem writesApplied_run (cfg : Config) :
    ∀ (s : State) (events : List Event) {accepted : List (Nat × List UInt8)},
      (∀ e ∈ events, e.OnWritePath id = true) → s.WritesApplied id path content accepted →
      (run cfg s events).WritesApplied id path content (accepted ++ acceptedWrites cfg s events)
  | _, [], _, _, hs => by rw [acceptedWrites, List.append_nil]; exact hs
  | s, e :: events, _, hevents, hs => by
      rw [acceptedWrites, ← List.append_assoc]
      exact writesApplied_run cfg _ events (fun e' he' => hevents e' (.tail _ he'))
        (writesApplied_step cfg s e (hevents e (.head _)) hs)

/-- **A `Flush`, `Fsync` or `Release` that answers `OK` has drained the writer**, so the object
itself is the one the invariant describes. -/
theorem objects_of_drain_ok (cfg : Config) {s : State} {accepted : List (Nat × List UInt8)}
    (hs : s.WritesApplied id path content accepted) (e : Event) (he : e.Drains id = true)
    (hok : (s.step cfg e).2 = some .OK) :
    (s.step cfg e).1.objects path = applyWrites content accepted := by
  cases e with
  | flush j failAt | fsync j failAt =>
      obtain rfl : j = id := beq_iff_eq.mp he
      rcases hlive : s.liveHandle? j with _ | handle <;> simp only [step, hlive] at hok ⊢
      · cases hok
      · exact objects_handleFlush_ok hs (liveHandle?_eq_some hlive).2 failAt (Option.some.inj hok)
  | release j o =>
      obtain rfl : j = id := beq_iff_eq.mp he
      rcases hlive : s.liveHandle? j with _ | handle <;> simp only [step, hlive] at hok ⊢
      · cases hok
      · exact objects_handleRelease_ok (s := { s with released := s.released ++ [j] }) hs
          (liveHandle?_eq_some hlive).2 cfg o (Option.some.inj hok)
  | «open» | write | truncate | setattr | fileSetattr | truncateResume | setxattr | removexattr
  | upload | runCloseTask | terminate => cases he

end Run

end State

/-- **Writes reach the object in call order.** From any handle, over any events of its write
path, while the writer has not failed the object with the writes the writer holds applied is
what the writes it held at the start and then those the run accepted make of the starting
object; once a `Flush`, `Fsync` or `Release` answers `OK`, the object itself is. -/
theorem flushed_writes_applied_in_order (cfg : Config) (s : State) (id : Nat) (handle : FileHandle)
    (hh : s.handles id = some handle) (events : List Event)
    (hevents : ∀ e ∈ events, e.OnWritePath id = true) :
    (run cfg s events).WritesApplied id handle.path (s.objects handle.path)
        (pendingWrites handle.writer ++ acceptedWrites cfg s events) ∧
      ∀ e, e.Drains id = true → ((run cfg s events).step cfg e).2 = some .OK →
        ((run cfg s events).step cfg e).1.objects handle.path =
          applyWrites (s.objects handle.path)
            (pendingWrites handle.writer ++ acceptedWrites cfg s events) := by
  have hrun := State.writesApplied_run cfg s events hevents
    (State.writesApplied_of_handle hh rfl fun _ => rfl)
  exact ⟨hrun, State.objects_of_drain_ok cfg hrun⟩

/-- A write of two bytes at offset 1, the worker handing it to the buffer, and a write of one
byte at offset 3 that continues it, on the handle `openWriteRun` opens. -/
def writeUploadWriteRun : List Event :=
  [.write 0 [1, 2] 1 true, .upload 0 none, .write 0 [3] 3 true]

/-- The object held three bytes; after `Flush` it holds both writes. -/
theorem flushed_writes_applied_in_order_after_upload :
    (run plainMount (State.init fun _ => [7, 7, 7]) openWriteRun).handles 0 =
        some ⟨"/f", "/f", .writeOnly, some .nilReader, some (.asyncWriter [] ⟨0, []⟩ false)⟩ ∧
      (∀ e ∈ writeUploadWriteRun, e.OnWritePath 0 = true) ∧
      ((run plainMount (run plainMount (State.init fun _ => [7, 7, 7]) openWriteRun)
          writeUploadWriteRun).step plainMount (.flush 0 none)).2 = some .OK ∧
      ((run plainMount (run plainMount (State.init fun _ => [7, 7, 7]) openWriteRun)
          writeUploadWriteRun).step plainMount (.flush 0 none)).1.objects "/f" =
        applyWrites ((run plainMount (State.init fun _ => [7, 7, 7]) openWriteRun).objects "/f")
          (pendingWrites (some (.asyncWriter [] ⟨0, []⟩ false)) ++
            acceptedWrites plainMount (run plainMount (State.init fun _ => [7, 7, 7]) openWriteRun)
              writeUploadWriteRun) :=
  have hh : (run plainMount (State.init fun _ => [7, 7, 7]) openWriteRun).handles 0 =
      some ⟨"/f", "/f", .writeOnly, some .nilReader, some (.asyncWriter [] ⟨0, []⟩ false)⟩ := by
    decide
  have hok : ((run plainMount (run plainMount (State.init fun _ => [7, 7, 7]) openWriteRun)
      writeUploadWriteRun).step plainMount (.flush 0 none)).2 = some .OK := by decide
  ⟨hh, by decide, hok, (flushed_writes_applied_in_order plainMount
    (run plainMount (State.init fun _ => [7, 7, 7]) openWriteRun) 0 _ hh writeUploadWriteRun
    (by decide)).2 (.flush 0 none) rfl hok⟩

end IrodsFs
