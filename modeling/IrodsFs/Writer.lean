import IrodsFs.Truncate

/-!
# Writes through the asynchronous writer

A handle opened write-only writes through a buffered asynchronous writer: `Write` queues the bytes
and returns, and the queue reaches the backend handle when the worker uploads it or when `Flush`,
`Fsync` or `Release` drain it. `FileHandle.Truncate` does not go through the writer at all: it
calls the backend handle at once. Two things follow. A truncate issued after writes that are
still queued is overtaken by them. And a truncate after the writer has failed still reaches the
backend, although `Write`, `Flush` and `Fsync` keep failing.
-/

namespace IrodsFs

/-- Four bytes written at offset 0 and, while they are still queued, a truncate to two bytes;
then `Flush`. -/
def truncateBehindWriteRun : List Event :=
  [.open "/f" O_WRONLY ⟨true, .ok (), true⟩, .write 0 [1, 2, 3, 4] 0 true, .truncate 0 2 true,
    .flush 0 none]

/-- **A queued write overtakes a later truncate.** Every call succeeds, and after `Flush` the
object holds the four bytes, where the same write and truncate applied in order leave two. -/
theorem truncate_overtaken_by_queued_write :
    replies plainMount (State.init fun _ => []) truncateBehindWriteRun =
        [some .OK, some .OK, some .OK, some .OK] ∧
      (run plainMount (State.init fun _ => []) truncateBehindWriteRun).objects "/f" = [1, 2, 3, 4] ∧
      truncateBytes (writeBytes [] 0 [1, 2, 3, 4]) 2 = [1, 2] := by
  decide

/-- A write that fails to upload when `Flush` drains it, then a truncate to size 0 of the object,
which held three bytes. -/
def truncateAfterWriterErrorRun : List Event :=
  [.open "/f" O_WRONLY ⟨true, .ok (), true⟩, .write 0 [1, 2] 0 true, .flush 0 (some 0),
    .truncate 0 0 true]

/-- **A truncate ignores the writer's error.** `Flush` answers `EREMOTEIO` and leaves the object
alone; the truncate after it answers `OK` and empties the object. -/
theorem truncate_ignores_writer_error :
    replies plainMount (State.init fun _ => [7, 7, 7]) truncateAfterWriterErrorRun =
        [some .OK, some .OK, some Errno.EREMOTEIO, some .OK] ∧
      (run plainMount (State.init fun _ => [7, 7, 7]) (truncateAfterWriterErrorRun.take 3)).objects
        "/f" = [7, 7, 7] ∧
      (run plainMount (State.init fun _ => [7, 7, 7]) truncateAfterWriterErrorRun).objects "/f" =
        [] := by
  decide

/-! ### The writer's error is sticky -/

namespace State

/-- The asynchronous writer of handle `id` has recorded an error. -/
def WriterFailed (s : State) (id : Nat) : Prop :=
  ∃ handle pending buffered, s.handles id = some handle ∧
    handle.writer = some (.asyncWriter pending buffered true)

/-- Every handle whose writer had failed still has a failed writer. -/
def KeepsFailed (s s' : State) : Prop :=
  ∀ id, s.WriterFailed id → s'.WriterFailed id

theorem KeepsFailed.refl (s : State) : KeepsFailed s s := fun _ h => h

theorem KeepsFailed.trans {s₁ s₂ s₃ : State} (h₁ : KeepsFailed s₁ s₂) (h₂ : KeepsFailed s₂ s₃) :
    KeepsFailed s₁ s₃ :=
  fun id h => h₂ id (h₁ id h)

theorem writerFailed_of_handles {s s' : State} (h : s'.handles = s.handles) {id : Nat} :
    s'.WriterFailed id ↔ s.WriterFailed id := by
  simp only [WriterFailed, h]

theorem keepsFailed_of_handles {s s' : State} (h : s'.handles = s.handles) : KeepsFailed s s' :=
  fun _ hf => (writerFailed_of_handles h).mpr hf

theorem WriterFailed.writer {s : State} {id : Nat} {handle : FileHandle}
    (hf : s.WriterFailed id) (hh : s.handles id = some handle) :
    ∃ pending buffered, handle.writer = some (.asyncWriter pending buffered true) := by
  obtain ⟨handle', pending, buffered, hh', hw⟩ := hf
  cases hh.symm.trans hh'
  exact ⟨pending, buffered, hw⟩

theorem keepsFailed_setWriter {s : State} {j : Nat} {writer : Option Writer}
    (hw : s.WriterFailed j → ∃ pending buffered, writer = some (.asyncWriter pending buffered true)) :
    KeepsFailed s (s.setWriter j writer) := by
  intro id ⟨handle, pending, buffered, hh, hwr⟩
  by_cases hid : id = j
  · subst hid
    obtain ⟨pending', buffered', rfl⟩ := hw ⟨handle, pending, buffered, hh, hwr⟩
    exact ⟨{ handle with writer := some (.asyncWriter pending' buffered' true) }, pending',
      buffered', by simp [setWriter, updateHandle, hh], rfl⟩
  · exact ⟨handle, pending, buffered, by simp [setWriter, updateHandle, hid, hh], hwr⟩

theorem writerFailed_clearReader (s : State) (j id : Nat) :
    (s.clearReader j).WriterFailed id ↔ s.WriterFailed id := by
  by_cases hid : id = j
  · subst hid
    cases hh : s.handles id <;> simp [WriterFailed, clearReader, updateHandle, hh]
  · simp [WriterFailed, clearReader, updateHandle, hid]

theorem keepsFailed_clearReader (s : State) (j : Nat) : KeepsFailed s (s.clearReader j) :=
  fun id hf => (writerFailed_clearReader s j id).mpr hf

/-- `Open` stores its handle under a fresh ID, so no failed writer is lost. -/
theorem keepsFailed_fileOpen (cfg : Config) (s : State) (path : String) (flags : UInt32)
    (o : OpenOutcome) (hfresh : s.handles s.nextID = none) :
    KeepsFailed s (s.fileOpen cfg path flags o).1 := by
  have hopened : ∀ s' : State, s'.handles = s.handles → s'.nextID = s.nextID →
      ∀ irodsPath openMode readerCreated,
        KeepsFailed s (openedFile cfg s' path irodsPath openMode readerCreated).1 := by
    intro s' hhandles hnext irodsPath openMode readerCreated id ⟨handle, pending, buffered, hh, hw⟩
    have hne : id ≠ s.nextID := fun h => by rw [h, hfresh] at hh; cases hh
    refine ⟨handle, pending, buffered, ?_, hw⟩
    unfold openedFile
    cases cfg.reporting <;> cases newFileHandle path irodsPath openMode readerCreated <;>
      simp [record, hhandles, hnext, hne, hh]
  rcases fileOpen_cases cfg s path flags o with h | ⟨_, _, -, -, -, -, -, h | h⟩ <;> rw [h]
  · exact KeepsFailed.refl _
  · exact keepsFailed_of_handles rfl
  · exact hopened (State.record _ _ _) rfl rfl _ _ _

/-! Handlers that leave every `FileHandle` as it is. -/

theorem handles_uploadAll (id : Nat) (handle : FileHandle) (s : State)
    (pending : List (Nat × List UInt8)) (failAt : Option Nat) :
    (s.uploadAll id handle pending failAt).1.handles = s.handles := by
  obtain ⟨_, _, h⟩ := uploadAll_frame id handle s pending failAt
  rw [h]

@[simp]
theorem writerFlush_failed (s : State) (id : Nat) (handle : FileHandle)
    (pending : List (Nat × List UInt8)) (buffered : WriteBuffer) (failAt : Option Nat) :
    s.writerFlush id handle (.asyncWriter pending buffered true) failAt =
      (s, .asyncWriter pending buffered true, true) := rfl

theorem handles_writerFlush (s : State) (id : Nat) (handle : FileHandle) (writer : Writer)
    (failAt : Option Nat) : (s.writerFlush id handle writer failAt).1.handles = s.handles := by
  unfold writerFlush
  split
  · rfl
  · rfl
  · split
    · rfl
    · exact handles_uploadAll _ _ _ _ _

theorem handles_handleTruncate (s : State) (id : Nat) (handle : FileHandle) (size : UInt64)
    (truncated : Bool) : (s.handleTruncate id handle size truncated).1.handles = s.handles := by
  rcases handleTruncate_cases s id handle size truncated with h | ⟨-, h | h⟩ <;> rw [h] <;> rfl

theorem handles_truncateLoop (size : UInt64) (truncated : Bool) (s : State) (ids : List Nat) :
    (truncateLoop size truncated s ids).1.handles = s.handles := by
  rw [truncateLoop_eq]
  split
  · split <;> exact handles_handleTruncate _ _ _ _ _
  · rfl

theorem handles_truncateFinish (s : State) (task : TruncateTask) (o : TruncateOutcome) :
    (truncateFinish s task o).1.handles = s.handles := by
  rcases truncateFinish_cases s task o with h | h | h <;> rw [h] <;>
    exact handles_truncateLoop _ _ _ _

theorem handles_releaseWriter (s : State) (id : Nat) (handle : FileHandle) (failAt : Option Nat) :
    (s.releaseWriter id handle failAt).1.handles = s.handles := by
  unfold releaseWriter
  split
  · exact handles_writerFlush _ _ _ _ _
  · rfl

theorem handles_closeFunc (cfg : Config) (s : State) (id : Nat) (handle : FileHandle) :
    (closeFunc cfg s id handle).handles = s.handles := by
  unfold closeFunc
  split <;> rfl

theorem handles_fileSetattr (cfg : Config) (s : State) (path : String) (size : Option UInt64)
    (o : LookupOutcome) : (s.fileSetattr cfg path size o).1.handles = s.handles := by
  unfold fileSetattr truncateLookup
  repeat' split
  all_goals rfl

theorem keepsFailed_handleSetattr (s : State) (id : Nat) (handle : FileHandle)
    (size : Option UInt64) (truncated : Bool) :
    KeepsFailed s (s.handleSetattr id handle size truncated).1 := by
  unfold handleSetattr
  repeat' split
  all_goals first
    | exact KeepsFailed.refl _
    | exact keepsFailed_of_handles (handles_handleTruncate _ _ _ _ _)

/-! Handlers that touch the writer of the handle they serve. -/

section Handler

variable {s : State} {id : Nat} {handle : FileHandle} (hh : s.handles id = some handle)
include hh

theorem keepsFailed_handleWrite (data : List UInt8) (offset : Int) (written : Bool) :
    KeepsFailed s (s.handleWrite id handle data offset written).1 := by
  rcases handleWrite_cases s id handle data offset written
    with ⟨h, -⟩ | ⟨-, -, ⟨h, -⟩ | ⟨-, h, -⟩⟩ | ⟨-, -, pending, buffered, hw, h, -⟩ <;> rw [h]
  · exact KeepsFailed.refl _
  · exact keepsFailed_of_handles rfl
  · exact keepsFailed_of_handles rfl
  -- only a writer that has not failed takes the write
  refine keepsFailed_setWriter fun hf => ?_
  obtain ⟨pending', buffered', hw'⟩ := hf.writer hh
  cases hw.symm.trans hw'

theorem keepsFailed_handleFlush (failAt : Option Nat) :
    KeepsFailed s (s.handleFlush id handle failAt).1 := by
  unfold handleFlush
  split
  · exact KeepsFailed.refl _
  · split
    · exact KeepsFailed.refl _
    · rename_i writer hwriter
      refine (keepsFailed_of_handles (handles_writerFlush _ _ _ _ _)).trans
        (keepsFailed_setWriter fun hf => ?_)
      obtain ⟨pending, buffered, hw⟩ :=
        ((writerFailed_of_handles (handles_writerFlush _ _ _ _ _)).mp hf).writer hh
      cases hwriter.symm.trans hw
      exact ⟨pending, buffered, rfl⟩

theorem keepsFailed_handleRelease (cfg : Config) (o : ReleaseOutcome) :
    KeepsFailed s (handleRelease cfg s id handle o).1 := by
  have hkeep := (keepsFailed_clearReader s id).trans
    (keepsFailed_of_handles (handles_releaseWriter (s.clearReader id) id handle o.writerFailAt))
  have hrelease : s.WriterFailed id →
      ∃ pending buffered, ((s.clearReader id).releaseWriter id handle o.writerFailAt).2 =
        (some (.asyncWriter pending buffered true), true) := by
    intro hf
    obtain ⟨pending, buffered, hw⟩ := hf.writer hh
    exact ⟨pending, buffered, by simp [releaseWriter, hw, writerFlush]⟩
  have hback : ((s.clearReader id).releaseWriter id handle o.writerFailAt).1.WriterFailed id →
      s.WriterFailed id := fun hf =>
    (writerFailed_clearReader s id id).mp
      ((writerFailed_of_handles (handles_releaseWriter _ _ _ _)).mp hf)
  rcases handleRelease_cases cfg s id handle o rfl
    with ⟨h, -⟩ | ⟨-, h⟩ | ⟨hfailed, -, h⟩ | ⟨hfailed, -, h⟩ <;> rw [h]
  · exact KeepsFailed.refl _
  · refine hkeep.trans (keepsFailed_setWriter fun hf => ?_)
    obtain ⟨pending, buffered, hp⟩ := hrelease (hback hf)
    exact ⟨pending, buffered, by rw [hp]⟩
  -- a writer that had failed reports it, so `Release` does not get this far
  · refine hkeep.trans (keepsFailed_setWriter fun hf => ?_)
    obtain ⟨pending, buffered, hp⟩ := hrelease (hback hf)
    simp [hp] at hfailed
  · refine hkeep.trans ((keepsFailed_setWriter fun hf => ?_).trans
      (keepsFailed_of_handles (handles_closeFunc _ _ _ _)))
    obtain ⟨pending, buffered, hp⟩ := hrelease (hback hf)
    simp [hp] at hfailed

theorem keepsFailed_upload (failAt : Option Nat) : KeepsFailed s (s.upload id handle failAt) := by
  rcases upload_cases s id handle failAt
    with h | ⟨offset, data, _, buffered, hwriter, ⟨-, h⟩ | h⟩ <;> rw [h]
  · exact KeepsFailed.refl _
  -- the writer uploads only while it has not failed
  all_goals
    have hnot : ¬ s.WriterFailed id := fun hf => by
      obtain ⟨pending, buffered, hw⟩ := hf.writer hh
      cases hwriter.symm.trans hw
    have hhandles := handles_uploadAll id handle s (bufferedWriteAt buffered offset data).1 failAt
    exact (keepsFailed_of_handles hhandles).trans
      (keepsFailed_setWriter fun hf => absurd ((writerFailed_of_handles hhandles).mp hf) hnot)

theorem handleWrite_of_writerFailed (hf : s.WriterFailed id) {data : List UInt8}
    (hdata : data ≠ []) (offset : Int) (written : Bool) :
    (s.handleWrite id handle data offset written).1 = s ∧
      (s.handleWrite id handle data offset written).2.2 ≠ .OK := by
  obtain ⟨pending, buffered, hw⟩ := hf.writer hh
  have hlen : data.length ≠ 0 := fun h => hdata (List.length_eq_zero.mp h)
  unfold handleWrite
  simp only [hw, hlen, if_false]
  split_ifs <;> exact ⟨rfl, by dsimp only; decide⟩

theorem handleFlush_of_writerFailed (hf : s.WriterFailed id) (failAt : Option Nat) :
    (s.handleFlush id handle failAt).1.objects = s.objects ∧
      (s.handleFlush id handle failAt).2 ≠ .OK := by
  obtain ⟨pending, buffered, hw⟩ := hf.writer hh
  unfold handleFlush
  simp only [hw, writerFlush_failed, if_true]
  split_ifs <;> exact ⟨rfl, by dsimp only; decide⟩

end Handler

/-- **No event forgets a failed writer**, in a state whose next ID is fresh. -/
theorem keepsFailed_step (cfg : Config) (s : State) (e : Event)
    (hfresh : s.handles s.nextID = none) : KeepsFailed s (s.step cfg e).1 := by
  cases e with
  | «open» path flags o => exact keepsFailed_fileOpen cfg s path flags o hfresh
  | write | truncate | setattr | flush | fsync =>
      simp only [step]
      split
      · have hh := (liveHandle?_eq_some ‹_›).2
        first
          | exact keepsFailed_handleWrite hh _ _ _
          | exact keepsFailed_of_handles (handles_handleTruncate _ _ _ _ _)
          | exact keepsFailed_handleSetattr _ _ _ _ _
          | exact keepsFailed_handleFlush hh _
      · exact KeepsFailed.refl _
  | release id o =>
      simp only [step]
      split
      · rename_i handle hlive
        have hh : ({ s with released := s.released ++ [id] } : State).handles id = some handle :=
          (liveHandle?_eq_some hlive).2
        exact keepsFailed_handleRelease hh cfg o
      · exact KeepsFailed.refl _
  | fileSetattr path size o => exact keepsFailed_of_handles (handles_fileSetattr _ _ _ _ _)
  | truncateResume index o =>
      simp only [step]
      split
      · exact keepsFailed_of_handles (handles_truncateFinish _ _ _)
      · exact KeepsFailed.refl _
  | setxattr => exact keepsFailed_of_handles rfl
  | removexattr => exact keepsFailed_of_handles rfl
  | upload id failAt =>
      simp only [step]
      split
      · exact keepsFailed_upload ‹_› _
      · exact KeepsFailed.refl _
  | runCloseTask id =>
      simp only [step]
      split
      · split_ifs
        · exact keepsFailed_of_handles (handles_closeFunc _ _ _ _)
        · exact KeepsFailed.refl _
      · exact KeepsFailed.refl _
  | terminate => exact keepsFailed_of_handles rfl

end State

theorem handles_nextID_reachable (cfg : Config) (objects : String → List UInt8)
    (events : List Event) :
    (run cfg (State.init objects) events).handles (run cfg (State.init objects) events).nextID =
      none := by
  have hlt := (lifecycle_inv_reachable cfg objects events).present_lt
    (run cfg (State.init objects) events).nextID
  cases hh : (run cfg (State.init objects) events).handles
    (run cfg (State.init objects) events).nextID with
  | none => rfl
  | some handle => exact absurd (hlt (by simp [State.view, State.Present, hh])) (Nat.lt_irrefl _)

theorem writerFailed_run (cfg : Config) (objects : String → List UInt8) (before after : List Event)
    {id : Nat} (hfailed : (run cfg (State.init objects) before).WriterFailed id) :
    (run cfg (State.init objects) (before ++ after)).WriterFailed id := by
  induction after using List.reverseRecOn with
  | nil => simpa using hfailed
  | append_singleton after e ih =>
      rw [← List.append_assoc, run_append _ _ (before ++ after) [e]]
      exact State.keepsFailed_step cfg _ e (handles_nextID_reachable cfg objects _) id ih

/-- **The writer's error is sticky.** Once the asynchronous writer of a handle has failed, it stays
failed whatever happens next, and every later `Write` of some bytes, `Flush` and `Fsync` on the
handle fails and leaves every object as it is. -/
theorem writer_error_is_sticky (cfg : Config) (objects : String → List UInt8)
    (before after : List Event) (id : Nat)
    (hfailed : (run cfg (State.init objects) before).WriterFailed id) :
    (run cfg (State.init objects) (before ++ after)).WriterFailed id ∧
      (∀ data offset written, data ≠ [] →
        ((run cfg (State.init objects) (before ++ after)).step cfg
            (.write id data offset written)).2 ≠ some .OK ∧
          ((run cfg (State.init objects) (before ++ after)).step cfg
            (.write id data offset written)).1.objects =
            (run cfg (State.init objects) (before ++ after)).objects) ∧
      (∀ failAt,
        ((run cfg (State.init objects) (before ++ after)).step cfg (.flush id failAt)).2 ≠
            some .OK ∧
          ((run cfg (State.init objects) (before ++ after)).step cfg (.flush id failAt)).1.objects =
            (run cfg (State.init objects) (before ++ after)).objects) ∧
      (∀ failAt,
        ((run cfg (State.init objects) (before ++ after)).step cfg (.fsync id failAt)).2 ≠
            some .OK ∧
          ((run cfg (State.init objects) (before ++ after)).step cfg (.fsync id failAt)).1.objects =
            (run cfg (State.init objects) (before ++ after)).objects) := by
  have hf := writerFailed_run cfg objects before after hfailed
  generalize run cfg (State.init objects) (before ++ after) = s at hf ⊢
  have hflush : ∀ failAt, (s.step cfg (.flush id failAt)).2 ≠ some .OK ∧
      (s.step cfg (.flush id failAt)).1.objects = s.objects := by
    intro failAt
    simp only [State.step]
    split
    · rename_i handle hlive
      obtain ⟨hobjects, herr⟩ :=
        State.handleFlush_of_writerFailed (State.liveHandle?_eq_some hlive).2 hf failAt
      exact ⟨fun h => herr (Option.some.inj h), hobjects⟩
    · exact ⟨Option.noConfusion, rfl⟩
  refine ⟨hf, fun data offset written hdata => ?_, hflush, hflush⟩
  simp only [State.step]
  split
  · rename_i handle hlive
    obtain ⟨hstate, herr⟩ :=
      State.handleWrite_of_writerFailed (State.liveHandle?_eq_some hlive).2 hf hdata offset written
    exact ⟨fun h => herr (Option.some.inj h), by rw [hstate]⟩
  · exact ⟨Option.noConfusion, rfl⟩

/-- The writer fails on its first upload, during a `Flush`. -/
theorem writer_error_is_sticky_after_failed_flush :
    (run plainMount (State.init fun _ => [])
        [.open "/f" O_WRONLY ⟨true, .ok (), true⟩, .write 0 [1] 0 true, .flush 0 (some 0)]).WriterFailed
        0 ∧
      (run plainMount (State.init fun _ => [])
        ([.open "/f" O_WRONLY ⟨true, .ok (), true⟩, .write 0 [1] 0 true, .flush 0 (some 0)] ++
          [.upload 0 none])).WriterFailed 0 :=
  have hfailed : (run plainMount (State.init fun _ => [])
      [.open "/f" O_WRONLY ⟨true, .ok (), true⟩, .write 0 [1] 0 true, .flush 0 (some 0)]).WriterFailed
      0 := ⟨_, [], ⟨0, []⟩, rfl, rfl⟩
  ⟨hfailed, (writer_error_is_sticky plainMount _ _ [.upload 0 none] 0 hfailed).1⟩

end IrodsFs
