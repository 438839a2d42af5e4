import IrodsFs.Read

/-!
# Every handle keeps the pipelines of its open mode

`NewFileHandle` picks a handle's reader and writer by its open mode, and no handler picks again,
so in every reachable state each handle's pipelines are of the kinds its mode gets, and a handle
the kernel still uses has both (`pipelinesFit_reachable`). This makes the results about one kind
of pipeline results about every handle of the mode: every read-write handle of a reachable state
reads what it wrote (`reachable_read_write_handle_reads_accepted_ops`).
-/
namespace IrodsFs

/-- Whether `NewFileHandle` gives a handle of this mode a reader of this kind. -/
def Reader.FitsMode (mode : FileOpenMode) : Reader → Bool
  | .nilReader => mode.IsWriteOnly
  | .syncReader => !mode.IsReadOnly && !mode.IsWriteOnly
  | .asyncCacheThroughReader _ => mode.IsReadOnly

/-- Whether `NewFileHandle` gives a handle of this mode a writer of this kind. -/
def Writer.FitsMode (mode : FileOpenMode) : Writer → Bool
  | .nilWriter => mode.IsReadOnly
  | .syncWriter => !mode.IsReadOnly && !mode.IsWriteOnly
  | .asyncWriter .. => mode.IsWriteOnly

/-- The reader and writer a handle still has are of the kinds its open mode gets. -/
structure FileHandle.PipelinesFit (handle : FileHandle) : Prop where
  reader : ∀ reader, handle.reader = some reader → reader.FitsMode handle.openMode = true
  writer : ∀ writer, handle.writer = some writer → writer.FitsMode handle.openMode = true

theorem newFileHandle_pipelinesFit {file path : String} {openMode : FileOpenMode}
    {readerCreated : Bool} {handle : FileHandle}
    (h : newFileHandle file path openMode readerCreated = some handle) :
    handle.PipelinesFit ∧ handle.reader.isSome ∧ handle.writer.isSome := by
  unfold newFileHandle at h
  split_ifs at h with hro hcreated hwo <;> cases h <;>
    refine ⟨⟨?_, ?_⟩, rfl, rfl⟩ <;> rintro _ ⟨⟩ <;> simp_all [Reader.FitsMode, Writer.FitsMode]

/-- A read-write handle that still has both pipelines has the synchronous ones. -/
theorem FileHandle.PipelinesFit.sync_of_readWrite {handle : FileHandle} (hfit : handle.PipelinesFit)
    (hmode : handle.openMode = .readWrite) (hreader : handle.reader.isSome)
    (hwriter : handle.writer.isSome) :
    handle.reader = some .syncReader ∧ handle.writer = some .syncWriter := by
  obtain ⟨reader, hr⟩ := Option.isSome_iff_exists.mp hreader
  obtain ⟨writer, hw⟩ := Option.isSome_iff_exists.mp hwriter
  have hrfit := hfit.reader reader hr
  have hwfit := hfit.writer writer hw
  rw [hmode] at hrfit hwfit
  rw [hr, hw]
  constructor
  · cases reader <;> first | rfl | exact absurd hrfit Bool.false_ne_true
  · cases writer <;> first | rfl | exact absurd hwfit Bool.false_ne_true

/-- A writer flushed or released keeps its kind. -/
@[simp] theorem fitsMode_writerFlush (s : State) (id : Nat) (handle : FileHandle) (writer : Writer)
    (failAt : Option Nat) (mode : FileOpenMode) :
    (s.writerFlush id handle writer failAt).2.1.FitsMode mode = writer.FitsMode mode := by
  cases writer with
  | nilWriter | syncWriter => rfl
  | asyncWriter pending buffered failed => cases failed <;> rfl

namespace State

/-- Every handle's pipelines fit its open mode, and a handle the kernel has not released still
has its reader and its writer. -/
structure PipelinesFit (s : State) : Prop where
  fit : ∀ id handle, s.handles id = some handle → handle.PipelinesFit
  held : ∀ id handle, s.handles id = some handle → id ∉ s.released →
    handle.reader.isSome ∧ handle.writer.isSome

section Invariant

variable {s : State}

theorem PipelinesFit.of_eq {s' : State} (hs : s.PipelinesFit) (hhandles : s'.handles = s.handles)
    (hreleased : s'.released = s.released) : s'.PipelinesFit :=
  ⟨fun id handle hh => hs.fit id handle (hhandles ▸ hh),
    fun id handle hh hlive => hs.held id handle (hhandles ▸ hh) (hreleased ▸ hlive)⟩

theorem PipelinesFit.of_quiet {s' : State} (hs : s.PipelinesFit) (hhandles : s'.handles = s.handles)
    (hquiet : Quiet s s') : s'.PipelinesFit :=
  hs.of_eq hhandles (congrArg View.released hquiet)

theorem PipelinesFit.markReleased (hs : s.PipelinesFit) (id : Nat) :
    ({ s with released := s.released ++ [id] } : State).PipelinesFit :=
  ⟨hs.fit, fun j handle hh hlive => hs.held j handle hh fun h => hlive (List.mem_append_left _ h)⟩

/-- A change to the handle at `id` that keeps it fitting, and keeps both pipelines unless `id`
is released. -/
theorem PipelinesFit.updateHandle (hs : s.PipelinesFit) (id : Nat) {f : FileHandle → FileHandle}
    (hf : ∀ handle, s.handles id = some handle → (f handle).PipelinesFit ∧
      (id ∉ s.released → (f handle).reader.isSome ∧ (f handle).writer.isSome)) :
    (s.updateHandle id f).PipelinesFit := by
  refine ⟨fun j handle' hh => ?_, fun j handle' hh hlive => ?_⟩ <;> by_cases hj : j = id
  · subst hj
    simp only [State.updateHandle, Function.update_same, Option.map_eq_some'] at hh
    obtain ⟨handle, hhandle, rfl⟩ := hh
    exact (hf handle hhandle).1
  · simp only [State.updateHandle, Function.update_noteq hj] at hh
    exact hs.fit j handle' hh
  · subst hj
    simp only [State.updateHandle, Function.update_same, Option.map_eq_some'] at hh
    obtain ⟨handle, hhandle, rfl⟩ := hh
    exact (hf handle hhandle).2 hlive
  · simp only [State.updateHandle, Function.update_noteq hj] at hh
    exact hs.held j handle' hh hlive

theorem PipelinesFit.setWriter (hs : s.PipelinesFit) {id : Nat} {writer : Option Writer}
    (hw : ∀ handle, s.handles id = some handle →
      (∀ w, writer = some w → w.FitsMode handle.openMode = true) ∧
        (id ∉ s.released → writer.isSome)) :
    (s.setWriter id writer).PipelinesFit :=
  hs.updateHandle id fun handle hh =>
    ⟨⟨(hs.fit id handle hh).reader, (hw handle hh).1⟩,
      fun hlive => ⟨(hs.held id handle hh hlive).1, (hw handle hh).2 hlive⟩⟩

theorem PipelinesFit.clearReader (hs : s.PipelinesFit) {id : Nat} (hreleased : id ∈ s.released) :
    (s.clearReader id).PipelinesFit :=
  hs.updateHandle id fun handle hh =>
    ⟨⟨fun _ h => Option.noConfusion h, (hs.fit id handle hh).writer⟩, absurd hreleased⟩

theorem pipelinesFit_openedFile (hs : s.PipelinesFit) (cfg : Config) (path irodsPath : String)
    (openMode : FileOpenMode) (readerCreated : Bool) :
    (s.openedFile cfg path irodsPath openMode readerCreated).1.PipelinesFit := by
  have hs' : (if cfg.reporting then ({ s with nextID := s.nextID + 1 } : State).record path
      [.startFileAccess s.nextID] else { s with nextID := s.nextID + 1 }).PipelinesFit := by
    split <;> exact hs.of_eq rfl rfl
  unfold State.openedFile
  dsimp only
  split
  · exact hs'
  -- the new handle is stored under the next ID, with the pipelines of its mode
  · rename_i handle hnew
    obtain ⟨hfit, hheld⟩ := newFileHandle_pipelinesFit hnew
    refine ⟨fun j handle' hh => ?_, fun j handle' hh hlive => ?_⟩ <;> by_cases hj : j = s.nextID
    · subst hj
      simp only [Function.update_same, Option.some.injEq] at hh
      exact hh ▸ hfit
    · simp only [Function.update_noteq hj] at hh
      exact hs'.fit j handle' hh
    · subst hj
      simp only [Function.update_same, Option.some.injEq] at hh
      exact hh ▸ hheld
    · simp only [Function.update_noteq hj] at hh
      exact hs'.held j handle' hh hlive

end Invariant

/-! ### The handlers -/

section Handler

variable {s : State} {id : Nat} {handle : FileHandle} (hs : s.PipelinesFit)
  (hh : s.handles id = some handle)
include hs hh

theorem pipelinesFit_handleWrite (data : List UInt8) (offset : Int) (written : Bool) :
    (s.handleWrite id handle data offset written).1.PipelinesFit := by
  rcases handleWrite_cases s id handle data offset written
    with ⟨h, -⟩ | ⟨-, -, ⟨h, -⟩ | ⟨-, h, -⟩⟩ | ⟨-, -, _, _, hasync, h, -⟩ <;> rw [h]
  · exact hs
  · exact hs.of_eq rfl rfl
  · exact hs.of_eq rfl rfl
  -- the asynchronous writer queues the write and stays what it was
  · refine hs.setWriter fun handle' hh' => ?_
    cases hh.symm.trans hh'
    have hfits := (hs.fit id handle hh).writer _ hasync
    exact ⟨fun _ hw => by cases hw; exact hfits, fun _ => rfl⟩

theorem pipelinesFit_handleFlush (failAt : Option Nat) :
    (s.handleFlush id handle failAt).1.PipelinesFit := by
  rcases handleFlush_cases s id handle failAt with ⟨h, -⟩ | ⟨writer, hwriter, h⟩ <;> rw [h]
  · exact hs
  · refine (hs.of_quiet (handles_writerFlush _ _ _ _ _) (quiet_writerFlush _ _ _ _ _)).setWriter
      fun handle' hh' => ?_
    rw [handles_writerFlush, hh] at hh'
    cases hh'
    exact ⟨fun _ hw => by
      cases hw; rw [fitsMode_writerFlush]; exact (hs.fit id handle hh).writer _ hwriter,
      fun _ => rfl⟩

theorem pipelinesFit_upload (failAt : Option Nat) : (s.upload id handle failAt).PipelinesFit := by
  rcases upload_cases s id handle failAt
    with h | ⟨offset, data, _, buffered, hasync, ⟨-, h⟩ | h⟩ <;> rw [h]
  · exact hs
  all_goals
    have hfits := (hs.fit id handle hh).writer _ hasync
    obtain ⟨calls, objects, hframe⟩ :=
      uploadAll_frame id handle s (bufferedWriteAt buffered offset data).1 failAt
    rw [hframe]
    apply PipelinesFit.setWriter
    · exact hs.of_eq rfl rfl
    · intro handle' hh'
      cases hh.symm.trans hh'
      exact ⟨fun _ hw => by cases hw; exact hfits, fun _ => rfl⟩

/-- `Release` runs on a state where the kernel has already released the handle. -/
theorem pipelinesFit_handleRelease (cfg : Config) (o : ReleaseOutcome) (hreleased : id ∈ s.released) :
    (handleRelease cfg s id handle o).1.PipelinesFit := by
  have hcleared := hs.clearReader hreleased
  have hwriter := hcleared.of_quiet (handles_releaseWriter _ id handle o.writerFailAt)
    (quiet_releaseWriter _ id handle o.writerFailAt)
  have hstill : ((s.clearReader id).releaseWriter id handle o.writerFailAt).1.released = s.released :=
    congrArg View.released (quiet_releaseWriter _ id handle o.writerFailAt)
  -- the writer is stored back released, or dropped
  have hstored : ∀ writer, (∀ w, writer = some w → ∃ w', handle.writer = some w' ∧
        w.FitsMode handle.openMode = w'.FitsMode handle.openMode) →
      (((s.clearReader id).releaseWriter id handle o.writerFailAt).1.setWriter id writer).PipelinesFit :=
    fun writer hkind => hwriter.setWriter fun handle' hh' => by
      rw [handles_releaseWriter] at hh'
      simp only [clearReader, updateHandle, Function.update_same, hh, Option.map_some',
        Option.some.injEq] at hh'
      subst hh'
      refine ⟨fun w hw => ?_, fun hlive => absurd (hstill ▸ hreleased) hlive⟩
      obtain ⟨w', hw', hsame⟩ := hkind w hw
      exact hsame.trans ((hs.fit id handle hh).writer w' hw')
  have hreleasedWriter : ∀ w, ((s.clearReader id).releaseWriter id handle o.writerFailAt).2.1 = some w →
      ∃ w', handle.writer = some w' ∧ w.FitsMode handle.openMode = w'.FitsMode handle.openMode := by
    intro w hw
    unfold releaseWriter at hw
    split at hw
    · rename_i w' hw'
      cases hw
      exact ⟨w', hw', fitsMode_writerFlush _ _ _ _ _ _⟩
    · cases hw
  rcases handleRelease_cases cfg s id handle o rfl
    with ⟨h, -⟩ | ⟨-, h⟩ | ⟨-, -, h⟩ | ⟨-, -, h⟩ <;> rw [h]
  · exact hs
  · exact hstored _ hreleasedWriter
  · exact (hstored none nofun).of_eq rfl rfl
  · exact (hstored none nofun).of_eq (handles_closeFunc _ _ _ _)
      (congrArg View.released (view_closeFunc _ _ _ _))

end Handler

/-! ### Along a run -/

/-- **Every event keeps the pipelines fitting their modes.** -/
theorem pipelinesFit_step (cfg : Config) (s : State) (e : Event) (hs : s.PipelinesFit) :
    (s.step cfg e).1.PipelinesFit := by
  cases e with
  | «open» path flags o =>
      rcases fileOpen_cases cfg s path flags o with h | ⟨_, _, -, -, -, -, -, h | h⟩
      · simp only [step, h]; exact hs
      · simp only [step, h]; exact hs.of_eq rfl rfl
      · simp only [step, h]
        apply pipelinesFit_openedFile
        exact hs.of_eq rfl rfl
  | write | truncate | setattr | flush | fsync =>
      simp only [step, handleFsync]
      split
      · rename_i handle hlive
        have hh := (liveHandle?_eq_some hlive).2
        first
          | exact pipelinesFit_handleWrite hs hh _ _ _
          | exact hs.of_quiet (handles_handleTruncate _ _ _ _ _) (quiet_handleTruncate _ _ _ _ _)
          | exact hs.of_quiet (handles_handleSetattr _ _ _ _ _) (quiet_handleSetattr _ _ _ _ _)
          | exact pipelinesFit_handleFlush hs hh _
      · exact hs
  | release id o =>
      simp only [step]
      split
      · rename_i handle hlive
        exact pipelinesFit_handleRelease (hs.markReleased id) (liveHandle?_eq_some hlive).2 cfg o
          (List.mem_append_right _ (List.mem_singleton_self _))
      · exact hs
  | fileSetattr path size o =>
      exact hs.of_quiet (handles_fileSetattr _ _ _ _ _) (quiet_fileSetattr _ _ _ _ _)
  | truncateResume index o =>
      simp only [step]
      split
      · exact (hs.of_eq rfl rfl).of_quiet (handles_truncateFinish _ _ _) (quiet_truncateFinish _ _ _)
      · exact hs
  | setxattr | removexattr => exact hs.of_eq rfl rfl
  | upload id failAt =>
      simp only [step]
      split
      · exact pipelinesFit_upload hs ‹_› failAt
      · exact hs
  | runCloseTask id =>
      simp only [step]
      split
      · split_ifs
        · exact (hs.of_eq rfl rfl).of_eq (handles_closeFunc _ _ _ _)
            (congrArg View.released (view_closeFunc _ _ _ _))
        · exact hs
      · exact hs
  | terminate => exact hs.of_eq rfl rfl

theorem pipelinesFit_run (cfg : Config) :
    ∀ (s : State) (events : List Event), s.PipelinesFit → (run cfg s events).PipelinesFit
  | _, [], hs => hs
  | s, e :: events, hs => pipelinesFit_run cfg _ events (pipelinesFit_step cfg s e hs)

theorem pipelinesFit_init (objects : String → List UInt8) : (State.init objects).PipelinesFit :=
  ⟨fun _ _ h => Option.noConfusion h, fun _ _ h => Option.noConfusion h⟩

theorem pipelinesFit_reachable (cfg : Config) (objects : String → List UInt8) (events : List Event) :
    (run cfg (State.init objects) events).PipelinesFit :=
  pipelinesFit_run cfg _ events (pipelinesFit_init objects)

end State

/-- The read-write handle `File.Open` stores for `/f` under `plainMount`. -/
def openedReadWriteHandle : FileHandle :=
  ⟨"/f", "/f", .readWrite, some .syncReader, some .syncWriter⟩

/-- **Every read-write handle reads what it wrote.** Take any reachable state and any read-write
handle the kernel has not released in it, and run any of the handle's requests and the worker's
uploads: a `Read` on it that answers `OK` at an offset within the entry's size returns the bytes
of the spec's byte array from that offset, as many as fit the buffer, the writes and truncates
that answered `OK` applied in call order to the object as it was. -/
theorem reachable_read_write_handle_reads_accepted_ops (cfg : Config)
    (objects : String → List UInt8) (before : List Event) (id : Nat) (handle : FileHandle)
    (hlive : (run cfg (State.init objects) before).liveHandle? id = some handle)
    (hmode : handle.openMode = .readWrite) (events : List Event)
    (hevents : ∀ e ∈ events, e.OnHandle id = true) (size offset : Nat) (o : ReadOutcome)
    (hoffset : (offset : Int) ≤ o.entrySize) (data : List UInt8)
    (hread : (run cfg (run cfg (State.init objects) before) events).read id size offset o =
      some (data, .OK)) :
    data = ((applyOps ((run cfg (State.init objects) before).objects handle.path)
      (acceptedOps cfg (run cfg (State.init objects) before) events)).drop offset).take size := by
  have hs := State.pipelinesFit_reachable cfg objects before
  obtain ⟨⟨hnotReleased, -⟩, hh⟩ := State.liveHandle?_eq_some hlive
  obtain ⟨hreader, hwriter⟩ := (hs.fit id handle hh).sync_of_readWrite hmode
    (hs.held id handle hh hnotReleased).1 (hs.held id handle hh hnotReleased).2
  have hops := State.opsApplied_run cfg _ events hevents (.start hh (by rw [hwriter]; rfl))
  rw [List.nil_append] at hops
  exact State.read_of_opsApplied hops (State.readerHeld_run cfg _ events hevents (.start hh hreader))
    hoffset hread

theorem reachable_read_write_handle_reads_accepted_ops_truncate :
    (run plainMount (State.init fun _ => []) openReadWriteRun).liveHandle? 0 =
        some openedReadWriteHandle ∧ openedReadWriteHandle.openMode = .readWrite ∧
      (∀ e ∈ writeTruncateWriteRun, e.OnHandle 0 = true) ∧
      ((0 : Nat) : Int) ≤ (⟨4, false, []⟩ : ReadOutcome).entrySize ∧
      (run plainMount (run plainMount (State.init fun _ => []) openReadWriteRun)
          writeTruncateWriteRun).read 0 8 0 ⟨4, false, []⟩ = some ([1, 2, 0, 9], .OK) ∧
      [1, 2, 0, 9] =
        ((applyOps ((run plainMount (State.init fun _ => []) openReadWriteRun).objects
            openedReadWriteHandle.path)
          (acceptedOps plainMount (run plainMount (State.init fun _ => []) openReadWriteRun)
            writeTruncateWriteRun)).drop 0).take 8 :=
  have hlive : (run plainMount (State.init fun _ => []) openReadWriteRun).liveHandle? 0 =
      some openedReadWriteHandle := by decide
  have hread : (run plainMount (run plainMount (State.init fun _ => []) openReadWriteRun)
      writeTruncateWriteRun).read 0 8 0 ⟨4, false, []⟩ = some ([1, 2, 0, 9], .OK) := by decide
  ⟨hlive, rfl, by decide, by decide, hread,
    reachable_read_write_handle_reads_accepted_ops plainMount _ openReadWriteRun 0 _ hlive rfl
      writeTruncateWriteRun (by decide) 8 0 ⟨4, false, []⟩ (by decide) _ hread⟩

end IrodsFs
