import IrodsFs.WriteCalls
import IrodsFs.Read

/-!
# No write goes through a closed backend handle

`Release` closes a backend handle only after releasing and dropping its writer; then the kernel
sends no request for the handle, the worker finds no writer, and `Open` never hands the ID out
again. The proof keeps the invariant `CloseSafe`: a handle being closed is `Stopped`, and every
event leaves a stopped handle `Untouched`. It covers writes only: a `File.Truncate` snapshot can
still truncate through a handle closed meanwhile (`truncate_after_release_uses_closed_handle`).
-/
namespace IrodsFs

namespace View

/-- The handle is closed in the trace, or its close task is queued. -/
def Closing (v : View) (id : Nat) : Prop :=
  ClientCall.close id ∈ v.lifecycleCalls ∨ id ∈ v.closeTasks

/-- Every ID that names a `FileHandle` has been handed out. -/
def HandedOut (v : View) : Prop :=
  ∀ id, v.present id = true → id < v.nextID

variable {v : View} {j k : Nat}

theorem closing_addHandle {reporting stored : Bool} (h : (v.addHandle reporting stored).Closing k) :
    v.Closing k := by
  unfold Closing addHandle at h
  split at h <;> simpa using h

theorem closing_schedule (h : (v.schedule j).Closing k) : v.Closing k ∨ k = j := by
  simp only [Closing, schedule, List.mem_append, List.mem_singleton] at h ⊢
  tauto

theorem closing_unschedule (h : (v.unschedule j).Closing k) : v.Closing k :=
  h.imp_right List.mem_of_mem_erase

theorem closing_closeHandle {reporting : Bool} (h : (v.closeHandle reporting j).Closing k) :
    v.Closing k ∨ k = j := by
  unfold Closing at h ⊢
  unfold closeHandle at h
  split at h <;> simp at h <;> tauto

theorem HandedOut.addHandle (h : v.HandedOut) (reporting stored : Bool) :
    (v.addHandle reporting stored).HandedOut := fun id hid => by
  have hlt : v.present id = true → id < v.nextID + 1 := fun hp => Nat.lt_succ_of_lt (h id hp)
  simp only [View.addHandle] at hid ⊢
  split at hid
  · by_cases hnext : id = v.nextID
    · exact hnext ▸ Nat.lt_succ_self _
    · exact hlt (by rwa [Function.update_noteq hnext] at hid)
  · exact hlt hid

end View

namespace State

/-- Backend handle `id` can send no more writes: the kernel has released it, its `FileHandle`
holds no writer, and `Open` will not hand its ID out again. -/
structure Stopped (s : State) (id : Nat) : Prop where
  released : id ∈ s.released
  writer : ∀ handle, s.handles id = some handle → handle.writer = none
  lt : id < s.nextID

/-- `s'` leaves handle `id` as `s` had it: the same `FileHandle` and the same writes sent
through it, with no released handle forgotten and no ID handed out again. -/
structure Untouched (id : Nat) (s s' : State) : Prop where
  handles : s'.handles id = s.handles id
  sent : sentWrites id s'.calls = sentWrites id s.calls
  released : s.released ⊆ s'.released
  nextID : s.nextID ≤ s'.nextID

section Untouched

variable {id : Nat}

theorem Untouched.refl (id : Nat) (s : State) : Untouched id s s :=
  ⟨rfl, rfl, List.Subset.refl _, le_rfl⟩

theorem Untouched.trans {s₁ s₂ s₃ : State} (h₁ : Untouched id s₁ s₂) (h₂ : Untouched id s₂ s₃) :
    Untouched id s₁ s₃ :=
  ⟨h₂.handles.trans h₁.handles, h₂.sent.trans h₁.sent, h₁.released.trans h₂.released,
    h₁.nextID.trans h₂.nextID⟩

theorem Untouched.of_eq {s s' : State} (hh : s'.handles id = s.handles id)
    (hsent : sentWrites id s'.calls = sentWrites id s.calls) (hreleased : s'.released = s.released)
    (hnext : s'.nextID = s.nextID) : Untouched id s s' :=
  ⟨hh, hsent, hreleased ▸ List.Subset.refl _, hnext.ge⟩

theorem Untouched.of_quiet {s s' : State} (hq : Quiet s s') (hh : s'.handles id = s.handles id)
    (hsent : sentWrites id s'.calls = sentWrites id s.calls) : Untouched id s s' :=
  .of_eq hh hsent (congrArg View.released hq) (congrArg View.nextID hq)

theorem Stopped.of_untouched {s s' : State} (hs : s.Stopped id) (hu : Untouched id s s') :
    s'.Stopped id :=
  ⟨hu.released hs.released, fun handle hh => hs.writer handle (hu.handles ▸ hh),
    lt_of_lt_of_le hs.lt hu.nextID⟩

/-! ### Each handler leaves a stopped handle untouched -/

theorem untouched_record (s : State) (file : String) {calls : List ClientCall}
    (h : ∀ c ∈ calls, ∀ offset data, c ≠ .writeAt id offset data) :
    Untouched id s (s.record file calls) := by
  refine ⟨rfl, ?_, List.Subset.refl _, le_rfl⟩
  show sentWrites id (s.calls ++ calls.map (file, ·)) = _
  rw [sentWrites_append, List.append_right_eq_self]
  simp only [sentWrites, List.filterMap_eq_nil_iff, List.mem_map]
  rintro _ ⟨c, hc, rfl⟩
  split
  · rename_i j offset data hcall
    exact if_neg fun hj => h c hc offset data (by rw [← hj]; exact hcall)
  · rfl

theorem untouched_writeAt {s : State} {file : String} {j offset : Nat} {data : List UInt8}
    (hj : j ≠ id) : Untouched id s (s.record file [.writeAt j offset data]) :=
  untouched_record s file (by simp [hj])

theorem untouched_updateHandle (s : State) {j : Nat} (hj : j ≠ id) (f : FileHandle → FileHandle) :
    Untouched id s (s.updateHandle j f) :=
  ⟨Function.update_noteq hj.symm _ _, rfl, List.Subset.refl _, le_rfl⟩

theorem untouched_writeObject (s : State) (path : String) (offset : Nat) (data : List UInt8) :
    Untouched id s (s.writeObject path offset data) :=
  ⟨rfl, rfl, List.Subset.refl _, le_rfl⟩

theorem untouched_truncateObject (s : State) (path : String) (size : Nat) :
    Untouched id s (s.truncateObject path size) :=
  ⟨rfl, rfl, List.Subset.refl _, le_rfl⟩

variable {j : Nat} (hj : j ≠ id)
include hj

theorem untouched_uploadAll (handle : FileHandle) (s : State) (pending : List (Nat × List UInt8))
    (failAt : Option Nat) : Untouched id s (s.uploadAll j handle pending failAt).1 := by
  induction pending generalizing s failAt with
  | nil => exact .refl id s
  | cons write rest ih =>
      obtain ⟨offset, data⟩ := write
      have hcall : Untouched id s (s.record handle.file [.writeAt j offset data]) :=
        untouched_writeAt hj
      unfold uploadAll
      rcases failAt with _ | _ | k
      · exact hcall.trans ((untouched_writeObject _ _ _ _).trans (ih _ _))
      · exact hcall
      · exact hcall.trans ((untouched_writeObject _ _ _ _).trans (ih _ _))

theorem untouched_writerFlush (s : State) (handle : FileHandle) (writer : Writer)
    (failAt : Option Nat) : Untouched id s (s.writerFlush j handle writer failAt).1 := by
  unfold writerFlush
  dsimp only
  repeat' split
  all_goals first | exact .refl id s | exact untouched_uploadAll hj handle s _ failAt

theorem untouched_releaseWriter (s : State) (handle : FileHandle) (failAt : Option Nat) :
    Untouched id s (s.releaseWriter j handle failAt).1 := by
  unfold releaseWriter
  split
  · exact untouched_writerFlush hj _ _ _ _
  · exact .refl id s

theorem untouched_handleWrite (s : State) (handle : FileHandle) (data : List UInt8) (offset : Int)
    (written : Bool) : Untouched id s (s.handleWrite j handle data offset written).1 := by
  rcases handleWrite_cases s j handle data offset written
    with ⟨h, -⟩ | ⟨-, -, ⟨h, -⟩ | ⟨-, h, -⟩⟩ | ⟨-, -, _, _, -, h, -⟩ <;> rw [h]
  · exact .refl id s
  · exact untouched_writeAt hj
  · exact (untouched_writeAt hj).trans (untouched_writeObject _ _ _ _)
  · exact untouched_updateHandle s hj _

theorem untouched_handleFlush (s : State) (handle : FileHandle) (failAt : Option Nat) :
    Untouched id s (s.handleFlush j handle failAt).1 := by
  rcases handleFlush_cases s j handle failAt with ⟨h, -⟩ | ⟨writer, -, h⟩ <;> rw [h]
  · exact .refl id s
  · exact (untouched_writerFlush hj _ _ _ _).trans (untouched_updateHandle _ hj _)

theorem untouched_upload (s : State) (handle : FileHandle) (failAt : Option Nat) :
    Untouched id s (s.upload j handle failAt) := by
  rcases upload_cases s j handle failAt with h | ⟨_, _, _, _, -, ⟨-, h⟩ | h⟩ <;> rw [h]
  · exact .refl id s
  all_goals exact (untouched_uploadAll hj handle s _ failAt).trans (untouched_updateHandle _ hj _)

omit hj in
theorem untouched_closeFunc (cfg : Config) (s : State) (j : Nat) (handle : FileHandle) :
    Untouched id s (closeFunc cfg s j handle) :=
  .of_eq (congrFun (handles_closeFunc cfg s j handle) id) (sentWrites_closeFunc cfg s j handle id)
    (congrArg View.released (view_closeFunc cfg s j handle))
    (congrArg View.nextID (view_closeFunc cfg s j handle))

theorem untouched_handleRelease (cfg : Config) (s : State) (handle : FileHandle)
    (o : ReleaseOutcome) : Untouched id s (handleRelease cfg s j handle o).1 := by
  have hreleased : Untouched id s ((s.clearReader j).releaseWriter j handle o.writerFailAt).1 :=
    (untouched_updateHandle s hj _).trans (untouched_releaseWriter hj _ _ _)
  have hdropped := hreleased.trans (untouched_updateHandle _ hj fun h => { h with writer := none })
  rcases handleRelease_cases cfg s j handle o rfl
    with ⟨h, -⟩ | ⟨-, h⟩ | ⟨-, -, h⟩ | ⟨-, -, h⟩ <;> rw [h]
  · exact .refl id s
  · exact hreleased.trans (untouched_updateHandle _ hj _)
  · exact hdropped.trans ⟨rfl, rfl, List.Subset.refl _, le_rfl⟩
  · exact hdropped.trans (untouched_closeFunc _ _ _ _)

end Untouched

section Untouched

variable {id : Nat}

theorem untouched_handleTruncate (s : State) (j : Nat) (handle : FileHandle) (size : UInt64)
    (truncated : Bool) : Untouched id s (s.handleTruncate j handle size truncated).1 := by
  rcases handleTruncate_cases s j handle size truncated with h | ⟨-, h | h⟩ <;> rw [h]
  · exact .refl id s
  · exact untouched_record s _ (by simp)
  · exact (untouched_record s _ (by simp)).trans (untouched_truncateObject _ _ _)

theorem untouched_handleSetattr (s : State) (j : Nat) (handle : FileHandle)
    (size : Option UInt64) (truncated : Bool) :
    Untouched id s (s.handleSetattr j handle size truncated).1 := by
  unfold handleSetattr
  repeat' split
  all_goals first | exact .refl id s | exact untouched_handleTruncate _ _ _ _ _

theorem untouched_truncateLoop (size : UInt64) (truncated : Bool) (s : State) (ids : List Nat) :
    Untouched id s (truncateLoop size truncated s ids).1 := by
  induction ids generalizing s with
  | nil => exact .refl id s
  | cons j rest ih =>
      unfold truncateLoop
      dsimp only
      repeat' split
      all_goals first | exact untouched_handleTruncate _ _ _ _ _ | exact ih s

theorem untouched_truncateFinish (s : State) (task : TruncateTask) (o : TruncateOutcome) :
    Untouched id s (truncateFinish s task o).1 := by
  have hloop : Untouched id s (truncateLoop task.size o.handleTruncated s task.handlesOpened).1 :=
    untouched_truncateLoop task.size o.handleTruncated s task.handlesOpened
  rcases truncateFinish_cases s task o with h | h | h <;> rw [h]
  · exact hloop
  · exact hloop.trans (untouched_record _ _ (by simp))
  · exact hloop.trans ((untouched_record _ _ (by simp)).trans (untouched_truncateObject _ _ _))

theorem untouched_fileSetattr (cfg : Config) (s : State) (path : String) (size : Option UInt64)
    (o : LookupOutcome) : Untouched id s (s.fileSetattr cfg path size o).1 :=
  .of_quiet (quiet_fileSetattr cfg s path size o)
    (congrFun (handles_fileSetattr cfg s path size o) id) (by rw [calls_fileSetattr])

theorem untouched_openedFile (cfg : Config) (s : State) (path irodsPath : String)
    (openMode : FileOpenMode) (readerCreated : Bool) (hlt : id < s.nextID) :
    Untouched id s (s.openedFile cfg path irodsPath openMode readerCreated).1 := by
  have hreport : Untouched id s (if cfg.reporting then
      ({ s with nextID := s.nextID + 1 } : State).record path [.startFileAccess s.nextID]
      else { s with nextID := s.nextID + 1 }) := by
    have hnext : Untouched id s { s with nextID := s.nextID + 1 } :=
      ⟨rfl, rfl, List.Subset.refl _, Nat.le_succ _⟩
    split
    · exact hnext.trans (untouched_record _ _ (by simp))
    · exact hnext
  unfold openedFile
  dsimp only
  split
  · exact hreport
  · exact hreport.trans ⟨Function.update_noteq hlt.ne _ _, rfl, List.Subset.refl _, le_rfl⟩

theorem untouched_fileOpen (cfg : Config) (s : State) (path : String) (flags : UInt32)
    (o : OpenOutcome) (hlt : id < s.nextID) : Untouched id s (s.fileOpen cfg path flags o).1 := by
  rcases fileOpen_cases cfg s path flags o with h | ⟨_, _, -, -, -, -, -, h | h⟩ <;> rw [h]
  · exact .refl id s
  · exact untouched_record _ _ (by simp)
  · exact (untouched_record _ _ (by simp)).trans (untouched_openedFile _ _ _ _ _ _ hlt)

theorem untouched_setxattr (cfg : Config) (s : State) (path attr : String) (data : List UInt8)
    (ensured : Bool) (result : ClientResult Unit) :
    Untouched id s (s.record path (setxattr s.terminated cfg.vpathManager cfg.isUnhandledAttr path
      attr data ensured result).2) :=
  untouched_record s path fun c hc => by
    obtain ⟨_, rfl⟩ := setxattr_calls _ _ _ _ _ _ _ _ c hc
    simp

theorem untouched_removexattr (cfg : Config) (s : State) (path attr : String) (ensured : Bool)
    (getResult : ClientResult (Option (List UInt8))) (removeResult : ClientResult Unit) :
    Untouched id s (s.record path (removexattr s.terminated cfg.vpathManager path attr ensured
      getResult removeResult).2) :=
  untouched_record s path fun c hc => by
    obtain ⟨_, rfl | rfl⟩ := removexattr_calls _ _ _ _ _ _ _ c hc <;> simp

end Untouched

/-! ### A stopped handle along a run -/

theorem liveHandle?_of_released {s : State} {id : Nat} (h : id ∈ s.released) :
    s.liveHandle? id = none :=
  if_pos h

theorem upload_of_writer_none (s : State) (id : Nat) {handle : FileHandle} (failAt : Option Nat)
    (hw : handle.writer = none) : s.upload id handle failAt = s := by
  unfold upload
  rw [hw]

section Run

variable {id : Nat}

/-- **Every event leaves a stopped handle untouched.** -/
theorem untouched_step (cfg : Config) (s : State) (e : Event) (hs : s.Stopped id) :
    Untouched id s (s.step cfg e).1 := by
  have hother : ∀ j handle, s.liveHandle? j = some handle → j ≠ id := fun j handle h hj => by
    subst hj
    rw [liveHandle?_of_released hs.released] at h
    cases h
  cases e with
  | «open» path flags o => exact untouched_fileOpen cfg s path flags o hs.lt
  | write | truncate | setattr | flush | fsync =>
      simp only [step, handleFsync]
      split
      · rename_i hlive
        first
          | exact untouched_handleWrite (hother _ _ hlive) _ _ _ _ _
          | exact untouched_handleTruncate _ _ _ _ _
          | exact untouched_handleSetattr _ _ _ _ _
          | exact untouched_handleFlush (hother _ _ hlive) _ _ _
      · exact .refl id s
  | release j o =>
      simp only [step]
      split
      · rename_i handle hlive
        have hmark : Untouched id s { s with released := s.released ++ [j] } :=
          ⟨rfl, rfl, List.subset_append_left _ _, le_rfl⟩
        exact hmark.trans (untouched_handleRelease (hother j handle hlive) cfg _ handle o)
      · exact .refl id s
  | fileSetattr path size o => exact untouched_fileSetattr cfg s path size o
  | truncateResume index o =>
      simp only [step]
      split
      · exact (show Untouched id s { s with truncates := s.truncates.eraseIdx index } from
          ⟨rfl, rfl, List.Subset.refl _, le_rfl⟩).trans (untouched_truncateFinish _ _ _)
      · exact .refl id s
  | setxattr path attr data ensured result =>
      exact untouched_setxattr cfg s path attr data ensured result
  | removexattr path attr ensured getResult removeResult =>
      exact untouched_removexattr cfg s path attr ensured getResult removeResult
  | upload j failAt =>
      simp only [step]
      split
      · rename_i handle hh
        by_cases hj : j = id
        · subst hj
          rw [upload_of_writer_none s j failAt (hs.writer handle hh)]
          exact .refl j s
        · exact untouched_upload hj s handle failAt
      · exact .refl id s
  | runCloseTask j =>
      simp only [step]
      split
      · split_ifs
        · exact (show Untouched id s { s with closeTasks := s.closeTasks.erase j } from
            ⟨rfl, rfl, List.Subset.refl _, le_rfl⟩).trans (untouched_closeFunc _ _ _ _)
        · exact .refl id s
      · exact .refl id s
  | terminate => exact ⟨rfl, rfl, List.Subset.refl _, le_rfl⟩

theorem untouched_run (cfg : Config) :
    ∀ (s : State) (events : List Event), s.Stopped id → Untouched id s (run cfg s events)
  | s, [], _ => .refl id s
  | s, e :: events, hs =>
      have hstep := untouched_step cfg s e hs
      hstep.trans (untouched_run cfg _ events (hs.of_untouched hstep))

end Run

/-! ### Every handle being closed is stopped -/

/-- A `Release` that answers `OK` leaves the handle stopped. -/
theorem stopped_handleRelease (cfg : Config) (s : State) (id : Nat) (handle : FileHandle)
    (o : ReleaseOutcome) (hreleased : id ∈ s.released) (hlt : id < s.nextID)
    (hok : (handleRelease cfg s id handle o).2 = .OK) :
    (handleRelease cfg s id handle o).1.Stopped id := by
  have hview := view_handleRelease cfg s id handle o
  have hnext : (handleRelease cfg s id handle o).1.nextID = s.nextID := by
    rcases hview with ⟨h, -⟩ | ⟨-, -, h⟩ | ⟨-, -, h⟩ <;> exact congrArg View.nextID h
  refine ⟨(released_handleRelease cfg s id handle o).symm ▸ hreleased, ?_, hnext.symm ▸ hlt⟩
  -- both replies `OK` drop the writer
  have hdropped : ∀ (s' : State) handle', (s'.setWriter id none).handles id = some handle' →
      handle'.writer = none := fun s' handle' hh => by
    simp only [setWriter, updateHandle, Function.update_same, Option.map_eq_some'] at hh
    obtain ⟨_, -, rfl⟩ := hh
    rfl
  rcases handleRelease_cases cfg s id handle o rfl
    with ⟨-, hne⟩ | ⟨-, h⟩ | ⟨-, -, h⟩ | ⟨-, -, h⟩
  · exact absurd hok hne
  · rw [h] at hok
    cases hok
  · rw [h]
    exact hdropped _
  · rw [h, handles_closeFunc]
    exact hdropped _

/-- What every reachable state keeps about closing: a handle whose `Close` the trace holds, or
whose close task is queued, is stopped, and every ID that names a `FileHandle` was handed out. -/
structure CloseSafe (s : State) : Prop where
  stopped : ∀ id, s.view.Closing id → s.Stopped id
  handedOut : s.view.HandedOut

/-- How a step moves the lifecycle, as `CloseSafe` needs it: it starts closing only handles it
leaves stopped, and hands out the ID of every handle it stores. -/
structure CloseStep (s s' : State) : Prop where
  closing : ∀ id, s'.view.Closing id → s.view.Closing id ∨ s'.Stopped id
  handedOut : s'.view.HandedOut

section CloseSafe

variable {s s' : State}

theorem CloseSafe.next (hs : s.CloseSafe) (hkeep : ∀ id, s.Stopped id → s'.Stopped id)
    (hstep : CloseStep s s') : s'.CloseSafe :=
  ⟨fun id h => (hstep.closing id h).elim (fun hc => hkeep id (hs.stopped id hc)) fun h => h,
    hstep.handedOut⟩

theorem CloseStep.of_quiet (hs : s.CloseSafe) (hq : Quiet s s') : CloseStep s s' :=
  have hv : s'.view = s.view := hq
  ⟨fun _ h => .inl (hv ▸ h), hv ▸ hs.handedOut⟩

end CloseSafe

/-- **Every event moves the lifecycle as `CloseSafe` needs.** -/
theorem closeStep_step (cfg : Config) (s : State) (e : Event) (hs : s.CloseSafe) :
    CloseStep s (s.step cfg e).1 := by
  cases e with
  | «open» path flags o =>
      rcases view_fileOpen cfg s path flags o with h | ⟨stored, h⟩
      · exact .of_quiet hs h
      · exact ⟨fun _ hc => .inl (View.closing_addHandle (h ▸ hc)),
          h ▸ hs.handedOut.addHandle _ _⟩
  | write | truncate | setattr | flush | fsync =>
      simp only [step, handleFsync]
      split
      · apply CloseStep.of_quiet hs
        first
          | exact quiet_handleWrite _ _ _ _ _ _
          | exact quiet_handleTruncate _ _ _ _ _
          | exact quiet_handleSetattr _ _ _ _ _
          | exact quiet_handleFlush _ _ _ _
      · exact .of_quiet hs (Quiet.refl s)
  | release j o =>
      simp only [step]
      split
      · rename_i handle hlive
        obtain ⟨⟨-, hpresent⟩, -⟩ := liveHandle?_eq_some hlive
        have hstopped := stopped_handleRelease cfg { s with released := s.released ++ [j] } j
          handle o (List.mem_append_right s.released (List.mem_singleton_self j))
          (hs.handedOut j hpresent)
        rcases view_handleRelease cfg { s with released := s.released ++ [j] } j handle o
          with ⟨h, -⟩ | ⟨hok, -, h⟩ | ⟨hok, -, h⟩ <;>
          refine ⟨fun k hc => ?_, by rw [h]; exact hs.handedOut⟩ <;> rw [h] at hc
        · exact .inl hc
        · rcases View.closing_schedule hc with hc | rfl
          · exact .inl hc
          · exact .inr (hstopped hok)
        · rcases View.closing_closeHandle hc with hc | rfl
          · exact .inl hc
          · exact .inr (hstopped hok)
      · exact .of_quiet hs (Quiet.refl s)
  | fileSetattr path size o => exact .of_quiet hs (quiet_fileSetattr _ _ _ _ _)
  | truncateResume index o =>
      simp only [step]
      split
      · exact .of_quiet hs
          (quiet_truncateFinish { s with truncates := s.truncates.eraseIdx index } _ _)
      · exact .of_quiet hs (Quiet.refl s)
  | setxattr path attr data ensured result =>
      exact .of_quiet hs (quiet_record (setxattr_calls_quiet _ _ _ _ _ _ _ _))
  | removexattr path attr ensured getResult removeResult =>
      exact .of_quiet hs (quiet_record (removexattr_calls_quiet _ _ _ _ _ _ _))
  | upload j failAt =>
      simp only [step]
      split
      · exact .of_quiet hs (quiet_upload _ _ _ _)
      · exact .of_quiet hs (Quiet.refl s)
  | runCloseTask j =>
      simp only [step]
      split
      · split_ifs with htask
        · -- the task's handle was queued, so it is closing already
          have hv := view_closeFunc cfg { s with closeTasks := s.closeTasks.erase j } j ‹_›
          refine ⟨fun k hc => .inl ?_, hv ▸ hs.handedOut⟩
          rcases View.closing_closeHandle (hv ▸ hc) with hc | rfl
          · exact View.closing_unschedule hc
          · exact .inr htask
        · exact .of_quiet hs (Quiet.refl s)
      · exact .of_quiet hs (Quiet.refl s)
  | terminate => exact .of_quiet hs rfl

theorem closeSafe_step (cfg : Config) (s : State) (e : Event) (hs : s.CloseSafe) :
    (s.step cfg e).1.CloseSafe :=
  hs.next (fun _ h => h.of_untouched (untouched_step cfg s e h)) (closeStep_step cfg s e hs)

theorem closeSafe_run (cfg : Config) :
    ∀ (s : State) (events : List Event), s.CloseSafe → (run cfg s events).CloseSafe
  | _, [], hs => hs
  | s, e :: events, hs => closeSafe_run cfg _ events (closeSafe_step cfg s e hs)

theorem closeSafe_init (objects : String → List UInt8) : (State.init objects).CloseSafe :=
  ⟨fun _ h => by simp [View.Closing, view, lifecycleCalls, State.init] at h,
    fun _ h => by simp [view, Present, State.init] at h⟩

end State

/-- **No write goes through a closed backend handle.** From any reachable state whose trace
holds the `Close` of backend handle `id`, or that has its close task queued, no run of events
sends another write through it. -/
theorem no_write_after_close (cfg : Config) (objects : String → List UInt8)
    (before after : List Event) (id : Nat)
    (hclosed : (∃ file, (file, ClientCall.close id) ∈ (run cfg (State.init objects) before).calls) ∨
      id ∈ (run cfg (State.init objects) before).closeTasks) :
    sentWrites id (run cfg (run cfg (State.init objects) before) after).calls =
      sentWrites id (run cfg (State.init objects) before).calls := by
  have hs := State.closeSafe_run cfg _ before (State.closeSafe_init objects)
  have hclosing : (run cfg (State.init objects) before).view.Closing id :=
    hclosed.imp_left fun ⟨_, hcall⟩ => List.mem_filter.mpr ⟨List.mem_map_of_mem _ hcall, rfl⟩
  exact (State.untouched_run cfg _ after (hs.stopped id hclosing)).sent

/-- A write on `/f` that `Release` uploads before closing the handle. -/
def writeReleaseRun : List Event :=
  openWriteRun ++ [.write 0 [5] 0 true, .release 0 ⟨false, none⟩]

/-- Requests on the closed handle, the worker and its close task after the `Release`. -/
def afterReleaseRun : List Event :=
  [.write 0 [6] 1 true, .upload 0 none, .flush 0 none, .runCloseTask 0]

theorem no_write_after_close_release :
    (∃ file, (file, ClientCall.close 0) ∈
        (run plainMount (State.init fun _ => []) writeReleaseRun).calls) ∧
      sentWrites 0 (run plainMount (run plainMount (State.init fun _ => []) writeReleaseRun)
          afterReleaseRun).calls =
        sentWrites 0 (run plainMount (State.init fun _ => []) writeReleaseRun).calls :=
  have hclosed : ∃ file, (file, ClientCall.close 0) ∈
      (run plainMount (State.init fun _ => []) writeReleaseRun).calls := ⟨"/f", by decide⟩
  ⟨hclosed, no_write_after_close plainMount _ writeReleaseRun afterReleaseRun 0 (.inl hclosed)⟩

end IrodsFs
