import IrodsFs.State

/-!
# What an event can do to the handle lifecycle

A backend handle's life is told by the `View` of a state: the next ID, which IDs name a handle,
the registry, the released handles, the close tasks and the lifecycle calls of the trace. Almost
every handler leaves it alone (`Quiet`); only `Open`, `Release` and a close task move it, each by
one lemma saying how.
-/
namespace IrodsFs

namespace ClientCall

def IsLifecycle : ClientCall → Bool
  | close _ | startFileAccess _ | doneFileAccess _ => true
  | _ => false

end ClientCall

/-- The lifecycle of a state: the next ID, which IDs name a handle, the registry, the released
handles, the close tasks and the lifecycle calls. -/
structure View where
  nextID : Nat
  present : Nat → Bool
  fileHandleMap : List Nat
  released : List Nat
  closeTasks : List Nat
  lifecycleCalls : List ClientCall

namespace State

/-- The lifecycle calls of the trace, in order. -/
def lifecycleCalls (s : State) : List ClientCall :=
  (s.calls.map Prod.snd).filter (·.IsLifecycle)

/-- The ID names a `FileHandle`. -/
def Present (s : State) : Nat → Bool :=
  fun id => (s.handles id).isSome

def view (s : State) : View :=
  ⟨s.nextID, s.Present, s.fileHandleMap, s.released, s.closeTasks, s.lifecycleCalls⟩

/-- `s'` has the lifecycle of `s`. -/
def Quiet (s s' : State) : Prop :=
  s'.view = s.view

theorem Quiet.refl (s : State) : Quiet s s := rfl

theorem Quiet.trans {s₁ s₂ s₃ : State} (h₁ : Quiet s₁ s₂) (h₂ : Quiet s₂ s₃) : Quiet s₁ s₃ :=
  Eq.trans h₂ h₁

@[simp] theorem record_nextID (s : State) (file : String) (calls : List ClientCall) :
    (s.record file calls).nextID = s.nextID := rfl
@[simp] theorem record_handles (s : State) (file : String) (calls : List ClientCall) :
    (s.record file calls).handles = s.handles := rfl
@[simp] theorem record_fileHandleMap (s : State) (file : String) (calls : List ClientCall) :
    (s.record file calls).fileHandleMap = s.fileHandleMap := rfl
@[simp] theorem record_released (s : State) (file : String) (calls : List ClientCall) :
    (s.record file calls).released = s.released := rfl
@[simp] theorem record_closeTasks (s : State) (file : String) (calls : List ClientCall) :
    (s.record file calls).closeTasks = s.closeTasks := rfl
@[simp] theorem record_present (s : State) (file : String) (calls : List ClientCall) :
    (s.record file calls).Present = s.Present := rfl

@[simp]
theorem lifecycleCalls_record (s : State) (file : String) (calls : List ClientCall) :
    (s.record file calls).lifecycleCalls = s.lifecycleCalls ++ calls.filter (·.IsLifecycle) := by
  simp [record, lifecycleCalls, List.map_map, Function.comp_def]

@[simp]
theorem present_updateHandle (s : State) (id : Nat) (f : FileHandle → FileHandle) :
    (s.updateHandle id f).Present = s.Present := by
  funext j
  by_cases hj : j = id
  · subst hj
    simp [Present, updateHandle]
  · simp [Present, updateHandle, hj]

theorem quiet_record {s : State} {file : String} {calls : List ClientCall}
    (h : ∀ c ∈ calls, c.IsLifecycle = false) : Quiet s (s.record file calls) := by
  simp only [Quiet, view, lifecycleCalls_record, List.filter_eq_nil_iff.mpr (by simpa using h),
    List.append_nil]
  rfl

theorem quiet_updateHandle (s : State) (id : Nat) (f : FileHandle → FileHandle) :
    Quiet s (s.updateHandle id f) := by
  simp only [Quiet, view, present_updateHandle]
  rfl

theorem quiet_setWriter (s : State) (id : Nat) (writer : Option Writer) :
    Quiet s (s.setWriter id writer) :=
  quiet_updateHandle s id _

theorem quiet_writeObject (s : State) (path : String) (offset : Nat) (data : List UInt8) :
    Quiet s (s.writeObject path offset data) :=
  rfl

theorem quiet_truncateObject (s : State) (path : String) (size : Nat) :
    Quiet s (s.truncateObject path size) :=
  rfl

theorem quiet_writeAt {s : State} {file : String} {id offset : Nat} {data : List UInt8} :
    Quiet s (s.record file [.writeAt id offset data]) :=
  quiet_record (by simp [ClientCall.IsLifecycle])

theorem quiet_truncateCall {s : State} {file : String} {id : Nat} {size : Int} :
    Quiet s (s.record file [.truncate id size]) :=
  quiet_record (by simp [ClientCall.IsLifecycle])

/-! ### The quiet handlers -/

theorem quiet_uploadAll (id : Nat) (handle : FileHandle) (s : State)
    (pending : List (Nat × List UInt8)) (failAt : Option Nat) :
    Quiet s (s.uploadAll id handle pending failAt).1 := by
  induction pending generalizing s failAt with
  | nil => exact Quiet.refl s
  | cons write rest ih =>
      obtain ⟨offset, data⟩ := write
      unfold uploadAll
      have hcall := @quiet_writeAt s handle.file id offset data
      rcases failAt with _ | _ | k
      · exact hcall.trans ((quiet_writeObject _ _ _ _).trans (ih _ _))
      · exact hcall
      · exact hcall.trans ((quiet_writeObject _ _ _ _).trans (ih _ _))

theorem quiet_writerFlush (s : State) (id : Nat) (handle : FileHandle) (writer : Writer)
    (failAt : Option Nat) : Quiet s (s.writerFlush id handle writer failAt).1 := by
  unfold writerFlush
  dsimp only
  repeat' split
  all_goals first | exact Quiet.refl s | exact quiet_uploadAll id handle s _ failAt

theorem quiet_releaseWriter (s : State) (id : Nat) (handle : FileHandle) (failAt : Option Nat) :
    Quiet s (s.releaseWriter id handle failAt).1 := by
  unfold releaseWriter
  split
  · exact quiet_writerFlush _ _ _ _ _
  · exact Quiet.refl s

theorem quiet_upload (s : State) (id : Nat) (handle : FileHandle) (failAt : Option Nat) :
    Quiet s (s.upload id handle failAt) := by
  rcases upload_cases s id handle failAt with h | ⟨_, _, _, _, -, ⟨-, h⟩ | h⟩ <;> rw [h]
  · exact Quiet.refl s
  all_goals exact (quiet_uploadAll _ _ _ _ _).trans (quiet_setWriter _ _ _)

theorem quiet_handleWrite (s : State) (id : Nat) (handle : FileHandle) (data : List UInt8)
    (offset : Int) (written : Bool) : Quiet s (s.handleWrite id handle data offset written).1 := by
  rcases handleWrite_cases s id handle data offset written
    with ⟨h, -⟩ | ⟨-, -, ⟨h, -⟩ | ⟨-, h, -⟩⟩ | ⟨-, -, _, _, -, h, -⟩ <;> rw [h]
  · exact Quiet.refl s
  · exact quiet_writeAt
  · exact quiet_writeAt.trans (quiet_writeObject _ _ _ _)
  · exact quiet_setWriter _ _ _

theorem quiet_handleTruncate (s : State) (id : Nat) (handle : FileHandle) (size : UInt64)
    (truncated : Bool) : Quiet s (s.handleTruncate id handle size truncated).1 := by
  rcases handleTruncate_cases s id handle size truncated with h | ⟨-, h | h⟩ <;> rw [h]
  · exact Quiet.refl s
  · exact quiet_truncateCall
  · exact quiet_truncateCall.trans (quiet_truncateObject _ _ _)

theorem quiet_handleFlush (s : State) (id : Nat) (handle : FileHandle) (failAt : Option Nat) :
    Quiet s (s.handleFlush id handle failAt).1 := by
  unfold handleFlush
  dsimp only
  repeat' split
  all_goals first
    | exact Quiet.refl s
    | exact (quiet_writerFlush _ _ _ _ _).trans (quiet_setWriter _ _ _)

theorem quiet_handleSetattr (s : State) (id : Nat) (handle : FileHandle) (size : Option UInt64)
    (truncated : Bool) : Quiet s (s.handleSetattr id handle size truncated).1 := by
  unfold handleSetattr
  repeat' split
  all_goals first | exact Quiet.refl s | exact quiet_handleTruncate _ _ _ _ _

theorem quiet_truncateLookup (cfg : Config) (s : State) (path : String) (size : UInt64)
    (o : LookupOutcome) : Quiet s (s.truncateLookup cfg path size o).1 := by
  unfold truncateLookup
  repeat' split
  all_goals exact Quiet.refl s

theorem quiet_fileSetattr (cfg : Config) (s : State) (path : String) (size : Option UInt64)
    (o : LookupOutcome) : Quiet s (s.fileSetattr cfg path size o).1 := by
  unfold fileSetattr
  repeat' split
  all_goals first | exact Quiet.refl s | exact quiet_truncateLookup _ _ _ _ _

theorem quiet_truncateLoop (size : UInt64) (truncated : Bool) (s : State) (ids : List Nat) :
    Quiet s (truncateLoop size truncated s ids).1 := by
  induction ids generalizing s with
  | nil => exact Quiet.refl s
  | cons id rest ih =>
      unfold truncateLoop
      dsimp only
      repeat' split
      all_goals first | exact quiet_handleTruncate _ _ _ _ _ | exact ih s

theorem quiet_truncateFinish (s : State) (task : TruncateTask) (o : TruncateOutcome) :
    Quiet s (truncateFinish s task o).1 := by
  have hloop := quiet_truncateLoop task.size o.handleTruncated s task.handlesOpened
  have hcall : ∀ s' : State, Quiet s' (s'.record task.file
      [.truncateFile task.entry.path (toInt64 task.size)]) :=
    fun _ => quiet_record (by simp [ClientCall.IsLifecycle])
  rcases truncateFinish_cases s task o with h | h | h <;> rw [h]
  · exact hloop
  · exact hloop.trans (hcall _)
  · exact hloop.trans ((hcall _).trans (quiet_truncateObject _ _ _))

end State

/-! ### The three events that move the lifecycle -/

namespace View

/-- `Open` got a backend handle: the next ID is taken and reported, and, when the handle could be
built (`stored`), it is stored and registered. -/
def addHandle (v : View) (reporting stored : Bool) : View :=
  { v with
    nextID := v.nextID + 1
    present := if stored then Function.update v.present v.nextID true else v.present
    fileHandleMap := if stored then v.fileHandleMap ++ [v.nextID] else v.fileHandleMap
    lifecycleCalls := v.lifecycleCalls ++ if reporting then [.startFileAccess v.nextID] else [] }

def markReleased (v : View) (id : Nat) : View :=
  { v with released := v.released ++ [id] }

def schedule (v : View) (id : Nat) : View :=
  { v with closeTasks := v.closeTasks ++ [id] }

def unschedule (v : View) (id : Nat) : View :=
  { v with closeTasks := v.closeTasks.erase id }

/-- `closeFunc`: out of the registry, reported done, closed. -/
def closeHandle (v : View) (reporting : Bool) (id : Nat) : View :=
  { v with
    fileHandleMap := v.fileHandleMap.filter (· != id)
    lifecycleCalls :=
      v.lifecycleCalls ++ ((if reporting then [.doneFileAccess id] else []) ++ [.close id]) }

end View

namespace State

theorem isSome_update (handles : Nat → Option FileHandle) (id : Nat) (handle : FileHandle) :
    (fun j => (Function.update handles id (some handle) j).isSome) =
      Function.update (fun j => (handles j).isSome) id true := by
  funext j
  by_cases hj : j = id
  · subst hj
    simp
  · simp [hj]

theorem view_closeFunc (cfg : Config) (s : State) (id : Nat) (handle : FileHandle) :
    (closeFunc cfg s id handle).view = s.view.closeHandle cfg.reporting id := by
  unfold closeFunc
  split <;> simp [view, View.closeHandle, ClientCall.IsLifecycle, *] <;> exact ⟨rfl, rfl⟩

theorem view_openedFile (cfg : Config) (s : State) (path irodsPath : String)
    (openMode : FileOpenMode) (readerCreated : Bool) :
    (s.openedFile cfg path irodsPath openMode readerCreated).1.view =
      s.view.addHandle cfg.reporting (newFileHandle path irodsPath openMode readerCreated).isSome := by
  unfold openedFile
  dsimp only
  unfold view Present lifecycleCalls
  cases hreport : cfg.reporting <;>
    cases newFileHandle path irodsPath openMode readerCreated <;>
    simp [View.addHandle, ClientCall.IsLifecycle, record, isSome_update]

/-- `Open` either leaves the lifecycle alone or adds a handle. -/
theorem view_fileOpen (cfg : Config) (s : State) (path : String) (flags : UInt32)
    (o : OpenOutcome) :
    (s.fileOpen cfg path flags o).1.view = s.view ∨
      ∃ stored, (s.fileOpen cfg path flags o).1.view = s.view.addHandle cfg.reporting stored := by
  have hcall : ∀ irodsPath, Quiet s (s.record path [.openFile irodsPath (openModeOfFlags flags)]) :=
    fun _ => quiet_record (by simp [ClientCall.IsLifecycle])
  rcases fileOpen_cases cfg s path flags o with h | ⟨_, irodsPath, -, -, -, -, -, h | h⟩ <;> rw [h]
  · exact .inl rfl
  · exact .inl (hcall irodsPath)
  · exact .inr ⟨_, (view_openedFile _ _ _ _ _ _).trans
      (congrArg (View.addHandle · _ _) (hcall irodsPath))⟩

theorem view_scheduleClose (s : State) (id : Nat) :
    ({ s with closeTasks := s.closeTasks ++ [id] } : State).view = s.view.schedule id :=
  rfl

/-- `Release` fails and leaves the lifecycle alone, or succeeds and either starts a close task
(read-only handles) or closes the handle at once. -/
theorem view_handleRelease (cfg : Config) (s : State) (id : Nat) (handle : FileHandle)
    (o : ReleaseOutcome) :
    ((handleRelease cfg s id handle o).1.view = s.view ∧ (handleRelease cfg s id handle o).2 ≠ .OK) ∨
    ((handleRelease cfg s id handle o).2 = .OK ∧ handle.openMode.IsReadOnly = true ∧
      (handleRelease cfg s id handle o).1.view = s.view.schedule id) ∨
    ((handleRelease cfg s id handle o).2 = .OK ∧ handle.openMode.IsReadOnly = false ∧
      (handleRelease cfg s id handle o).1.view = s.view.closeHandle cfg.reporting id) := by
  have hquiet : Quiet s ((s.clearReader id).releaseWriter id handle o.writerFailAt).1 :=
    (quiet_updateHandle s id _).trans (quiet_releaseWriter _ id handle o.writerFailAt)
  rcases handleRelease_cases cfg s id handle o rfl
    with ⟨h, hne⟩ | ⟨-, h⟩ | ⟨-, hro, h⟩ | ⟨-, hro, h⟩
  · exact .inl ⟨by rw [h], hne⟩
  all_goals rw [h]
  · exact .inl ⟨hquiet.trans (quiet_setWriter _ _ _), show Errno.EREMOTEIO ≠ .OK by decide⟩
  · refine .inr (.inl ⟨rfl, hro, ?_⟩)
    rw [view_scheduleClose, hquiet.trans (quiet_setWriter _ id none)]
  · refine .inr (.inr ⟨rfl, hro, ?_⟩)
    rw [view_closeFunc, hquiet.trans (quiet_setWriter _ id none)]

end State

end IrodsFs
