import IrodsFs.Release

/-!
# `File.Truncate`

`File.Truncate` walks a `ListByPath` snapshot: the first write-mode handle truncates, and with
none the client does, when the size differs (`truncateFinish_makes_one_call`). The snapshot holds
no closed handle when taken (`listByPath_unclosed`), but a `Release` may close one of its handles
before the walk reaches it.
-/

namespace IrodsFs

namespace State

/-- The handle the spec says `File.Truncate` delegates to: the first of `ids` whose backend handle
is in a write mode. -/
def firstWriteHandle? (s : State) (ids : List Nat) : Option (Nat × FileHandle) :=
  ids.findSome? fun id =>
    (s.handles id).bind fun handle =>
      if handle.openMode.IsWriteMode then some (id, handle) else none

theorem firstWriteHandle?_eq_some {s : State} {ids : List Nat} {id : Nat} {handle : FileHandle}
    (h : firstWriteHandle? s ids = some (id, handle)) :
    s.handles id = some handle ∧ handle.openMode.IsWriteMode = true := by
  obtain ⟨j, -, hj⟩ := List.exists_of_findSome?_eq_some h
  cases hhandle : s.handles j <;> simp only [hhandle, Option.none_bind, Option.some_bind] at hj
  · exact absurd hj Option.noConfusion
  · split_ifs at hj with hw
    cases hj
    exact ⟨hhandle, hw⟩

@[simp] theorem record_calls (s : State) (file : String) (calls : List ClientCall) :
    (s.record file calls).calls = s.calls ++ calls.map (file, ·) := rfl

@[simp] theorem truncateObject_calls (s : State) (path : String) (size : Nat) :
    (s.truncateObject path size).calls = s.calls := rfl

/-- The walk over the snapshot truncates through the first write-mode handle, if any, and through
no other. -/
theorem truncateLoop_eq (size : UInt64) (truncated : Bool) (s : State) (ids : List Nat) :
    truncateLoop size truncated s ids =
      match firstWriteHandle? s ids with
      | some (id, handle) =>
          if (s.handleTruncate id handle size truncated).2 != .OK then
            ((s.handleTruncate id handle size truncated).1,
              some (s.handleTruncate id handle size truncated).2, false)
          else ((s.handleTruncate id handle size truncated).1, none, true)
      | none => (s, none, false) := by
  induction ids with
  | nil => rfl
  | cons id ids ih =>
      simp only [truncateLoop, firstWriteHandle?, List.findSome?_cons]
      cases hhandle : s.handles id with
      | none => exact ih
      | some handle =>
          by_cases hwrite : handle.openMode.IsWriteMode = true
          · simp only [Option.some_bind, hwrite, if_true]
          · simp only [Option.some_bind, hwrite, Bool.false_eq_true, if_false]
            exact ih

/-- `FileHandle.Truncate` on a write-mode handle: one backend call unless the filesystem is
terminated, and its errno. -/
theorem handleTruncate_of_writeMode (s : State) (id : Nat) {handle : FileHandle} (size : UInt64)
    (truncated : Bool) (hwrite : handle.openMode.IsWriteMode = true) :
    (s.handleTruncate id handle size truncated).1.calls =
        s.calls ++ (if s.terminated then [] else [(handle.file, .truncate id (toInt64 size))]) ∧
      (s.handleTruncate id handle size truncated).2 =
        if s.terminated then .ECONNABORTED else if truncated then .OK else Errno.EREMOTEIO := by
  unfold handleTruncate
  cases s.terminated <;> cases truncated <;> simp [hwrite]

/-- **`File.Truncate` makes one truncating call at most.** For every snapshot and size: with a
write-mode handle in the snapshot, the effect and the errno are those of `FileHandle.Truncate` on
the first one, and no direct call follows even when it fails; with none, `TruncateFile` is called
exactly when the object's size differs, and its failure is the errno. -/
theorem truncateFinish_makes_one_call (s : State) (task : TruncateTask) (o : TruncateOutcome) :
    match firstWriteHandle? s task.handlesOpened with
    | some (id, handle) =>
        truncateFinish s task o = s.handleTruncate id handle task.size o.handleTruncated ∧
          handle.openMode.IsWriteMode = true
    | none =>
        (truncateFinish s task o).1.calls = s.calls ++
            (if task.entry.size = toInt64 task.size then []
              else [(task.file, .truncateFile task.entry.path (toInt64 task.size))]) ∧
          (truncateFinish s task o).2 =
            if task.entry.size = toInt64 task.size then .OK else clientErrno o.truncateFile := by
  have hloop := truncateLoop_eq task.size o.handleTruncated s task.handlesOpened
  split
  · rename_i id handle hfirst
    have hwrite := (firstWriteHandle?_eq_some hfirst).2
    rw [hfirst] at hloop
    dsimp only at hloop
    refine ⟨?_, hwrite⟩
    generalize s.handleTruncate id handle task.size o.handleTruncated = r at hloop ⊢
    obtain ⟨s', errno⟩ := r
    unfold truncateFinish
    rw [hloop]
    by_cases hok : errno = .OK
    · subst hok
      rfl
    · simp [hok]
  · rename_i hfirst
    rw [hfirst] at hloop
    unfold truncateFinish
    rw [hloop]
    by_cases hsize : task.entry.size = toInt64 task.size
    · simp [hsize]
    · cases o.truncateFile <;> simp [hsize, clientErrno]

end State

/-! ### The snapshot and a concurrent `Release` -/

/-- **The snapshot holds no closed handle.** In every reachable state, no handle `ListByPath`
returns has been closed. -/
theorem listByPath_unclosed (cfg : Config) (objects : String → List UInt8) (events : List Event)
    (path : String) (id : Nat)
    (hid : id ∈ (run cfg (State.init objects) events).listByPath path) :
    ClientCall.close id ∉ (run cfg (State.init objects) events).lifecycleCalls :=
  (lifecycle_inv_reachable cfg objects events).registered_unclosed id (List.mem_filter.mp hid).1

theorem listByPath_unclosed_after_open :
    0 ∈ (run plainMount (State.init fun _ => []) openWriteRun).listByPath "/f" ∧
      ClientCall.close 0 ∉ (run plainMount (State.init fun _ => []) openWriteRun).lifecycleCalls :=
  have hid : 0 ∈ (run plainMount (State.init fun _ => []) openWriteRun).listByPath "/f" := by
    decide
  ⟨hid, listByPath_unclosed plainMount _ _ "/f" 0 hid⟩

/-- A write-only handle on `/f`; `truncate(2)` of `/f` to size 0 takes its snapshot, the handle is
released and closed, and the truncate resumes. The closed handle's truncate fails. -/
def truncateAfterReleaseRun : List Event :=
  [.open "/f" O_WRONLY ⟨true, .ok (), true⟩, .fileSetattr "/f" (some 0) ⟨true, .ok ⟨"/f", 5⟩⟩,
    .release 0 ⟨false, none⟩, .truncateResume 0 ⟨false, .ok ()⟩]

/-- **`File.Truncate` truncates through a closed handle.** The `Release` between the snapshot and
the walk closes handle 0; the walk still picks it, its backend `Truncate` comes after its
`Close`, and `File.Truncate` answers `EREMOTEIO`. -/
theorem truncate_after_release_uses_closed_handle :
    replies plainMount (State.init fun _ => []) truncateAfterReleaseRun =
        [some .OK, none, some .OK, some Errno.EREMOTEIO] ∧
      ((run plainMount (State.init fun _ => []) truncateAfterReleaseRun).calls.map Prod.snd) =
        [.openFile "/f" .writeOnly, .startFileAccess 0, .doneFileAccess 0, .close 0,
          .truncate 0 0] := by
  decide

end IrodsFs
