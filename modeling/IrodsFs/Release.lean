import IrodsFs.Lifecycle

/-!
# The handles a failed `Release` or `Open` leaves behind

A `Release` whose reader or writer reports an error returns `EREMOTEIO` with the handle still
registered and open; the kernel sends no second `RELEASE`, so the handle is stranded. An `Open`
whose `NewFileHandle` fails after `OpenFile` succeeded returns `EREMOTEIO` without closing the
backend handle it got, which nothing else knows about. Both are states no later event leaves
(`Stranded.step`, `Unowned.step`).
-/
namespace IrodsFs

namespace View

/-- The kernel has released the handle, but it is still registered and no close task waits for
it: nothing can close it any more. -/
def Stranded (v : View) (id : Nat) : Prop :=
  id ∈ v.released ∧ id ∈ v.fileHandleMap ∧ id ∉ v.closeTasks

/-- The ID was taken for a backend handle that no `FileHandle` holds, and it was never closed or
reported done. -/
def Unowned (v : View) (id : Nat) : Prop :=
  id < v.nextID ∧ v.present id = false ∧ ClientCall.close id ∉ v.lifecycleCalls ∧
    ClientCall.doneFileAccess id ∉ v.lifecycleCalls

instance (v : View) (id : Nat) : Decidable (v.Stranded id) :=
  inferInstanceAs (Decidable (_ ∧ _ ∧ _))

instance (v : View) (id : Nat) : Decidable (v.Unowned id) :=
  inferInstanceAs (Decidable (_ ∧ _ ∧ _ ∧ _))

variable {reporting : Bool} {v v' : View} {id : Nat}

theorem Stranded.step (h : v.Stranded id) (hstep : Step reporting v v') : v'.Stranded id := by
  obtain ⟨hrel, hreg, htask⟩ := h
  cases hstep with
  | stay => exact ⟨hrel, hreg, htask⟩
  | addHandle stored =>
      cases stored
      · exact ⟨hrel, hreg, htask⟩
      · exact ⟨hrel, List.mem_append_left _ hreg, htask⟩
  | releaseFailed j hlive => exact ⟨List.mem_append_left _ hrel, hreg, htask⟩
  | releaseScheduled j hlive =>
      have hne : id ≠ j := fun h => hlive.1 (h ▸ hrel)
      refine ⟨List.mem_append_left _ hrel, hreg, ?_⟩
      simpa [View.schedule, View.markReleased, hne] using htask
  | releaseClosed j hlive =>
      have hne : id ≠ j := fun h => hlive.1 (h ▸ hrel)
      exact ⟨List.mem_append_left _ hrel, List.mem_filter.mpr ⟨hreg, by simpa using hne⟩, htask⟩
  | runCloseTask j hj hpresent =>
      have hne : id ≠ j := fun h => htask (h ▸ hj)
      exact ⟨hrel, List.mem_filter.mpr ⟨hreg, by simpa using hne⟩,
        fun h => htask (List.mem_of_mem_erase h)⟩

theorem Unowned.step (h : v.Unowned id) (hstep : Step reporting v v') : v'.Unowned id := by
  obtain ⟨hlt, habsent, hclose, hdone⟩ := h
  have hcalls : ∀ j, v.present j = true →
      ClientCall.close id ∉ v.lifecycleCalls ++
          ((if reporting then [ClientCall.doneFileAccess j] else []) ++ [.close j]) ∧
        ClientCall.doneFileAccess id ∉ v.lifecycleCalls ++
          ((if reporting then [ClientCall.doneFileAccess j] else []) ++ [.close j]) := by
    intro j hj
    have hne : id ≠ j := fun h => Bool.noConfusion (habsent.symm.trans (h ▸ hj))
    cases reporting <;> simp [hclose, hdone, hne]
  cases hstep with
  | stay => exact ⟨hlt, habsent, hclose, hdone⟩
  | addHandle stored =>
      refine ⟨Nat.lt_succ_of_lt hlt, ?_, ?_, ?_⟩
      · simp [present_addHandle, habsent, Nat.ne_of_lt hlt]
      · rwa [close_mem_addHandle]
      · cases reporting <;> simp [View.addHandle, hdone, Nat.ne_of_lt hlt]
  | releaseFailed j hlive => exact ⟨hlt, habsent, hclose, hdone⟩
  | releaseScheduled j hlive => exact ⟨hlt, habsent, hclose, hdone⟩
  | releaseClosed j hlive => exact ⟨hlt, habsent, hcalls j hlive.2⟩
  | runCloseTask j hj hpresent => exact ⟨hlt, habsent, hcalls j hpresent⟩

end View

/-- A mount with one writable iRODS mapping for every path, and a report client. -/
def plainMount : Config :=
  ⟨⟨fun _ => some ⟨.irods, false⟩, fun _ path => some path⟩, fun _ => false, true⟩

/-- A write-only handle on `/f`, opened under `plainMount`. -/
def openWriteRun : List Event :=
  [.open "/f" O_WRONLY ⟨true, .ok (), true⟩]

/-! ### The two leaks -/

/-- A write-only handle whose buffered write fails to upload when `Release` flushes it. -/
def failedReleaseRun : List Event :=
  [.open "/f" O_WRONLY ⟨true, .ok (), true⟩, .write 0 [1, 2] 0 true, .release 0 ⟨false, some 0⟩]

/-- A read-only `Open` whose prefetching reader cannot be built after `OpenFile` succeeded. -/
def failedOpenRun : List Event :=
  [.open "/f" 0 ⟨true, .ok (), false⟩]

/-- **Failed releases and opens leak their backend handles.** The write-only handle's `Release`
answers `EREMOTEIO`; from then on, whatever happens, the handle stays in the registry and is never
closed. The failed `Open` answers `EREMOTEIO` after reporting the access started; from then on,
whatever happens, the backend handle is never closed and the access never reported done. -/
theorem failed_release_and_open_leak (events : List Event) :
    replies plainMount (State.init fun _ => []) failedReleaseRun =
        [some .OK, some .OK, some Errno.EREMOTEIO] ∧
      0 ∈ (run plainMount (State.init fun _ => []) (failedReleaseRun ++ events)).fileHandleMap ∧
      ClientCall.close 0 ∉
        (run plainMount (State.init fun _ => []) (failedReleaseRun ++ events)).lifecycleCalls ∧
      replies plainMount (State.init fun _ => []) failedOpenRun = [some Errno.EREMOTEIO] ∧
      ClientCall.startFileAccess 0 ∈
        (run plainMount (State.init fun _ => []) (failedOpenRun ++ events)).lifecycleCalls ∧
      ClientCall.close 0 ∉
        (run plainMount (State.init fun _ => []) (failedOpenRun ++ events)).lifecycleCalls ∧
      ClientCall.doneFileAccess 0 ∉
        (run plainMount (State.init fun _ => []) (failedOpenRun ++ events)).lifecycleCalls := by
  have hinvR := lifecycle_inv_reachable plainMount (fun _ => []) (failedReleaseRun ++ events)
  have hinvO := lifecycle_inv_reachable plainMount (fun _ => []) (failedOpenRun ++ events)
  rw [run_append] at hinvR hinvO
  simp only [run_append]
  have hstranded : (run plainMount (run plainMount (State.init fun _ => []) failedReleaseRun)
      events).view.Stranded 0 :=
    view_run (fun _ _ (h : View.Stranded _ 0) hstep => h.step hstep) _ events (by decide)
  have hunowned : (run plainMount (run plainMount (State.init fun _ => []) failedOpenRun)
      events).view.Unowned 0 :=
    view_run (fun _ _ (h : View.Unowned _ 0) hstep => h.step hstep) _ events (by decide)
  have hstarted := hinvO.start_count 0
  rw [if_pos (show plainMount.reporting = true ∧ _ from ⟨rfl, hunowned.1⟩)] at hstarted
  exact ⟨by decide, hstranded.2.1, hinvR.registered_unclosed 0 hstranded.2.1, by decide,
    List.count_pos_iff.mp (hstarted ▸ Nat.one_pos), hunowned.2.2.1, hunowned.2.2.2⟩

end IrodsFs
