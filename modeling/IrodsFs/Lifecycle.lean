import IrodsFs.Frame

/-!
# The life of a backend handle

Seen from its lifecycle the filesystem is a small machine: `Open` takes an ID, `Release` fails,
schedules a close task or closes at once, and a close task runs `closeFunc`. Every run of the
model is a run of the machine (`run_refines_lifecycle`), whose invariant, read back on the
trace, says a handle is closed at most once and only after its `Release`
(`reachable_trace_lifecycle`).
-/

namespace IrodsFs

namespace View

/-- A handle the kernel may still send requests for. -/
def Live (v : View) (id : Nat) : Prop :=
  id ∉ v.released ∧ v.present id = true

/-- One step of the lifecycle. -/
inductive Step (reporting : Bool) : View → View → Prop
  | stay (v : View) : Step reporting v v
  | addHandle (v : View) (stored : Bool) : Step reporting v (v.addHandle reporting stored)
  | releaseFailed (v : View) (id : Nat) (hlive : v.Live id) : Step reporting v (v.markReleased id)
  | releaseScheduled (v : View) (id : Nat) (hlive : v.Live id) :
      Step reporting v ((v.markReleased id).schedule id)
  | releaseClosed (v : View) (id : Nat) (hlive : v.Live id) :
      Step reporting v ((v.markReleased id).closeHandle reporting id)
  | runCloseTask (v : View) (id : Nat) (htask : id ∈ v.closeTasks) (hpresent : v.present id = true) :
      Step reporting v ((v.unschedule id).closeHandle reporting id)

end View

namespace State

theorem setxattr_calls_quiet (terminated : Bool) (vpathManager : VPathManager)
    (isUnhandledAttr : String → Bool) (path attr : String) (data : List UInt8) (ensured : Bool)
    (result : ClientResult Unit) :
    ∀ c ∈ (setxattr terminated vpathManager isUnhandledAttr path attr data ensured result).2,
      c.IsLifecycle = false := fun c hc => by
  obtain ⟨_, rfl⟩ := setxattr_calls terminated vpathManager isUnhandledAttr path attr data ensured
    result c hc
  rfl

theorem removexattr_calls_quiet (terminated : Bool) (vpathManager : VPathManager)
    (path attr : String) (ensured : Bool) (getResult : ClientResult (Option (List UInt8)))
    (removeResult : ClientResult Unit) :
    ∀ c ∈ (removexattr terminated vpathManager path attr ensured getResult removeResult).2,
      c.IsLifecycle = false := fun c hc => by
  obtain ⟨_, rfl | rfl⟩ := removexattr_calls terminated vpathManager path attr ensured getResult
    removeResult c hc <;> rfl

theorem liveHandle?_eq_some {s : State} {id : Nat} {handle : FileHandle}
    (h : s.liveHandle? id = some handle) : s.view.Live id ∧ s.handles id = some handle := by
  unfold liveHandle? at h
  split_ifs at h with hrel
  exact ⟨⟨hrel, by simp [view, Present, h]⟩, h⟩

/-- Every event moves the lifecycle by one step of `View.Step`, or not at all. -/
theorem step_view (cfg : Config) (s : State) (e : Event) :
    View.Step cfg.reporting s.view (s.step cfg e).1.view := by
  have stay : ∀ s', Quiet s s' → View.Step cfg.reporting s.view s'.view :=
    fun s' h => h ▸ View.Step.stay _
  cases e with
  | «open» path flags o =>
      rcases view_fileOpen cfg s path flags o with h | ⟨stored, h⟩
      · exact h ▸ View.Step.stay _
      · exact h ▸ View.Step.addHandle _ stored
  | write | truncate | setattr | flush | fsync =>
      simp only [step]
      split
      · -- the handle handlers are quiet
        apply stay
        first
          | exact quiet_handleWrite _ _ _ _ _ _
          | exact quiet_handleTruncate _ _ _ _ _
          | exact quiet_handleSetattr _ _ _ _ _
          | exact quiet_handleFlush _ _ _ _
      · exact View.Step.stay _
  | release id o =>
      simp only [step]
      split
      · rename_i handle hlive
        have hl := (liveHandle?_eq_some hlive).1
        rcases view_handleRelease cfg { s with released := s.released ++ [id] } id handle o with
          ⟨h, -⟩ | ⟨-, -, h⟩ | ⟨-, -, h⟩
        · exact h ▸ View.Step.releaseFailed _ id hl
        · exact h ▸ View.Step.releaseScheduled _ id hl
        · exact h ▸ View.Step.releaseClosed _ id hl
      · exact View.Step.stay _
  | fileSetattr path size o => exact stay _ (quiet_fileSetattr _ _ _ _ _)
  | truncateResume index o =>
      simp only [step]
      split
      · exact stay _ (quiet_truncateFinish { s with truncates := s.truncates.eraseIdx index } _ _)
      · exact View.Step.stay _
  | setxattr path attr data ensured result =>
      exact stay _ (quiet_record (setxattr_calls_quiet _ _ _ _ _ _ _ _))
  | removexattr path attr ensured getResult removeResult =>
      exact stay _ (quiet_record (removexattr_calls_quiet _ _ _ _ _ _ _))
  | upload id failAt =>
      simp only [step]
      split
      · exact stay _ (quiet_upload _ _ _ _)
      · exact View.Step.stay _
  | runCloseTask id =>
      simp only [step]
      split
      · rename_i handle hhandle
        split_ifs with htask
        · rw [view_closeFunc]
          exact View.Step.runCloseTask _ id htask (by simp [view, Present, hhandle])
        · exact View.Step.stay _
      · exact View.Step.stay _
  | terminate => exact View.Step.stay _

end State

/-! ### The invariant of the lifecycle -/

namespace View

/-- Close calls made for `id`, and close tasks waiting to make one. -/
def closes (v : View) (id : Nat) : Nat :=
  v.lifecycleCalls.count (.close id) + v.closeTasks.count id

/-- **The lifecycle invariant.** IDs are handed out in order; only a handle that was built is ever
closed or scheduled for closing; a registered handle has not been closed; a handle is closed, or
scheduled to be, at most once and only after its `Release`; and, with a report client, each ID is
reported started once and done exactly as often as it is closed. -/
structure Inv (reporting : Bool) (v : View) : Prop where
  present_lt : ∀ id, v.present id = true → id < v.nextID
  closed_present : ∀ id, ClientCall.close id ∈ v.lifecycleCalls → v.present id = true
  registered_unclosed : ∀ id ∈ v.fileHandleMap, ClientCall.close id ∉ v.lifecycleCalls
  task_present : ∀ id ∈ v.closeTasks, v.present id = true
  closes_le_one : ∀ id, v.closes id ≤ 1
  closes_released : ∀ id, id ∉ v.released → v.closes id = 0
  start_count : ∀ id, v.lifecycleCalls.count (.startFileAccess id) =
    if reporting ∧ id < v.nextID then 1 else 0
  done_count : ∀ id, v.lifecycleCalls.count (.doneFileAccess id) =
    if reporting then v.lifecycleCalls.count (.close id) else 0

theorem closes_addHandle (v : View) (reporting stored : Bool) (id : Nat) :
    (v.addHandle reporting stored).closes id = v.closes id := by
  cases reporting <;> simp [closes, addHandle]

theorem closes_markReleased (v : View) (released id : Nat) :
    (v.markReleased released).closes id = v.closes id := rfl

theorem closes_schedule (v : View) (scheduled id : Nat) :
    (v.schedule scheduled).closes id = v.closes id + if id = scheduled then 1 else 0 := by
  by_cases hid : id = scheduled
  · subst hid
    simp [closes, schedule]
    omega
  · simp [closes, schedule, hid, Ne.symm hid]

theorem closes_closeHandle (v : View) (reporting : Bool) (closed id : Nat) :
    (v.closeHandle reporting closed).closes id = v.closes id + if id = closed then 1 else 0 := by
  by_cases hid : id = closed
  · subst hid
    cases reporting <;> simp [closes, closeHandle] <;> omega
  · cases reporting <;> simp [closes, closeHandle, hid, Ne.symm hid]

theorem closes_unschedule {v : View} {scheduled : Nat} (h : scheduled ∈ v.closeTasks) (id : Nat) :
    (v.unschedule scheduled).closes id + (if id = scheduled then 1 else 0) = v.closes id := by
  by_cases hid : id = scheduled
  · subst hid
    have hpos := List.count_pos_iff.mpr h
    simp [closes, unschedule, List.count_erase_self]
    omega
  · simp [closes, unschedule, List.count_erase_of_ne hid, hid]

theorem present_addHandle (v : View) (reporting stored : Bool) (id : Nat) :
    (v.addHandle reporting stored).present id = (stored && id == v.nextID || v.present id) := by
  cases stored
  · rfl
  · by_cases hid : id = v.nextID <;> simp [addHandle, hid]

theorem close_mem_addHandle (v : View) (reporting stored : Bool) (id : Nat) :
    ClientCall.close id ∈ (v.addHandle reporting stored).lifecycleCalls ↔
      ClientCall.close id ∈ v.lifecycleCalls := by
  cases reporting <;> simp [addHandle]

namespace Inv

variable {reporting : Bool} {v : View}

theorem addHandle (hinv : v.Inv reporting) (stored : Bool) :
    (v.addHandle reporting stored).Inv reporting := by
  have hnew : ClientCall.close v.nextID ∉ v.lifecycleCalls :=
    fun h => Nat.lt_irrefl _ (hinv.present_lt _ (hinv.closed_present _ h))
  have hpresent : ∀ id, v.present id = true → (v.addHandle reporting stored).present id = true :=
    fun id h => by simp [present_addHandle, h]
  refine ⟨fun id h => ?_, fun id h => ?_, fun id h => ?_, fun id h => ?_, fun id => ?_,
    fun id h => ?_, fun id => ?_, fun id => ?_⟩
  · rw [present_addHandle] at h
    show id < v.nextID + 1
    simp only [Bool.or_eq_true, Bool.and_eq_true, beq_iff_eq] at h
    rcases h with ⟨-, rfl⟩ | h
    · exact Nat.lt_succ_self _
    · exact Nat.lt_succ_of_lt (hinv.present_lt id h)
  · exact hpresent id (hinv.closed_present id ((close_mem_addHandle v reporting stored id).mp h))
  · rw [close_mem_addHandle]
    cases stored
    · exact hinv.registered_unclosed id h
    · rcases List.mem_append.mp h with h | h
      · exact hinv.registered_unclosed id h
      · exact (List.mem_singleton.mp h) ▸ hnew
  · exact hpresent id (hinv.task_present id h)
  · rw [closes_addHandle]; exact hinv.closes_le_one id
  · rw [closes_addHandle]; exact hinv.closes_released id h
  · have hold := hinv.start_count id
    by_cases hid : id = v.nextID
    · subst hid
      cases reporting <;> simp [View.addHandle, hold]
    · have hlt : id < v.nextID + 1 ↔ id < v.nextID := by omega
      cases reporting <;> simp [View.addHandle, hold, hid, Ne.symm hid, hlt]
  · have := hinv.done_count id
    cases reporting <;> simp [View.addHandle, this]

theorem markReleased (hinv : v.Inv reporting) (id : Nat) : (v.markReleased id).Inv reporting :=
  { hinv with
    closes_released := fun j hj => hinv.closes_released j fun h => hj (List.mem_append_left _ h) }

theorem schedule (hinv : v.Inv reporting) {id : Nat} (hrel : id ∈ v.released)
    (hpresent : v.present id = true) (hzero : v.closes id = 0) : (v.schedule id).Inv reporting :=
  { hinv with
    task_present := fun j hj => by
      rcases List.mem_append.mp hj with hj | hj
      · exact hinv.task_present j hj
      · exact (List.mem_singleton.mp hj) ▸ hpresent
    closes_le_one := fun j => by
      rw [closes_schedule]
      by_cases hj : j = id
      · subst hj; simp [hzero]
      · simpa [hj] using hinv.closes_le_one j
    closes_released := fun j hj => by
      have hne : j ≠ id := fun h => hj (h ▸ hrel)
      simpa [closes_schedule, hne] using hinv.closes_released j hj }

theorem closeHandle (hinv : v.Inv reporting) {id : Nat} (hrel : id ∈ v.released)
    (hpresent : v.present id = true) (hzero : v.closes id = 0) :
    (v.closeHandle reporting id).Inv reporting := by
  have hcalls : ∀ j, ClientCall.close j ∈ (v.closeHandle reporting id).lifecycleCalls ↔
      ClientCall.close j ∈ v.lifecycleCalls ∨ j = id := by
    intro j; cases reporting <;> simp [View.closeHandle]
  refine ⟨hinv.present_lt, fun j hj => ?_, fun j hj => ?_, hinv.task_present, fun j => ?_,
    fun j hj => ?_, fun j => ?_, fun j => ?_⟩
  · rcases (hcalls j).mp hj with hj | rfl
    · exact hinv.closed_present j hj
    · exact hpresent
  · simp only [View.closeHandle, List.mem_filter, bne_iff_ne, ne_eq] at hj
    rw [hcalls]
    exact fun h => h.elim (hinv.registered_unclosed j hj.1) hj.2
  · rw [closes_closeHandle]
    by_cases hj : j = id
    · subst hj; simp [hzero]
    · simpa [hj] using hinv.closes_le_one j
  · have hne : j ≠ id := fun h => hj (h ▸ hrel)
    simpa [closes_closeHandle, hne] using hinv.closes_released j hj
  · cases reporting <;> simp [View.closeHandle, hinv.start_count j]
  · have hold := hinv.done_count j
    by_cases hj : j = id
    · subst hj; cases reporting <;> simp [View.closeHandle, hold]
    · cases reporting <;> simp [View.closeHandle, hold, hj, Ne.symm hj]

theorem unschedule (hinv : v.Inv reporting) {id : Nat} (htask : id ∈ v.closeTasks) :
    (v.unschedule id).Inv reporting :=
  have hle : ∀ j, (v.unschedule id).closes j ≤ v.closes j :=
    fun j => Nat.le.intro (closes_unschedule htask j)
  { hinv with
    task_present := fun j hj => hinv.task_present j (List.mem_of_mem_erase hj)
    closes_le_one := fun j => (hle j).trans (hinv.closes_le_one j)
    closes_released := fun j hj => Nat.eq_zero_of_le_zero ((hle j).trans_eq (hinv.closes_released j hj)) }

/-- **Every step keeps the invariant.** -/
theorem step {v' : View} (hinv : v.Inv reporting) (h : Step reporting v v') : v'.Inv reporting := by
  cases h with
  | stay => exact hinv
  | addHandle stored => exact hinv.addHandle stored
  | releaseFailed id hlive => exact hinv.markReleased id
  | releaseScheduled id hlive =>
      exact (hinv.markReleased id).schedule (List.mem_append_right _ (List.mem_singleton_self id))
        hlive.2 (hinv.closes_released id hlive.1)
  | releaseClosed id hlive =>
      exact (hinv.markReleased id).closeHandle
        (List.mem_append_right _ (List.mem_singleton_self id)) hlive.2
        (hinv.closes_released id hlive.1)
  | runCloseTask id htask hpresent =>
      have hpos : 0 < v.closes id := Nat.add_pos_right _ (List.count_pos_iff.mpr htask)
      have hrel : id ∈ v.released := by
        by_contra hrel
        exact Nat.lt_irrefl 0 (hinv.closes_released id hrel ▸ hpos)
      have hzero : (v.unschedule id).closes id = 0 := by
        have := closes_unschedule htask id
        have := hinv.closes_le_one id
        simp at *; omega
      exact (hinv.unschedule htask).closeHandle hrel hpresent hzero

end Inv

end View

/-! ### Along every run -/

/-- A property of lifecycles that every step of the machine keeps holds after any run. -/
theorem view_run {cfg : Config} {P : View → Prop}
    (hstep : ∀ v v', P v → View.Step cfg.reporting v v' → P v') :
    ∀ (s : State) (events : List Event), P s.view → P (run cfg s events).view
  | _, [], h => h
  | s, e :: events, h => view_run hstep _ events (hstep _ _ h (State.step_view cfg s e))

/-- **The model refines the lifecycle machine.** From any state, the lifecycle of every run of
the model is a run of `View.Step`, one step of the machine for each event. -/
theorem run_refines_lifecycle (cfg : Config) :
    ∀ (s : State) (events : List Event),
      Relation.ReflTransGen (View.Step cfg.reporting) s.view (run cfg s events).view
  | _, [] => .refl
  | s, e :: events => .head (State.step_view cfg s e) (run_refines_lifecycle cfg _ events)

theorem inv_init (reporting : Bool) (objects : String → List UInt8) :
    (State.init objects).view.Inv reporting :=
  ⟨fun _ h => Bool.noConfusion h, fun _ h => (nomatch h), fun _ h => (nomatch h),
    fun _ h => (nomatch h), fun _ => Nat.zero_le 1, fun _ _ => rfl,
    fun _ => by simp [State.init, State.view, State.lifecycleCalls],
    fun _ => by simp [State.init, State.view, State.lifecycleCalls]⟩

/-- **The lifecycle invariant holds of every reachable state**, whatever the mappings, the events
and the outcomes of the remote calls. -/
theorem lifecycle_inv_reachable (cfg : Config) (objects : String → List UInt8)
    (events : List Event) : (run cfg (State.init objects) events).view.Inv cfg.reporting :=
  view_run (fun _ _ hinv h => hinv.step h) _ events (inv_init cfg.reporting objects)

theorem State.count_lifecycleCalls (s : State) (c : ClientCall) (hc : c.IsLifecycle = true) :
    s.lifecycleCalls.count c = (s.calls.map Prod.snd).count c :=
  List.count_filter hc

theorem State.mem_lifecycleCalls (s : State) (c : ClientCall) (hc : c.IsLifecycle = true) :
    c ∈ s.lifecycleCalls ↔ c ∈ s.calls.map Prod.snd := by
  simp only [State.lifecycleCalls, List.mem_filter, hc, and_true]

/-- **The handle lifecycle of every reachable trace.** Whatever the mappings, the events and the
outcomes of the remote calls: every ID that names a `FileHandle` was handed out; the trace closes
only handles that were built, and no registered one; a close task waits only for a built handle;
each handle is closed, or queued to be, at most once and only after the kernel released it; and,
with a report client, each ID handed out is reported started once, and done exactly as often as
it is closed. -/
theorem reachable_trace_lifecycle (cfg : Config) (objects : String → List UInt8)
    (events : List Event) :
    let s := run cfg (State.init objects) events
    let trace := s.calls.map Prod.snd
    (∀ id, (s.handles id).isSome = true → id < s.nextID) ∧
      (∀ id, ClientCall.close id ∈ trace → (s.handles id).isSome = true) ∧
      (∀ id ∈ s.fileHandleMap, ClientCall.close id ∉ trace) ∧
      (∀ id ∈ s.closeTasks, (s.handles id).isSome = true) ∧
      (∀ id, trace.count (.close id) + s.closeTasks.count id ≤ 1) ∧
      (∀ id, id ∉ s.released → ClientCall.close id ∉ trace ∧ id ∉ s.closeTasks) ∧
      (∀ id, trace.count (.startFileAccess id) = if cfg.reporting ∧ id < s.nextID then 1 else 0) ∧
      (∀ id, trace.count (.doneFileAccess id) =
        if cfg.reporting then trace.count (.close id) else 0) := by
  intro s trace
  have hinv := lifecycle_inv_reachable cfg objects events
  have hclose : ∀ id, ClientCall.close id ∈ s.lifecycleCalls ↔ ClientCall.close id ∈ trace :=
    fun id => s.mem_lifecycleCalls (.close id) rfl
  refine ⟨hinv.present_lt, fun id h => hinv.closed_present id ((hclose id).mpr h),
    fun id hid h => hinv.registered_unclosed id hid ((hclose id).mpr h), hinv.task_present,
    fun id => ?_, fun id hid => ?_, fun id => ?_, fun id => ?_⟩
  · rw [← s.count_lifecycleCalls (.close id) rfl]
    exact hinv.closes_le_one id
  -- a handle the kernel still holds has no close, made or queued
  · have hzero := hinv.closes_released id hid
    simp only [View.closes, Nat.add_eq_zero, List.count_eq_zero] at hzero
    exact ⟨fun h => hzero.1 ((hclose id).mpr h), hzero.2⟩
  · rw [← s.count_lifecycleCalls (.startFileAccess id) rfl]
    exact hinv.start_count id
  · rw [← s.count_lifecycleCalls (.doneFileAccess id) rfl,
      ← s.count_lifecycleCalls (.close id) rfl]
    exact hinv.done_count id

end IrodsFs
