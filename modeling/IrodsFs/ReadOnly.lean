import IrodsFs.Writer

/-!
# Read-only mappings

`File.Open` is the only handler that reads a mapping's read-only flag: `File.Truncate`,
`File.Setxattr` and `File.Removexattr` take the path straight to the client. What the check does
protect is everything that goes through a handle (`read_only_guard_reachable`).
-/

namespace IrodsFs

/-- A mount whose one mapping covers every path and is read-only. -/
def readOnlyMount : Config :=
  ⟨⟨fun _ => some ⟨.irods, true⟩, fun _ path => some path⟩, fun _ => false, true⟩

/-- Under the read-only mapping: an `Open` for writing, a `truncate(2)` to size 0 of an object of
five bytes, a `setxattr` and a `removexattr`. -/
def readOnlyMutationRun : List Event :=
  [.open "/f" O_WRONLY ⟨true, .ok (), true⟩, .fileSetattr "/f" (some 0) ⟨true, .ok ⟨"/f", 5⟩⟩,
    .truncateResume 0 ⟨false, .ok ()⟩, .setxattr "/f" "user.k" [1] true (.ok ()),
    .removexattr "/f" "user.k" true (.ok (some [1])) (.ok ())]

/-- **Only `Open` checks the read-only flag.** Under a read-only mapping `Open` for writing fails
before it reaches the client, but the truncate, the `setxattr` and the `removexattr` reach it and
succeed. -/
theorem read_only_mapping_mutated :
    (readOnlyMount.vpathManager.GetClosestEntry "/f").map (·.readOnly) = some true ∧
      replies readOnlyMount (State.init fun _ => []) readOnlyMutationRun =
        [some Errno.EREMOTEIO, none, some .OK, some .OK, some .OK] ∧
      (run readOnlyMount (State.init fun _ => []) readOnlyMutationRun).calls.map Prod.snd =
        [.truncateFile "/f" 0, .setXattr "/f" "user.k" [1], .getXattr "/f" "user.k",
          .removeXattr "/f" "user.k"] := by
  decide

/-! ### What the read-only check protects -/

/-- The local path lies under a read-only mapping. -/
def ReadOnlyPath (cfg : Config) (path : String) : Prop :=
  ∃ entry, cfg.vpathManager.GetClosestEntry path = some entry ∧ entry.readOnly = true

/-- The calls a `File` handler makes on the client by path to change an object. -/
def ClientCall.IsPathMutation : ClientCall → Bool
  | .truncateFile .. | .setXattr .. | .removeXattr .. => true
  | _ => false

/-- A recorded call that respects the read-only mappings: under one, it changes nothing, or it is
one of the path calls of the `File` handlers. -/
def AllowedCall (cfg : Config) (call : String × ClientCall) : Prop :=
  ReadOnlyPath cfg call.1 → call.2.Mutates = true → call.2.IsPathMutation = true

/-- A handle of a path under a read-only mapping is read-only, and its writer, if any, is the nil
writer. -/
def GuardedHandle (cfg : Config) (handle : FileHandle) : Prop :=
  ReadOnlyPath cfg handle.file →
    handle.openMode = .readOnly ∧ (handle.writer = none ∨ handle.writer = some .nilWriter)

theorem GuardedHandle.not_readOnlyPath {cfg : Config} {handle : FileHandle}
    (hg : GuardedHandle cfg handle) (hwrite : handle.openMode.IsWriteMode = true) :
    ¬ReadOnlyPath cfg handle.file := fun hro => by
  simp [(hg hro).1, FileOpenMode.IsWriteMode, FileOpenMode.IsReadOnly] at hwrite

theorem GuardedHandle.writer_eq {cfg : Config} {handle : FileHandle}
    (hg : GuardedHandle cfg handle) (hro : ReadOnlyPath cfg handle.file) {writer : Writer}
    (hw : handle.writer = some writer) : writer = .nilWriter := by
  rcases (hg hro).2 with h | h <;> rw [h] at hw
  · cases hw
  · exact (Option.some.inj hw).symm

namespace State

/-- `s'` extends the trace of `s` by allowed calls. -/
def AddsAllowed (cfg : Config) (s s' : State) : Prop :=
  ∃ new, s'.calls = s.calls ++ new ∧ ∀ call ∈ new, AllowedCall cfg call

theorem AddsAllowed.of_calls {cfg : Config} {s s' : State} (h : s'.calls = s.calls) :
    AddsAllowed cfg s s' :=
  ⟨[], by rw [h, List.append_nil], fun _ h => absurd h (List.not_mem_nil _)⟩

theorem AddsAllowed.trans {cfg : Config} {s₁ s₂ s₃ : State} (h₁ : AddsAllowed cfg s₁ s₂)
    (h₂ : AddsAllowed cfg s₂ s₃) : AddsAllowed cfg s₁ s₃ := by
  obtain ⟨new₁, hcalls₁, hallowed₁⟩ := h₁
  obtain ⟨new₂, hcalls₂, hallowed₂⟩ := h₂
  refine ⟨new₁ ++ new₂, by rw [hcalls₂, hcalls₁, List.append_assoc], fun call hcall => ?_⟩
  rcases List.mem_append.1 hcall with h | h
  exacts [hallowed₁ call h, hallowed₂ call h]

theorem addsAllowed_record {cfg : Config} {s : State} {file : String} {calls : List ClientCall}
    (h : ∀ c ∈ calls, AllowedCall cfg (file, c)) : AddsAllowed cfg s (s.record file calls) :=
  ⟨calls.map (file, ·), rfl, by simpa using h⟩

/-- Calls under a path outside the read-only mappings are allowed. -/
theorem addsAllowed_record_writable {cfg : Config} {s : State} {file : String}
    {calls : List ClientCall} (h : ¬ReadOnlyPath cfg file) : AddsAllowed cfg s (s.record file calls) :=
  addsAllowed_record fun _ _ hro => absurd hro h

/-- Calls that change nothing are allowed. -/
theorem addsAllowed_record_quiet {cfg : Config} {s : State} {file : String}
    {calls : List ClientCall} (h : ∀ c ∈ calls, c.Mutates = false) :
    AddsAllowed cfg s (s.record file calls) :=
  addsAllowed_record fun c hc _ hm => absurd hm (by simp [h c hc])

theorem addsAllowed_uploadAll {cfg : Config} {id : Nat} {handle : FileHandle}
    (hro : ¬ReadOnlyPath cfg handle.file) (s : State) (pending : List (Nat × List UInt8))
    (failAt : Option Nat) : AddsAllowed cfg s (s.uploadAll id handle pending failAt).1 := by
  induction pending generalizing s failAt with
  | nil => exact .of_calls rfl
  | cons write rest ih =>
      obtain ⟨offset, data⟩ := write
      have hcall : AddsAllowed cfg s (s.record handle.file [.writeAt id offset data]) :=
        addsAllowed_record_writable hro
      unfold uploadAll
      rcases failAt with _ | _ | k
      · exact hcall.trans ((AddsAllowed.of_calls rfl).trans (ih _ _))
      · exact hcall
      · exact hcall.trans ((AddsAllowed.of_calls rfl).trans (ih _ _))

theorem addsAllowed_writerFlush {cfg : Config} (s : State) (id : Nat) {handle : FileHandle}
    {writer : Writer} (hw : ReadOnlyPath cfg handle.file → writer = .nilWriter)
    (failAt : Option Nat) : AddsAllowed cfg s (s.writerFlush id handle writer failAt).1 := by
  rcases writer with _ | _ | ⟨pending, buffered, failed⟩
  · exact .of_calls rfl
  · exact .of_calls rfl
  · rw [writerFlush]
    split_ifs
    · exact .of_calls rfl
    · exact addsAllowed_uploadAll (fun hro => Writer.noConfusion (hw hro)) _ _ _

/-- `closeFunc` reports and closes, which changes no object. -/
theorem addsAllowed_closeFunc {cfg : Config} (s : State) (id : Nat) (handle : FileHandle) :
    AddsAllowed cfg s (closeFunc cfg s id handle) := by
  unfold closeFunc
  split
  · exact (addsAllowed_record_quiet (by simp [ClientCall.Mutates])).trans
      (addsAllowed_record_quiet (by simp [ClientCall.Mutates]))
  · exact addsAllowed_record_quiet (by simp [ClientCall.Mutates])

section Handler

variable {cfg : Config} (s : State) (id : Nat) {handle : FileHandle}
  (hg : GuardedHandle cfg handle)
include hg

theorem addsAllowed_upload (failAt : Option Nat) : AddsAllowed cfg s (s.upload id handle failAt) := by
  rcases upload_cases s id handle failAt with h | ⟨_, _, _, _, hwriter, ⟨-, h⟩ | h⟩ <;> rw [h]
  · exact .of_calls rfl
  all_goals exact (addsAllowed_uploadAll (fun hro => Writer.noConfusion (hg.writer_eq hro hwriter))
    _ _ _).trans (.of_calls rfl)

theorem addsAllowed_handleWrite (data : List UInt8) (offset : Int) (written : Bool) :
    AddsAllowed cfg s (s.handleWrite id handle data offset written).1 := by
  rcases handleWrite_cases s id handle data offset written
    with ⟨h, -⟩ | ⟨hmode, -, ⟨h, -⟩ | ⟨-, h, -⟩⟩ | ⟨-, -, _, _, -, h, -⟩ <;> rw [h]
  · exact .of_calls rfl
  · exact addsAllowed_record_writable (hg.not_readOnlyPath hmode)
  · exact (addsAllowed_record_writable (hg.not_readOnlyPath hmode)).trans (.of_calls rfl)
  · exact .of_calls rfl

theorem addsAllowed_handleTruncate (size : UInt64) (truncated : Bool) :
    AddsAllowed cfg s (s.handleTruncate id handle size truncated).1 := by
  rcases handleTruncate_cases s id handle size truncated with h | ⟨hmode, h | h⟩ <;> rw [h]
  · exact .of_calls rfl
  · exact addsAllowed_record_writable (hg.not_readOnlyPath hmode)
  · exact (addsAllowed_record_writable (hg.not_readOnlyPath hmode)).trans (.of_calls rfl)

theorem addsAllowed_handleSetattr (size : Option UInt64) (truncated : Bool) :
    AddsAllowed cfg s (s.handleSetattr id handle size truncated).1 := by
  unfold handleSetattr
  split_ifs
  · exact .of_calls rfl
  · split
    · exact addsAllowed_handleTruncate _ _ hg _ _
    · exact .of_calls rfl

theorem addsAllowed_handleFlush (failAt : Option Nat) :
    AddsAllowed cfg s (s.handleFlush id handle failAt).1 := by
  unfold handleFlush
  split
  · exact .of_calls rfl
  · split
    · exact .of_calls rfl
    · rename_i writer hwriter
      exact (addsAllowed_writerFlush _ _ (fun hro => hg.writer_eq hro hwriter) _).trans
        (.of_calls rfl)

theorem addsAllowed_handleRelease (o : ReleaseOutcome) :
    AddsAllowed cfg s (handleRelease cfg s id handle o).1 := by
  have hreleased : AddsAllowed cfg s ((s.clearReader id).releaseWriter id handle o.writerFailAt).1 := by
    unfold releaseWriter
    split
    · rename_i writer hwriter
      exact addsAllowed_writerFlush _ _ (fun hro => hg.writer_eq hro hwriter) _
    · exact .of_calls rfl
  rcases handleRelease_cases cfg s id handle o rfl
    with ⟨h, -⟩ | ⟨-, h⟩ | ⟨-, -, h⟩ | ⟨-, -, h⟩ <;> rw [h]
  · exact .of_calls rfl
  · exact hreleased.trans (.of_calls rfl)
  · exact hreleased.trans (.of_calls rfl)
  · exact hreleased.trans ((AddsAllowed.of_calls rfl).trans (addsAllowed_closeFunc _ _ _))

end Handler

theorem addsAllowed_truncateLoop {cfg : Config} (size : UInt64) (truncated : Bool) (s : State)
    (hs : ∀ id handle, s.handles id = some handle → GuardedHandle cfg handle) (ids : List Nat) :
    AddsAllowed cfg s (truncateLoop size truncated s ids).1 := by
  rw [truncateLoop_eq]
  split
  · rename_i id handle hfirst
    have hg := hs id handle (firstWriteHandle?_eq_some hfirst).1
    split <;> exact addsAllowed_handleTruncate _ _ hg _ _
  · exact .of_calls rfl

theorem addsAllowed_truncateFinish {cfg : Config} (s : State) (task : TruncateTask)
    (o : TruncateOutcome) (hs : ∀ id handle, s.handles id = some handle → GuardedHandle cfg handle) :
    AddsAllowed cfg s (truncateFinish s task o).1 := by
  have hloop := addsAllowed_truncateLoop task.size o.handleTruncated s hs task.handlesOpened
  have hcall : ∀ s' : State, AddsAllowed cfg s'
      (s'.record task.file [.truncateFile task.entry.path (toInt64 task.size)]) :=
    fun _ => addsAllowed_record fun c hc _ _ => by
      rw [List.mem_singleton.1 hc]
      rfl
  rcases truncateFinish_cases s task o with h | h | h <;> rw [h]
  · exact hloop
  · exact hloop.trans (hcall _)
  · exact hloop.trans ((hcall _).trans (.of_calls rfl))

theorem setxattr_calls_allowed (terminated : Bool) (vpathManager : VPathManager)
    (isUnhandledAttr : String → Bool) (path attr : String) (data : List UInt8) (ensured : Bool)
    (result : ClientResult Unit) :
    ∀ c ∈ (setxattr terminated vpathManager isUnhandledAttr path attr data ensured result).2,
      c.Mutates = true → c.IsPathMutation = true := fun c hc _ => by
  obtain ⟨_, rfl⟩ := setxattr_calls terminated vpathManager isUnhandledAttr path attr data ensured
    result c hc
  rfl

theorem removexattr_calls_allowed (terminated : Bool) (vpathManager : VPathManager)
    (path attr : String) (ensured : Bool) (getResult : ClientResult (Option (List UInt8)))
    (removeResult : ClientResult Unit) :
    ∀ c ∈ (removexattr terminated vpathManager path attr ensured getResult removeResult).2,
      c.Mutates = true → c.IsPathMutation = true := fun c hc hm => by
  obtain ⟨_, rfl | rfl⟩ := removexattr_calls terminated vpathManager path attr ensured getResult
    removeResult c hc
  · cases hm
  · rfl

/-! The handles. -/

/-- Every handle of the state is guarded. -/
def HandlesGuarded (cfg : Config) (s : State) : Prop :=
  ∀ id handle, s.handles id = some handle → GuardedHandle cfg handle

theorem HandlesGuarded.of_handles {cfg : Config} {s s' : State} (h : s'.handles = s.handles)
    (hs : s.HandlesGuarded cfg) : s'.HandlesGuarded cfg :=
  fun id handle hh => hs id handle (h ▸ hh)

theorem HandlesGuarded.update {cfg : Config} {s : State} (hs : s.HandlesGuarded cfg) (id : Nat)
    {handle : FileHandle} (hg : GuardedHandle cfg handle) :
    ∀ j h, Function.update s.handles id (some handle) j = some h → GuardedHandle cfg h := by
  intro j h hh
  by_cases hj : j = id
  · subst hj
    rw [Function.update_same] at hh
    exact Option.some.inj hh ▸ hg
  · rw [Function.update_noteq hj] at hh
    exact hs j h hh

theorem HandlesGuarded.updateHandle {cfg : Config} {s : State} (hs : s.HandlesGuarded cfg)
    {id : Nat} {f : FileHandle → FileHandle}
    (hf : ∀ handle, s.handles id = some handle → GuardedHandle cfg (f handle)) :
    (s.updateHandle id f).HandlesGuarded cfg := by
  intro j h hh
  by_cases hj : j = id
  · subst hj
    simp only [State.updateHandle, Function.update_same, Option.map_eq_some'] at hh
    obtain ⟨handle, hhandle, rfl⟩ := hh
    exact hf handle hhandle
  · simp only [State.updateHandle, Function.update_noteq hj] at hh
    exact hs j h hh

theorem HandlesGuarded.setWriter {cfg : Config} {s : State} (hs : s.HandlesGuarded cfg)
    {id : Nat} {writer : Option Writer}
    (hw : ∀ handle, s.handles id = some handle → ReadOnlyPath cfg handle.file →
      writer = none ∨ writer = some .nilWriter) :
    (s.setWriter id writer).HandlesGuarded cfg :=
  hs.updateHandle fun handle hh hro => ⟨(hs id handle hh hro).1, hw handle hh hro⟩

theorem HandlesGuarded.clearReader {cfg : Config} {s : State} (hs : s.HandlesGuarded cfg)
    (id : Nat) : (s.clearReader id).HandlesGuarded cfg :=
  hs.updateHandle fun handle hh => hs id handle hh

/-- A handle that `NewFileHandle` builds read-only gets the nil writer. -/
theorem guardedHandle_newFileHandle {cfg : Config} {file path : String} {openMode : FileOpenMode}
    {readerCreated : Bool} {handle : FileHandle} (hmode : ReadOnlyPath cfg file → openMode = .readOnly)
    (h : newFileHandle file path openMode readerCreated = some handle) : GuardedHandle cfg handle := by
  intro hro
  obtain ⟨hfile, -, -, -⟩ := newFileHandle_eq_some h
  obtain rfl := hmode (hfile ▸ hro)
  unfold newFileHandle at h
  cases readerCreated <;> simp [FileOpenMode.IsReadOnly] at h
  subst h
  exact ⟨rfl, .inr rfl⟩

/-- `Open` under a read-only mapping opens read-only, so the handle it stores is guarded and its
`OpenFile` call changes nothing. -/
theorem guard_fileOpen (cfg : Config) (s : State) (path : String) (flags : UInt32) (o : OpenOutcome)
    (hs : s.HandlesGuarded cfg) :
    AddsAllowed cfg s (s.fileOpen cfg path flags o).1 ∧
      (s.fileOpen cfg path flags o).1.HandlesGuarded cfg := by
  have hopened : ∀ c irodsPath readerCreated,
      (ReadOnlyPath cfg path → openModeOfFlags flags = .readOnly) →
      AddsAllowed cfg (s.record path [c])
          ((s.record path [c]).openedFile cfg path irodsPath (openModeOfFlags flags) readerCreated).1 ∧
        ((s.record path [c]).openedFile cfg path irodsPath (openModeOfFlags flags)
          readerCreated).1.HandlesGuarded cfg := by
    intro c irodsPath readerCreated hmode
    have hs' : (s.record path [c]).HandlesGuarded cfg := hs.of_handles rfl
    generalize s.record path [c] = s' at hs' ⊢
    unfold openedFile
    dsimp only
    have hreport : AddsAllowed cfg s' (if cfg.reporting then
        ({ s' with nextID := s'.nextID + 1 } : State).record path [.startFileAccess s'.nextID]
        else { s' with nextID := s'.nextID + 1 }) := by
      split
      · exact addsAllowed_record_quiet (by simp [ClientCall.Mutates])
      · exact .of_calls rfl
    split
    · exact ⟨hreport, hs'.of_handles (by split <;> rfl)⟩
    · rename_i handle hnew
      refine ⟨hreport.trans (.of_calls rfl), ?_⟩
      have hupdate := hs'.update s'.nextID (guardedHandle_newFileHandle hmode hnew)
      split <;> exact hupdate
  have hcall : ∀ irodsPath, (ReadOnlyPath cfg path → openModeOfFlags flags = .readOnly) →
      AddsAllowed cfg s (s.record path [.openFile irodsPath (openModeOfFlags flags)]) :=
    fun _ hmode => addsAllowed_record fun c hc hro hm => by
      rw [List.mem_singleton.1 hc] at hm
      simp [ClientCall.Mutates, hmode hro] at hm
  rcases fileOpen_cases cfg s path flags o with h | ⟨_, _, hentry, -, hro, -, -, h | h⟩
  · rw [h]
    exact ⟨.of_calls rfl, hs⟩
  all_goals
    have hmode : ReadOnlyPath cfg path → openModeOfFlags flags = .readOnly :=
      fun ⟨_, hentry', hro'⟩ => hro (by cases hentry.symm.trans hentry'; exact hro')
    rw [h]
  -- `OpenFile` failed after its call
  · exact ⟨hcall _ hmode, hs.of_handles rfl⟩
  · exact ⟨(hcall _ hmode).trans (hopened _ _ _ hmode).1, (hopened _ _ _ hmode).2⟩

section Handles

variable {cfg : Config} {s : State} {id : Nat} {handle : FileHandle}
  (hs : s.HandlesGuarded cfg) (hh : s.handles id = some handle)
include hs hh

theorem handlesGuarded_handleWrite (data : List UInt8) (offset : Int) (written : Bool) :
    (s.handleWrite id handle data offset written).1.HandlesGuarded cfg := by
  rcases handleWrite_cases s id handle data offset written
    with ⟨h, -⟩ | ⟨-, -, ⟨h, -⟩ | ⟨-, h, -⟩⟩ | ⟨-, -, _, _, hw, h, -⟩ <;> rw [h]
  · exact hs
  · exact hs.of_handles rfl
  · exact hs.of_handles rfl
  -- the asynchronous writer takes the write: the handle is not under a read-only mapping
  refine hs.setWriter fun handle' hh' hro => ?_
  cases hh.symm.trans hh'
  exact absurd ((hs id handle hh).writer_eq hro hw) Writer.noConfusion

theorem handlesGuarded_handleFlush (failAt : Option Nat) :
    (s.handleFlush id handle failAt).1.HandlesGuarded cfg := by
  unfold handleFlush
  split
  · exact hs
  · split
    · exact hs
    · rename_i writer hwriter
      refine (hs.of_handles (handles_writerFlush _ _ _ _ _)).setWriter fun handle' hh' hro => ?_
      rw [handles_writerFlush, hh] at hh'
      cases hh'
      rw [(hs id handle hh).writer_eq hro hwriter]
      exact .inr rfl

theorem handlesGuarded_handleRelease (o : ReleaseOutcome) :
    (handleRelease cfg s id handle o).1.HandlesGuarded cfg := by
  have hreleased := ((hs.clearReader id).of_handles
    (handles_releaseWriter (s.clearReader id) id handle o.writerFailAt))
  have hwriter : ∀ handle', ((s.clearReader id).releaseWriter id handle o.writerFailAt).1.handles id =
      some handle' → ReadOnlyPath cfg handle'.file →
      ((s.clearReader id).releaseWriter id handle o.writerFailAt).2.1 = none ∨
        ((s.clearReader id).releaseWriter id handle o.writerFailAt).2.1 = some .nilWriter := by
    intro handle' hh' hro
    have hro' : ReadOnlyPath cfg handle.file := by
      rw [handles_releaseWriter] at hh'
      simp only [clearReader, updateHandle, Function.update_same, hh, Option.map_some',
        Option.some.injEq] at hh'
      subst hh'
      exact hro
    unfold releaseWriter
    split
    · rename_i writer hw
      rw [(hs id handle hh).writer_eq hro' hw]
      exact .inr rfl
    · exact .inl rfl
  rcases handleRelease_cases cfg s id handle o rfl
    with ⟨h, -⟩ | ⟨-, h⟩ | ⟨-, -, h⟩ | ⟨-, -, h⟩ <;> rw [h]
  · exact hs
  · exact hreleased.setWriter hwriter
  · exact (hreleased.setWriter fun _ _ _ => .inl rfl).of_handles rfl
  · exact (hreleased.setWriter fun _ _ _ => .inl rfl).of_handles (handles_closeFunc _ _ _ _)

theorem handlesGuarded_upload (failAt : Option Nat) : (s.upload id handle failAt).HandlesGuarded cfg := by
  rcases upload_cases s id handle failAt with h | ⟨_, _, _, _, hwriter, ⟨-, h⟩ | h⟩ <;> rw [h]
  · exact hs
  -- the asynchronous writer uploads: the handle is not under a read-only mapping
  all_goals
    have hro : ¬ReadOnlyPath cfg handle.file := fun hro =>
      Writer.noConfusion ((hs id handle hh).writer_eq hro hwriter)
    refine (hs.of_handles (handles_uploadAll _ _ _ _ _)).setWriter fun handle' hh' hro' => ?_
    cases hh.symm.trans ((congrFun (handles_uploadAll _ _ _ _ _) id).symm.trans hh')
    exact absurd hro' hro

end Handles

theorem handles_handleSetattr (s : State) (id : Nat) (handle : FileHandle) (size : Option UInt64)
    (truncated : Bool) : (s.handleSetattr id handle size truncated).1.handles = s.handles := by
  unfold handleSetattr
  split_ifs
  · rfl
  · split
    · exact handles_handleTruncate _ _ _ _ _
    · rfl

theorem calls_fileSetattr (cfg : Config) (s : State) (path : String) (size : Option UInt64)
    (o : LookupOutcome) : (s.fileSetattr cfg path size o).1.calls = s.calls := by
  unfold fileSetattr truncateLookup
  repeat' split
  all_goals rfl

/-- The read-only guard of a state: every handle is guarded and every recorded call is allowed. -/
structure Guard (cfg : Config) (s : State) : Prop where
  handles : s.HandlesGuarded cfg
  calls : ∀ call ∈ s.calls, AllowedCall cfg call

theorem Guard.next {cfg : Config} {s s' : State} (hs : s.Guard cfg) (hadds : AddsAllowed cfg s s')
    (hhandles : s'.HandlesGuarded cfg) : s'.Guard cfg := by
  obtain ⟨new, hcalls, hallowed⟩ := hadds
  refine ⟨hhandles, fun call hcall => ?_⟩
  rw [hcalls] at hcall
  rcases List.mem_append.1 hcall with h | h
  exacts [hs.calls call h, hallowed call h]

theorem guard_init (cfg : Config) (objects : String → List UInt8) : (State.init objects).Guard cfg :=
  ⟨fun _ _ h => Option.noConfusion h, fun _ h => absurd h (List.not_mem_nil _)⟩

/-- **No event breaks the read-only guard.** -/
theorem guard_step (cfg : Config) (s : State) (e : Event) (hs : s.Guard cfg) :
    (s.step cfg e).1.Guard cfg := by
  cases e with
  | «open» path flags o =>
      obtain ⟨hadds, hhandles⟩ := guard_fileOpen cfg s path flags o hs.handles
      exact hs.next hadds hhandles
  | write | truncate | setattr | flush | fsync =>
      simp only [step]
      split
      · rename_i handle hlive
        have hh := (liveHandle?_eq_some hlive).2
        have hg := hs.handles _ handle hh
        first
          | exact hs.next (addsAllowed_handleWrite _ _ hg _ _ _)
              (handlesGuarded_handleWrite hs.handles hh _ _ _)
          | exact hs.next (addsAllowed_handleTruncate _ _ hg _ _)
              (hs.handles.of_handles (handles_handleTruncate _ _ _ _ _))
          | exact hs.next (addsAllowed_handleSetattr _ _ hg _ _)
              (hs.handles.of_handles (handles_handleSetattr _ _ _ _ _))
          | exact hs.next (addsAllowed_handleFlush _ _ hg _) (handlesGuarded_handleFlush hs.handles hh _)
      · exact hs
  | release id o =>
      simp only [step]
      split
      · rename_i handle hlive
        have hh : ({ s with released := s.released ++ [id] } : State).handles id = some handle :=
          (liveHandle?_eq_some hlive).2
        have hs' : ({ s with released := s.released ++ [id] } : State).Guard cfg :=
          ⟨hs.handles, hs.calls⟩
        exact hs'.next (addsAllowed_handleRelease _ _ (hs.handles id handle hh) _)
          (handlesGuarded_handleRelease hs'.handles hh _)
      · exact hs
  | fileSetattr path size o =>
      exact hs.next (.of_calls (calls_fileSetattr _ _ _ _ _))
        (hs.handles.of_handles (handles_fileSetattr _ _ _ _ _))
  | truncateResume index o =>
      simp only [step]
      split
      · have hs' : ({ s with truncates := s.truncates.eraseIdx index } : State).Guard cfg :=
          ⟨hs.handles, hs.calls⟩
        exact hs'.next (addsAllowed_truncateFinish _ _ _ hs'.handles)
          (hs'.handles.of_handles (handles_truncateFinish _ _ _))
      · exact hs
  | setxattr path attr data ensured result =>
      exact hs.next (addsAllowed_record fun c hc _ => setxattr_calls_allowed _ _ _ _ _ _ _ _ c hc)
        (hs.handles.of_handles rfl)
  | removexattr path attr ensured getResult removeResult =>
      exact hs.next (addsAllowed_record fun c hc _ => removexattr_calls_allowed _ _ _ _ _ _ _ c hc)
        (hs.handles.of_handles rfl)
  | upload id failAt =>
      simp only [step]
      split
      · rename_i handle hh
        exact hs.next (addsAllowed_upload _ _ (hs.handles id handle hh) _)
          (handlesGuarded_upload hs.handles hh _)
      · exact hs
  | runCloseTask id =>
      simp only [step]
      split
      · split_ifs
        · exact hs.next (addsAllowed_closeFunc _ _ _)
            (hs.handles.of_handles (handles_closeFunc _ _ _ _))
        · exact hs
      · exact hs
  | terminate => exact ⟨hs.handles, hs.calls⟩

theorem guard_run (cfg : Config) :
    ∀ (s : State) (events : List Event), s.Guard cfg → (run cfg s events).Guard cfg
  | _, [], h => h
  | s, e :: events, h => guard_run cfg _ events (guard_step cfg s e h)

end State

/-- **The read-only check protects everything that goes through a handle.** In every reachable
state, whatever the mappings, the events and the outcomes of the remote calls: a handle of a path
under a read-only mapping is read-only and has no writer that uploads, and every call recorded
under such a path that changes an object is a `TruncateFile`, `SetXattr` or `RemoveXattr` of the
`File` handlers. -/
theorem read_only_guard_reachable (cfg : Config) (objects : String → List UInt8)
    (events : List Event) :
    (∀ id handle, (run cfg (State.init objects) events).handles id = some handle →
        ReadOnlyPath cfg handle.file →
        handle.openMode = .readOnly ∧ (handle.writer = none ∨ handle.writer = some .nilWriter)) ∧
      ∀ call ∈ (run cfg (State.init objects) events).calls, ReadOnlyPath cfg call.1 →
        call.2.Mutates = true → call.2.IsPathMutation = true :=
  have hguard := State.guard_run cfg _ events (State.guard_init cfg objects)
  ⟨hguard.handles, hguard.calls⟩

end IrodsFs