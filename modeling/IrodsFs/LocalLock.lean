import IrodsFs.Basic

/-!
# Local byte-range locks

`F_SETLK` reaches a handle's `FileHandleLocalLockManager` through `FileHandle.SetLocalLock`, and
`F_GETLK` through `FileHandle.GetLocalLock`, which asks `Get` for a record by range only. The
manager is not among the sources; its operations are modelled from the spec. For a write request
the two paths agree; for a read request `Get` reports a read lock that `Lock` would share.
-/

namespace IrodsFs

def F_RDLCK : UInt32 := 0
def F_WRLCK : UInt32 := 1
def F_UNLCK : UInt32 := 2

/-- `fuse.FileLock`, the request and reply record of `F_GETLK`/`F_SETLK` (the field `End` keeps
Go's spelling, `end` being a keyword). -/
structure FileLock where
  start : UInt64
  End : UInt64
  typ : UInt32
  pid : UInt32
deriving DecidableEq, Repr

/-- One record of a handle's lock table. Its `ID` is written once and read by nothing
modelled here, so it is left out. -/
structure FileHandleLocalLock where
  lockType : UInt32
  pid : UInt32
  start : UInt64
  End : UInt64
deriving DecidableEq, Repr

def FileHandleLocalLock.toFileLock (lock : FileHandleLocalLock) : FileLock :=
  { start := lock.start, End := lock.End, pid := lock.pid, typ := lock.lockType }

def FileHandleLocalLock.Intersects (lock : FileHandleLocalLock) (start End : UInt64) : Bool :=
  lock.start ≤ End && start ≤ lock.End

/-- Two locks conflict when their ranges intersect and they are not both read locks. -/
def FileHandleLocalLock.Conflicts (held requested : FileHandleLocalLock) : Bool :=
  held.Intersects requested.start requested.End &&
    !(held.lockType = F_RDLCK && requested.lockType = F_RDLCK)

/-- Modelled from the spec: the lock table of one handle, in insertion order. -/
structure FileHandleLocalLockManager where
  locks : List FileHandleLocalLock
deriving DecidableEq, Repr

inductive LockError
  | wouldBlock
  | noSuchLock
deriving DecidableEq, Repr

namespace FileHandleLocalLockManager

def empty : FileHandleLocalLockManager := ⟨[]⟩

/-- Modelled from the spec: the first record whose range intersects the given one. -/
def Get (manager : FileHandleLocalLockManager) (start End : UInt64) :
    Option FileHandleLocalLock :=
  manager.locks.find? (·.Intersects start End)

/-- Modelled from the spec: refuse when a recorded lock conflicts, else insert. -/
def Lock (manager : FileHandleLocalLockManager) (lock : FileHandleLocalLock) :
    Except LockError FileHandleLocalLockManager :=
  if manager.locks.any (·.Conflicts lock) then .error .wouldBlock
  else .ok ⟨manager.locks ++ [lock]⟩

/-- Modelled from the spec: drop every record intersecting the range, and refuse when there is
none. -/
def Unlock (manager : FileHandleLocalLockManager) (lock : FileHandleLocalLock) :
    Except LockError FileHandleLocalLockManager :=
  if manager.locks.any (·.Intersects lock.start lock.End) then
    .ok ⟨manager.locks.filter (!·.Intersects lock.start lock.End)⟩
  else .error .noSuchLock

end FileHandleLocalLockManager

open FileHandleLocalLockManager

def localLockOf (lk : FileLock) : FileHandleLocalLock :=
  { lockType := lk.typ, pid := lk.pid, start := lk.start, End := lk.End }

/-- `FileHandle.GetLocalLock`: the reply written to `out`, which stays as the caller passed it
when the filesystem is terminating. -/
def getLocalLock (terminated : Bool) (manager : FileHandleLocalLockManager) (lk out : FileLock) :
    Errno × FileLock :=
  if terminated then (.ECONNABORTED, out)
  else
    let lock := localLockOf lk
    match manager.Get lock.start lock.End with
    | some lockFound => (.OK, lockFound.toFileLock)
    | none => (.OK, { start := lk.start, End := lk.End, pid := lk.pid, typ := F_UNLCK })

/-- `FileHandle.SetLocalLock`, with the handle's table after the call. -/
def setLocalLock (terminated : Bool) (manager : FileHandleLocalLockManager) (lk : FileLock) :
    Errno × FileHandleLocalLockManager :=
  if terminated then (.ECONNABORTED, manager)
  else
    let lock := localLockOf lk
    if lk.typ = F_UNLCK then
      match manager.Unlock lock with
      | .error _ => (.ENOENT, manager)
      | .ok manager' => (.OK, manager')
    else
      match manager.Lock lock with
      | .error _ => (.EAGAIN, manager)
      | .ok manager' => (.OK, manager')

/-- The table a handle reaches through a sequence of `F_SETLK` requests. -/
def setLocalLocks (manager : FileHandleLocalLockManager) : List FileLock → FileHandleLocalLockManager
  | [] => manager
  | lk :: rest => setLocalLocks (setLocalLock false manager lk).2 rest


namespace FileHandleLocalLockManager

theorem Get_eq_none_iff (manager : FileHandleLocalLockManager) (start End : UInt64) :
    manager.Get start End = none ↔ ∀ l ∈ manager.locks, l.Intersects start End = false := by
  simp [Get, List.find?_eq_none]

theorem Get_eq_some {manager : FileHandleLocalLockManager} {start End : UInt64}
    {l : FileHandleLocalLock} (h : manager.Get start End = some l) :
    l ∈ manager.locks ∧ l.Intersects start End = true := by
  have hfind : manager.locks.find? (·.Intersects start End) = some l := h
  have hsat := List.find?_some hfind
  exact ⟨List.mem_of_find?_eq_some hfind, hsat⟩

theorem Lock_eq_ok {manager manager' : FileHandleLocalLockManager} {lock : FileHandleLocalLock}
    (h : manager.Lock lock = .ok manager') : manager'.locks = manager.locks ++ [lock] := by
  unfold Lock at h
  split at h <;> cases h
  rfl

theorem Unlock_eq_ok {manager manager' : FileHandleLocalLockManager} {lock : FileHandleLocalLock}
    (h : manager.Unlock lock = .ok manager') : manager'.locks ⊆ manager.locks := by
  unfold Unlock at h
  split at h <;> cases h
  exact List.filter_subset' _

theorem Lock_isOk_iff (manager : FileHandleLocalLockManager) (lock : FileHandleLocalLock) :
    (manager.Lock lock).isOk = true ↔ ∀ l ∈ manager.locks, l.Conflicts lock = false := by
  unfold Lock
  split <;> simp_all [Except.isOk, Except.toBool]

end FileHandleLocalLockManager

/-! ### What the tables reached through `F_SETLK` look like

An unlock request never enters the table, so no recorded lock has type `F_UNLCK`. This is
what lets a reply of `F_UNLCK` from `GetLocalLock` mean "nothing intersects". -/

def NoUnlockRecords (manager : FileHandleLocalLockManager) : Prop :=
  ∀ l ∈ manager.locks, l.lockType ≠ F_UNLCK

/-- What one `F_SETLK` request can do to a table: shrink it, or append the requested lock when
that is not an unlock request. -/
theorem setLocalLock_locks (terminated : Bool) (manager : FileHandleLocalLockManager)
    (lk : FileLock) :
    (setLocalLock terminated manager lk).2.locks ⊆ manager.locks ∨
      (lk.typ ≠ F_UNLCK ∧
        (setLocalLock terminated manager lk).2.locks = manager.locks ++ [localLockOf lk]) := by
  unfold setLocalLock
  dsimp only
  split_ifs with hterm htyp
  · exact .inl (List.Subset.refl _)
  · cases hunlock : manager.Unlock (localLockOf lk) with
    | error => exact .inl (List.Subset.refl _)
    | ok manager' => exact .inl (FileHandleLocalLockManager.Unlock_eq_ok hunlock)
  · cases hlock : manager.Lock (localLockOf lk) with
    | error => exact .inl (List.Subset.refl _)
    | ok manager' => exact .inr ⟨htyp, FileHandleLocalLockManager.Lock_eq_ok hlock⟩

theorem setLocalLock_noUnlockRecords {manager : FileHandleLocalLockManager}
    (hinv : NoUnlockRecords manager) (terminated : Bool) (lk : FileLock) :
    NoUnlockRecords (setLocalLock terminated manager lk).2 := by
  intro l hl
  rcases setLocalLock_locks terminated manager lk with hsub | ⟨htyp, heq⟩
  · exact hinv l (hsub hl)
  · rw [heq, List.mem_append, List.mem_singleton] at hl
    rcases hl with hl | rfl
    · exact hinv l hl
    · exact htyp

theorem setLocalLocks_noUnlockRecords {manager : FileHandleLocalLockManager}
    (hinv : NoUnlockRecords manager) (reqs : List FileLock) :
    NoUnlockRecords (setLocalLocks manager reqs) := by
  induction reqs generalizing manager with
  | nil => exact hinv
  | cons lk rest ih => exact ih (setLocalLock_noUnlockRecords hinv false lk)


/-! ### The two paths compared -/

section Agreement

variable {manager : FileHandleLocalLockManager} {lk : FileLock}

/-- `F_GETLK` answers `F_UNLCK` exactly when no record intersects the requested range. -/
theorem getLocalLock_typ_eq_unlck_iff (hinv : NoUnlockRecords manager) (out : FileLock) :
    (getLocalLock false manager lk out).2.typ = F_UNLCK ↔
      ∀ l ∈ manager.locks, l.Intersects lk.start lk.End = false := by
  rw [← FileHandleLocalLockManager.Get_eq_none_iff]
  unfold getLocalLock
  cases hget : manager.Get lk.start lk.End with
  | none => simp [localLockOf, hget]
  | some l =>
      simpa [localLockOf, hget, FileHandleLocalLock.toFileLock] using
        hinv l (FileHandleLocalLockManager.Get_eq_some hget).1

theorem getLocalLock_of_ne_unlck (out : FileLock)
    (h : (getLocalLock false manager lk out).2.typ ≠ F_UNLCK) :
    ∃ l, manager.Get lk.start lk.End = some l ∧ (getLocalLock false manager lk out).2 = l.toFileLock := by
  unfold getLocalLock at h ⊢
  cases hget : manager.Get lk.start lk.End with
  | none => simp [localLockOf, hget] at h
  | some l => exact ⟨l, rfl, by simp [localLockOf, hget]⟩

/-- A lock request succeeds exactly when no record conflicts with it. -/
theorem setLocalLock_eq_ok_iff (hlk : lk.typ ≠ F_UNLCK) :
    (setLocalLock false manager lk).1 = .OK ↔
      ∀ l ∈ manager.locks, l.Conflicts (localLockOf lk) = false := by
  rw [← FileHandleLocalLockManager.Lock_isOk_iff]
  unfold setLocalLock
  cases hlock : manager.Lock (localLockOf lk) <;> simp [hlk, hlock, Except.isOk, Except.toBool]
  decide

theorem conflicts_eq_intersects_of_write {l : FileHandleLocalLock} (hw : lk.typ = F_WRLCK) :
    l.Conflicts (localLockOf lk) = l.Intersects lk.start lk.End := by
  simp [FileHandleLocalLock.Conflicts, localLockOf, hw, F_WRLCK, F_RDLCK]

theorem conflicts_eq_false_of_intersects {l : FileHandleLocalLock}
    (h : l.Intersects lk.start lk.End = false) : l.Conflicts (localLockOf lk) = false := by
  simp [FileHandleLocalLock.Conflicts, localLockOf, h]

end Agreement

/-- What `F_GETLK` tells about `F_SETLK`, for one table and one read or write request: the reply
is `F_UNLCK` exactly when no record intersects the range, and otherwise it is the first
intersecting record; an `F_UNLCK` reply means the same request would be granted; and for a write
request the reply is `F_UNLCK` exactly when the request would be granted, any other reply naming
a record in conflict with it. -/
def GetLkAgreesWithSetLk (manager : FileHandleLocalLockManager) (lk out : FileLock) : Prop :=
  let reply := (getLocalLock false manager lk out).2
  (reply.typ = F_UNLCK ↔ ∀ l ∈ manager.locks, l.Intersects lk.start lk.End = false) ∧
  (reply.typ ≠ F_UNLCK → ∃ l, manager.Get lk.start lk.End = some l ∧ reply = l.toFileLock) ∧
  (reply.typ = F_UNLCK → (setLocalLock false manager lk).1 = .OK) ∧
  (lk.typ = F_WRLCK →
    (reply.typ = F_UNLCK ↔ (setLocalLock false manager lk).1 = .OK) ∧
    (reply.typ ≠ F_UNLCK →
      ∃ l ∈ manager.locks, l.Conflicts (localLockOf lk) = true ∧ reply = l.toFileLock))

/-- **`F_GETLK` against `F_SETLK`.** The agreement above holds in every table a handle reaches
through `F_SETLK`, for every read or write request. -/
theorem getLocalLock_agrees_with_setLocalLock (reqs : List FileLock) (lk out : FileLock)
    (hlk : lk.typ = F_RDLCK ∨ lk.typ = F_WRLCK) :
    GetLkAgreesWithSetLk (setLocalLocks .empty reqs) lk out := by
  have hinv : NoUnlockRecords (setLocalLocks .empty reqs) :=
    setLocalLocks_noUnlockRecords (by simp [NoUnlockRecords, FileHandleLocalLockManager.empty]) reqs
  have hne : lk.typ ≠ F_UNLCK := by rcases hlk with h | h <;> rw [h] <;> decide
  have hunlck := @getLocalLock_typ_eq_unlck_iff _ lk hinv out
  refine ⟨hunlck, getLocalLock_of_ne_unlck out, fun h => ?_, fun hw => ⟨?_, fun h => ?_⟩⟩
  · rw [setLocalLock_eq_ok_iff hne]
    exact fun l hl => conflicts_eq_false_of_intersects (hunlck.mp h l hl)
  · rw [hunlck, setLocalLock_eq_ok_iff hne]
    simp only [conflicts_eq_intersects_of_write hw]
  · obtain ⟨l, hget, hreply⟩ := getLocalLock_of_ne_unlck out h
    have hl := FileHandleLocalLockManager.Get_eq_some hget
    exact ⟨l, hl.1, by rw [conflicts_eq_intersects_of_write hw, hl.2], hreply⟩

theorem getLocalLock_agrees_after_read_lock :
    ((⟨5, 20, F_WRLCK, 2⟩ : FileLock).typ = F_RDLCK ∨
        (⟨5, 20, F_WRLCK, 2⟩ : FileLock).typ = F_WRLCK) ∧
      GetLkAgreesWithSetLk (setLocalLocks .empty [⟨0, 10, F_RDLCK, 1⟩]) ⟨5, 20, F_WRLCK, 2⟩
        ⟨0, 0, 0, 0⟩ :=
  ⟨by decide, getLocalLock_agrees_with_setLocalLock _ _ _ (by decide)⟩

/-- Two read locks over one range share: `F_SETLK` grants the second, while `F_GETLK` answers
with the first as if it were in the way. -/
theorem getLocalLock_reports_shared_read_lock :
    (getLocalLock false (setLocalLocks .empty [⟨0, 10, F_RDLCK, 1⟩]) ⟨0, 10, F_RDLCK, 2⟩
        ⟨0, 0, 0, 0⟩).2.typ = F_RDLCK ∧
      (setLocalLock false (setLocalLocks .empty [⟨0, 10, F_RDLCK, 1⟩]) ⟨0, 10, F_RDLCK, 2⟩).1 =
        .OK := by
  decide


/-! ### No two granted locks conflict

`F_SETLK` grants a lock only when no record conflicts with it, an unlock only removes records,
and `F_SETLKW` is refused without touching the table. So in every table a handle reaches no two
records conflict: a write lock shares no byte with any other record. And a granted request is
seen by the next `F_GETLK` over its range: a granted lock is reported, a granted unlock leaves
nothing to report. -/

/-- `FileHandle.SetLocalLockW`: a blocking lock is not supported, and the table is untouched. -/
def setLocalLockW (terminated : Bool) (manager : FileHandleLocalLockManager) (_lk : FileLock) :
    Errno × FileHandleLocalLockManager :=
  if terminated then (.ECONNABORTED, manager) else (.ENOTSUP, manager)

/-! ### The kernel's lock requests

`File.Getlk`, `File.Setlk` and `File.Setlkw` check that the filesystem runs and that the kernel's
handle is an irodsfs `FileHandle`, then hand the request to the handle, whose own check passes it
to the table. The check for a nil backend handle is left out, as in the other handlers. -/

/-- The checks of `File.Getlk`, `File.Setlk` and `File.Setlkw` before the handle's own call; a
failed one answers with `unchanged`. -/
def fileLockCall {α : Type} (terminated isFileHandle : Bool) (unchanged : α) (call : Errno × α) :
    Errno × α :=
  if terminated then (.ECONNABORTED, unchanged)
  else if !isFileHandle then (Errno.EREMOTEIO, unchanged)
  else call

/-- `File.Getlk`, on the table of the handle the kernel passes. -/
def fileGetlk (terminated isFileHandle : Bool) (manager : FileHandleLocalLockManager)
    (lk out : FileLock) : Errno × FileLock :=
  fileLockCall terminated isFileHandle out (getLocalLock terminated manager lk out)

def fileSetlk (terminated isFileHandle : Bool) (manager : FileHandleLocalLockManager)
    (lk : FileLock) : Errno × FileHandleLocalLockManager :=
  fileLockCall terminated isFileHandle manager (setLocalLock terminated manager lk)

def fileSetlkw (terminated isFileHandle : Bool) (manager : FileHandleLocalLockManager)
    (lk : FileLock) : Errno × FileHandleLocalLockManager :=
  fileLockCall terminated isFileHandle manager (setLocalLockW terminated manager lk)

/-- The check of `FileHandle.Getlk`, `Setlk` and `Setlkw` before they pass the handle to the
file's request. -/
def handleLockCall {α : Type} (terminated : Bool) (unchanged : α) (call : Errno × α) : Errno × α :=
  if terminated then (.ECONNABORTED, unchanged) else call

def handleGetlk (terminated : Bool) (manager : FileHandleLocalLockManager) (lk out : FileLock) :
    Errno × FileLock :=
  handleLockCall terminated out (fileGetlk terminated true manager lk out)

def handleSetlk (terminated : Bool) (manager : FileHandleLocalLockManager) (lk : FileLock) :
    Errno × FileHandleLocalLockManager :=
  handleLockCall terminated manager (fileSetlk terminated true manager lk)

def handleSetlkw (terminated : Bool) (manager : FileHandleLocalLockManager) (lk : FileLock) :
    Errno × FileHandleLocalLockManager :=
  handleLockCall terminated manager (fileSetlkw terminated true manager lk)

/-- Through a handle, the checks add nothing to a call that makes the termination check itself. -/
theorem handleLockCall_fileLockCall {α : Type} (terminated : Bool) (unchanged : α)
    {call : Errno × α} (hcall : terminated = true → call = (.ECONNABORTED, unchanged)) :
    handleLockCall terminated unchanged (fileLockCall terminated true unchanged call) = call := by
  cases terminated
  · rfl
  · exact (hcall rfl).symm

theorem handleSetlk_eq (terminated : Bool) (manager : FileHandleLocalLockManager) (lk : FileLock) :
    handleSetlk terminated manager lk = setLocalLock terminated manager lk :=
  handleLockCall_fileLockCall terminated manager fun h => by subst h; rfl

theorem handleSetlkw_eq (terminated : Bool) (manager : FileHandleLocalLockManager) (lk : FileLock) :
    handleSetlkw terminated manager lk = setLocalLockW terminated manager lk :=
  handleLockCall_fileLockCall terminated manager fun h => by subst h; rfl

/-- A lock request that reaches a handle through `File.Setlk` or `File.Setlkw`. -/
inductive LockRequest
  | setlk (lk : FileLock)
  | setlkw (lk : FileLock)
deriving DecidableEq, Repr

/-- One request on the handle's table through the kernel's entry points, with its reply. -/
def LockRequest.apply (terminated : Bool) (manager : FileHandleLocalLockManager) :
    LockRequest → Errno × FileHandleLocalLockManager
  | .setlk lk => handleSetlk terminated manager lk
  | .setlkw lk => handleSetlkw terminated manager lk

@[simp] theorem LockRequest.apply_setlk (terminated : Bool) (manager : FileHandleLocalLockManager)
    (lk : FileLock) : (LockRequest.setlk lk).apply terminated manager =
      setLocalLock terminated manager lk :=
  handleSetlk_eq terminated manager lk

@[simp] theorem LockRequest.apply_setlkw (terminated : Bool) (manager : FileHandleLocalLockManager)
    (lk : FileLock) : (LockRequest.setlkw lk).apply terminated manager =
      setLocalLockW terminated manager lk :=
  handleSetlkw_eq terminated manager lk

def lockRun (manager : FileHandleLocalLockManager) : List LockRequest → FileHandleLocalLockManager
  | [] => manager
  | r :: rest => lockRun (r.apply false manager).2 rest

theorem setLocalLocks_append (manager : FileHandleLocalLockManager) (reqs : List FileLock)
    (lk : FileLock) :
    setLocalLocks manager (reqs ++ [lk]) = (setLocalLock false (setLocalLocks manager reqs) lk).2 := by
  induction reqs generalizing manager with
  | nil => rfl
  | cons lk' rest ih => exact ih _

theorem FileHandleLocalLock.conflicts_comm (a b : FileHandleLocalLock) :
    a.Conflicts b = b.Conflicts a := by
  simp only [FileHandleLocalLock.Conflicts, FileHandleLocalLock.Intersects, Bool.and_comm]

def ConflictFree (manager : FileHandleLocalLockManager) : Prop :=
  manager.locks.Pairwise fun a b => a.Conflicts b = false

theorem setLocalLock_conflictFree {manager : FileHandleLocalLockManager}
    (hinv : ConflictFree manager) (terminated : Bool) (lk : FileLock) :
    ConflictFree (setLocalLock terminated manager lk).2 := by
  unfold setLocalLock
  dsimp only
  split_ifs
  · exact hinv
  · cases hunlock : manager.Unlock (localLockOf lk) with
    | error => exact hinv
    | ok manager' =>
        -- an unlock keeps a sublist of the records
        unfold FileHandleLocalLockManager.Unlock at hunlock
        split at hunlock <;> cases hunlock
        exact hinv.sublist (List.filter_sublist _)
  · cases hlock : manager.Lock (localLockOf lk) with
    | error => exact hinv
    | ok manager' =>
        -- a lock is appended only when no record conflicts with it
        have hfree := (FileHandleLocalLockManager.Lock_isOk_iff manager (localLockOf lk)).mp
          (by rw [hlock]; rfl)
        show List.Pairwise _ manager'.locks
        rw [FileHandleLocalLockManager.Lock_eq_ok hlock, List.pairwise_append]
        exact ⟨hinv, List.pairwise_singleton _ _, fun a ha b hb => by
          rw [List.mem_singleton.mp hb]; exact hfree a ha⟩

theorem lockRun_conflictFree {manager : FileHandleLocalLockManager} (hinv : ConflictFree manager) :
    ∀ requests, ConflictFree (lockRun manager requests)
  | [] => hinv
  | .setlk lk :: rest => by
      rw [lockRun, LockRequest.apply_setlk]
      exact lockRun_conflictFree (setLocalLock_conflictFree hinv false lk) rest
  | .setlkw lk :: rest => by
      rw [lockRun, LockRequest.apply_setlkw]
      exact lockRun_conflictFree hinv rest

/-- **Granted locks never conflict.** In every table a handle reaches through `F_SETLK` and
`F_SETLKW` requests, any two records at different places in the table do not conflict: their
ranges are disjoint, or both are read locks. -/
theorem lock_table_never_conflicts (requests : List LockRequest) :
    (lockRun .empty requests).locks.Pairwise fun a b => a.Conflicts b = false :=
  lockRun_conflictFree List.Pairwise.nil requests

/-- A read lock over `[0, 10]`, a shared read lock over `[5, 15]`, a refused write lock over
`[8, 20]` and a refused blocking write lock: the two read locks overlap and do not conflict. -/
theorem lock_table_never_conflicts_shared_read :
    (lockRun .empty [.setlk ⟨0, 10, F_RDLCK, 1⟩, .setlk ⟨5, 15, F_RDLCK, 2⟩,
        .setlk ⟨8, 20, F_WRLCK, 3⟩, .setlkw ⟨30, 40, F_WRLCK, 3⟩]).locks =
        [⟨F_RDLCK, 1, 0, 10⟩, ⟨F_RDLCK, 2, 5, 15⟩] ∧
      (lockRun .empty [.setlk ⟨0, 10, F_RDLCK, 1⟩, .setlk ⟨5, 15, F_RDLCK, 2⟩,
        .setlk ⟨8, 20, F_WRLCK, 3⟩, .setlkw ⟨30, 40, F_WRLCK, 3⟩]).locks.Pairwise
        fun a b => a.Conflicts b = false :=
  ⟨by decide, lock_table_never_conflicts _⟩

/-- **`F_GETLK` sees a granted `F_SETLK`.** After an `F_SETLK` over a non-empty range is granted
in a table a handle reached through `F_SETLK`, an `F_GETLK` over the same range answers `F_UNLCK`
exactly when the request was an unlock: a granted lock is reported, by itself or by an earlier
record over the range, and a granted unlock has removed every record over it. -/
theorem getLocalLock_sees_granted_setLocalLock (reqs : List FileLock) (lk out : FileLock)
    (hrange : lk.start ≤ lk.End)
    (hok : (setLocalLock false (setLocalLocks .empty reqs) lk).1 = .OK) :
    (getLocalLock false (setLocalLocks .empty (reqs ++ [lk])) lk out).2.typ = F_UNLCK ↔
      lk.typ = F_UNLCK := by
  have hinv : NoUnlockRecords (setLocalLocks .empty (reqs ++ [lk])) :=
    setLocalLocks_noUnlockRecords (fun _ h => absurd h (List.not_mem_nil _)) _
  rw [getLocalLock_typ_eq_unlck_iff hinv, setLocalLocks_append]
  unfold setLocalLock at hok ⊢
  by_cases htyp : lk.typ = F_UNLCK
  -- a granted unlock keeps only the records off the range
  · simp only [htyp, if_true, Bool.false_eq_true, if_false, iff_true] at hok ⊢
    cases hunlock : (setLocalLocks .empty reqs).Unlock (localLockOf lk) with
    | error => rw [hunlock] at hok; cases hok
    | ok manager' =>
        unfold FileHandleLocalLockManager.Unlock at hunlock
        split at hunlock <;> cases hunlock
        intro l hl
        simpa [localLockOf] using (List.mem_filter.mp hl).2
  -- a granted lock is in the table and covers its own range
  · simp only [htyp, if_false, Bool.false_eq_true, iff_false, not_forall] at hok ⊢
    cases hlock : (setLocalLocks .empty reqs).Lock (localLockOf lk) with
    | error => rw [hlock] at hok; cases hok
    | ok manager' =>
        refine ⟨localLockOf lk, ?_, ?_⟩
        · simp [FileHandleLocalLockManager.Lock_eq_ok hlock]
        · simp [FileHandleLocalLock.Intersects, localLockOf, hrange]

theorem getLocalLock_sees_granted_setLocalLock_write :
    (⟨0, 10, F_WRLCK, 1⟩ : FileLock).start ≤ (⟨0, 10, F_WRLCK, 1⟩ : FileLock).End ∧
      (setLocalLock false (setLocalLocks .empty []) ⟨0, 10, F_WRLCK, 1⟩).1 = .OK ∧
      ((getLocalLock false (setLocalLocks .empty ([] ++ [⟨0, 10, F_WRLCK, 1⟩])) ⟨0, 10, F_WRLCK, 1⟩
          ⟨0, 0, 0, 0⟩).2.typ = F_UNLCK ↔ (⟨0, 10, F_WRLCK, 1⟩ : FileLock).typ = F_UNLCK) :=
  ⟨by decide, by decide, getLocalLock_sees_granted_setLocalLock [] _ _ (by decide) (by decide)⟩

end IrodsFs
