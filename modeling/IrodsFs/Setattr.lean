import IrodsFs.ReadWriteOrder

/-!
# A truncate that answers `OK` leaves the size asked for

`ftruncate(2)` reaches `FileHandle.Setattr`, which answers `OK` only once the backend has
truncated (`handleSetattr_ok_length`); `truncate(2)` reaches `File.Setattr` and `File.Truncate`
(`fileSetattr_ok_sets_size`). The latter trusts the size `File.Truncate` read at its start, so it
is stated for a `File.Truncate` that runs alone, as it does under the file's lock.
-/
namespace IrodsFs

namespace State

theorem toNat_toInt64 {size : UInt64} (h : size.toNat < 2 ^ 63) :
    (toInt64 size).toNat = size.toNat := by
  rw [toInt64_of_lt (by simpa using h)]
  rfl

/-- `FileHandle.Truncate` answers `OK` only once it has truncated the handle's object. -/
theorem handleTruncate_ok_length {s : State} {id : Nat} {handle : FileHandle} {size : UInt64}
    {truncated : Bool} (hok : (s.handleTruncate id handle size truncated).2 = .OK) :
    ((s.handleTruncate id handle size truncated).1.objects handle.path).length =
      (toInt64 size).toNat := by
  rcases handleTruncate_objects s id handle size truncated with ⟨hne, -⟩ | ⟨-, h⟩
  · exact absurd hok hne
  · rw [h, objects_truncateObject, length_truncateBytes]

theorem handleSetattr_ok_length {s : State} {id : Nat} {handle : FileHandle} {size : UInt64}
    {truncated : Bool} (hok : (s.handleSetattr id handle (some size) truncated).2 = .OK) :
    ((s.handleSetattr id handle (some size) truncated).1.objects handle.path).length =
      (toInt64 size).toNat := by
  unfold handleSetattr at hok ⊢
  split_ifs at hok ⊢
  · exact absurd hok (show Errno.ECONNABORTED ≠ .OK by decide)
  · exact handleTruncate_ok_length hok

theorem firstWriteHandle?_mem {s : State} {ids : List Nat} {id : Nat} {handle : FileHandle}
    (h : firstWriteHandle? s ids = some (id, handle)) : id ∈ ids := by
  obtain ⟨j, hj, hfound⟩ := List.exists_of_findSome?_eq_some h
  cases hhandle : s.handles j <;> simp only [hhandle, Option.none_bind, Option.some_bind] at hfound
  · exact absurd hfound Option.noConfusion
  · split_ifs at hfound
    cases hfound
    exact hj

/-- A handle `ListByPath` returns is open on the path it was asked for. -/
theorem path_of_mem_listByPath {s : State} {path : String} {id : Nat} {handle : FileHandle}
    (hid : id ∈ s.listByPath path) (hh : s.handles id = some handle) : handle.path = path := by
  have hpath := (List.mem_filter.mp hid).2
  rw [hh] at hpath
  simpa using hpath

/-- What `File.Setattr` with a size can do to the state: nothing, or queue its `File.Truncate`
with the snapshot of the handles open on the entry it found. -/
theorem fileSetattr_cases (cfg : Config) (s : State) (path : String) (size : UInt64)
    (o : LookupOutcome) :
    (s.fileSetattr cfg path (some size) o).1 = s ∨
      ∃ entry, o.stat = .ok entry ∧ (s.fileSetattr cfg path (some size) o).1 =
        { s with truncates := s.truncates ++ [⟨path, size, entry, s.listByPath entry.path⟩] } := by
  unfold fileSetattr
  split
  · exact .inl rfl
  dsimp only
  unfold truncateLookup
  repeat' split
  all_goals first | exact .inl rfl | exact .inr ⟨_, ‹_›, rfl⟩

/-- What the tail of `File.Truncate` leaves when it answers `OK`: the object of the first
write-mode handle of the snapshot truncated; or, with none, the entry's object truncated, or left
as it was when the entry had the size already. -/
theorem truncateFinish_ok_objects (s : State) (task : TruncateTask) (o : TruncateOutcome)
    (hok : (truncateFinish s task o).2 = .OK) :
    (∃ id handle, firstWriteHandle? s task.handlesOpened = some (id, handle) ∧
        ((truncateFinish s task o).1.objects handle.path).length = (toInt64 task.size).toNat) ∨
      (task.entry.size = toInt64 task.size ∧ (truncateFinish s task o).1.objects = s.objects) ∨
      ((truncateFinish s task o).1.objects task.entry.path).length = (toInt64 task.size).toNat := by
  have hloop := truncateLoop_eq task.size o.handleTruncated s task.handlesOpened
  unfold truncateFinish at hok ⊢
  rw [hloop] at hok ⊢
  cases hfirst : firstWriteHandle? s task.handlesOpened with
  | some found =>
      -- the walk's handle answered `OK`, and the tail adds nothing
      obtain ⟨id, handle⟩ := found
      refine .inl ⟨id, handle, rfl, ?_⟩
      by_cases hr : (s.handleTruncate id handle task.size o.handleTruncated).2 = .OK
      · simp only [hfirst, hr, bne_self_eq_false] at hok ⊢
        exact handleTruncate_ok_length hr
      · simp [hfirst, hr] at hok
  | none =>
      simp only [hfirst] at hok ⊢
      by_cases hsize : task.entry.size = toInt64 task.size
      · exact .inr (.inl ⟨hsize, by simp [hsize]⟩)
      · refine .inr (.inr ?_)
        revert hok
        cases o.truncateFile <;> simp [hsize, clientErrno, length_truncateBytes] <;>
          exact fun h => absurd h (by decide)

end State

/-- A write-only handle open on a five-byte `/f`. -/
def openFiveByteFile : State :=
  run plainMount (State.init fun _ => [1, 2, 3, 4, 5]) openWriteRun

/-- **`File.Setattr` with a size that answers `OK` leaves the object at that size.** Take any
state and run `truncate(2)` alone: `File.Setattr` with a size below `2^63`, its lookup finding an
entry whose size is the object's, then the rest of `File.Truncate` at once. Whatever handles are
open and whatever the remote calls answer, an `OK` means the entry's object has the size asked
for. -/
theorem fileSetattr_ok_sets_size (cfg : Config) (s : State) (path : String) (size : UInt64)
    (hsmall : size.toNat < 2 ^ 63) (o : LookupOutcome) (entry : IRODSEntry)
    (hstat : o.stat = .ok entry) (hsize : entry.size = (s.objects entry.path).length)
    (o' : TruncateOutcome)
    (hok : ((s.step cfg (.fileSetattr path (some size) o)).1.step cfg
      (.truncateResume s.truncates.length o')).2 = some .OK) :
    (((s.step cfg (.fileSetattr path (some size) o)).1.step cfg
      (.truncateResume s.truncates.length o')).1.objects entry.path).length = size.toNat := by
  have hlookup := State.fileSetattr_cases cfg s path size o
  simp only [State.step] at hok ⊢
  rcases hlookup with h | ⟨found, hfound, h⟩ <;> rw [h] at hok ⊢
  -- a lookup that failed queued nothing to resume
  · rw [List.getElem?_eq_none (le_refl _)] at hok
    cases hok
  obtain rfl : found = entry := ClientResult.ok.inj (hfound.symm.trans hstat)
  simp only [List.getElem?_concat_length, Option.some.injEq] at hok ⊢
  rw [← State.toNat_toInt64 hsmall]
  rcases State.truncateFinish_ok_objects _ _ o' hok with ⟨id, handle, hfirst, hlength⟩ |
    ⟨hsame, hobjects⟩ | hlength
  · -- the handle truncated is open on the entry's path
    have hpath := State.path_of_mem_listByPath (State.firstWriteHandle?_mem hfirst)
      (State.firstWriteHandle?_eq_some hfirst).1
    rwa [hpath] at hlength
  · rw [hobjects]
    simp only at hsame ⊢
    omega
  · exact hlength

theorem fileSetattr_ok_sets_size_two :
    (2 : UInt64).toNat < 2 ^ 63 ∧
      (⟨true, .ok ⟨"/f", 5⟩⟩ : LookupOutcome).stat = .ok ⟨"/f", 5⟩ ∧
      (⟨"/f", 5⟩ : IRODSEntry).size = (openFiveByteFile.objects "/f").length ∧
      ((openFiveByteFile.step plainMount (.fileSetattr "/f" (some 2) ⟨true, .ok ⟨"/f", 5⟩⟩)).1.step
          plainMount (.truncateResume openFiveByteFile.truncates.length ⟨true, .ok ()⟩)).2 =
        some .OK ∧
      (((openFiveByteFile.step plainMount (.fileSetattr "/f" (some 2) ⟨true, .ok ⟨"/f", 5⟩⟩)).1.step
          plainMount (.truncateResume openFiveByteFile.truncates.length ⟨true, .ok ()⟩)).1.objects
          "/f").length = (2 : UInt64).toNat :=
  have hok : ((openFiveByteFile.step plainMount
      (.fileSetattr "/f" (some 2) ⟨true, .ok ⟨"/f", 5⟩⟩)).1.step plainMount
      (.truncateResume openFiveByteFile.truncates.length ⟨true, .ok ()⟩)).2 = some .OK := by
    decide
  have hsize : (⟨"/f", 5⟩ : IRODSEntry).size = (openFiveByteFile.objects "/f").length := by
    decide
  ⟨by decide, rfl, hsize, hok, fileSetattr_ok_sets_size plainMount _ "/f" 2 (by decide) _
    ⟨"/f", 5⟩ rfl hsize _ hok⟩

end IrodsFs
