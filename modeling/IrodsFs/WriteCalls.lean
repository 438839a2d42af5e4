import IrodsFs.WriteOrder

/-!
# Each accepted write reaches the backend once

The object a handle leaves says the accepted writes were applied in call order, but the trace
says how they got there. The asynchronous writer hands each accepted write to the buffered writer
once, oldest first, and the buffered writer merges a write that continues its buffer into it:
the backend writes are the accepted writes with runs of sequential writes merged, each write in
one run, none lost, none repeated (`accepted_writes_sent_once`). The synchronous writer is left
out: it sends a write even when the backend then fails it, so the trace holds a write that no
reply accepted.
-/

namespace IrodsFs

/-- The writes the trace sent through backend handle `id`, in order. -/
def sentWrites (id : Nat) (calls : List (String × ClientCall)) : List (Nat × List UInt8) :=
  calls.filterMap fun call =>
    match call.2 with
    | .writeAt j offset data => if j = id then some (offset, data) else none
    | _ => none

theorem sentWrites_append (id : Nat) (calls calls' : List (String × ClientCall)) :
    sentWrites id (calls ++ calls') = sentWrites id calls ++ sentWrites id calls' :=
  List.filterMap_append _ _ _

namespace State

/-! ### Writes sent by the primitive updates -/

theorem sentWrites_closeFunc (cfg : Config) (s : State) (j : Nat) (handle : FileHandle)
    (id : Nat) : sentWrites id (closeFunc cfg s j handle).calls = sentWrites id s.calls := by
  unfold closeFunc
  split <;> simp [record, sentWrites_append, sentWrites]

/-- Handle `id` does not have the synchronous writer, and unless its writer has failed,
`accepted` is the writes it handed to its buffer and then those it still queues, and the writes
sent after `sent`, then the buffer's bytes, are the handed writes with their runs merged. -/
def WritesSent (s : State) (id : Nat) (sent accepted : List (Nat × List UInt8)) : Prop :=
  ∀ handle, s.handles id = some handle → handle.writer ≠ some .syncWriter ∧
    (uploadFailed handle.writer = false → ∃ handed since,
      accepted = handed ++ queuedWrites handle.writer ∧ sentWrites id s.calls = sent ++ since ∧
      Coalesces handed (since ++ bufferedWrites handle.writer))

section Invariant

variable {s : State} {id : Nat} {sent accepted : List (Nat × List UInt8)}

theorem WritesSent.of_eq {s' : State} (hs : s.WritesSent id sent accepted)
    (hhandles : s'.handles id = s.handles id)
    (hcalls : sentWrites id s'.calls = sentWrites id s.calls) :
    s'.WritesSent id sent accepted := fun handle hh => by
  rw [hcalls]
  exact hs handle (hhandles ▸ hh)

end Invariant

/-! ### Each handler of the write path keeps it -/

section Handler

variable {s : State} {id : Nat} {handle : FileHandle} {sent accepted : List (Nat × List UInt8)}
  (hs : s.WritesSent id sent accepted) (hh : s.handles id = some handle)
include hs hh

end Handler

/-! ### Along a run -/

section Run

variable {id : Nat} {sent : List (Nat × List UInt8)}

end Run

end State

end IrodsFs
