import Mathlib.Data.List.Basic

/-!
# Errno values, open modes and open flags

The FUSE handlers of `irodsfs` answer with a `syscall.Errno`, and talk to the remote client
in `FileOpenMode`s. This file fixes both, the translation `File.Open` makes from the POSIX
open flags to an open mode, and the `int64` conversion the truncate paths apply to a
`uint64` size.
-/

namespace IrodsFs

/-- A `syscall.Errno` as a handler returns it; code `0` is `fusefs.OK`. -/
structure Errno where
  code : Nat
deriving DecidableEq, Repr

namespace Errno

def OK : Errno := ⟨0⟩
def EPERM : Errno := ⟨1⟩
def ENOENT : Errno := ⟨2⟩
def EAGAIN : Errno := ⟨11⟩
def EINVAL : Errno := ⟨22⟩
def ERANGE : Errno := ⟨34⟩
def ENODATA : Errno := ⟨61⟩
def EBADFD : Errno := ⟨77⟩
def ENOTSUP : Errno := ⟨95⟩
def ECONNABORTED : Errno := ⟨103⟩
def EREMOTEIO : Errno := ⟨121⟩

end Errno

/-- The remote client's `FileOpenMode`, one constructor per constant it declares
(`"r"`, `"r+"`, `"w"`, `"w+"`, `"a"`, `"a+"`). -/
inductive FileOpenMode
  | readOnly
  | readWrite
  | writeOnly
  | writeTruncate
  | append
  | readAppend
deriving DecidableEq, Repr

namespace FileOpenMode

/-! The mode predicates belong to the remote client library. Modelled from the spec: a
read-only handle gets the prefetching reader, the three write-only modes get the
asynchronous buffered writer, and every mode but `"r"` may write. -/

def IsReadOnly : FileOpenMode → Bool
  | readOnly => true
  | _ => false

def IsWriteOnly : FileOpenMode → Bool
  | writeOnly | writeTruncate | append => true
  | _ => false

def IsReadMode : FileOpenMode → Bool
  | readOnly | readWrite | readAppend => true
  | _ => false

def IsWriteMode (mode : FileOpenMode) : Bool := !mode.IsReadOnly

@[simp]
theorem isWriteMode_iff (mode : FileOpenMode) : mode.IsWriteMode = true ↔ mode ≠ readOnly := by
  cases mode <;> simp [IsWriteMode, IsReadOnly]

theorem isWriteOnly_isWriteMode {mode : FileOpenMode} (h : mode.IsWriteOnly = true) :
    mode.IsWriteMode = true := by
  cases mode <;> simp_all [IsWriteOnly]

end FileOpenMode

def O_WRONLY : UInt32 := 0x1
def O_RDWR : UInt32 := 0x2
def O_TRUNC : UInt32 := 0x200
def O_APPEND : UInt32 := 0x400

/-- The open mode `File.Open` derives from the kernel's open flags. -/
def openModeOfFlags (flags : UInt32) : FileOpenMode :=
  if flags &&& O_WRONLY = O_WRONLY then
    if flags &&& O_APPEND = O_APPEND then .append
    else if flags &&& O_TRUNC = O_TRUNC then .writeTruncate
    else .writeOnly
  else if flags &&& O_RDWR = O_RDWR then .readWrite
  else .readOnly

theorem openModeOfFlags_eq_readOnly_iff (flags : UInt32) :
    openModeOfFlags flags = .readOnly ↔
      flags &&& O_WRONLY ≠ O_WRONLY ∧ flags &&& O_RDWR ≠ O_RDWR := by
  unfold openModeOfFlags
  split_ifs <;> simp_all

/-- Go's `int64(size)` for a `uint64` size: two's complement wrap-around. -/
def toInt64 (size : UInt64) : Int :=
  if size.toNat < 9223372036854775808 then size.toNat else size.toNat - UInt64.size

theorem toInt64_of_lt {size : UInt64} (h : size.toNat < 9223372036854775808) :
    toInt64 size = size.toNat :=
  if_pos h

/-- The outcome of one call to the remote client: a value, a `FileNotFoundError`, or any other
error. The handlers tell the two errors apart with `IsFileNotFoundError`. -/
inductive ClientResult (α : Type)
  | ok (value : α)
  | notFound
  | failed
deriving DecidableEq, Repr

/-- The errno a handler returns for a failed client call: `ENOENT` for a missing object, and
`EREMOTEIO` for anything else. -/
def clientErrno {α : Type} : ClientResult α → Errno
  | .ok _ => .OK
  | .notFound => .ENOENT
  | .failed => Errno.EREMOTEIO

/-- A call the handlers make on the remote client (`fsClient`), on a backend file handle (by its
ID), or on the instance report client. -/
inductive ClientCall
  | openFile (irodsPath : String) (mode : FileOpenMode)
  | truncateFile (irodsPath : String) (size : Int)
  | listXattr (irodsPath : String)
  | getXattr (irodsPath attr : String)
  | setXattr (irodsPath attr : String) (value : List UInt8)
  | removeXattr (irodsPath attr : String)
  | truncate (id : Nat) (size : Int)
  | writeAt (id : Nat) (offset : Nat) (data : List UInt8)
  | close (id : Nat)
  | startFileAccess (id : Nat)
  | doneFileAccess (id : Nat)
deriving DecidableEq, Repr

/-- The calls that change a remote object's data or metadata. -/
def ClientCall.Mutates : ClientCall → Bool
  | openFile _ mode => mode != .readOnly
  | truncateFile .. | setXattr .. | removeXattr .. | truncate .. | writeAt .. => true
  | _ => false

end IrodsFs
