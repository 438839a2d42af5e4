import IrodsFs.Basic

/-!
# The VPath layer as the handlers see it

The path mappings are compiled once, at mount, into a VPath manager that the `File` handlers ask
for the entry closest to a local path. The manager lives in the common library, not among the
sources, so it is a parameter here: a configuration is any function from local paths to entries,
and any function giving the iRODS path of a local path under an entry. Every result about the
handlers holds for all of them.
-/

namespace IrodsFs

/-- A VPath entry maps either a synthetic directory or an iRODS collection. -/
inductive VPathEntryType
  | virtualDir
  | irods
deriving DecidableEq, Repr

/-- What the handlers read of a `VPathEntry`: its kind and its read-only flag. -/
structure VPathEntry where
  type : VPathEntryType
  readOnly : Bool
deriving DecidableEq, Repr

def VPathEntry.IsVirtualDirEntry (entry : VPathEntry) : Bool :=
  entry.type == .virtualDir

/-- A configuration of path mappings: `GetClosestEntry` of the VPath manager, and the iRODS path
an entry gives a local path (`none` when `GetIRODSPath` fails). -/
structure VPathManager where
  GetClosestEntry : String → Option VPathEntry
  GetIRODSPath : VPathEntry → String → Option String

/-- The lookup the xattr handlers open with: the closest entry, which must be an iRODS entry
whose root exists (`ensureVPathEntryIsIRODSEntry`, whose answer is `ensured`), and the iRODS path
it gives the file. -/
def resolveIRODSPath (vpathManager : VPathManager) (path : String) (ensured : Bool) :
    Except Errno (VPathEntry × String) :=
  match vpathManager.GetClosestEntry path with
  | none => .error Errno.EREMOTEIO
  | some vpathEntry =>
      if vpathEntry.IsVirtualDirEntry then .error Errno.EREMOTEIO
      else if !ensured then .error Errno.EREMOTEIO
      else match vpathManager.GetIRODSPath vpathEntry path with
        | none => .error Errno.EREMOTEIO
        | some irodsPath => .ok (vpathEntry, irodsPath)

theorem resolveIRODSPath_eq_ok {vpathManager : VPathManager} {path : String} {ensured : Bool}
    {vpathEntry : VPathEntry} {irodsPath : String}
    (h : resolveIRODSPath vpathManager path ensured = .ok (vpathEntry, irodsPath)) :
    vpathManager.GetClosestEntry path = some vpathEntry ∧ vpathEntry.IsVirtualDirEntry = false ∧
      vpathManager.GetIRODSPath vpathEntry path = some irodsPath := by
  unfold resolveIRODSPath at h
  split at h
  · cases h
  · rename_i entry hentry
    split_ifs at h with hvirt
    split at h
    · cases h
    · cases h
      simp_all

end IrodsFs
