import Mathlib.Algebra.Order.Ring.Nat
import IrodsFs.VPath

/-!
# Extended attributes

The four xattr handlers of `File` share one opening: the closest VPath entry, its iRODS path,
and one or two calls to the remote client. `Listxattr` then encodes the names it got back as a
run of NUL-terminated strings into the caller's buffer, or reports the size it needs.

The encoding is the part worth proving: the reported size is the sum of the names' lengths plus
one per name, an `ERANGE` reply leaves the buffer alone, and a reader splitting the written prefix
at its NUL bytes gets the names back, empty ones included.
-/

namespace IrodsFs

/-- The loop of `Listxattr`: each name, then a NUL byte. -/
def encodeXattrNames (names : List (List UInt8)) : List UInt8 :=
  names.foldl (fun xattrNames name => xattrNames ++ name ++ [0]) []

/-- Go's `copy(dest, src)`: as many bytes as both hold, over the start of `dest`. -/
def goCopy (dest src : List UInt8) : List UInt8 :=
  src.take dest.length ++ dest.drop src.length

/-- `File.Listxattr`: the size it reports, its errno and the buffer afterwards. `listResult` is
what `fsClient.ListXattr` answered, the names already as bytes. -/
def listxattr (terminated : Bool) (vpathManager : VPathManager) (path : String) (ensured : Bool)
    (listResult : ClientResult (List (List UInt8))) (dest : List UInt8) :
    UInt32 × Errno × List UInt8 :=
  if terminated then (0, .ECONNABORTED, dest)
  else match resolveIRODSPath vpathManager path ensured with
    | .error errno => (0, errno, dest)
    | .ok _ =>
        match listResult with
        | .notFound => (0, .ENOENT, dest)
        | .failed => (0, Errno.EREMOTEIO, dest)
        | .ok irodsMetadata =>
            let xattrNames := encodeXattrNames irodsMetadata
            let requiredBytesLen := xattrNames.length
            if dest.length < requiredBytesLen then (UInt32.ofNat requiredBytesLen, .ERANGE, dest)
            else if xattrNames.length > 0 then
              (UInt32.ofNat requiredBytesLen, .OK, goCopy dest xattrNames)
            else (0, .OK, dest)

/-- `File.Getxattr`: the value's size, the errno and the buffer afterwards. `getResult` is what
`fsClient.GetXattr` answered, `none` standing for a nil record. -/
def getxattr (terminated : Bool) (vpathManager : VPathManager) (isUnhandledAttr : String → Bool)
    (path attr : String) (ensured : Bool) (getResult : ClientResult (Option (List UInt8)))
    (dest : List UInt8) : UInt32 × Errno × List UInt8 :=
  if terminated then (0, .ECONNABORTED, dest)
  else if isUnhandledAttr attr then (0, .ENODATA, dest)
  else match resolveIRODSPath vpathManager path ensured with
    | .error errno => (0, errno, dest)
    | .ok _ =>
        match getResult with
        | .notFound => (0, .ENOENT, dest)
        | .failed => (0, Errno.EREMOTEIO, dest)
        | .ok none => (0, .ENODATA, dest)
        | .ok (some value) =>
            let requiredBytesLen := value.length
            if dest.length < requiredBytesLen then (UInt32.ofNat requiredBytesLen, .ERANGE, dest)
            else (UInt32.ofNat requiredBytesLen, .OK, goCopy dest value)

/-- `File.Setxattr`: its errno and the client calls it made. -/
def setxattr (terminated : Bool) (vpathManager : VPathManager) (isUnhandledAttr : String → Bool)
    (path attr : String) (data : List UInt8) (ensured : Bool) (setResult : ClientResult Unit) :
    Errno × List ClientCall :=
  if terminated then (.ECONNABORTED, [])
  else if isUnhandledAttr attr then (.EINVAL, [])
  else match resolveIRODSPath vpathManager path ensured with
    | .error errno => (errno, [])
    | .ok (_, irodsPath) => (clientErrno setResult, [.setXattr irodsPath attr data])

/-- `File.Removexattr`: its errno and the client calls it made. Unlike its siblings it does not
filter unhandled attributes. -/
def removexattr (terminated : Bool) (vpathManager : VPathManager) (path attr : String)
    (ensured : Bool) (getResult : ClientResult (Option (List UInt8)))
    (removeResult : ClientResult Unit) : Errno × List ClientCall :=
  if terminated then (.ECONNABORTED, [])
  else match resolveIRODSPath vpathManager path ensured with
    | .error errno => (errno, [])
    | .ok (_, irodsPath) =>
        match getResult with
        | .notFound => (.ENOENT, [.getXattr irodsPath attr])
        | .failed => ( Errno.EREMOTEIO, [.getXattr irodsPath attr])
        | .ok none => (.ENODATA, [.getXattr irodsPath attr])
        | .ok (some _) =>
            (clientErrno removeResult, [.getXattr irodsPath attr, .removeXattr irodsPath attr])

theorem setxattr_calls (terminated : Bool) (vpathManager : VPathManager)
    (isUnhandledAttr : String → Bool) (path attr : String) (data : List UInt8) (ensured : Bool)
    (result : ClientResult Unit) :
    ∀ c ∈ (setxattr terminated vpathManager isUnhandledAttr path attr data ensured result).2,
      ∃ irodsPath, c = .setXattr irodsPath attr data := by
  unfold setxattr
  cases terminated
  · cases isUnhandledAttr attr
    · rcases resolveIRODSPath vpathManager path ensured with _ | ⟨_, irodsPath⟩
      · exact fun _ h => absurd h (List.not_mem_nil _)
      · exact fun _ h => ⟨irodsPath, List.mem_singleton.1 h⟩
    · exact fun _ h => absurd h (List.not_mem_nil _)
  · exact fun _ h => absurd h (List.not_mem_nil _)

theorem removexattr_calls (terminated : Bool) (vpathManager : VPathManager)
    (path attr : String) (ensured : Bool) (getResult : ClientResult (Option (List UInt8)))
    (removeResult : ClientResult Unit) :
    ∀ c ∈ (removexattr terminated vpathManager path attr ensured getResult removeResult).2,
      ∃ irodsPath, c = .getXattr irodsPath attr ∨ c = .removeXattr irodsPath attr := by
  unfold removexattr
  cases terminated
  · rcases resolveIRODSPath vpathManager path ensured with _ | ⟨_, irodsPath⟩
    · exact fun _ h => absurd h (List.not_mem_nil _)
    · rcases getResult with (_ | _) | _ | _ <;> intro c hc <;> refine ⟨irodsPath, ?_⟩ <;>
        simp_all
  · exact fun _ h => absurd h (List.not_mem_nil _)
/-- How a caller reads a name list back: each name runs up to its NUL terminator. -/
def splitNulTerminated : List UInt8 → List (List UInt8)
  | [] => []
  | b :: rest =>
      if b = 0 then [] :: splitNulTerminated rest
      else match splitNulTerminated rest with
        | [] => [[b]]
        | name :: names => (b :: name) :: names

/-! ### The encoding -/

theorem foldl_encode (names : List (List UInt8)) (acc : List UInt8) :
    names.foldl (fun xattrNames name => xattrNames ++ name ++ [0]) acc =
      acc ++ names.flatMap (· ++ [0]) := by
  induction names generalizing acc with
  | nil => simp
  | cons name names ih => rw [List.foldl_cons, ih]; simp

theorem encodeXattrNames_cons (name : List UInt8) (names : List (List UInt8)) :
    encodeXattrNames (name :: names) = name ++ 0 :: encodeXattrNames names := by
  rw [encodeXattrNames, encodeXattrNames, foldl_encode, foldl_encode]
  simp

@[simp]
theorem encodeXattrNames_nil : encodeXattrNames [] = [] := rfl

theorem length_encodeXattrNames (names : List (List UInt8)) :
    (encodeXattrNames names).length = (names.map (·.length + 1)).sum := by
  induction names with
  | nil => rfl
  | cons name names ih => simp [encodeXattrNames_cons, ih]; omega

theorem splitNulTerminated_append {name : List UInt8} (hname : (0 : UInt8) ∉ name)
    (rest : List UInt8) :
    splitNulTerminated (name ++ 0 :: rest) = name :: splitNulTerminated rest := by
  induction name with
  | nil => simp [splitNulTerminated]
  | cons b name ih =>
      have hb : b ≠ 0 := fun h => hname (h ▸ List.mem_cons_self _ _)
      simp [splitNulTerminated, hb, ih (fun h => hname (List.mem_cons_of_mem _ h))]

/-- **The names read back.** Splitting an encoded list at its NUL bytes gives the list again. -/
theorem splitNulTerminated_encodeXattrNames {names : List (List UInt8)}
    (hnames : ∀ name ∈ names, (0 : UInt8) ∉ name) :
    splitNulTerminated (encodeXattrNames names) = names := by
  induction names with
  | nil => rfl
  | cons name names ih =>
      rw [encodeXattrNames_cons, splitNulTerminated_append (hnames name (List.mem_cons_self _ _)),
        ih fun n hn => hnames n (List.mem_cons_of_mem _ hn)]

theorem goCopy_of_le {dest src : List UInt8} (h : src.length ≤ dest.length) :
    goCopy dest src = src ++ dest.drop src.length := by
  simp [goCopy, List.take_of_length_le h]

/-- What `Listxattr` should answer for the names `names` and the buffer `dest`: the size
`L`, the sum over the names of their length plus one; `ERANGE` with the buffer untouched when it
holds fewer than `L` bytes; and otherwise `OK`, the encoded names in the first `L` bytes, which
read back as the names, and the rest of the buffer untouched. -/
def ListxattrReply (names : List (List UInt8)) (dest : List UInt8)
    (reply : UInt32 × Errno × List UInt8) : Prop :=
  let L := (names.map (·.length + 1)).sum
  reply.1.toNat = L ∧
  (dest.length < L → reply.2 = (.ERANGE, dest)) ∧
  (L ≤ dest.length →
    reply.2.1 = .OK ∧ reply.2.2.take L = encodeXattrNames names ∧
      reply.2.2.drop L = dest.drop L ∧ splitNulTerminated (reply.2.2.take L) = names)

/-- **`Listxattr` encodes the names.** Whatever NUL-free names the client returns, as long as
their encoding fits a `uint32`, and whatever buffer the kernel passes. -/
theorem listxattr_encodes_names {vpathManager : VPathManager} {path : String} {ensured : Bool}
    {entry : VPathEntry} {irodsPath : String} {names : List (List UInt8)} (dest : List UInt8)
    (hres : resolveIRODSPath vpathManager path ensured = .ok (entry, irodsPath))
    (hnul : ∀ name ∈ names, (0 : UInt8) ∉ name)
    (hsize : (names.map (·.length + 1)).sum < UInt32.size) :
    ListxattrReply names dest (listxattr false vpathManager path ensured (.ok names) dest) := by
  have hlen := length_encodeXattrNames names
  have hsplit := splitNulTerminated_encodeXattrNames hnul
  unfold listxattr ListxattrReply
  simp only [hres, Bool.false_eq_true, if_false, ← hlen]
  rw [← hlen] at hsize
  by_cases hlt : dest.length < (encodeXattrNames names).length
  · simp [if_pos hlt, UInt32.toNat_ofNat_of_lt hsize, hlt]
  · have hle : (encodeXattrNames names).length ≤ dest.length := Nat.le_of_not_lt hlt
    simp only [if_neg hlt]
    split_ifs with hpos
    · simp [UInt32.toNat_ofNat_of_lt hsize, goCopy_of_le hle, hsplit, hlt]
    · have hnil : names = [] := by
        cases names with
        | nil => rfl
        | cons name names => simp [encodeXattrNames_cons] at hpos
      subst hnil
      simp [splitNulTerminated]

theorem listxattr_encodes_empty_name :
    resolveIRODSPath ⟨fun _ => some ⟨.irods, false⟩, fun _ path => some path⟩ "/zone/f" true =
        .ok (⟨.irods, false⟩, "/zone/f") ∧
      (∀ name ∈ [[97], []], (0 : UInt8) ∉ name) ∧
      ([[97], []].map (List.length · + 1)).sum < UInt32.size ∧
      ListxattrReply [[97], []] [1, 2, 3, 4, 5]
        (listxattr false ⟨fun _ => some ⟨.irods, false⟩, fun _ path => some path⟩ "/zone/f" true
          (.ok [[97], []]) [1, 2, 3, 4, 5]) :=
  have hres : resolveIRODSPath ⟨fun _ => some ⟨.irods, false⟩, fun _ path => some path⟩
      "/zone/f" true = .ok (⟨.irods, false⟩, "/zone/f") := rfl
  have hnul : ∀ name ∈ [[97], []], (0 : UInt8) ∉ name := by decide
  have hsize : ([[97], []].map (List.length · + 1)).sum < UInt32.size := by decide
  ⟨hres, hnul, hsize, listxattr_encodes_names _ hres hnul hsize⟩

end IrodsFs
