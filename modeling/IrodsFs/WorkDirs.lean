import IrodsFs.Config

/-!
# The files and directories of a mount

Every mount keeps its files under the data root, named by its xid: the log `<id>.log` and the
instance directory `<id>` with `<id>/temp`. Mounts may share a data root, so `CleanWorkDirs`,
which hands both directories to `os.RemoveAll`, must stay inside the mount's own instance
directory (`cleanWorkDirs_removes_own_instance_dir`). `os.RemoveAll`, `os.MkdirAll` and
`os.Stat` are parameters.
-/

namespace IrodsFs

namespace Commons

variable {VPathMapping : Type}

/-- `getLogFilename`: `fmt.Sprintf("%s.log", getInstanceID())`. -/
def getLogFilename (env : Environment VPathMapping) : List Char :=
  getInstanceID env ++ ".log".toList

/-- `Config.GetLogFilePath`: `LogPath` when it is set, and otherwise the log file under the data
root. -/
def Config.GetLogFilePath (config : Config VPathMapping) (env : Environment VPathMapping) :
    List Char :=
  if config.LogPath.length > 0 then config.LogPath
  else GoPath.join [config.DataRootPath, getLogFilename env]

def Config.GetTempRootDirPath (config : Config VPathMapping) (env : Environment VPathMapping) :
    List Char :=
  GoPath.join [config.DataRootPath, getInstanceID env ++ "/temp".toList]

def Config.GetInstanceDataRootDirPath (config : Config VPathMapping)
    (env : Environment VPathMapping) : List Char :=
  GoPath.join [config.DataRootPath, getInstanceID env]

/-- `Config.removeDir`, which reads nothing of the configuration: the directory handed to
`os.RemoveAll`, if any, and the error. -/
def removeDir (removeAll : List Char → Option (List Char)) (path : List Char) :
    List (List Char) × Option (List Char) :=
  if path.length = 0 then ([], some "failed to remove a dir with empty path".toList)
  else ([path], removeAll path)

/-- `Config.CleanWorkDirs`: the temporary directory, then the instance directory, stopping at the
first error. -/
def Config.CleanWorkDirs (config : Config VPathMapping) (env : Environment VPathMapping)
    (removeAll : List Char → Option (List Char)) : List (List Char) × Option (List Char) :=
  let (tempCalls, err) := removeDir removeAll (config.GetTempRootDirPath env)
  match err with
  | some err => (tempCalls, some err)
  | none =>
      let (instanceCalls, err) := removeDir removeAll (config.GetInstanceDataRootDirPath env)
      (tempCalls ++ instanceCalls, err)

/-- `Config.makeDir`, which reads nothing of the configuration: the directories handed to
`os.MkdirAll` (`mkdirAll`, returning the text of its error, if any), and the error. -/
def makeDir (env : Environment VPathMapping) (mkdirAll : List Char → Option (List Char))
    (path : List Char) : List (List Char) × Option (List Char) :=
  if path.length = 0 then ([], some "failed to create a dir with empty path".toList)
  else match env.stat path with
    | .error err =>
        if err.notExist then
          match mkdirAll path with
          | some mkdirErr =>
              ([path], some ("making a dir (".toList ++ path ++ ") error - ".toList ++ mkdirErr))
          | none => ([path], none)
        else ([], some ("stating a dir (".toList ++ path ++ ") error - ".toList ++ err.text))
    | .ok dirInfo =>
        if !dirInfo.isDir then
          ([], some ("a file (".toList ++ path ++ ") exist, not a directory".toList))
        else if dirInfo.perm &&& 0o200 != 0o200 then
          ([], some ("a dir (".toList ++ path ++
            ") exist, but does not have the write permission".toList))
        else ([], none)

/-- `Config.MakeWorkDirs`: the temporary directory. -/
def Config.MakeWorkDirs (config : Config VPathMapping) (env : Environment VPathMapping)
    (mkdirAll : List Char → Option (List Char)) : List (List Char) × Option (List Char) :=
  makeDir env mkdirAll (config.GetTempRootDirPath env)

/-- `Config.MakeLogDir`: the directory of the log file. -/
def Config.MakeLogDir (config : Config VPathMapping) (env : Environment VPathMapping)
    (mkdirAll : List Char → Option (List Char)) : List (List Char) × Option (List Char) :=
  makeDir env mkdirAll (GoFilepath.Dir (config.GetLogFilePath env))

/-- `IsYAMLFile`: a file `os.Stat` finds, not a directory, with the extension `.yaml` or
`.yml`. -/
def IsYAMLFile (env : Environment VPathMapping) (filePath : List Char) : Bool :=
  match env.stat filePath with
  | .error _ => false
  | .ok st =>
      if st.isDir then false
      else
        let ext := GoFilepath.Ext filePath
        ext == ".yaml".toList || ext == ".yml".toList

/-! ### Making directories and finding the configuration file -/

/-- `makeDir` hands `os.MkdirAll` only a path that `os.Stat` reports missing. -/
theorem mem_makeDir {env : Environment VPathMapping} {mkdirAll : List Char → Option (List Char)}
    {path dir : List Char} (h : dir ∈ (makeDir env mkdirAll path).1) :
    dir = path ∧ ∃ err, env.stat path = .error err ∧ err.notExist = true := by
  unfold makeDir at h
  split_ifs at h with hlen
  · cases h
  · split at h
    · rename_i err hstat
      split_ifs at h with hmissing
      · split at h <;> exact ⟨List.mem_singleton.mp h, err, hstat, hmissing⟩
      · cases h
    · split_ifs at h <;> cases h

/-- Every error `makeDir` returns for a path it was given names the path. -/
theorem makeDir_error_names_path {env : Environment VPathMapping}
    {mkdirAll : List Char → Option (List Char)} {path err : List Char} (hpath : path ≠ [])
    (h : (makeDir env mkdirAll path).2 = some err) : path <:+: err := by
  unfold makeDir at h
  rw [if_neg (fun hlen => hpath (List.length_eq_zero.mp hlen))] at h
  split at h
  · split_ifs at h
    · split at h <;> cases h
      exact (List.infix_append _ _ _).trans (List.prefix_append _ _).isInfix
    · cases h
      exact (List.infix_append _ _ _).trans (List.prefix_append _ _).isInfix
  · split_ifs at h <;> cases h <;> exact List.infix_append _ _ _

/-- **`IsYAMLFile` accepts exactly the existing files named `*.yaml` or `*.yml`**: the suffix
test `processArguments` applies to its first argument, on a file that is not a directory. -/
theorem isYAMLFile_iff (env : Environment VPathMapping) (filePath : List Char) :
    IsYAMLFile env filePath = true ↔
      (∃ st, env.stat filePath = .ok st ∧ st.isDir = false) ∧
        (".yaml".toList <:+ filePath ∨ ".yml".toList <:+ filePath) := by
  have hyaml : GoFilepath.Ext filePath = ['.', 'y', 'a', 'm', 'l'] ↔
      ['.', 'y', 'a', 'm', 'l'] <:+ filePath := GoFilepath.Ext_eq_iff (by decide) (by decide)
  have hyml : GoFilepath.Ext filePath = ['.', 'y', 'm', 'l'] ↔ ['.', 'y', 'm', 'l'] <:+ filePath :=
    GoFilepath.Ext_eq_iff (by decide) (by decide)
  unfold IsYAMLFile
  cases hstat : env.stat filePath with
  | error err => simp
  | ok st => cases hdir : st.isDir <;> simp [hdir, hyaml, hyml]

example : IsYAMLFile { writableMachine with stat := fun _ => .ok ⟨false, 0o644⟩ }
    "/etc/irodsfs/mount.yml".toList = true := by decide

/-! ### Instance ids and the trees `os.RemoveAll` deletes -/

/-- The digits of an xid's text: base 32, lowercase. -/
def xidChars : List Char := "0123456789abcdefghijklmnopqrstuv".toList

/-- The text of an xid, as `xid.New().String()` returns it. -/
def IsXid (id : List Char) : Prop := id.length = 20 ∧ ∀ c ∈ id, c ∈ xidChars

instance (id : List Char) : Decidable (IsXid id) := inferInstanceAs (Decidable (_ ∧ _))

/-- The paths `os.RemoveAll(dir)` deletes: the directory and everything below it. -/
def InTree (path dir : List Char) : Prop := path = dir ∨ dir ++ ['/'] <+: path

instance (path dir : List Char) : Decidable (InTree path dir) :=
  inferInstanceAs (Decidable (_ ∨ _))

theorem InTree.startsWith {path dir : List Char} (h : InTree path dir) : dir <+: path := by
  rcases h with rfl | h
  · exact List.prefix_refl _
  · exact (List.prefix_append _ _).trans h

theorem inTree_append_iff (pre path dir : List Char) :
    InTree (pre ++ path) (pre ++ dir) ↔ InTree path dir := by
  simp only [InTree, List.append_cancel_left_eq, List.append_assoc, List.prefix_append_right_inj]

theorem IsXid.plainElem {id : List Char} (h : IsXid id) : GoPath.PlainElem id := by
  have hslash : '/' ∉ id := fun hin => absurd (h.2 _ hin) (by decide)
  refine ⟨?_, hslash, ?_, ?_⟩ <;> intro heq <;> simpa [heq] using h.1

theorem IsXid.plainElem_log {id : List Char} (h : IsXid id) :
    GoPath.PlainElem (id ++ ".log".toList) := by
  have hid := h.plainElem
  refine ⟨by simp [hid.1], ?_, ?_, ?_⟩
  · simp only [List.mem_append, not_or]
    exact ⟨hid.2.1, by decide⟩
  all_goals intro heq; simpa using congrArg List.length heq

theorem eq_of_prefixes_of_length_eq {id id' path : List Char} (h : id <+: path) (h' : id' <+: path)
    (hlen : id.length = id'.length) : id = id' :=
  (List.prefix_of_prefix_length_le h h' hlen.le).eq_of_length hlen

/-! ### Where the work directories are -/

section Paths

variable {config : Config VPathMapping} {env : Environment VPathMapping}
variable (hroot : config.DataRootPath ≠ []) (hxid : IsXid (getInstanceID env))
include hroot hxid

theorem getInstanceDataRootDirPath_eq :
    config.GetInstanceDataRootDirPath env =
      GoPath.cleanPrefix config.DataRootPath ++ getInstanceID env := by
  rw [Config.GetInstanceDataRootDirPath, GoPath.join_pair hroot,
    GoPath.clean_append_plainElem hroot hxid.plainElem]

theorem getTempRootDirPath_eq :
    config.GetTempRootDirPath env = config.GetInstanceDataRootDirPath env ++ "/temp".toList := by
  have htemp : GoPath.PlainElem "temp".toList := by decide
  rw [Config.GetTempRootDirPath, Config.GetInstanceDataRootDirPath, GoPath.join_pair hroot,
    GoPath.join_pair hroot, show "/temp".toList = '/' :: "temp".toList from rfl,
    GoPath.clean_append_plainElem_plainElem hroot hxid.plainElem htemp]

theorem getLogFilePath_eq (hlog : config.LogPath = []) :
    config.GetLogFilePath env = GoPath.cleanPrefix config.DataRootPath ++ getLogFilename env := by
  rw [Config.GetLogFilePath, hlog, if_neg (by simp), GoPath.join_pair hroot]
  exact GoPath.clean_append_plainElem hroot hxid.plainElem_log

end Paths

/-! ### What `CleanWorkDirs` removes -/

/-- `CleanWorkDirs` calls `os.RemoveAll` on its temporary directory and its instance directory,
and on nothing else. -/
theorem mem_cleanWorkDirs {config : Config VPathMapping} {env : Environment VPathMapping}
    {removeAll : List Char → Option (List Char)} {dir : List Char}
    (h : dir ∈ (config.CleanWorkDirs env removeAll).1) :
    dir = config.GetTempRootDirPath env ∨ dir = config.GetInstanceDataRootDirPath env := by
  simp only [Config.CleanWorkDirs, removeDir] at h
  split at h <;> split at h <;> simp_all [apply_ite Prod.fst]
  tauto

/-- Every directory `CleanWorkDirs` removes starts with the cleaned data root and the id: the
instance directory itself, or its temporary directory. -/
theorem inTree_instance_of_mem_cleanWorkDirs {config : Config VPathMapping}
    {env : Environment VPathMapping} {removeAll : List Char → Option (List Char)}
    {dir : List Char} (hroot : config.DataRootPath ≠ []) (hxid : IsXid (getInstanceID env))
    (h : dir ∈ (config.CleanWorkDirs env removeAll).1) :
    ∃ rest, dir = config.GetInstanceDataRootDirPath env ++ rest ∧
      (rest = [] ∨ rest = "/temp".toList) := by
  rcases mem_cleanWorkDirs h with rfl | rfl
  · exact ⟨_, getTempRootDirPath_eq hroot hxid, Or.inr rfl⟩
  · exact ⟨[], (List.append_nil _).symm, Or.inl rfl⟩

/-- **`CleanWorkDirs` removes only its own instance directory.** Whatever `os.RemoveAll` does,
every directory `CleanWorkDirs` hands it lies in the mount's instance directory; the data root
is not removed, nor the log file under it, nor any path in the directory of another mount that
shares the data root, nor that mount's log file. -/
theorem cleanWorkDirs_removes_own_instance_dir (config : Config VPathMapping)
    (env env' : Environment VPathMapping) (removeAll : List Char → Option (List Char))
    (hroot : config.DataRootPath ≠ []) (hxid : IsXid (getInstanceID env))
    (hxid' : IsXid (getInstanceID env')) (hother : getInstanceID env' ≠ getInstanceID env)
    (dir : List Char) (hdir : dir ∈ (config.CleanWorkDirs env removeAll).1) :
    InTree dir (config.GetInstanceDataRootDirPath env) ∧
      ¬InTree (GoPath.clean config.DataRootPath) dir ∧
      (config.LogPath = [] →
        ¬InTree (config.GetLogFilePath env) dir ∧ ¬InTree (config.GetLogFilePath env') dir) ∧
      ∀ path, InTree path dir → ¬InTree path (config.GetInstanceDataRootDirPath env') := by
  obtain ⟨rest, rfl, hrest⟩ := inTree_instance_of_mem_cleanWorkDirs hroot hxid hdir
  have hinst := getInstanceDataRootDirPath_eq hroot hxid
  have hinst' := getInstanceDataRootDirPath_eq hroot hxid'
  have hlen : (getInstanceID env).length = (getInstanceID env').length := hxid.1.trans hxid'.1.symm
  -- a path below this instance's directory and below another's would give the two ids
  have hdisjoint : ∀ path, config.GetInstanceDataRootDirPath env <+: path →
      ¬config.GetInstanceDataRootDirPath env' <+: path := by
    intro path h h'
    rw [hinst] at h
    rw [hinst'] at h'
    exact hother (List.append_cancel_left
      (eq_of_prefixes_of_length_eq h h' (by simp [hlen]))).symm
  refine ⟨?_, fun hrootIn => ?_, fun hlog => ⟨?_, fun hlog' => ?_⟩, fun path h h' => ?_⟩
  -- the temporary directory lies in the instance directory
  · rcases hrest with rfl | rfl
    · exact Or.inl (List.append_nil _)
    · exact Or.inr ⟨"temp".toList, by simp⟩
  -- the data root is shorter than any path under it with a twenty-byte id
  · have hshort := GoPath.length_clean_le_cleanPrefix hroot
    have hlong := hrootIn.startsWith.length_le
    rw [hinst, List.length_append, List.length_append, hxid.1] at hlong
    omega
  -- this instance's log file is a sibling of its directory, not below it
  · rw [getLogFilePath_eq hroot hxid hlog, hinst, getLogFilename, ← List.append_assoc,
      inTree_append_iff]
    rcases hrest with rfl | rfl <;> decide
  -- another instance's log file starts with that instance's id
  · have hpre : config.GetInstanceDataRootDirPath env' <+: config.GetLogFilePath env' := by
      rw [getLogFilePath_eq hroot hxid' hlog, hinst', getLogFilename, ← List.append_assoc]
      exact List.prefix_append _ _
    exact hdisjoint _ ((List.prefix_append _ _).trans hlog'.startsWith) hpre
  · exact hdisjoint path ((List.prefix_append _ _).trans h.startsWith) h'.startsWith

/-- Two mounts of the default configuration sharing its data root. -/
def firstMount : Environment Unit :=
  { writableMachine with instanceID := "9m4e2mr0ui3e8a215n4g".toList }

/-- The second mount's xid differs from the first's in its last digits. -/
def secondMount : Environment Unit :=
  { writableMachine with instanceID := "9m4e2mr0ui3e8a215n50".toList }

theorem cleanWorkDirs_removes_own_instance_dir_home :
    homeConfig.DataRootPath ≠ [] ∧ IsXid (getInstanceID firstMount) ∧
      IsXid (getInstanceID secondMount) ∧ getInstanceID secondMount ≠ getInstanceID firstMount ∧
      "/home/rods/9m4e2mr0ui3e8a215n4g/temp".toList ∈
        (homeConfig.CleanWorkDirs firstMount fun _ => none).1 ∧
      (InTree "/home/rods/9m4e2mr0ui3e8a215n4g/temp".toList
          (homeConfig.GetInstanceDataRootDirPath firstMount) ∧
        ¬InTree (GoPath.clean homeConfig.DataRootPath)
          "/home/rods/9m4e2mr0ui3e8a215n4g/temp".toList ∧
        (homeConfig.LogPath = [] →
          ¬InTree (homeConfig.GetLogFilePath firstMount)
              "/home/rods/9m4e2mr0ui3e8a215n4g/temp".toList ∧
            ¬InTree (homeConfig.GetLogFilePath secondMount)
              "/home/rods/9m4e2mr0ui3e8a215n4g/temp".toList) ∧
        ∀ path, InTree path "/home/rods/9m4e2mr0ui3e8a215n4g/temp".toList →
          ¬InTree path (homeConfig.GetInstanceDataRootDirPath secondMount)) :=
  ⟨by decide, by decide, by decide, by decide, by decide,
    cleanWorkDirs_removes_own_instance_dir homeConfig firstMount secondMount (fun _ => none)
      (by decide) (by decide) (by decide) (by decide) _ (by decide)⟩

end Commons

end IrodsFs
