import IrodsFs.IrodsUrl

/-!
# The command line

`processArguments` turns the command line into the mount's configuration: the duration flags,
then the source (an `irods://` URL or a YAML file of path mappings), then the terminal for a
proxy user and a password not given, then the mount path. What it calls outside `src/` is a
parameter, `ArgsEnvironment`. The credentials come from the URL, the flags and the terminal, in
that order, except the client user, which a prompted proxy user overrides and a YAML source never
defaults (`url_source_config`, `yaml_source_config`).
-/
namespace IrodsFs

namespace GoStrings

def HasPrefix (s pre : List Char) : Bool := pre.isPrefixOf s

def HasSuffix (s suffix : List Char) : Bool := suffix.isSuffixOf s

end GoStrings

open GoStrings GoUrl

def iRODSProtocol : List Char := "irods://".toList

/-- The fields of `irodsfs.Config` (a package outside src/) that `processArguments` and
`inputMissingParams` write; the others keep what `irodsfs.NewDefaultConfig` gives them. -/
structure MountConfig (PathMapping : Type) where
  Host : List Char
  Port : Int
  ProxyUser : List Char
  ClientUser : List Char
  Zone : List Char
  Password : List Char
  PathMappings : List PathMapping
  MountPath : List Char
  BlockSize : Int
  ReadAheadMax : Int
  ConnectionMax : Int
  OperationTimeout : Int
  ConnectionIdleTimeout : Int
  CacheTimeout : Int
  CacheCleanupTime : Int
  Foreground : Bool
  ChildProcess : Bool
deriving DecidableEq

/-- What `flag.Parse` leaves in the variables `processArguments` binds its flags to, and the
arguments after the flags (`flag.Args()`). A flag that is not given keeps the default its
definition names; of `-proxyuser`, `-user` and `-u`, which share a variable, the last one given
wins, as of `-password` and `-p`. -/
structure CommandLine where
  version : Bool
  help : Bool
  Foreground : Bool
  ChildProcess : Bool
  ProxyUser : List Char
  ClientUser : List Char
  Password : List Char
  BlockSize : Int
  ReadAheadMax : Int
  ConnectionMax : Int
  operationTimeout : List Char
  connectionIdleTimeout : List Char
  cacheTimeout : List Char
  cacheCleanupTime : List Char
  args : List (List Char)
deriving DecidableEq

def CommandLine.Arg (cl : CommandLine) (i : Nat) : List Char :=
  cl.args.getD i []

/-- The calls `processArguments` makes outside src/. Each error is the text `%v` prints. -/
structure ArgsEnvironment (PathMapping : Type) where
  /-- `irodsfs.NewDefaultConfig`. -/
  defaultConfig : MountConfig PathMapping
  /-- `client.GetVersionJSON`. -/
  getVersionJSON : Except (List Char) (List Char)
  /-- `time.ParseDuration`, in nanoseconds. -/
  parseDuration : List Char → Except (List Char) Int
  /-- `filepath.Abs`. -/
  abs : List Char → Except (List Char) (List Char)
  /-- `os.Stat`, as far as `processArguments` reads it: `IsDir()`. -/
  statIsDir : List Char → Except (List Char) Bool
  /-- `ioutil.ReadFile`. -/
  readFile : List Char → Except (List Char) (List UInt8)
  /-- `yaml.Unmarshal` into `[]irodsfs.PathMapping`. -/
  unmarshalPathMappings : List UInt8 → Except (List Char) (List PathMapping)
  /-- `irodsfs.NewPathMappingForDir`. -/
  NewPathMappingForDir : List Char → List Char → PathMapping
  /-- What `fmt.Scanln` leaves in the user name; its error is dropped. -/
  scanln : List Char
  /-- `terminal.ReadPassword`, as text. -/
  readPassword : Except (List Char) (List Char)

inductive ArgsError
  /-- a text built by `fmt.Errorf` -/
  | errorf (text : List Char)
  /-- the error of `parseIRODSURL` -/
  | accessURL (err : AccessURLError)
  /-- the error of a call outside src/, passed on as it is -/
  | library (text : List Char)
deriving DecidableEq, Repr

inductive ArgsStop
  /-- `os.Exit(0)`, after printing the version or the usage -/
  | exit
  /-- `return nil, err` -/
  | error (err : ArgsError)
deriving DecidableEq, Repr

variable {PathMapping : Type}

/-- A call outside src/ whose error `processArguments` returns as it is. -/
def libraryCall {α : Type} (r : Except (List Char) α) : Except ArgsStop α :=
  r.mapError fun err => .error (.library err)

/-- "Illegal arguments given, required 2, but received %d" -/
def illegalArgumentsText (n : Nat) : List Char :=
  "Illegal arguments given, required 2, but received ".toList ++ (toString n).toList

def sourcePathText : List Char :=
  ("Source path must be an iRODS URL (\x27irods://host:port/zone/path/to/the/collection\x27) " ++
    "or a local path (\x27/home/user/path/to/the/mapping_file.yaml\x27)").toList

def flagConfig (env : ArgsEnvironment PathMapping) (cl : CommandLine) : MountConfig PathMapping :=
  { env.defaultConfig with
    Foreground := cl.Foreground, ChildProcess := cl.ChildProcess, ProxyUser := cl.ProxyUser,
    ClientUser := cl.ClientUser, Password := cl.Password, BlockSize := cl.BlockSize,
    ReadAheadMax := cl.ReadAheadMax, ConnectionMax := cl.ConnectionMax }

/-- One duration flag of `processArguments`: when given, `time.ParseDuration` must accept it
and its value replaces the field's. -/
def parseDurationFlag (env : ArgsEnvironment PathMapping) (value : List Char) (field : Int) :
    Except ArgsStop Int :=
  if 0 < value.length then libraryCall (env.parseDuration value) else .ok field

/-- The `// time` block of `processArguments`. -/
def parseDurations (env : ArgsEnvironment PathMapping) (cl : CommandLine)
    (config : MountConfig PathMapping) : Except ArgsStop (MountConfig PathMapping) := do
  let operationTimeout ← parseDurationFlag env cl.operationTimeout config.OperationTimeout
  let connectionIdleTimeout ←
    parseDurationFlag env cl.connectionIdleTimeout config.ConnectionIdleTimeout
  let cacheTimeout ← parseDurationFlag env cl.cacheTimeout config.CacheTimeout
  let cacheCleanupTime ← parseDurationFlag env cl.cacheCleanupTime config.CacheCleanupTime
  pure { config with
    OperationTimeout := operationTimeout, ConnectionIdleTimeout := connectionIdleTimeout,
    CacheTimeout := cacheTimeout, CacheCleanupTime := cacheCleanupTime }

def setIfGiven (value field : List Char) : List Char :=
  if 0 < value.length then value else field

/-- The `irods://` branch of `processArguments`: each part the URL gives replaces the
configuration's (the six tests set six different fields, so they are one update here), and then
an empty client user becomes the proxy user. -/
def applyAccessURL (env : ArgsEnvironment PathMapping) (config : MountConfig PathMapping)
    (access : IRODSAccessURL) : MountConfig PathMapping :=
  let config := { config with
    Host := setIfGiven access.Host config.Host
    Port := if 0 < access.Port then access.Port else config.Port
    ProxyUser := setIfGiven access.User config.ProxyUser
    Password := setIfGiven access.Password config.Password
    Zone := setIfGiven access.Zone config.Zone
    PathMappings := if 0 < access.Path.length then
        [env.NewPathMappingForDir access.Path "/".toList]
      else config.PathMappings }
  if config.ClientUser.length = 0 then { config with ClientUser := config.ProxyUser } else config

def readPathMappings (env : ArgsEnvironment PathMapping) (inputPath : List Char) :
    Except ArgsStop (List PathMapping) := do
  let inputAbsPath ← libraryCall (env.abs inputPath)
  let isDir ← libraryCall (env.statIsDir inputAbsPath)
  if isDir then
    throw (.error (.errorf ("local yaml file (".toList ++ inputAbsPath ++ ") is not a file".toList)))
  let yamlBytes ← libraryCall (env.readFile inputAbsPath)
  match env.unmarshalPathMappings yamlBytes with
  | .error err => throw (.error (.errorf ("YAML Unmarshal Error - ".toList ++ err)))
  | .ok pathMappings => pure pathMappings

/-- The source block of `processArguments`, on its first argument. -/
def applySource (env : ArgsEnvironment PathMapping) (config : MountConfig PathMapping)
    (inputPath : List Char) : Except ArgsStop (MountConfig PathMapping) :=
  if HasPrefix inputPath iRODSProtocol then
    match parseIRODSURL inputPath with
    | .error err => .error (.error (.accessURL err))
    | .ok access => .ok (applyAccessURL env config access)
  else if HasSuffix inputPath ".yaml".toList || HasSuffix inputPath ".yml".toList then do
    let pathMappings ← readPathMappings env inputPath
    pure { config with PathMappings := pathMappings }
  else .error (.error (.errorf sourcePathText))

/-- `inputMissingParams`: the terminal gives the proxy user, which then is the client user too,
when there is none, and the password when there is none. -/
def inputMissingParams (env : ArgsEnvironment PathMapping) (config : MountConfig PathMapping) :
    Except ArgsError (MountConfig PathMapping) :=
  let config := if config.ProxyUser.length = 0 then
      { config with ProxyUser := env.scanln, ClientUser := env.scanln }
    else config
  if config.Password.length = 0 then
    match env.readPassword with
    | .error err => .error (.library err)
    | .ok bytePassword => .ok { config with Password := bytePassword }
  else .ok config

/-- `processArguments`, from the parse of its flags on. -/
def processArguments (env : ArgsEnvironment PathMapping) (cl : CommandLine) :
    Except ArgsStop (MountConfig PathMapping) := do
  let config := flagConfig env cl
  if cl.version then
    match env.getVersionJSON with
    | .error err => throw (.error (.library err))
    | .ok _ => throw .exit
  if cl.help then throw .exit
  if cl.args.length ≠ 2 then throw (.error (.errorf (illegalArgumentsText cl.args.length)))
  let config ← parseDurations env cl config
  let config ← applySource env config (cl.Arg 0)
  let config ← (inputMissingParams env config).mapError .error
  let mountpoint ← libraryCall (env.abs (cl.Arg 1))
  pure { config with MountPath := mountpoint }

/-! ### What each stage does when it succeeds -/

@[simp] theorem mapError_eq_ok {ε ε' α : Type} {f : ε → ε'} {x : Except ε α} {a : α} :
    x.mapError f = .ok a ↔ x = .ok a := by
  cases x <;> simp [Except.mapError]

@[simp] theorem libraryCall_eq_ok {α : Type} {r : Except (List Char) α} {a : α} :
    libraryCall r = .ok a ↔ r = .ok a :=
  mapError_eq_ok

theorem setIfGiven_of_ne_nil {value : List Char} (h : value ≠ []) (field : List Char) :
    setIfGiven value field = value := by
  simp [setIfGiven, List.length_pos.2 h]

@[simp] theorem setIfGiven_nil (field : List Char) : setIfGiven [] field = field := rfl

@[simp] theorem setIfGiven_eq_nil {value field : List Char} :
    setIfGiven value field = [] ↔ value = [] ∧ field = [] := by
  by_cases h : value = [] <;> simp [h, setIfGiven_of_ne_nil]

@[simp] theorem setIfGiven_setIfGiven (value value' field : List Char) :
    setIfGiven (setIfGiven value value') field = setIfGiven value (setIfGiven value' field) := by
  by_cases h : value = [] <;> simp [h, setIfGiven_of_ne_nil]

/-- A duration field as its flag leaves it: the default when the flag is not given, else what
`time.ParseDuration` made of the flag. -/
def DurationFrom (env : ArgsEnvironment PathMapping) (value : List Char) (default t : Int) : Prop :=
  (value = [] → t = default) ∧ (value ≠ [] → env.parseDuration value = .ok t)

/-- The first of `given` that is not empty, or `typed` when every one is: a credential that
several places may give, tried in order, with the terminal last. -/
def firstGiven : List (List Char) → List Char → List Char
  | [], typed => typed
  | value :: rest, typed => if value = [] then firstGiven rest typed else value

@[simp] theorem firstGiven_nil (typed : List Char) : firstGiven [] typed = typed := rfl

@[simp] theorem firstGiven_cons (value : List Char) (rest : List (List Char)) (typed : List Char) :
    firstGiven (value :: rest) typed = setIfGiven value (firstGiven rest typed) := by
  by_cases h : value = [] <;> simp [firstGiven, h, setIfGiven_of_ne_nil]

theorem durationFrom_of_parseDurationFlag {env : ArgsEnvironment PathMapping} {value : List Char}
    {field t : Int} (h : parseDurationFlag env value field = .ok t) :
    DurationFrom env value field t := by
  unfold parseDurationFlag at h
  rcases value with _ | ⟨c, value⟩
  · exact ⟨fun _ => (Except.ok.inj h).symm, fun hne => absurd rfl hne⟩
  · exact ⟨fun hnil => absurd hnil (List.cons_ne_nil c value), fun _ => by simpa using h⟩

theorem parseDurations_eq_ok {env : ArgsEnvironment PathMapping} {cl : CommandLine}
    {config config' : MountConfig PathMapping} (h : parseDurations env cl config = .ok config') :
    ∃ operationTimeout connectionIdleTimeout cacheTimeout cacheCleanupTime,
      DurationFrom env cl.operationTimeout config.OperationTimeout operationTimeout ∧
      DurationFrom env cl.connectionIdleTimeout config.ConnectionIdleTimeout
        connectionIdleTimeout ∧
      DurationFrom env cl.cacheTimeout config.CacheTimeout cacheTimeout ∧
      DurationFrom env cl.cacheCleanupTime config.CacheCleanupTime cacheCleanupTime ∧
      config' = { config with
        OperationTimeout := operationTimeout, ConnectionIdleTimeout := connectionIdleTimeout,
        CacheTimeout := cacheTimeout, CacheCleanupTime := cacheCleanupTime } := by
  obtain ⟨operationTimeout, ha, h⟩ := except_bind_eq_ok h
  obtain ⟨connectionIdleTimeout, hb, h⟩ := except_bind_eq_ok h
  obtain ⟨cacheTimeout, hc, h⟩ := except_bind_eq_ok h
  obtain ⟨cacheCleanupTime, hd, h⟩ := except_bind_eq_ok h
  exact ⟨_, _, _, _, durationFrom_of_parseDurationFlag ha, durationFrom_of_parseDurationFlag hb,
    durationFrom_of_parseDurationFlag hc, durationFrom_of_parseDurationFlag hd,
    (Except.ok.inj h).symm⟩

theorem applyAccessURL_eq (env : ArgsEnvironment PathMapping) (config : MountConfig PathMapping)
    (access : IRODSAccessURL) :
    applyAccessURL env config access = { config with
      Host := setIfGiven access.Host config.Host
      Port := if 0 < access.Port then access.Port else config.Port
      ProxyUser := setIfGiven access.User config.ProxyUser
      ClientUser := setIfGiven config.ClientUser (setIfGiven access.User config.ProxyUser)
      Password := setIfGiven access.Password config.Password
      Zone := setIfGiven access.Zone config.Zone
      PathMappings := if 0 < access.Path.length then
          [env.NewPathMappingForDir access.Path "/".toList]
        else config.PathMappings } := by
  unfold applyAccessURL
  by_cases hclient : config.ClientUser = [] <;> simp [hclient, setIfGiven, List.length_pos]

theorem readPathMappings_eq_ok {env : ArgsEnvironment PathMapping} {inputPath : List Char}
    {pathMappings : List PathMapping} (h : readPathMappings env inputPath = .ok pathMappings) :
    ∃ inputAbsPath yamlBytes, env.abs inputPath = .ok inputAbsPath ∧
      env.statIsDir inputAbsPath = .ok false ∧ env.readFile inputAbsPath = .ok yamlBytes ∧
      env.unmarshalPathMappings yamlBytes = .ok pathMappings := by
  obtain ⟨inputAbsPath, habs, h⟩ := except_bind_eq_ok h
  obtain ⟨isDir, hdir, h⟩ := except_bind_eq_ok h
  cases isDir
  · simp only [Bool.false_eq_true, if_false, pure_bind] at h
    obtain ⟨yamlBytes, hread, h⟩ := except_bind_eq_ok h
    refine ⟨inputAbsPath, yamlBytes, libraryCall_eq_ok.1 habs, libraryCall_eq_ok.1 hdir,
      libraryCall_eq_ok.1 hread, ?_⟩
    revert h
    cases env.unmarshalPathMappings yamlBytes <;> simp [pure, Except.pure]
  · cases h

theorem applySource_eq_ok {env : ArgsEnvironment PathMapping} {config config' : MountConfig PathMapping}
    {inputPath : List Char} (h : applySource env config inputPath = .ok config') :
    (HasPrefix inputPath iRODSProtocol = true ∧
        ∃ access, parseIRODSURL inputPath = .ok access ∧ config' = applyAccessURL env config access) ∨
      (HasPrefix inputPath iRODSProtocol = false ∧
        (HasSuffix inputPath ".yaml".toList = true ∨ HasSuffix inputPath ".yml".toList = true) ∧
        ∃ pathMappings, readPathMappings env inputPath = .ok pathMappings ∧
          config' = { config with PathMappings := pathMappings }) := by
  unfold applySource at h
  split at h
  · rename_i hurl
    refine .inl ⟨hurl, ?_⟩
    cases hparse : parseIRODSURL inputPath <;> rw [hparse] at h <;> cases h
    exact ⟨_, rfl, rfl⟩
  · rename_i hurl
    split at h
    · rename_i hyaml
      obtain ⟨pathMappings, hread, h⟩ := except_bind_eq_ok h
      exact .inr ⟨by simpa using hurl, by simpa using hyaml, pathMappings, hread,
        (Except.ok.inj h).symm⟩
    · cases h

theorem inputMissingParams_eq_ok {env : ArgsEnvironment PathMapping}
    {config config' : MountConfig PathMapping} (h : inputMissingParams env config = .ok config') :
    ∃ typed, (config.Password = [] → env.readPassword = .ok typed) ∧
      config' = { config with
        ProxyUser := setIfGiven config.ProxyUser env.scanln
        ClientUser := if config.ProxyUser = [] then env.scanln else config.ClientUser
        Password := setIfGiven config.Password typed } := by
  unfold inputMissingParams at h
  by_cases hpass : config.Password = []
  · -- the password comes from the terminal
    cases hread : env.readPassword with
    | error err => by_cases hproxy : config.ProxyUser = [] <;> simp [hproxy, hpass, hread] at h
    | ok typed =>
        refine ⟨typed, fun _ => rfl, ?_⟩
        by_cases hproxy : config.ProxyUser = [] <;>
          simp [hproxy, hpass, hread, setIfGiven_of_ne_nil] at h ⊢ <;> exact h.symm
  · refine ⟨[], fun hnil => absurd hnil hpass, ?_⟩
    by_cases hproxy : config.ProxyUser = [] <;>
      simp [hproxy, hpass, setIfGiven_of_ne_nil] at h ⊢ <;> exact h.symm

theorem parseIRODSURL_ok_ne_nil {inputURL : List Char} {access : IRODSAccessURL}
    (h : parseIRODSURL inputURL = .ok access) : access.Zone ≠ [] ∧ access.Path ≠ [] := by
  cases hu : Parse inputURL with
  | error err =>
      unfold parseIRODSURL at h
      rw [hu] at h
      cases h
  | ok u =>
      rw [parseIRODSURL_eq hu] at h
      split at h
      · cases h
      split_ifs at h with hpath hempty
      cases h
      simpa [not_or] using hempty

theorem processArguments_eq_ok {env : ArgsEnvironment PathMapping} {cl : CommandLine}
    {config : MountConfig PathMapping} (h : processArguments env cl = .ok config) :
    cl.version = false ∧ cl.help = false ∧ cl.args.length = 2 ∧
      ∃ timed sourced filled mountpoint, parseDurations env cl (flagConfig env cl) = .ok timed ∧
        applySource env timed (cl.Arg 0) = .ok sourced ∧
        inputMissingParams env sourced = .ok filled ∧ env.abs (cl.Arg 1) = .ok mountpoint ∧
        config = { filled with MountPath := mountpoint } := by
  unfold processArguments at h
  cases hversion : cl.version
  · cases hhelp : cl.help
    · by_cases hlen : cl.args.length = 2
      · simp only [hversion, hhelp, hlen, Bool.false_eq_true, if_false, ne_eq, not_true_eq_false,
          pure_bind] at h
        obtain ⟨timed, htimed, h⟩ := except_bind_eq_ok h
        obtain ⟨sourced, hsourced, h⟩ := except_bind_eq_ok h
        obtain ⟨filled, hfilled, h⟩ := except_bind_eq_ok h
        obtain ⟨mountpoint, habs, h⟩ := except_bind_eq_ok h
        exact ⟨rfl, rfl, hlen, timed, sourced, filled, mountpoint, htimed, hsourced,
          mapError_eq_ok.1 hfilled, libraryCall_eq_ok.1 habs, (Except.ok.inj h).symm⟩
      · simp [hversion, hhelp, hlen] at h
        cases h
    · simp [hversion, hhelp] at h
      cases h
  · cases hread : env.getVersionJSON <;> simp [hversion, hread] at h <;> cases h

/-! ### What a configuration it returns holds -/

/-- A machine whose working directory is `/home/rods`, holding `mount.yaml` with one mapping, and
whose terminal gives `rods` and `secret`. A path mapping is an iRODS path and a local path. -/
def homeMachine : ArgsEnvironment (List Char × List Char) where
  defaultConfig :=
    { Host := [], Port := 1247, ProxyUser := [], ClientUser := [], Zone := [], Password := [],
      PathMappings := [], MountPath := [], BlockSize := 0, ReadAheadMax := 0, ConnectionMax := 0,
      OperationTimeout := 300000000000, ConnectionIdleTimeout := 300000000000,
      CacheTimeout := 300000000000, CacheCleanupTime := 300000000000, Foreground := false,
      ChildProcess := false }
  getVersionJSON := .ok []
  parseDuration value :=
    if value = "1m".toList then .ok 60000000000 else .error ("time: invalid duration ".toList ++ value)
  abs path := .ok (if path.head? = some '/' then path else "/home/rods/".toList ++ path)
  statIsDir path := .ok (path = "/home/rods".toList)
  readFile _ := .ok []
  unmarshalPathMappings _ := .ok [("/tempZone/home/rods".toList, "/".toList)]
  NewPathMappingForDir irodsPath mappingPath := (irodsPath, mappingPath)
  scanln := "rods".toList
  readPassword := .ok "secret".toList

def urlCommandLine : CommandLine :=
  { version := false, help := false, Foreground := false, ChildProcess := false, ProxyUser := [],
    ClientUser := [], Password := [], BlockSize := 1048576, ReadAheadMax := 131072,
    ConnectionMax := 10, operationTimeout := [], connectionIdleTimeout := [],
    cacheTimeout := "1m".toList, cacheCleanupTime := [], args := [homeURL, "mnt".toList] }

def urlMount : MountConfig (List Char × List Char) :=
  { Host := "irods-host".toList, Port := 1247, ProxyUser := "rods".toList,
    ClientUser := "rods".toList, Zone := "tempZone".toList, Password := "secret".toList,
    PathMappings := [("/tempZone/home/rods".toList, "/".toList)],
    MountPath := "/home/rods/mnt".toList, BlockSize := 1048576, ReadAheadMax := 131072,
    ConnectionMax := 10, OperationTimeout := 300000000000, ConnectionIdleTimeout := 300000000000,
    CacheTimeout := 60000000000, CacheCleanupTime := 300000000000, Foreground := false,
    ChildProcess := false }

def yamlCommandLine : CommandLine :=
  { urlCommandLine with
    ProxyUser := "rods".toList, cacheTimeout := [], args := ["mount.yaml".toList, "mnt".toList] }

def yamlMount : MountConfig (List Char × List Char) :=
  { urlMount with
    Host := [], ClientUser := [], Zone := [], CacheTimeout := 300000000000 }


/-- **An `irods://` source: the URL first, then the flags, then the terminal.** The zone and
path are the URL's; the proxy user and password the URL's, else the flags', else typed; the client
user the one given, else the proxy user, and the name typed when the proxy user was prompted. -/
theorem url_source_config (env : ArgsEnvironment PathMapping) (cl : CommandLine)
    (config : MountConfig PathMapping) (hurl : HasPrefix (cl.Arg 0) iRODSProtocol = true)
    (hok : processArguments env cl = .ok config) :
    ∃ access, parseIRODSURL (cl.Arg 0) = .ok access ∧
      config.Host = firstGiven [access.Host] env.defaultConfig.Host ∧
      config.Port = (if 0 < access.Port then access.Port else env.defaultConfig.Port) ∧
      config.Zone = access.Zone ∧
      config.PathMappings = [env.NewPathMappingForDir access.Path "/".toList] ∧
      config.ProxyUser = firstGiven [access.User, cl.ProxyUser] env.scanln ∧
      config.ClientUser = (if access.User = [] ∧ cl.ProxyUser = [] then env.scanln
        else firstGiven [cl.ClientUser, access.User] cl.ProxyUser) ∧
      ∃ typed, (access.Password = [] → cl.Password = [] → env.readPassword = .ok typed) ∧
        config.Password = firstGiven [access.Password, cl.Password] typed := by
  obtain ⟨-, -, -, timed, sourced, filled, mountpoint, htimed, hsourced, hfilled, -, rfl⟩ :=
    processArguments_eq_ok hok
  obtain ⟨a, b, c, d, -, -, -, -, rfl⟩ := parseDurations_eq_ok htimed
  rcases applySource_eq_ok hsourced with ⟨-, access, haccess, rfl⟩ | ⟨hyaml, -⟩
  · obtain ⟨typed, htyped, rfl⟩ := inputMissingParams_eq_ok hfilled
    obtain ⟨hzone, hpath⟩ := parseIRODSURL_ok_ne_nil haccess
    simp only [applyAccessURL_eq, setIfGiven_eq_nil] at htyped
    refine ⟨access, haccess, ?_, ?_, ?_, ?_, ?_, ?_, typed,
      fun huser hflag => htyped ⟨huser, hflag⟩, ?_⟩ <;>
      simp [applyAccessURL_eq, flagConfig, setIfGiven_of_ne_nil hzone, List.length_pos.2 hpath]
  · rw [hurl] at hyaml
    cases hyaml

theorem url_source_config_home :
    HasPrefix (urlCommandLine.Arg 0) iRODSProtocol = true ∧
      processArguments homeMachine urlCommandLine = .ok urlMount ∧
      ∃ access, parseIRODSURL (urlCommandLine.Arg 0) = .ok access ∧
        urlMount.Host = firstGiven [access.Host] homeMachine.defaultConfig.Host ∧
        urlMount.Port = (if 0 < access.Port then access.Port else homeMachine.defaultConfig.Port) ∧
        urlMount.Zone = access.Zone ∧
        urlMount.PathMappings = [homeMachine.NewPathMappingForDir access.Path "/".toList] ∧
        urlMount.ProxyUser = firstGiven [access.User, urlCommandLine.ProxyUser] homeMachine.scanln ∧
        urlMount.ClientUser = (if access.User = [] ∧ urlCommandLine.ProxyUser = [] then
            homeMachine.scanln
          else firstGiven [urlCommandLine.ClientUser, access.User] urlCommandLine.ProxyUser) ∧
        ∃ typed, (access.Password = [] → urlCommandLine.Password = [] →
            homeMachine.readPassword = .ok typed) ∧
          urlMount.Password = firstGiven [access.Password, urlCommandLine.Password] typed :=
  have hok : processArguments homeMachine urlCommandLine = .ok urlMount := rfl
  ⟨rfl, hok, url_source_config homeMachine urlCommandLine urlMount rfl hok⟩

/-- **A YAML source: the file's mappings, then the flags, then the terminal.** The client user
is the `-clientuser` flag, or the name typed when the proxy user was prompted: never the proxy
user given by `-user`. -/
theorem yaml_source_config (env : ArgsEnvironment PathMapping) (cl : CommandLine)
    (config : MountConfig PathMapping) (hyaml : HasPrefix (cl.Arg 0) iRODSProtocol = false)
    (hok : processArguments env cl = .ok config) :
    (∃ inputAbsPath yamlBytes, env.abs (cl.Arg 0) = .ok inputAbsPath ∧
      env.statIsDir inputAbsPath = .ok false ∧ env.readFile inputAbsPath = .ok yamlBytes ∧
      env.unmarshalPathMappings yamlBytes = .ok config.PathMappings) ∧
      config.Host = env.defaultConfig.Host ∧ config.Port = env.defaultConfig.Port ∧
      config.Zone = env.defaultConfig.Zone ∧
      config.ProxyUser = firstGiven [cl.ProxyUser] env.scanln ∧
      config.ClientUser = (if cl.ProxyUser = [] then env.scanln else cl.ClientUser) ∧
      ∃ typed, (cl.Password = [] → env.readPassword = .ok typed) ∧
        config.Password = firstGiven [cl.Password] typed := by
  obtain ⟨-, -, -, timed, sourced, filled, mountpoint, htimed, hsourced, hfilled, -, rfl⟩ :=
    processArguments_eq_ok hok
  obtain ⟨a, b, c, d, -, -, -, -, rfl⟩ := parseDurations_eq_ok htimed
  rcases applySource_eq_ok hsourced with ⟨hurl, -⟩ | ⟨-, -, pathMappings, hread, rfl⟩
  · rw [hurl] at hyaml
    cases hyaml
  · obtain ⟨typed, htyped, rfl⟩ := inputMissingParams_eq_ok hfilled
    exact ⟨readPathMappings_eq_ok hread, rfl, rfl, rfl, by simp [flagConfig], rfl, typed, htyped,
      by simp [flagConfig]⟩

theorem yaml_source_config_user :
    HasPrefix (yamlCommandLine.Arg 0) iRODSProtocol = false ∧
      processArguments homeMachine yamlCommandLine = .ok yamlMount ∧
      (∃ inputAbsPath yamlBytes, homeMachine.abs (yamlCommandLine.Arg 0) = .ok inputAbsPath ∧
        homeMachine.statIsDir inputAbsPath = .ok false ∧
        homeMachine.readFile inputAbsPath = .ok yamlBytes ∧
        homeMachine.unmarshalPathMappings yamlBytes = .ok yamlMount.PathMappings) ∧
      yamlMount.Host = homeMachine.defaultConfig.Host ∧
      yamlMount.Port = homeMachine.defaultConfig.Port ∧
      yamlMount.Zone = homeMachine.defaultConfig.Zone ∧
      yamlMount.ProxyUser = firstGiven [yamlCommandLine.ProxyUser] homeMachine.scanln ∧
      yamlMount.ClientUser = (if yamlCommandLine.ProxyUser = [] then homeMachine.scanln
        else yamlCommandLine.ClientUser) ∧
      ∃ typed, (yamlCommandLine.Password = [] → homeMachine.readPassword = .ok typed) ∧
        yamlMount.Password = firstGiven [yamlCommandLine.Password] typed :=
  have hok : processArguments homeMachine yamlCommandLine = .ok yamlMount := rfl
  ⟨rfl, hok, yaml_source_config homeMachine yamlCommandLine yamlMount rfl hok⟩

end IrodsFs
