import IrodsFs.Endpoint

/-!
# The mount configuration

`NewDefaultConfig` fills in the defaults, and `Config.Validate` checks the configuration with one
early return per rule, each with its own `fmt.Errorf` text. What both read of the machine is a
parameter, `Environment`. `Validate` accepts exactly the configurations that meet every rule
(`validate_eq_ok_iff`), and the defaults meet them (`newDefaultConfig_validates`). Two rules are
weaker than they read: PAM fails on its CA certificate only when `os.Stat` reports it missing,
and the UID and GID texts format a `nil` error, so they end in `<nil>`.
-/
namespace IrodsFs

namespace Commons

/-- `time.Minute`, in nanoseconds. -/
def Minute : Int := 60 * 1000000000

def Hour : Int := 60 * Minute

def PortDefault : Int := 1247
def ReadAheadMaxDefault : Int := 1024 * 128
def ConnectionMaxDefault : Int := 10
def OperationTimeoutDefault : Int := 5 * Minute
def ConnectionLifespanDefault : Int := 1 * Hour
def ConnectionIdleTimeoutDefault : Int := 5 * Minute
def MetadataCacheTimeoutDefault : Int := 5 * Minute
def MetadataCacheCleanupTimeDefault : Int := 5 * Minute

def AuthSchemePAM : List Char := "pam".toList
def AuthSchemeNative : List Char := "native".toList
def AuthSchemeDefault : List Char := AuthSchemeNative
def CSNegotiationDefault : List Char := "CS_NEG_REFUSE".toList
def EncryptionKeySizeDefault : Int := 32
def EncryptionAlgorithmDefault : List Char := "AES-256-CBC".toList
def SaltSizeDefault : Int := 8
def HashRoundsDefault : Int := 16

def ProfileServicePortDefault : Int := 11021

structure MetadataCacheTimeoutSetting where
  Path : List Char
  Timeout : Int
  Inherit : Bool
deriving DecidableEq, Repr

/-- `Config`, with the `irodsfs_common_utils.Duration` fields in nanoseconds. The type of a path
mapping belongs to the VPath library and is a parameter. -/
structure Config (VPathMapping : Type) where
  Host : List Char
  Port : Int
  ProxyUser : List Char
  ClientUser : List Char
  Zone : List Char
  Password : List Char
  Resource : List Char
  PathMappings : List VPathMapping
  NoPermissionCheck : Bool
  UID : Int
  GID : Int
  SystemUser : List Char
  MountPath : List Char
  DataRootPath : List Char
  LogPath : List Char
  PoolEndpoint : List Char
  AuthScheme : List Char
  ClientServerNegotiation : Bool
  CSNegotiationPolicy : List Char
  CACertificateFile : List Char
  EncryptionKeySize : Int
  EncryptionAlgorithm : List Char
  SaltSize : Int
  HashRounds : Int
  ReadAheadMax : Int
  OperationTimeout : Int
  ConnectionLifespan : Int
  ConnectionIdleTimeout : Int
  ConnectionMax : Int
  MetadataCacheTimeout : Int
  MetadataCacheCleanupTime : Int
  MetadataCacheTimeoutSettings : List MetadataCacheTimeoutSetting
  StartNewTransaction : Bool
  InvalidateParentEntryCacheImmediately : Bool
  MonitorURL : List Char
  Profile : Bool
  ProfileServicePort : Int
  Foreground : Bool
  Debug : Bool
  AllowOther : Bool
  ChildProcess : Bool
  InstanceID : List Char
  FuseOptions : List (List Char)

/-- The error of `os.Stat`, as far as `Validate` reads it: whether `os.IsNotExist` holds of it,
and the text `%v` prints. -/
structure StatError where
  notExist : Bool
  text : List Char
deriving DecidableEq, Repr

/-- What `Validate` reads of an `os.FileInfo`: `IsDir()` and `Mode().Perm()`. -/
structure FileInfo where
  isDir : Bool
  perm : UInt32
deriving DecidableEq, Repr

/-- What `utils.GetCurrentSystemUser` returns besides its error, which `NewDefaultConfig` drops. -/
structure SystemUser where
  name : List Char
  uid : Int
  gid : Int
deriving DecidableEq, Repr

/-- The machine `NewDefaultConfig` and `Validate` run on. -/
structure Environment (VPathMapping : Type) where
  /-- `utils.GetCurrentSystemUser`. -/
  currentSystemUser : SystemUser
  /-- `os.Getwd`, `none` when it fails. -/
  workingDir : Option (List Char)
  /-- The xid `getInstanceID` draws once per process. -/
  instanceID : List Char
  /-- `irodsfs_common_vpath.ValidateVPathMappings`: the text of its error, if it returns one. -/
  validateVPathMappings : List VPathMapping → Option (List Char)
  /-- `os.Stat`. -/
  stat : List Char → Except StatError FileInfo

variable {VPathMapping : Type}

def getInstanceID (env : Environment VPathMapping) : List Char :=
  env.instanceID

/-- `GetDefaultDataRootDirPath`: the working directory, or `/var/lib/irodsfs` when `os.Getwd`
fails. -/
def GetDefaultDataRootDirPath (env : Environment VPathMapping) : List Char :=
  match env.workingDir with
  | some dirPath => dirPath
  | none => "/var/lib/irodsfs".toList

/-- `NewDefaultConfig`. `MountPath` is not set there and keeps Go's zero value. -/
def NewDefaultConfig (env : Environment VPathMapping) : Config VPathMapping :=
  let systemUser := env.currentSystemUser
  { Host := [], Port := PortDefault, ProxyUser := [], ClientUser := [], Zone := [], Password := [],
    Resource := [], PathMappings := [], NoPermissionCheck := false, UID := systemUser.uid,
    GID := systemUser.gid, SystemUser := systemUser.name, MountPath := [],
    DataRootPath := GetDefaultDataRootDirPath env,
    LogPath := [],
    PoolEndpoint := [],
    AuthScheme := AuthSchemeDefault, ClientServerNegotiation := false,
    CSNegotiationPolicy := CSNegotiationDefault, CACertificateFile := [],
    EncryptionKeySize := EncryptionKeySizeDefault, EncryptionAlgorithm := EncryptionAlgorithmDefault,
    SaltSize := SaltSizeDefault, HashRounds := HashRoundsDefault,
    ReadAheadMax := ReadAheadMaxDefault, OperationTimeout := OperationTimeoutDefault,
    ConnectionLifespan := ConnectionLifespanDefault,
    ConnectionIdleTimeout := ConnectionIdleTimeoutDefault, ConnectionMax := ConnectionMaxDefault,
    MetadataCacheTimeout := MetadataCacheTimeoutDefault,
    MetadataCacheCleanupTime := MetadataCacheCleanupTimeDefault,
    MetadataCacheTimeoutSettings := [], StartNewTransaction := true,
    InvalidateParentEntryCacheImmediately := false,
    MonitorURL := [],
    Profile := false, ProfileServicePort := ProfileServicePortDefault,
    Foreground := false, Debug := false, AllowOther := false, ChildProcess := false,
    InstanceID := getInstanceID env, FuseOptions := [] }

/-- The error `Validate` returns: a text built by `fmt.Errorf`, or the pool endpoint's error as
`ParsePoolServiceEndpoint` returns it. -/
inductive ValidateError
  | errorf (text : List Char)
  | poolEndpoint (err : EndpointError)
deriving DecidableEq, Repr

/-- What `%v` prints for a `nil` error. -/
def nilText : List Char := "<nil>".toList

/-- One early return of `Validate`: `if bad { return fmt.Errorf(text) }`. -/
def errorfIf (bad : Prop) [Decidable bad] (text : List Char) : Except ValidateError Unit :=
  if bad then .error (.errorf text) else .ok ()

def Config.Validate (config : Config VPathMapping) (env : Environment VPathMapping) :
    Except ValidateError Unit := do
  errorfIf (config.Host.length = 0) "hostname must be given".toList
  errorfIf (config.Port ≤ 0) "port must be given".toList
  errorfIf (config.Profile = true ∧ config.ProfileServicePort ≤ 0)
    "profile service port must be given".toList
  errorfIf (config.ProxyUser.length = 0) "proxyUser must be given".toList
  errorfIf (config.ClientUser.length = 0) "clientUser must be given".toList
  errorfIf (config.Zone.length = 0) "zone must be given".toList
  errorfIf (config.Password.length = 0) "password must be given".toList
  errorfIf (config.PathMappings.length = 0) "path mappings must be given".toList
  (match env.validateVPathMappings config.PathMappings with
    | some err => .error (.errorf ("invalid path mappings - ".toList ++ err))
    | none => pure ())
  -- `err` is the mapping check's, `nil` here
  errorfIf (config.UID < 0) ("invalid UID - ".toList ++ nilText)
  errorfIf (config.GID < 0) ("invalid GID - ".toList ++ nilText)
  errorfIf (config.MountPath.length = 0) "mount path must be given".toList
  let mountDirInfo ← (match env.stat config.MountPath with
    | .error err =>
        .error (.errorf ("mountpoint (".toList ++ config.MountPath ++ ") error - ".toList ++ err.text))
    | .ok info => pure info)
  errorfIf (mountDirInfo.isDir = false)
    ("mountpoint (".toList ++ config.MountPath ++ ") must be a directory".toList)
  errorfIf (mountDirInfo.perm &&& 0o200 ≠ 0o200)
    ("mountpoint (".toList ++ config.MountPath ++ ") must have write permission".toList)
  errorfIf (config.DataRootPath.length = 0) "data root dir must be given".toList
  errorfIf (config.ReadAheadMax < 0) "readahead max must be equal or greater than 0".toList
  errorfIf (config.ConnectionMax < 1) "connection max must be equal or greater than 1".toList
  errorfIf (config.AuthScheme ≠ AuthSchemePAM ∧ config.AuthScheme ≠ AuthSchemeNative)
    ("unknown auth scheme - ".toList ++ config.AuthScheme)
  (if config.ClientServerNegotiation then
    errorfIf (config.CSNegotiationPolicy.length = 0) "CS negotiation policy must be given".toList
  else pure ())
  (if config.AuthScheme = AuthSchemePAM then do
    (match env.stat config.CACertificateFile with
      | .error err =>
          errorfIf (err.notExist = true) ("SSL CA Certificate file error - ".toList ++ err.text)
      | .ok _ => pure ())
    errorfIf (config.EncryptionKeySize ≤ 0) "SSL encryption key size must be given".toList
    errorfIf (config.EncryptionAlgorithm.length = 0) "SSL encryption algorithm must be given".toList
    errorfIf (config.SaltSize ≤ 0) "SSL salt size must be given".toList
    errorfIf (config.HashRounds ≤ 0) "SSL hash rounds must be given".toList
  else pure ())
  match validatePoolEndpoint config.PoolEndpoint with
  | some err => .error (.poolEndpoint err)
  | none => pure ()

/-! ### What `Validate` accepts -/

theorem bind_unit_eq_ok_iff {ε β : Type} {x : Except ε Unit} {f : Unit → Except ε β} {b : β} :
    x >>= f = .ok b ↔ x = .ok () ∧ f () = .ok b := by
  rcases x with _ | ⟨⟩ <;> simp [bind, Except.bind]

theorem error_bind {ε α β : Type} {e : ε} {f : α → Except ε β} :
    (Except.error e : Except ε α) >>= f = .error e := rfl

theorem error_eq_ok {ε α : Type} {e : ε} {a : α} : (Except.error e : Except ε α) = .ok a ↔ False :=
  ⟨Except.noConfusion, False.elim⟩

theorem pure_eq_ok {ε α : Type} {a b : α} : (pure a : Except ε α) = .ok b ↔ a = b :=
  ⟨Except.ok.inj, congrArg _⟩

theorem errorfIf_eq_ok {bad : Prop} [Decidable bad] {text : List Char} {u : Unit} :
    errorfIf bad text = .ok u ↔ ¬bad := by
  unfold errorfIf
  split <;> simp [*]

theorem ite_pure_eq_ok {c : Prop} [Decidable c] {x : Except ValidateError Unit} {u : Unit} :
    (if c then x else pure ()) = .ok u ↔ (c → x = .ok u) := by
  split <;> simp_all [pure_eq_ok]

theorem validatePoolEndpoint_eq_none {poolEndpoint : List Char} :
    validatePoolEndpoint poolEndpoint = none ↔
      (poolEndpoint ≠ [] → ∃ dial, ParsePoolServiceEndpoint poolEndpoint = .ok dial) := by
  unfold validatePoolEndpoint
  split
  · split <;> simp_all [List.length_pos]
  · simp_all

/-- The PAM rules of `Validate`. The CA certificate file need not be readable, only not reported
missing. -/
@[mk_iff]
structure Config.PamAcceptable (config : Config VPathMapping) (env : Environment VPathMapping) :
    Prop where
  caCertificateFile : ∀ err, env.stat config.CACertificateFile = .error err → err.notExist = false
  encryptionKeySize : 0 < config.EncryptionKeySize
  encryptionAlgorithm : config.EncryptionAlgorithm ≠ []
  saltSize : 0 < config.SaltSize
  hashRounds : 0 < config.HashRounds

/-- The configurations `Validate` accepts, one field per rule, in the order of the source. -/
@[mk_iff]
structure Config.Acceptable (config : Config VPathMapping) (env : Environment VPathMapping) :
    Prop where
  host : config.Host ≠ []
  port : 0 < config.Port
  profileServicePort : config.Profile = true → 0 < config.ProfileServicePort
  proxyUser : config.ProxyUser ≠ []
  clientUser : config.ClientUser ≠ []
  zone : config.Zone ≠ []
  password : config.Password ≠ []
  pathMappings : config.PathMappings ≠ []
  pathMappingsValid : env.validateVPathMappings config.PathMappings = none
  uid : 0 ≤ config.UID
  gid : 0 ≤ config.GID
  mountPath : config.MountPath ≠ []
  mountDir : ∃ info, env.stat config.MountPath = .ok info ∧ info.isDir = true ∧
    info.perm &&& 0o200 = 0o200
  dataRootPath : config.DataRootPath ≠ []
  readAheadMax : 0 ≤ config.ReadAheadMax
  connectionMax : 1 ≤ config.ConnectionMax
  authScheme : config.AuthScheme = AuthSchemePAM ∨ config.AuthScheme = AuthSchemeNative
  csNegotiationPolicy : config.ClientServerNegotiation = true → config.CSNegotiationPolicy ≠ []
  pam : config.AuthScheme = AuthSchemePAM → config.PamAcceptable env
  poolEndpoint : config.PoolEndpoint ≠ [] →
    ∃ dial, ParsePoolServiceEndpoint config.PoolEndpoint = .ok dial

/-- **`Validate` accepts exactly the acceptable configurations.** The early returns are
independent: which rule a configuration breaks first decides the error, and only breaking one
makes an error. -/
theorem validate_eq_ok_iff (config : Config VPathMapping) (env : Environment VPathMapping) :
    config.Validate env = .ok () ↔ config.Acceptable env := by
  rw [Config.acceptable_iff, Config.pamAcceptable_iff, ← validatePoolEndpoint_eq_none]
  unfold Config.Validate
  -- split where the chain goes on past a `match`: the mapping check, the mount point, the pool
  -- endpoint, and under them the CA file
  rcases env.validateVPathMappings config.PathMappings with _ | err
  on_goal 1 => rcases env.stat config.MountPath with err | info
  on_goal 2 => rcases validatePoolEndpoint config.PoolEndpoint with _ | err
  on_goal 2 => rcases env.stat config.CACertificateFile with err | info
  all_goals simp only [bind_unit_eq_ok_iff, errorfIf_eq_ok, ite_pure_eq_ok, pure_bind, error_bind,
    ↓error_eq_ok, pure_eq_ok, List.length_eq_zero, Int.not_le, Int.not_lt, not_and_or, not_not,
    or_iff_not_imp_left, and_assoc, Bool.not_eq_false, Bool.not_eq_true, Except.ok.injEq,
    Except.error.injEq, exists_eq_left', forall_eq', reduceCtorEq, false_and, and_false, true_and,
    and_true, exists_false, false_implies, implies_true]

/-! ### The defaults -/

theorem getDefaultDataRootDirPath_ne_nil (env : Environment VPathMapping)
    (hwd : env.workingDir ≠ some []) : GetDefaultDataRootDirPath env ≠ [] := by
  unfold GetDefaultDataRootDirPath
  split
  · rintro rfl
    exact hwd ‹_›
  · simp

/-- **The defaults meet the rules.** Once the seven fields `NewDefaultConfig` leaves to the user
are given, the configuration validates wherever the machine agrees. -/
theorem newDefaultConfig_validates (env : Environment VPathMapping)
    (host proxyUser clientUser zone password mountPath : List Char)
    (pathMappings : List VPathMapping)
    (hgiven : host ≠ [] ∧ proxyUser ≠ [] ∧ clientUser ≠ [] ∧ zone ≠ [] ∧ password ≠ [] ∧
      pathMappings ≠ [] ∧ mountPath ≠ [])
    (hmappings : env.validateVPathMappings pathMappings = none)
    (hmount : ∃ info, env.stat mountPath = .ok info ∧ info.isDir = true ∧
      info.perm &&& 0o200 = 0o200)
    (hids : 0 ≤ env.currentSystemUser.uid ∧ 0 ≤ env.currentSystemUser.gid)
    (hwd : env.workingDir ≠ some []) :
    Config.Validate { NewDefaultConfig env with
      Host := host, ProxyUser := proxyUser, ClientUser := clientUser, Zone := zone,
      Password := password, PathMappings := pathMappings, MountPath := mountPath } env = .ok () := by
  obtain ⟨hhost, hproxy, hclient, hzone, hpassword, hpaths, hmountPath⟩ := hgiven
  rw [validate_eq_ok_iff]
  exact
    { host := hhost, port := show (0 : Int) < 1247 by decide, profileServicePort := nofun, proxyUser := hproxy,
      clientUser := hclient, zone := hzone, password := hpassword, pathMappings := hpaths,
      pathMappingsValid := hmappings, uid := hids.1, gid := hids.2, mountPath := hmountPath,
      mountDir := hmount, dataRootPath := getDefaultDataRootDirPath_ne_nil env hwd,
      readAheadMax := show (0 : Int) ≤ 1024 * 128 by decide,
      connectionMax := show (1 : Int) ≤ 10 by decide, authScheme := .inr rfl,
      csNegotiationPolicy := nofun, pam := nofun, poolEndpoint := fun h => absurd rfl h }

/-- A machine on which every path is a directory its owner may write and every mapping passes. -/
def writableMachine : Environment Unit where
  currentSystemUser := ⟨"rods".toList, 1000, 1000⟩
  workingDir := some "/home/rods".toList
  instanceID := "cv0instance".toList
  validateVPathMappings := fun _ => none
  stat := fun _ => .ok ⟨true, 0o755⟩

/-- The default configuration, completed with the fields only the user gives. -/
def homeConfig : Config Unit :=
  { NewDefaultConfig writableMachine with
    Host := "irods-host".toList, ProxyUser := "rods".toList, ClientUser := "rods".toList,
    Zone := "tempZone".toList, Password := "secret".toList, PathMappings := [()],
    MountPath := "/mnt/irods".toList }

end Commons

end IrodsFs
